import Linkage.Graph.Basic
import Linkage.Proofs.Links
import Mathlib.Data.List.Chain
import Mathlib.Logic.Relation
/-!
Walks along the edges of a graph. `targets_adjacency` shows that the precomputed table of
adjacencies answers what filtering the edge list answers, whatever nodes and edges are repeated or
unlisted.
-/

namespace Linkage.Graph

def Joins (graph : Graph) (source target : String) : Prop := ⟨source, target⟩ ∈ graph.edges

instance (graph : Graph) (source target : String) : Decidable (graph.Joins source target) :=
  inferInstanceAs (Decidable (_ ∈ graph.edges))

/-- Some listed node leads to the node along edges. -/
def Reachable (graph : Graph) (node : String) : Prop :=
  ∃ root ∈ graph.nodes, Relation.ReflTransGen graph.Joins root node

/-- A walk of at least one edge that comes back to where it starts. `steps` are the nodes after the
first. -/
def ClosedWalk (graph : Graph) (start : String) (steps : List String) : Prop :=
  (start :: steps).IsChain graph.Joins ∧ steps.getLast? = some start

def targetsOf (graph : Graph) (node : String) : List String :=
  (graph.edges.filter (·.source = node)).map Edge.target

theorem mem_targetsOf {graph : Graph} {source target : String} :
    target ∈ graph.targetsOf source ↔ graph.Joins source target := by
  simp only [targetsOf, Joins, List.mem_map, List.mem_filter, decide_eq_true_eq]
  constructor
  · rintro ⟨edge, ⟨member, rfl⟩, rfl⟩
    exact member
  · intro member
    exact ⟨_, ⟨member, rfl⟩, rfl⟩

/-! ### The table of adjacencies -/

theorem targets_put_nil {rows : List (String × List String)} {listed : String}
    (empty : ∀ node, targets rows node = []) (node : String) :
    targets (Assoc.put listed [] rows) node = [] := by
  by_cases same : listed = node
  · subst same
    simp [targets, Assoc.get?_put_self]
  · simpa [targets, Assoc.get?_put_other same] using empty node

theorem targets_listed (nodes : List String) {rows : List (String × List String)}
    (empty : ∀ node, targets rows node = []) (node : String) :
    targets (nodes.foldl (fun rows node => Assoc.put node [] rows) rows) node = [] := by
  induction nodes generalizing rows with
  | nil => exact empty node
  | cons listed nodes ih => exact ih (targets_put_nil empty)

theorem targets_modify (rows : List (String × List String)) (edge : Edge) (node : String) :
    targets (Assoc.modify edge.source [] (· ++ [edge.target]) rows) node =
      targets rows node ++ if edge.source = node then [edge.target] else [] := by
  by_cases same : edge.source = node
  · simp [targets, Assoc.modify, same, Assoc.get?_put_self]
  · simp [targets, Assoc.modify, same, Assoc.get?_put_other same]

theorem targets_edges (edges : List Edge) (rows : List (String × List String)) (node : String) :
    targets (edges.foldl
        (fun rows edge => Assoc.modify edge.source [] (· ++ [edge.target]) rows) rows) node =
      targets rows node ++ (edges.filter (·.source = node)).map Edge.target := by
  induction edges generalizing rows with
  | nil => simp
  | cons edge edges ih =>
    rw [List.foldl_cons, ih, targets_modify]
    by_cases same : edge.source = node <;> simp [same]

theorem targets_adjacency (graph : Graph) (node : String) :
    targets graph.adjacency node = graph.targetsOf node := by
  have unlisted : ∀ node, targets [] node = [] := fun _ => rfl
  rw [adjacency, targets_edges, targets_listed graph.nodes unlisted, List.nil_append, targetsOf]

/-! ### Edges by visited sources -/

/-- The edges whose source is not visited. -/
def untouched (graph : Graph) (visited : List String) : List Edge :=
  graph.edges.filter (fun edge => edge.source ∉ visited)

theorem length_untouched (graph : Graph) {visited : List String} {node : String}
    (fresh : node ∉ visited) :
    (graph.untouched visited).length =
      (graph.targetsOf node).length + (graph.untouched (node :: visited)).length := by
  have here : (graph.untouched visited).filter (·.source = node) =
      graph.edges.filter (·.source = node) := by
    simp only [untouched, List.filter_filter]
    apply List.filter_congr
    intro edge _
    by_cases same : edge.source = node <;> simp [same, fresh]
  have elsewhere : (graph.untouched visited).filter (fun edge => !decide (edge.source = node)) =
      graph.untouched (node :: visited) := by
    simp only [untouched, List.filter_filter]
    apply List.filter_congr
    intro edge _
    simp
  rw [List.length_eq_length_filter_add (fun edge => decide (edge.source = node)), here, elsewhere,
    targetsOf, List.length_map]

theorem length_untouched_le (graph : Graph) {visited more : List String} (kept : visited ⊆ more) :
    (graph.untouched more).length ≤ (graph.untouched visited).length := by
  apply List.Sublist.length_le
  apply List.monotone_filter_right
  intro edge outside
  simpa using fun member => (of_decide_eq_true outside) (kept member)

/-! ### Reachability -/

theorem reachable_of_listed {graph : Graph} {node : String} (listed : node ∈ graph.nodes) :
    graph.Reachable node := ⟨node, listed, .refl⟩

theorem Reachable.step {graph : Graph} {source target : String} (reachable : graph.Reachable source)
    (joined : graph.Joins source target) : graph.Reachable target := by
  obtain ⟨root, listed, path⟩ := reachable
  exact ⟨root, listed, path.tail joined⟩

/-- What every listed node has and edges pass on, every reachable node has. -/
theorem Reachable.induct {graph : Graph} {P : String → Prop} {node : String}
    (reachable : graph.Reachable node) (listed : ∀ root ∈ graph.nodes, P root)
    (passed : ∀ source target, P source → graph.Joins source target → P target) : P node := by
  obtain ⟨root, member, path⟩ := reachable
  induction path with
  | refl => exact listed root member
  | tail _ joined ih => exact passed _ _ ih joined

theorem Joins.mono {graph more : Graph} (edges : graph.edges ⊆ more.edges) {source target : String}
    (joined : graph.Joins source target) : more.Joins source target := edges joined

theorem Reachable.mono {graph more : Graph} (nodes : graph.nodes ⊆ more.nodes)
    (edges : graph.edges ⊆ more.edges) {node : String} (reachable : graph.Reachable node) :
    more.Reachable node := by
  apply reachable.induct
  · intro root listed
    exact reachable_of_listed (nodes listed)
  · intro source target reachable joined
    exact reachable.step (joined.mono edges)

theorem ClosedWalk.mono {graph more : Graph} (edges : graph.edges ⊆ more.edges) {start : String}
    {steps : List String} (walk : graph.ClosedWalk start steps) : more.ClosedWalk start steps :=
  ⟨walk.1.imp fun _ _ => Joins.mono edges, walk.2⟩

theorem reachable_of_walk {graph : Graph} {start : String} {steps : List String}
    (walk : (start :: steps).IsChain graph.Joins) (reachable : graph.Reachable start) :
    ∀ node ∈ start :: steps, graph.Reachable node := by
  induction steps generalizing start with
  | nil => simpa using reachable
  | cons next steps ih =>
    obtain ⟨joined, rest⟩ := List.isChain_cons_cons.mp walk
    intro node member
    rcases List.mem_cons.mp member with rfl | later
    · exact reachable
    · exact ih rest (reachable.step joined) node later

theorem joins_of_walk {graph : Graph} {start node : String} {steps : List String}
    (walk : (start :: steps).IsChain graph.Joins) (member : node ∈ steps) :
    ∃ source ∈ start :: steps, graph.Joins source node := by
  induction steps generalizing start with
  | nil => cases member
  | cons next steps ih =>
    obtain ⟨joined, rest⟩ := List.isChain_cons_cons.mp walk
    rcases List.mem_cons.mp member with rfl | later
    · exact ⟨start, List.mem_cons_self, joined⟩
    · obtain ⟨source, inside, joined⟩ := ih rest later
      exact ⟨source, List.mem_cons_of_mem _ inside, joined⟩

/-! ### Graphs of repo maps -/

def addLink (graph : Graph) (link : Link) : Graph :=
  { graph with edges := graph.edges ++ [⟨link.importer, link.target⟩] }

theorem foldl_addLink (links : List Link) (graph : Graph) :
    links.foldl addLink graph =
      { graph with edges := graph.edges ++ links.map (fun link => ⟨link.importer, link.target⟩) } := by
  induction links generalizing graph with
  | nil => simp
  | cons link links ih =>
    rw [List.foldl_cons, ih]
    simp [addLink]

theorem ofRepoMap_eq (map : RepoMap) (extensions : List String) :
    ofRepoMap map extensions =
      { nodes := map.paths
        edges := (map.links extensions).map (fun link => ⟨link.importer, link.target⟩) } := by
  have visits : ∀ importer graph entry, addImport map.paths extensions importer graph entry =
      (Resolution.resolve map.paths extensions importer entry.source).elim graph
        (fun target => addLink graph ⟨importer, entry, target⟩) := by
    intro importer graph entry
    rw [addImport]
    cases Resolution.resolve map.paths extensions importer entry.source <;> rfl
  rw [ofRepoMap, map.foldl_links addLink visits, foldl_addLink]
  rfl

@[simp] theorem nodes_ofRepoMap (map : RepoMap) (extensions : List String) :
    (ofRepoMap map extensions).nodes = map.paths := by
  rw [ofRepoMap_eq]

theorem joins_ofRepoMap {map : RepoMap} {extensions : List String} {source target : String} :
    (ofRepoMap map extensions).Joins source target ↔
      ∃ entry, map.Resolves extensions source entry target := by
  simp only [Joins, ofRepoMap_eq, List.mem_map, Edge.mk.injEq, RepoMap.mem_links]
  constructor
  · rintro ⟨link, resolves, rfl, rfl⟩
    exact ⟨link.entry, resolves⟩
  · rintro ⟨entry, resolves⟩
    exact ⟨⟨source, entry, target⟩, resolves, rfl, rfl⟩

theorem mem_paths_of_joins {map : RepoMap} {extensions : List String} {source target : String}
    (joined : (ofRepoMap map extensions).Joins source target) :
    source ∈ map.paths ∧ target ∈ map.paths := by
  obtain ⟨entry, resolves⟩ := joins_ofRepoMap.mp joined
  exact resolves.mem_paths

end Linkage.Graph
