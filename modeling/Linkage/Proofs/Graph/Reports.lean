import Linkage.Proofs.Graph.Invariant
/-!
What the list of import cycles says about a graph. `cycles_sound`: what is reported is a cycle.
`cycles_complete`: every closed walk in reach of a listed node runs over an edge that closes a
reported cycle, so that an empty list means an acyclic graph.
-/

namespace Linkage

namespace Search

variable {graph : Graph} {search : Search} {finished : List String} {source target : String}

/-- An edge that closed no cycle leads down the list of finished nodes. -/
theorem Ordered.descends {cycles : List (List String)} (ordered : Ordered graph cycles finished)
    (distinct : finished.Nodup) (member : source ∈ finished) (joined : graph.Joins source target) :
    Reported cycles source target ∨
      target ∈ finished ∧ finished.idxOf source < finished.idxOf target := by
  induction finished with
  | nil => cases member
  | cons node earlier ih =>
    obtain ⟨apart, distinct⟩ := List.nodup_cons.mp distinct
    -- Whatever is further down is not the node on top.
    have below : ∀ other ∈ earlier, (node :: earlier).idxOf other = earlier.idxOf other + 1 := by
      intro other inside
      exact List.idxOf_cons_ne _ (fun same => apart (same ▸ inside))
    by_cases top : source = node
    · subst top
      refine (ordered.1 target (Graph.mem_targetsOf.mpr joined)).imp_right ?_
      intro inside
      refine ⟨List.mem_cons_of_mem _ inside, ?_⟩
      rw [List.idxOf_cons_self, below target inside]
      omega
    · have inside := (List.mem_cons.mp member).resolve_left top
      refine (ih ordered.2 distinct inside).imp_right ?_
      rintro ⟨later, less⟩
      refine ⟨List.mem_cons_of_mem _ later, ?_⟩
      rw [below source inside, below target later]
      omega

theorem Invariant.reported_visited (invariant : Invariant graph finished search)
    (reported : Reported search.cycles source target) : target ∈ search.visited := by
  obtain ⟨cycle, member, ends⟩ := reported
  exact (invariant.sound cycle member).2 (ends.subset (by simp))

theorem Invariant.visited_iff_finished (invariant : Invariant graph finished search)
    (idle : search.frames = []) {node : String} : node ∈ search.visited ↔ node ∈ finished := by
  rw [invariant.marked.mem_visited, invariant.stacked.active_nil idle]
  simp

/-- Between two roots no edge leads out of the finished nodes. -/
theorem Invariant.finished_closed (invariant : Invariant graph finished search)
    (idle : search.frames = []) (member : source ∈ finished) (joined : graph.Joins source target) :
    target ∈ finished := by
  rcases invariant.explored.ordered.descends invariant.marked.finished_distinct member joined with
    reported | ⟨inside, _⟩
  · exact (invariant.visited_iff_finished idle).mp (invariant.reported_visited reported)
  · exact inside

/-- After the search, the finished nodes are those that listed nodes reach. -/
theorem all_finished (graph : Graph) :
    ∃ finished, Invariant graph finished (all graph) ∧
      ∀ node, graph.Reachable node ↔ node ∈ finished := by
  obtain ⟨⟨finished, invariant⟩, idle, roots⟩ := rested_all graph
  refine ⟨finished, invariant, fun node => ⟨fun reachable => ?_, fun member => ?_⟩⟩
  · apply reachable.induct
    · intro root listed
      exact (invariant.visited_iff_finished idle).mp (roots (List.mem_reverse.mpr listed))
    · exact fun _ _ => invariant.finished_closed idle
  · exact invariant.marked.reachable node ((invariant.visited_iff_finished idle).mpr member)

end Search

namespace Graph

theorem isCycle_of_reported {graph : Graph} {cycle : List String} (reported : cycle ∈ graph.cycles) :
    graph.IsCycle cycle ∧ ∀ node ∈ cycle, graph.Reachable node := by
  obtain ⟨finished, invariant, _⟩ := Search.all_finished graph
  obtain ⟨isCycle, visited⟩ := invariant.sound cycle reported
  exact ⟨isCycle, fun node member => invariant.marked.reachable node (visited member)⟩

theorem IsCycle.closedWalk {graph : Graph} {cycle : List String} (isCycle : graph.IsCycle cycle) :
    ∃ start steps, cycle = start :: steps ∧ graph.ClosedWalk start steps := by
  obtain ⟨long, closed, chain, _⟩ := isCycle
  match cycle, long with
  | start :: next :: steps, _ =>
    refine ⟨start, next :: steps, rfl, chain, ?_⟩
    rw [List.head?_cons, List.getLast?_cons_cons] at closed
    exact closed.symm

/-- Every closed walk in reach runs over an edge that closes a reported cycle: otherwise each of its
edges would lead to a node that finished earlier. -/
theorem ClosedWalk.meets_report {graph : Graph} {start : String} {steps : List String}
    (walk : graph.ClosedWalk start steps) (reachable : graph.Reachable start) :
    ∃ source target, [source, target] <:+: start :: steps ∧
      Search.Reported graph.cycles source target := by
  obtain ⟨chain, returns⟩ := walk
  obtain ⟨finished, invariant, settled⟩ := Search.all_finished graph
  by_contra unreported
  push Not at unreported
  have inside : ∀ node ∈ start :: steps, node ∈ finished := fun node member =>
    (settled node).mp (reachable_of_walk chain reachable node member)
  have descending :
      (start :: steps).IsChain (fun source target => finished.idxOf source < finished.idxOf target) := by
    apply List.isChain_iff_forall_rel_of_append_cons_cons.mpr
    intro source target before after split
    have part : [source, target] <:+: start :: steps := ⟨before, after, by simp [split]⟩
    have joined := List.isChain_iff_forall_rel_of_append_cons_cons.mp chain split
    have member := inside source (part.subset (by simp))
    exact ((invariant.explored.ordered.descends invariant.marked.finished_distinct member
      joined).resolve_left (unreported source target part)).2
  have transitive : IsTrans String
      (fun source target => finished.idxOf source < finished.idxOf target) :=
    ⟨fun _ _ _ first second => first.trans second⟩
  have back : start ∈ steps := List.mem_of_getLast? returns
  exact lt_irrefl _ (List.rel_of_pairwise_cons descending.pairwise back)

theorem cycles_eq_nil_iff (graph : Graph) :
    graph.cycles = [] ↔ ¬∃ start steps, graph.ClosedWalk start steps ∧ graph.Reachable start := by
  constructor
  · rintro none ⟨start, steps, walk, reachable⟩
    obtain ⟨_, _, _, cycle, reported, _⟩ := walk.meets_report reachable
    rw [none] at reported
    cases reported
  · intro acyclic
    apply List.eq_nil_iff_forall_not_mem.mpr
    intro cycle reported
    obtain ⟨isCycle, reachable⟩ := isCycle_of_reported reported
    obtain ⟨start, steps, rfl, walk⟩ := isCycle.closedWalk
    exact acyclic ⟨start, steps, walk, reachable start List.mem_cons_self⟩

/-- Which cycles are reported may change with further nodes and edges, but some are. -/
theorem cycles_ne_nil_of_subset {graph more : Graph} (nodes : graph.nodes ⊆ more.nodes)
    (edges : graph.edges ⊆ more.edges) (some : graph.cycles ≠ []) : more.cycles ≠ [] := by
  rw [Ne, cycles_eq_nil_iff, not_not] at some ⊢
  obtain ⟨start, steps, walk, reachable⟩ := some
  exact ⟨start, steps, walk.mono edges, reachable.mono nodes edges⟩

/-- In the graph of a repo map every closed walk is in reach: its start is a file of the map. -/
theorem ClosedWalk.reachable {map : RepoMap} {extensions : List String} {start : String}
    {steps : List String} (walk : (ofRepoMap map extensions).ClosedWalk start steps) :
    (ofRepoMap map extensions).Reachable start := by
  obtain ⟨chain, returns⟩ := walk
  cases steps with
  | nil => cases returns
  | cons next steps =>
    have joined := (List.isChain_cons_cons.mp chain).1
    apply reachable_of_listed
    rw [nodes_ofRepoMap]
    exact (mem_paths_of_joins joined).1

theorem mem_paths_of_reachable {map : RepoMap} {extensions : List String} {node : String}
    (reachable : (ofRepoMap map extensions).Reachable node) : node ∈ map.paths := by
  apply reachable.induct
  · exact fun _ listed => nodes_ofRepoMap map extensions ▸ listed
  · exact fun _ _ _ joined => (mem_paths_of_joins joined).2

end Graph

/-- A loop between two nodes that are not listed, closed by a repeated edge, behind a node that is
listed twice. -/
def Graph.hiddenLoop : Graph :=
  { nodes := ["a", "a"], edges := [⟨"a", "b"⟩, ⟨"b", "c"⟩, ⟨"c", "b"⟩, ⟨"c", "b"⟩] }

def RepoMap.tangled : RepoMap where
  files :=
    [("a.ts", { imports := [{ source := "./b" }] }), ("b.ts", { imports := [{ source := "./a" }] })]
  distinct := by decide

/-- Reported cycles are cycles: at least two entries, the first and the last the same, each joined to
the next, no node twice but for the end, all in reach of listed nodes. In the graph of a repo map
they are files of the map. -/
theorem cycles_sound :
    (∀ graph : Graph, ∀ cycle ∈ graph.cycles,
      2 ≤ cycle.length ∧ cycle.head? = cycle.getLast? ∧ cycle.IsChain graph.Joins ∧
      cycle.dropLast.Nodup ∧ ∀ node ∈ cycle, graph.Reachable node) ∧
    ∀ (map : RepoMap) (extensions : List String), ∀ cycle ∈ (Graph.ofRepoMap map extensions).cycles,
      ∀ node ∈ cycle, node ∈ map.paths := by
  constructor
  · intro graph cycle reported
    obtain ⟨isCycle, reachable⟩ := Graph.isCycle_of_reported reported
    exact ⟨isCycle.long, isCycle.closed, isCycle.chain, isCycle.simple, reachable⟩
  · intro map extensions cycle reported node member
    exact Graph.mem_paths_of_reachable ((Graph.isCycle_of_reported reported).2 node member)

theorem cycles_sound_hiddenLoop :
    (["b", "c", "b"] ∈ Graph.hiddenLoop.cycles ∧
      2 ≤ ["b", "c", "b"].length ∧ ["b", "c", "b"].head? = ["b", "c", "b"].getLast? ∧
      ["b", "c", "b"].IsChain Graph.hiddenLoop.Joins ∧ ["b", "c", "b"].dropLast.Nodup ∧
      ∀ node ∈ ["b", "c", "b"], Graph.hiddenLoop.Reachable node) ∧
    ["a.ts", "b.ts", "a.ts"] ∈ (Graph.ofRepoMap RepoMap.tangled [".ts"]).cycles ∧
      ∀ node ∈ ["a.ts", "b.ts", "a.ts"], node ∈ RepoMap.tangled.paths := by
  have reported : ["b", "c", "b"] ∈ Graph.hiddenLoop.cycles := by decide
  have tangled : ["a.ts", "b.ts", "a.ts"] ∈ (Graph.ofRepoMap RepoMap.tangled [".ts"]).cycles := by
    decide
  exact ⟨⟨reported, cycles_sound.1 _ _ reported⟩, tangled, cycles_sound.2 _ _ _ tangled⟩

/-- Closed walks are detected: each one in reach of a listed node has an edge that some reported
cycle ends with. So nothing is reported exactly when no closed walk is in reach, which for a repo map
means that its imports form no cycle. -/
theorem cycles_complete :
    (∀ (graph : Graph) (start : String) (steps : List String),
      graph.ClosedWalk start steps → graph.Reachable start →
      ∃ source target, [source, target] <:+: start :: steps ∧
        ∃ cycle ∈ graph.cycles, [source, target] <:+ cycle) ∧
    (∀ graph : Graph, graph.cycles = [] ↔
      ¬∃ start steps, graph.ClosedWalk start steps ∧ graph.Reachable start) ∧
    ∀ (map : RepoMap) (extensions : List String), map.cycles extensions = [] ↔
      ¬∃ start steps, (Graph.ofRepoMap map extensions).ClosedWalk start steps := by
  refine ⟨fun graph start steps => Graph.ClosedWalk.meets_report, Graph.cycles_eq_nil_iff, ?_⟩
  intro map extensions
  rw [RepoMap.cycles, Graph.cycles_eq_nil_iff]
  constructor
  · rintro acyclic ⟨start, steps, walk⟩
    exact acyclic ⟨start, steps, walk, walk.reachable⟩
  · rintro acyclic ⟨start, steps, walk, _⟩
    exact acyclic ⟨start, steps, walk⟩

theorem cycles_complete_hiddenLoop :
    Graph.hiddenLoop.ClosedWalk "c" ["b", "c"] ∧ Graph.hiddenLoop.Reachable "c" ∧
      ∃ source target, [source, target] <:+: ["c", "b", "c"] ∧
        ∃ cycle ∈ Graph.hiddenLoop.cycles, [source, target] <:+ cycle := by
  have walk : Graph.hiddenLoop.ClosedWalk "c" ["b", "c"] := ⟨by decide, rfl⟩
  have root : Graph.hiddenLoop.Reachable "a" := Graph.reachable_of_listed (by decide)
  have next : Graph.hiddenLoop.Reachable "b" := root.step (by decide)
  have reachable : Graph.hiddenLoop.Reachable "c" := next.step (by decide)
  exact ⟨walk, reachable, cycles_complete.1 _ _ _ walk reachable⟩

end Linkage
