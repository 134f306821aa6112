import Linkage.Proofs.Graph.Reports
/-!
Graphs in separate parts. A search that enters one part never leaves it along an edge, and nodes of
another part that were visited before make no difference to it (`step_after`). So the cycles of a
graph are those of its parts, one part after the other: `cycles_of_parts`.
-/

namespace Linkage

/-- The third list is made of the other two, each in its own order. -/
inductive Interleaved {α : Type} : List α → List α → List α → Prop
  | nil : Interleaved [] [] []
  | left {x : α} {xs ys zs : List α} (rest : Interleaved xs ys zs) :
    Interleaved (x :: xs) ys (x :: zs)
  | right {y : α} {xs ys zs : List α} (rest : Interleaved xs ys zs) :
    Interleaved xs (y :: ys) (y :: zs)

namespace Interleaved

variable {α : Type} {xs ys zs : List α}

theorem symm (merged : Interleaved xs ys zs) : Interleaved ys xs zs := by
  induction merged with
  | nil => exact .nil
  | left _ ih => exact .right ih
  | right _ ih => exact .left ih

theorem length_eq (merged : Interleaved xs ys zs) : zs.length = xs.length + ys.length := by
  induction merged with
  | nil => rfl
  | left _ ih | right _ ih =>
    simp only [List.length_cons, ih]
    omega

/-- What only the first list can have is taken from the first list. -/
theorem filter_eq {p : α → Bool} (merged : Interleaved xs ys zs) (none : ∀ y ∈ ys, p y = false) :
    zs.filter p = xs.filter p := by
  induction merged with
  | nil => rfl
  | left _ ih => rw [List.filter_cons, List.filter_cons, ih none]
  | right _ ih =>
    obtain ⟨here, later⟩ := List.forall_mem_cons.mp none
    rw [List.filter_cons_of_neg (by simp [here]), ih later]

end Interleaved

namespace Graph

variable {graph first second whole : Graph} {source target node : String}

def vertices (graph : Graph) : List String :=
  graph.nodes ++ graph.edges.flatMap (fun edge => [edge.source, edge.target])

theorem mem_vertices_of_edge {edge : Edge} (member : edge ∈ graph.edges) :
    edge.source ∈ graph.vertices ∧ edge.target ∈ graph.vertices := by
  constructor <;>
    exact List.mem_append_right _ (List.mem_flatMap.mpr ⟨edge, member, by simp⟩)

theorem Reachable.mem_vertices (reachable : graph.Reachable node) : node ∈ graph.vertices := by
  apply reachable.induct
  · exact fun root listed => List.mem_append_left _ listed
  · exact fun source target _ joined => (mem_vertices_of_edge joined).2

/-- The edges that leave the nodes of a part are the same in the whole graph. -/
structure IsPart (part whole : Graph) : Prop where
  targets : ∀ node ∈ part.vertices, whole.targetsOf node = part.targetsOf node
  bound : Search.bound part ≤ Search.bound whole

theorem isPart_of_interleaved (apart : first.vertices.Disjoint second.vertices)
    (nodes : first.nodes.length ≤ whole.nodes.length)
    (edges : Interleaved first.edges second.edges whole.edges) : IsPart first whole where
  targets := by
    intro node inside
    rw [targetsOf, targetsOf, edges.filter_eq]
    intro edge member
    have other : edge.source ≠ node := by
      rintro rfl
      exact apart inside (mem_vertices_of_edge member).1
    simpa using other
  bound := by
    have size := edges.length_eq
    unfold Search.bound
    omega

end Graph

/-! ### A search in one part -/

namespace Search

variable {part whole : Graph} {search earlier : Search} {finished seen roots : List String}
  {root : String}

/-- The search as it would stand if another one had been finished before. -/
def after (earlier search : Search) : Search :=
  { search with
    visited := search.visited ++ earlier.visited
    cycles := earlier.cycles ++ search.cycles }

/-- Between two roots only the visited nodes and the cycles are left of a search. -/
theorem Rested.eq_after (rested : Rested part seen search) : search = after search {} := by
  obtain ⟨⟨finished, invariant⟩, idle, _⟩ := rested
  have active := invariant.stacked.active_nil idle
  have path := invariant.stacked.path
  rw [active] at path
  obtain ⟨frames, _, _, visited, cycles⟩ := search
  simp_all [after]

section

variable (isPart : part.IsPart whole) (unseen : earlier.visited.Disjoint part.vertices)

include isPart in
theorem enter_after {node : String} (search : Search) (inside : node ∈ part.vertices) :
    (after earlier search).enter whole.adjacency node =
      after earlier (search.enter part.adjacency node) := by
  simp [enter, after, Graph.targets_adjacency, isPart.targets node inside]

include unseen in
theorem contains_after {node : String} (search : Search) (inside : node ∈ part.vertices) :
    (after earlier search).visited.contains node = search.visited.contains node := by
  have outside : node ∉ earlier.visited := fun member => unseen member inside
  simp [after, outside]

include isPart unseen

/-- What was visited and reported before is invisible to a step: the targets it looks at are in the
part. -/
theorem step_after (invariant : Invariant part finished search) :
    (after earlier search).step whole.adjacency = after earlier (search.step part.adjacency) := by
  cases here : search.frames with
  | nil => simp [step, after, here]
  | cons frame outer =>
    obtain ⟨node, pending⟩ := frame
    cases pending with
    | nil => simp [step, after, leave, here]
    | cons target pending =>
      have inside := (Graph.mem_vertices_of_edge (invariant.joins here)).2
      have open_frames : (after earlier search).frames = search.frames := rfl
      have active : (after earlier search).active = search.active := rfl
      simp only [step, open_frames, active, here, contains_after unseen search inside]
      split
      · exact enter_after isPart (search.advance node pending outer) inside
      · split
        · simp [after]
        · rfl

theorem run_after (invariant : Invariant part finished search) (bound : Nat) :
    run whole.adjacency bound (after earlier search) =
      after earlier (run part.adjacency bound search) := by
  induction bound generalizing search finished with
  | zero => rfl
  | succ bound ih =>
    obtain ⟨next, kept⟩ := invariant.step
    have open_frames : (after earlier search).frames = search.frames := rfl
    rw [run, run, open_frames, step_after isPart unseen invariant, ih kept]
    split <;> rfl

theorem visit_after (rested : Rested part seen search) (listed : root ∈ part.nodes) :
    visit whole whole.adjacency (after earlier search) root =
      after earlier (visit part part.adjacency search root) := by
  obtain ⟨⟨finished, invariant⟩, idle, _⟩ := rested
  have inside : root ∈ part.vertices := List.mem_append_left _ listed
  rw [visit, visit, contains_after unseen search inside]
  split
  case isTrue => rfl
  case isFalse unreached =>
    have fresh : root ∉ search.visited := by simpa using unreached
    have entered := invariant.enter_root idle fresh listed
    rw [enter_after isPart search inside, run_after isPart unseen entered,
      run_of_le (remaining_root idle fresh) isPart.bound]

theorem visits_after (rested : Rested part seen search) (listed : roots ⊆ part.nodes) :
    roots.foldl (visit whole whole.adjacency) (after earlier search) =
      after earlier (roots.foldl (visit part part.adjacency) search) := by
  induction roots generalizing search seen with
  | nil => rfl
  | cons root roots ih =>
    obtain ⟨here, later⟩ := List.cons_subset.mp listed
    rw [List.foldl_cons, List.foldl_cons, visit_after isPart unseen rested here,
      ih (rested.visit here) later]

end

end Search

namespace Graph

variable {first second whole : Graph}

theorem visited_subset_vertices (graph : Graph) : (Search.all graph).visited ⊆ graph.vertices := by
  obtain ⟨finished, invariant, _⟩ := Search.all_finished graph
  intro node visited
  exact (invariant.marked.reachable node visited).mem_vertices

/-- The search of a graph whose nodes are those of two parts, one after the other, goes through one
part after the other. -/
theorem all_of_parts (isFirst : first.IsPart whole) (isSecond : second.IsPart whole)
    (apart : first.vertices.Disjoint second.vertices)
    (nodes : whole.nodes = first.nodes ++ second.nodes) :
    Search.all whole = Search.after (Search.all first) (Search.all second) := by
  have through_first : first.nodes.foldl (Search.visit whole whole.adjacency) {} =
      Search.all first := by
    have none : ({} : Search).visited.Disjoint first.vertices := List.disjoint_nil_left _
    have visits := Search.visits_after isFirst none (Search.rested_initial first)
      (List.Subset.refl first.nodes)
    simpa [Search.after, Search.all] using visits
  have unseen : (Search.all first).visited.Disjoint second.vertices := fun _ visited =>
    apart (visited_subset_vertices first visited)
  calc Search.all whole
      = second.nodes.foldl (Search.visit whole whole.adjacency) (Search.all first) := by
        rw [Search.all, nodes, List.foldl_append, through_first]
    _ = second.nodes.foldl (Search.visit whole whole.adjacency)
          (Search.after (Search.all first) {}) := by
        rw [← (Search.rested_all first).eq_after]
    _ = Search.after (Search.all first) (Search.all second) :=
        Search.visits_after isSecond unseen (Search.rested_initial second) (List.Subset.refl _)

end Graph

/-- The cycles of a graph in two parts that share no node, listed one after the other, are those of
the first part followed by those of the second, however the edges of the parts are mixed. -/
theorem cycles_of_parts (first second whole : Graph)
    (apart : first.vertices.Disjoint second.vertices)
    (nodes : whole.nodes = first.nodes ++ second.nodes)
    (edges : Interleaved first.edges second.edges whole.edges) :
    whole.cycles = first.cycles ++ second.cycles := by
  have isFirst : first.IsPart whole := Graph.isPart_of_interleaved apart (by simp [nodes]) edges
  have isSecond : second.IsPart whole :=
    Graph.isPart_of_interleaved (List.disjoint_symm apart) (by simp [nodes]) edges.symm
  rw [Graph.cycles, Graph.all_of_parts isFirst isSecond apart nodes]
  rfl

/-- The loop that is reached from `a`, and a loop of its own with a repeated edge, edge by edge. -/
theorem cycles_of_parts_hiddenLoop :
    let loop : Graph := { nodes := ["x", "y"], edges := [⟨"x", "y"⟩, ⟨"y", "x"⟩, ⟨"y", "x"⟩] }
    let whole : Graph :=
      { nodes := ["a", "a", "x", "y"]
        edges := [⟨"x", "y"⟩, ⟨"a", "b"⟩, ⟨"y", "x"⟩, ⟨"b", "c"⟩, ⟨"c", "b"⟩, ⟨"y", "x"⟩,
          ⟨"c", "b"⟩] }
    Graph.hiddenLoop.vertices.Disjoint loop.vertices ∧
      Interleaved Graph.hiddenLoop.edges loop.edges whole.edges ∧
      whole.cycles = Graph.hiddenLoop.cycles ++ loop.cycles ∧
      whole.cycles = [["b", "c", "b"], ["b", "c", "b"], ["x", "y", "x"], ["x", "y", "x"]] := by
  intro loop whole
  have merged : Interleaved Graph.hiddenLoop.edges loop.edges whole.edges :=
    .right (.left (.right (.left (.left (.right (.left .nil))))))
  have apart : Graph.hiddenLoop.vertices.Disjoint loop.vertices := by
    unfold List.Disjoint
    decide
  exact ⟨apart, merged, cycles_of_parts _ _ _ apart rfl merged, by decide⟩

end Linkage
