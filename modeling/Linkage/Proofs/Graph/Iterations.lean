import Linkage.Proofs.Graph.Recursion
import Linkage.Proofs.Graph.Reports
/-!
The states that the search for cycles goes through. `search_consistent`: at every step of every visit
the frames, the path and the two sets of nodes tell the same story, so that a node is only looked up
on the path where it is there and only taken off a path that ends on it. After a visit all are empty.
-/

namespace Linkage

namespace Search

variable {graph : Graph} {search start : Search} {finished : List String} {node target : String}
  {pending : List String} {outer : List Frame}

def through (graph : Graph) (roots : List String) : Search :=
  roots.foldl (visit graph graph.adjacency) {}

structure Consistent (graph : Graph) (search : Search) : Prop where
  path_frames : search.path = (search.frames.map Frame.node).reverse
  mem_active : ∀ node, node ∈ search.active ↔ node ∈ search.path
  distinct : search.path.Nodup
  chain : search.path.IsChain graph.Joins
  active_visited : search.active ⊆ search.visited
  /-- A node that was left has no target that was not reached. -/
  settled : ∀ node ∈ search.visited, node ∉ search.active →
    ∀ target ∈ Graph.targets graph.adjacency node, target ∈ search.visited

/-- Each target of a finished node closed a cycle or finished earlier, and was visited either way. -/
theorem Invariant.settled (invariant : Invariant graph finished search)
    (visited : node ∈ search.visited) (left : node ∉ search.active) (joined : graph.Joins node target) :
    target ∈ search.visited := by
  have member : node ∈ finished := (invariant.marked.mem_visited.mp visited).resolve_right left
  rcases invariant.explored.ordered.descends invariant.marked.finished_distinct member joined with
    reported | ⟨earlier, _⟩
  · exact invariant.reported_visited reported
  · exact invariant.marked.mem_visited.mpr (Or.inl earlier)

theorem Invariant.consistent (invariant : Invariant graph finished search) :
    Consistent graph search := by
  have stacked := invariant.stacked
  have marked := invariant.marked
  refine ⟨?_, fun _ => stacked.mem_path.symm, ?_, stacked.path_chain, ?_, ?_⟩
  · rw [stacked.path, stacked.active]
  · rw [stacked.path]
    exact List.nodup_reverse.mpr marked.active_distinct
  · intro node active
    exact marked.mem_visited.mpr (Or.inr active)
  · intro node visited left target member
    rw [Graph.targets_adjacency] at member
    exact invariant.settled visited left (Graph.mem_targetsOf.mp member)

/-! ### Visits -/

theorem through_concat (graph : Graph) (roots : List String) (root : String) :
    through graph (roots ++ [root]) = (through graph roots).visit graph graph.adjacency root := by
  rw [through, List.foldl_append]
  rfl

theorem leads_visit {root : String} (fresh : root ∉ search.visited) :
    Relation.ReflTransGen (Moves graph.adjacency) (search.enter graph.adjacency root)
      (search.visit graph graph.adjacency root) := by
  rw [visit_fresh fresh]
  exact leads_run ..

/-- What holds at the start of a visit and is kept by every step holds wherever the visit gets. -/
theorem Invariant.moves (invariant : Invariant graph finished start)
    (leads : Relation.ReflTransGen (Moves graph.adjacency) start search) :
    ∃ finished, Invariant graph finished search := by
  induction leads with
  | refl => exact ⟨finished, invariant⟩
  | tail _ moves ih =>
    obtain ⟨_, before⟩ := ih
    obtain ⟨_, rfl⟩ := moves
    exact before.step

/-! ### Looking up and taking off -/

theorem idxOf?_of_mem {path : List String} (member : target ∈ path) :
    path.idxOf? target = some (path.idxOf target) := by
  obtain ⟨place, found⟩ := Option.isSome_iff_exists.mp (List.isSome_idxOf?.mpr member)
  rw [List.idxOf_eq_getD_idxOf?, found, Option.getD_some]

theorem Consistent.closes (consistent : Consistent graph search)
    (here : search.frames = ⟨node, target :: pending⟩ :: outer) (seen : target ∈ search.visited)
    (back : target ∈ search.active) :
    ∃ place, search.path.idxOf? target = some place ∧
      (search.step graph.adjacency).cycles =
        search.cycles ++ [search.path.drop place ++ [target]] := by
  refine ⟨_, idxOf?_of_mem ((consistent.mem_active target).mp back), ?_⟩
  rw [← Recursive.closing_eq_drop]
  simp [step, here, seen, back]

theorem Consistent.leaves (consistent : Consistent graph search)
    (here : search.frames = ⟨node, []⟩ :: outer) :
    ∃ rest, search.path = rest ++ [node] ∧ (search.step graph.adjacency).path = rest := by
  have ends : search.path = (outer.map Frame.node).reverse ++ [node] := by
    rw [consistent.path_frames, here, List.map_cons, List.reverse_cons]
  refine ⟨_, ends, ?_⟩
  simp [step, leave, here, ends]

theorem Rested.empty {seen : List String} (rested : Rested graph seen search) :
    search.frames = [] ∧ search.path = [] ∧ search.active = [] := by
  obtain ⟨⟨_, invariant⟩, idle, _⟩ := rested
  have none := invariant.stacked.active_nil idle
  refine ⟨idle, ?_, none⟩
  rw [invariant.stacked.path, none, List.reverse_nil]

end Search

open Search in
/-- Whichever listed node is the next root: at every step of its visit the search is consistent, a
node is looked up on the path only where it stands there, and a node is taken off the path only where
it stands last. The visit ends with nothing left on the path. -/
theorem search_consistent (graph : Graph) (before after : List String) (root : String)
    (listed : graph.nodes = before ++ root :: after) :
    (root ∉ (through graph before).visited →
      Relation.ReflTransGen (Moves graph.adjacency)
        ((through graph before).enter graph.adjacency root) (through graph (before ++ [root])) ∧
      ∀ search, Relation.ReflTransGen (Moves graph.adjacency)
          ((through graph before).enter graph.adjacency root) search →
        Consistent graph search ∧
        (∀ node target pending outer, search.frames = ⟨node, target :: pending⟩ :: outer →
          target ∈ search.visited → target ∈ search.active →
            ∃ place, search.path.idxOf? target = some place ∧
              (search.step graph.adjacency).cycles =
                search.cycles ++ [search.path.drop place ++ [target]]) ∧
        ∀ node outer, search.frames = ⟨node, []⟩ :: outer →
          ∃ rest, search.path = rest ++ [node] ∧ (search.step graph.adjacency).path = rest) ∧
    (through graph (before ++ [root])).frames = [] ∧
    (through graph (before ++ [root])).path = [] ∧
    (through graph (before ++ [root])).active = [] := by
  have roots : before ++ [root] ⊆ graph.nodes := by
    rw [listed]
    exact List.append_subset.mpr ⟨List.subset_append_left .., by simp⟩
  refine ⟨fun fresh => ⟨?_, ?_⟩, ((rested_initial graph).visits roots).empty⟩
  · rw [through_concat]
    exact leads_visit fresh
  · intro search leads
    obtain ⟨⟨_, invariant⟩, idle, _⟩ :=
      (rested_initial graph).visits (List.append_subset.mp roots).1
    have entered := invariant.enter_root idle fresh (roots (by simp))
    obtain ⟨_, reached⟩ := entered.moves leads
    have consistent := reached.consistent
    exact ⟨consistent, fun _ _ _ _ => consistent.closes, fun _ _ => consistent.leaves⟩

/-- A node that imports itself, and one that leads to it and into a loop of nodes that are not all
listed. -/
def Graph.entwined : Graph where
  nodes := ["d", "a", "b"]
  edges := [⟨"d", "d"⟩, ⟨"a", "d"⟩, ⟨"a", "b"⟩, ⟨"b", "c"⟩, ⟨"c", "b"⟩]

open Search in
theorem search_consistent_entwined :
    "a" ∉ (through Graph.entwined ["d"]).visited ∧
      (∃ search : Search, search.frames = [⟨"c", ["b"]⟩, ⟨"b", []⟩, ⟨"a", []⟩] ∧
        Consistent Graph.entwined search ∧
        ∃ place, search.path.idxOf? "b" = some place ∧
          (search.step Graph.entwined.adjacency).cycles =
            search.cycles ++ [search.path.drop place ++ ["b"]]) ∧
      (∃ search : Search, search.frames = [⟨"c", []⟩, ⟨"b", []⟩, ⟨"a", []⟩] ∧
        ∃ rest, search.path = rest ++ ["c"] ∧
          (search.step Graph.entwined.adjacency).path = rest) ∧
      (through Graph.entwined ["d", "a"]).path = [] := by
  have fresh : "a" ∉ (through Graph.entwined ["d"]).visited := by decide
  obtain ⟨visits, _, path, _⟩ := search_consistent Graph.entwined ["d"] ["b"] "a" rfl
  obtain ⟨_, steps⟩ := visits fresh
  obtain ⟨consistent, closes, _⟩ := steps _ (leads_run _ 3 _)
  obtain ⟨_, _, leaves⟩ := steps _ (leads_run _ 4 _)
  exact ⟨fresh, ⟨_, rfl, consistent, closes _ _ _ _ rfl (by decide) (by decide)⟩,
    ⟨_, rfl, leaves _ _ rfl⟩, path⟩

end Linkage
