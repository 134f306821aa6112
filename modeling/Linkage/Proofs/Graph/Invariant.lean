import Linkage.Proofs.Graph.Steps
import Mathlib.Data.List.Nodup
/-!
The invariant of the search for cycles. Every node is untouched, active or finished. The finished
nodes are kept as a list that the search itself does not need, the latest first: an edge out of a
finished node either closed a reported cycle or leads to a node that finished earlier.
-/

namespace Linkage

/-- A list of nodes that goes around once: along edges, back to its start, no node twice on the
way. -/
structure Graph.IsCycle (graph : Graph) (cycle : List String) : Prop where
  long : 2 ≤ cycle.length
  closed : cycle.head? = cycle.getLast?
  chain : cycle.IsChain graph.Joins
  simple : cycle.dropLast.Nodup

namespace Search

variable {graph : Graph} {search : Search} {finished : List String} {node target : String}
  {pending : List String} {outer : List Frame}

def Reported (cycles : List (List String)) (source target : String) : Prop :=
  ∃ cycle ∈ cycles, [source, target] <:+ cycle

theorem Reported.mono {cycles more : List (List String)} {source target : String}
    (kept : cycles ⊆ more) (reported : Reported cycles source target) :
    Reported more source target := by
  obtain ⟨cycle, member, ends⟩ := reported
  exact ⟨cycle, kept member, ends⟩

/-- Frames, path and active nodes tell the same: the nodes from the root to the innermost one, each
joined to the next. -/
structure Stacked (graph : Graph) (search : Search) : Prop where
  active : search.active = search.frames.map Frame.node
  path : search.path = search.active.reverse
  chain : search.active.IsChain (fun inner outer => graph.Joins outer inner)

/-- Every visited node is finished or active, and not both. -/
structure Marked (graph : Graph) (finished : List String) (search : Search) : Prop where
  split : search.visited.Perm (finished ++ search.active)
  distinct : search.visited.Nodup
  reachable : ∀ node ∈ search.visited, graph.Reachable node

/-- Each target that a frame has looked at closed a cycle or is among the nodes in `done`. For the
frames further out, the nodes of the frames further in are done as well. -/
def Looked (graph : Graph) (cycles : List (List String)) : List String → List Frame → Prop
  | _, [] => True
  | done, frame :: outer =>
    (∃ looked, graph.targetsOf frame.node = looked ++ frame.pending ∧
      ∀ target ∈ looked, Reported cycles frame.node target ∨ target ∈ done) ∧
    Looked graph cycles (frame.node :: done) outer

/-- Each edge out of a node of the list closed a cycle or leads to a node further down the list. -/
def Ordered (graph : Graph) (cycles : List (List String)) : List String → Prop
  | [] => True
  | node :: earlier =>
    (∀ target ∈ graph.targetsOf node, Reported cycles node target ∨ target ∈ earlier) ∧
    Ordered graph cycles earlier

structure Explored (graph : Graph) (finished : List String) (search : Search) : Prop where
  looked : Looked graph search.cycles finished search.frames
  ordered : Ordered graph search.cycles finished

def Sound (graph : Graph) (search : Search) : Prop :=
  ∀ cycle ∈ search.cycles, graph.IsCycle cycle ∧ cycle ⊆ search.visited

structure Invariant (graph : Graph) (finished : List String) (search : Search) : Prop where
  stacked : Stacked graph search
  marked : Marked graph finished search
  explored : Explored graph finished search
  sound : Sound graph search

/-! ### The stack -/

theorem Stacked.active_eq (stacked : Stacked graph search) {frame : Frame}
    (here : search.frames = frame :: outer) :
    search.active = frame.node :: outer.map Frame.node := by
  rw [stacked.active, here, List.map_cons]

theorem Stacked.active_nil (stacked : Stacked graph search) (idle : search.frames = []) :
    search.active = [] := by
  rw [stacked.active, idle, List.map_nil]

theorem Stacked.mem_path (stacked : Stacked graph search) :
    node ∈ search.path ↔ node ∈ search.active := by
  rw [stacked.path, List.mem_reverse]

theorem Stacked.path_chain (stacked : Stacked graph search) : search.path.IsChain graph.Joins := by
  rw [stacked.path, List.isChain_reverse]
  exact stacked.chain

theorem Stacked.path_ends (stacked : Stacked graph search) {frame : Frame}
    (here : search.frames = frame :: outer) : [frame.node] <:+ search.path := by
  rw [stacked.path, stacked.active_eq here, List.reverse_cons]
  exact List.suffix_append ..

theorem Stacked.leave (stacked : Stacked graph search) (distinct : search.active.Nodup)
    (here : search.frames = ⟨node, []⟩ :: outer) : Stacked graph (search.leave node outer) := by
  have active := stacked.active_eq here
  rw [active, List.nodup_cons] at distinct
  have left : (search.leave node outer).active = outer.map Frame.node := by
    simp only [Search.leave, active, List.filter_cons, bne_self_eq_false, Bool.false_eq_true, if_false]
    apply List.filter_eq_self.mpr
    intro other member
    have apart : other ≠ node := by
      rintro rfl
      exact distinct.1 member
    simpa using apart
  refine ⟨left, ?_, ?_⟩
  · rw [left]
    simp [Search.leave, stacked.path, active]
  · have chain := stacked.chain
    rw [active] at chain
    rw [left]
    exact chain.tail

theorem Stacked.advance (stacked : Stacked graph search)
    (here : search.frames = ⟨node, target :: pending⟩ :: outer) :
    Stacked graph (search.advance node pending outer) := by
  have active := stacked.active_eq here
  exact ⟨active, stacked.path, stacked.chain⟩

theorem Stacked.close (stacked : Stacked graph search) : Stacked graph (search.close target) :=
  ⟨stacked.active, stacked.path, stacked.chain⟩

theorem Stacked.enter (stacked : Stacked graph search)
    (joined : ∀ outer ∈ search.active.head?, graph.Joins outer node) :
    Stacked graph (search.enter graph.adjacency node) := by
  refine ⟨?_, ?_, ?_⟩
  · simp [Search.enter, stacked.active]
  · simp [Search.enter, stacked.path]
  · exact List.isChain_cons.mpr ⟨joined, stacked.chain⟩

/-! ### Visited nodes -/

theorem Marked.active_distinct (marked : Marked graph finished search) : search.active.Nodup :=
  (List.nodup_append.mp (marked.split.nodup_iff.mp marked.distinct)).2.1

theorem Marked.finished_distinct (marked : Marked graph finished search) : finished.Nodup :=
  (List.nodup_append.mp (marked.split.nodup_iff.mp marked.distinct)).1

theorem Marked.mem_visited (marked : Marked graph finished search) :
    node ∈ search.visited ↔ node ∈ finished ∨ node ∈ search.active := by
  rw [marked.split.mem_iff, List.mem_append]

theorem Marked.leave (marked : Marked graph finished search) (stacked : Stacked graph search)
    (here : search.frames = ⟨node, []⟩ :: outer) :
    Marked graph (node :: finished) (search.leave node outer) := by
  have left := (stacked.leave marked.active_distinct here).active
  refine ⟨?_, marked.distinct, marked.reachable⟩
  rw [left]
  have split := marked.split
  rw [stacked.active_eq here] at split
  exact split.trans List.perm_middle

theorem Marked.advance (marked : Marked graph finished search) :
    Marked graph finished (search.advance node pending outer) :=
  ⟨marked.split, marked.distinct, marked.reachable⟩

theorem Marked.close (marked : Marked graph finished search) :
    Marked graph finished (search.close target) :=
  ⟨marked.split, marked.distinct, marked.reachable⟩

theorem Marked.enter (marked : Marked graph finished search) (fresh : node ∉ search.visited)
    (reachable : graph.Reachable node) :
    Marked graph finished (search.enter graph.adjacency node) := by
  refine ⟨?_, List.nodup_cons.mpr ⟨fresh, marked.distinct⟩, ?_⟩
  · exact (marked.split.cons node).trans List.perm_middle.symm
  · intro other member
    rcases List.mem_cons.mp member with rfl | before
    · exact reachable
    · exact marked.reachable other before

/-! ### Explored edges -/

theorem Looked.mono {cycles more : List (List String)} {done wider : List String}
    {frames : List Frame} (kept : cycles ⊆ more) (widened : done ⊆ wider)
    (looked : Looked graph cycles done frames) : Looked graph more wider frames := by
  induction frames generalizing done wider with
  | nil => trivial
  | cons frame outer ih =>
    obtain ⟨⟨before, split, settled⟩, rest⟩ := looked
    refine ⟨⟨before, split, ?_⟩, ih (List.cons_subset_cons _ widened) rest⟩
    intro target member
    exact (settled target member).imp (.mono kept) (fun inside => widened inside)

theorem Ordered.mono {cycles more : List (List String)} (kept : cycles ⊆ more)
    (ordered : Ordered graph cycles finished) : Ordered graph more finished := by
  induction finished with
  | nil => trivial
  | cons node earlier ih =>
    refine ⟨?_, ih ordered.2⟩
    intro target member
    exact (ordered.1 target member).imp_left (.mono kept)

theorem Looked.joins {cycles : List (List String)} {done : List String}
    (looked : Looked graph cycles done (⟨node, target :: pending⟩ :: outer)) :
    graph.Joins node target := by
  obtain ⟨⟨before, split, _⟩, _⟩ := looked
  have member : target ∈ graph.targetsOf node := by
    rw [split]
    simp
  exact Graph.mem_targetsOf.mp member

/-- Taking a target off keeps what was looked at, when the target is settled. -/
theorem Looked.advance {cycles : List (List String)} {done : List String}
    (looked : Looked graph cycles done (⟨node, target :: pending⟩ :: outer))
    (settled : Reported cycles node target ∨ target ∈ done) :
    Looked graph cycles done (⟨node, pending⟩ :: outer) := by
  obtain ⟨⟨before, split, old⟩, rest⟩ := looked
  refine ⟨⟨before ++ [target], by simpa using split, ?_⟩, rest⟩
  intro other member
  rcases List.mem_append.mp member with earlier | last
  · exact old other earlier
  · rw [List.mem_singleton.mp last]
    exact settled

theorem Looked.enter {cycles : List (List String)} {frames : List Frame}
    (looked : Looked graph cycles (node :: finished) frames) :
    Looked graph cycles finished (⟨node, graph.targetsOf node⟩ :: frames) :=
  ⟨⟨[], rfl, by simp⟩, looked⟩

theorem Explored.looked_at (explored : Explored graph finished search) {frames : List Frame}
    (here : search.frames = frames) : Looked graph search.cycles finished frames :=
  here ▸ explored.looked

/-- A node whose targets are all looked at is the next one to finish. -/
theorem Explored.leave (explored : Explored graph finished search)
    (here : search.frames = ⟨node, []⟩ :: outer) :
    Explored graph (node :: finished) (search.leave node outer) := by
  obtain ⟨⟨before, split, settled⟩, rest⟩ := explored.looked_at here
  refine ⟨rest, ?_, explored.ordered⟩
  intro target member
  rw [split, List.append_nil] at member
  exact settled target member

theorem Explored.enter (explored : Explored graph finished search)
    (here : search.frames = ⟨node, target :: pending⟩ :: outer) :
    Explored graph finished ((search.advance node pending outer).enter graph.adjacency target) := by
  refine ⟨?_, explored.ordered⟩
  have looked := explored.looked_at here
  have wider := looked.mono (List.Subset.refl _) (List.subset_cons_self target finished)
  have frames := (wider.advance (Or.inr List.mem_cons_self)).enter
  simpa only [Search.enter, Search.advance, Graph.targets_adjacency] using frames

theorem Explored.close (explored : Explored graph finished search)
    (here : search.frames = ⟨node, target :: pending⟩ :: outer)
    (ends : [node, target] <:+ closing search.path target) :
    Explored graph finished ((search.advance node pending outer).close target) := by
  have kept : search.cycles ⊆ search.cycles ++ [closing search.path target] :=
    List.subset_append_left ..
  have looked := (explored.looked_at here).mono kept (List.Subset.refl finished)
  exact ⟨looked.advance (Or.inl ⟨_, by simp, ends⟩), explored.ordered.mono kept⟩

theorem Explored.skip (explored : Explored graph finished search)
    (here : search.frames = ⟨node, target :: pending⟩ :: outer) (done : target ∈ finished) :
    Explored graph finished (search.advance node pending outer) :=
  ⟨(explored.looked_at here).advance (Or.inr done), explored.ordered⟩

/-! ### Reported cycles -/

/-- The part of the path from a node on it, and the node again. -/
theorem closing_eq {path : List String} (member : target ∈ path) :
    ∃ before after, path = before ++ target :: after ∧
      closing path target = target :: after ++ [target] := by
  obtain ⟨before, after, split, first⟩ := List.eq_append_cons_of_mem member
  refine ⟨before, after, split, ?_⟩
  have passed : ∀ other ∈ before, (other != target) = true := by
    intro other inside
    have apart : other ≠ target := by
      rintro rfl
      exact first inside
    simpa using apart
  rw [closing, split, List.dropWhile_append_of_pos passed]
  simp

theorem closing_ends {path : List String} (member : target ∈ path) (ends : [node] <:+ path) :
    [node, target] <:+ closing path target := by
  obtain ⟨before, after, split, closed⟩ := closing_eq member
  have inside : [node] <:+ target :: after := by
    apply List.suffix_of_suffix_length_le ends
    · exact ⟨before, split.symm⟩
    · simp
  obtain ⟨front, same⟩ := inside
  exact ⟨front, by rw [closed, ← same]; simp⟩

theorem closing_isCycle {path : List String} (member : target ∈ path) (ends : [node] <:+ path)
    (chain : path.IsChain graph.Joins) (distinct : path.Nodup) (joined : graph.Joins node target) :
    graph.IsCycle (closing path target) := by
  obtain ⟨before, after, split, closed⟩ := closing_eq member
  obtain ⟨front, tail⟩ := closing_ends member ends
  have part : target :: after <:+ path := ⟨before, split.symm⟩
  rw [closed]
  refine ⟨by simp, by rw [List.getLast?_concat]; rfl, ?_, ?_⟩
  · -- The path is a chain up to the node that closes the cycle.
    apply (chain.suffix part).append (List.isChain_singleton _)
    intro last isLast first isFirst
    have same : target :: after ++ [target] = front ++ [node] ++ [target] := by
      rw [← closed, ← tail]
      simp
    have cut := List.append_cancel_right same
    rw [cut] at isLast
    have first_eq : target = first := by simpa using isFirst
    have last_eq : node = last := by simpa using isLast
    exact first_eq ▸ last_eq ▸ joined
  · rw [List.dropLast_concat]
    exact distinct.sublist part.sublist

theorem closing_subset {path : List String} (member : target ∈ path) :
    closing path target ⊆ path := by
  obtain ⟨before, after, split, closed⟩ := closing_eq member
  rw [closed, split]
  intro other inside
  simp only [List.mem_append, List.mem_cons] at inside ⊢
  tauto

theorem Sound.enter (sound : Sound graph search) :
    Sound graph (search.enter graph.adjacency node) := by
  intro cycle member
  obtain ⟨isCycle, inside⟩ := sound cycle member
  exact ⟨isCycle, List.Subset.trans inside (List.subset_cons_self ..)⟩

theorem Sound.close (sound : Sound graph search)
    (isCycle : graph.IsCycle (closing search.path target)) (inside : search.path ⊆ search.visited)
    (member : target ∈ search.path) :
    Sound graph ((search.advance node pending outer).close target) := by
  intro cycle recorded
  rcases List.mem_append.mp recorded with before | last
  · exact sound cycle before
  · rw [List.mem_singleton.mp last]
    exact ⟨isCycle, List.Subset.trans (closing_subset member) inside⟩

/-! ### Steps and runs -/

theorem Invariant.initial (graph : Graph) : Invariant graph [] {} := by
  refine ⟨⟨rfl, rfl, .nil⟩, ⟨.refl _, List.nodup_nil, ?_⟩, ⟨trivial, trivial⟩, ?_⟩ <;>
    simp [Sound]

theorem Invariant.leave (invariant : Invariant graph finished search)
    (here : search.frames = ⟨node, []⟩ :: outer) :
    Invariant graph (node :: finished) (search.leave node outer) where
  stacked := invariant.stacked.leave invariant.marked.active_distinct here
  marked := invariant.marked.leave invariant.stacked here
  explored := invariant.explored.leave here
  sound := invariant.sound

theorem Invariant.joins (invariant : Invariant graph finished search)
    (here : search.frames = ⟨node, target :: pending⟩ :: outer) : graph.Joins node target :=
  (invariant.explored.looked_at here).joins

theorem Invariant.enter (invariant : Invariant graph finished search)
    (here : search.frames = ⟨node, target :: pending⟩ :: outer) (fresh : target ∉ search.visited) :
    Invariant graph finished ((search.advance node pending outer).enter graph.adjacency target) := by
  have joined := invariant.joins here
  have innermost := invariant.stacked.active_eq here
  have active : node ∈ search.active := by
    rw [innermost]
    exact List.mem_cons_self
  have visited : node ∈ search.visited := invariant.marked.mem_visited.mpr (Or.inr active)
  refine ⟨(invariant.stacked.advance here).enter ?_, ?_, invariant.explored.enter here,
    invariant.sound.enter⟩
  · intro other isHead
    have same : node = other := by simpa [advance, innermost] using isHead
    exact same ▸ joined
  · exact invariant.marked.advance.enter fresh
      ((invariant.marked.reachable node visited).step joined)

theorem Invariant.enter_root (invariant : Invariant graph finished search) (idle : search.frames = [])
    (fresh : node ∉ search.visited) (listed : node ∈ graph.nodes) :
    Invariant graph finished (search.enter graph.adjacency node) := by
  have none := invariant.stacked.active_nil idle
  refine ⟨invariant.stacked.enter (by simp [none]),
    invariant.marked.enter fresh (Graph.reachable_of_listed listed), ⟨?_, invariant.explored.ordered⟩,
    invariant.sound.enter⟩
  have outermost : Looked graph search.cycles (node :: finished) [] := trivial
  simpa only [Search.enter, idle, Graph.targets_adjacency] using outermost.enter

theorem Invariant.close (invariant : Invariant graph finished search)
    (here : search.frames = ⟨node, target :: pending⟩ :: outer) (back : target ∈ search.active) :
    Invariant graph finished ((search.advance node pending outer).close target) := by
  have ends := invariant.stacked.path_ends here
  have member : target ∈ search.path := invariant.stacked.mem_path.mpr back
  have distinct : search.path.Nodup := by
    rw [invariant.stacked.path]
    exact List.nodup_reverse.mpr invariant.marked.active_distinct
  have inside : search.path ⊆ search.visited := by
    intro other onPath
    exact invariant.marked.mem_visited.mpr (Or.inr (invariant.stacked.mem_path.mp onPath))
  have isCycle := closing_isCycle member ends invariant.stacked.path_chain distinct
    (invariant.joins here)
  exact ⟨(invariant.stacked.advance here).close, invariant.marked.advance.close,
    invariant.explored.close here (closing_ends member ends),
    invariant.sound.close isCycle inside member⟩

theorem Invariant.skip (invariant : Invariant graph finished search)
    (here : search.frames = ⟨node, target :: pending⟩ :: outer) (seen : target ∈ search.visited)
    (off : target ∉ search.active) : Invariant graph finished (search.advance node pending outer) where
  stacked := invariant.stacked.advance here
  marked := invariant.marked.advance
  explored := invariant.explored.skip here ((invariant.marked.mem_visited.mp seen).resolve_right off)
  sound := invariant.sound

/-- Every step keeps the invariant; only leaving a node adds to the finished ones. -/
theorem Invariant.step (invariant : Invariant graph finished search) :
    ∃ finished, Invariant graph finished (search.step graph.adjacency) := by
  apply step_cases (P := fun next => ∃ finished, Invariant graph finished next)
  case idle => exact fun _ => ⟨finished, invariant⟩
  case leave => exact fun node outer here => ⟨node :: finished, invariant.leave here⟩
  case enter => exact fun _ _ _ _ here fresh => ⟨finished, invariant.enter here fresh⟩
  case close => exact fun _ _ _ _ here _ back => ⟨finished, invariant.close here back⟩
  case skip => exact fun _ _ _ _ here seen off => ⟨finished, invariant.skip here seen off⟩

theorem visited_step (rows : List (String × List String)) (search : Search) :
    search.visited ⊆ (search.step rows).visited := by
  apply step_cases (P := fun next => search.visited ⊆ next.visited)
  case enter => exact fun _ target _ _ _ _ => List.subset_cons_self target _
  all_goals
    intros
    exact List.Subset.refl _

/-- A search between two roots: no frame is open, and the roots in `seen` are visited. -/
def Rested (graph : Graph) (seen : List String) (search : Search) : Prop :=
  (∃ finished, Invariant graph finished search) ∧ search.frames = [] ∧ seen ⊆ search.visited

theorem Rested.visit {seen : List String} {root : String} (rested : Rested graph seen search)
    (listed : root ∈ graph.nodes) :
    Rested graph (root :: seen) (search.visit graph graph.adjacency root) := by
  obtain ⟨⟨finished, invariant⟩, idle, inside⟩ := rested
  unfold Search.visit
  split
  case isTrue reached =>
    have root_visited : root ∈ search.visited := by simpa using reached
    exact ⟨⟨finished, invariant⟩, idle, List.cons_subset.mpr ⟨root_visited, inside⟩⟩
  case isFalse unreached =>
    have fresh : root ∉ search.visited := by simpa using unreached
    refine ⟨?_, run_done (remaining_root idle fresh), ?_⟩
    · apply run_keeps (P := fun next => ∃ finished, Invariant graph finished next)
      · exact fun _ ⟨_, invariant⟩ => invariant.step
      · exact ⟨finished, invariant.enter_root idle fresh listed⟩
    · apply run_keeps (P := fun next => root :: seen ⊆ next.visited)
      · exact fun next kept => List.Subset.trans kept (visited_step _ next)
      · exact List.cons_subset_cons root inside

/-- What every step keeps, and entering the root as well, a visit keeps. -/
theorem Rested.visit_keeps {P : Search → Prop} {seen : List String} {root : String}
    (rested : Rested graph seen search) (listed : root ∈ graph.nodes)
    (steps : ∀ finished next, Invariant graph finished next → P next → P (next.step graph.adjacency))
    (enters : root ∉ search.visited → P (search.enter graph.adjacency root)) (start : P search) :
    P (search.visit graph graph.adjacency root) := by
  obtain ⟨⟨finished, invariant⟩, idle, _⟩ := rested
  unfold Search.visit
  split
  case isTrue => exact start
  case isFalse unreached =>
    have fresh : root ∉ search.visited := by simpa using unreached
    have both : (∃ finished, Invariant graph finished
          (run graph.adjacency (bound graph) (search.enter graph.adjacency root))) ∧
        P (run graph.adjacency (bound graph) (search.enter graph.adjacency root)) := by
      apply run_keeps (P := fun next => (∃ finished, Invariant graph finished next) ∧ P next)
      · exact fun next ⟨⟨finished, invariant⟩, kept⟩ =>
          ⟨invariant.step, steps finished next invariant kept⟩
      · exact ⟨⟨finished, invariant.enter_root idle fresh listed⟩, enters fresh⟩
    exact both.2

theorem Rested.visits {seen roots : List String} (rested : Rested graph seen search)
    (listed : roots ⊆ graph.nodes) :
    Rested graph (roots.reverse ++ seen) (roots.foldl (Search.visit graph graph.adjacency) search) := by
  induction roots generalizing search seen with
  | nil => exact rested
  | cons root roots ih =>
    obtain ⟨here, later⟩ := List.cons_subset.mp listed
    simpa using ih (rested.visit here) later

theorem rested_initial (graph : Graph) : Rested graph [] {} :=
  ⟨⟨[], .initial graph⟩, rfl, List.nil_subset _⟩

theorem rested_all (graph : Graph) : Rested graph graph.nodes.reverse (all graph) := by
  simpa [all] using (rested_initial graph).visits (List.Subset.refl graph.nodes)

end Search

end Linkage
