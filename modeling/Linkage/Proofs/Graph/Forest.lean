import Linkage.Proofs.Graph.Reports
import Mathlib.Data.List.Rotate
/-!
The routes by which the search for cycles enters nodes. Each node is entered once, along the path
that the search is on, so the routes form a forest: a node on a route was entered along the beginning
of it. A target of a node closes a cycle when it is on the node's route, each time it is looked at,
and the cycle is the part of the route from the target on. So a cycle is reported as often as the
edge that closes it occurs, and its set of nodes determines it: `cycles_reported_once`.
-/

namespace Linkage

namespace Search

variable {graph : Graph} {search : Search} {finished : List String} {route : String → List String}
  {cycles : List (List String)} {node target source : String} {pending looked : List String}
  {outer : List Frame}

def closedBy (cycles : List (List String)) (source target : String) : List (List String) :=
  cycles.filter (fun cycle => [source, target].isSuffixOf cycle)

/-- Of the targets of `source` looked at so far, those on its route have closed a cycle each, and
nothing else has. -/
def Tallied (route : String → List String) (cycles : List (List String)) (source : String)
    (looked : List String) : Prop :=
  ∀ target, closedBy cycles source target =
    if target ∈ route source then
      List.replicate (looked.count target) (closing (route source) target)
    else []

/-- The frames stand on the routes of their nodes, and what they have looked at is tallied. -/
def Standing (graph : Graph) (route : String → List String) (cycles : List (List String)) :
    List Frame → Prop
  | [] => True
  | frame :: outer =>
    route frame.node = ((frame :: outer).map Frame.node).reverse ∧
    (∃ looked, graph.targetsOf frame.node = looked ++ frame.pending ∧
      Tallied route cycles frame.node looked) ∧
    Standing graph route cycles outer

/-- The routes of visited nodes: no node is on a route twice, and what is on a route was entered along
the beginning of it. -/
structure Branching (route : String → List String) (visited : List String) : Prop where
  ends : ∀ node ∈ visited, [node] <:+ route node
  begins : ∀ node ∈ visited, ∀ above ∈ route node, above ∈ visited ∧ route above <+: route node
  distinct : ∀ node ∈ visited, (route node).Nodup

structure Forest (graph : Graph) (route : String → List String) (search : Search) : Prop where
  branching : Branching route search.visited
  standing : Standing graph route search.cycles search.frames
  done : ∀ node ∈ search.visited, node ∉ search.active →
    Tallied route search.cycles node (graph.targetsOf node)
  fresh : ∀ node, node ∉ search.visited → ∀ target, closedBy search.cycles node target = []

/-! ### Tallies -/

theorem mem_closedBy {cycle : List String} :
    cycle ∈ closedBy cycles source target ↔ cycle ∈ cycles ∧ [source, target] <:+ cycle := by
  rw [closedBy, List.mem_filter, List.isSuffixOf_iff_suffix]

theorem Tallied.congr {routes : String → List String} {more : List (List String)}
    (tallied : Tallied route cycles source looked) (same : routes source = route source)
    (kept : ∀ target, closedBy more source target = closedBy cycles source target) :
    Tallied routes more source looked := by
  intro target
  rw [kept, same, tallied target]

theorem tallied_nil (none : ∀ target, closedBy cycles source target = []) :
    Tallied route cycles source [] := by
  intro target
  rw [none target]
  simp

/-- A target that is not on the route closes nothing. -/
theorem Tallied.skip (tallied : Tallied route cycles source looked) (off : target ∉ route source) :
    Tallied route cycles source (looked ++ [target]) := by
  intro other
  rw [tallied other]
  by_cases same : other = target
  · subst same
    rw [if_neg off, if_neg off]
  · have unchanged : (looked ++ [target]).count other = looked.count other := by
      rw [List.count_append, List.count_cons_of_ne (Ne.symm same), List.count_nil, Nat.add_zero]
    rw [unchanged]

theorem Standing.congr {routes : String → List String} {more : List (List String)}
    {frames : List Frame} (standing : Standing graph route cycles frames)
    (same : ∀ node ∈ frames.map Frame.node, routes node = route node)
    (kept : ∀ node ∈ frames.map Frame.node, ∀ target,
      closedBy more node target = closedBy cycles node target) :
    Standing graph routes more frames := by
  induction frames with
  | nil => trivial
  | cons frame outer ih =>
    obtain ⟨along, ⟨looked, split, tallied⟩, rest⟩ := standing
    rw [List.map_cons, List.forall_mem_cons] at same kept
    exact ⟨same.1.trans along, ⟨looked, split, tallied.congr same.1 kept.1⟩,
      ih rest same.2 kept.2⟩

/-- The route of an active node is the beginning of the path. -/
theorem Standing.begins {frames : List Frame} (standing : Standing graph route cycles frames)
    (member : node ∈ frames.map Frame.node) : route node <+: (frames.map Frame.node).reverse := by
  induction frames with
  | nil => cases member
  | cons frame outer ih =>
    rw [List.map_cons, List.reverse_cons]
    rcases List.mem_cons.mp member with rfl | inside
    · rw [standing.1, List.map_cons, List.reverse_cons]
    · exact (ih standing.2.2 inside).trans (List.prefix_append ..)

/-- The target is looked at next, and closes no cycle. -/
theorem Standing.skip (standing : Standing graph route cycles (⟨node, target :: pending⟩ :: outer))
    (off : target ∉ route node) : Standing graph route cycles (⟨node, pending⟩ :: outer) := by
  obtain ⟨along, ⟨looked, split, tallied⟩, rest⟩ := standing
  exact ⟨along, ⟨looked ++ [target], by simpa using split, tallied.skip off⟩, rest⟩

theorem suffix_pair_iff {other last : String} {cycle : List String} (ends : [node, target] <:+ cycle) :
    [other, last] <:+ cycle ↔ other = node ∧ last = target := by
  constructor
  · intro also
    have same := (List.suffix_of_suffix_length_le also ends (by simp)).eq_of_length (by simp)
    simpa using same
  · rintro ⟨rfl, rfl⟩
    exact ends

theorem closedBy_append {other last : String} {cycle : List String}
    (ends : [node, target] <:+ cycle) :
    closedBy (cycles ++ [cycle]) other last =
      closedBy cycles other last ++ if other = node ∧ last = target then [cycle] else [] := by
  have closes : [other, last].isSuffixOf cycle = decide (other = node ∧ last = target) := by
    rw [Bool.eq_iff_iff, List.isSuffixOf_iff_suffix, suffix_pair_iff ends, decide_eq_true_eq]
  rw [closedBy, List.filter_append, List.filter_singleton, closes, Bool.cond_decide]
  rfl

/-- A target that is on the route closes a cycle. -/
theorem Tallied.close (tallied : Tallied route cycles node looked) (on : target ∈ route node)
    (ends : [node, target] <:+ closing (route node) target) :
    Tallied route (cycles ++ [closing (route node) target]) node (looked ++ [target]) := by
  intro other
  rw [closedBy_append ends, tallied other, List.count_append, List.count_singleton]
  by_cases same : other = target
  · subst same
    simp [on, List.replicate_succ']
  · simp [same, Ne.symm same]

/-! ### Moves -/

theorem Forest.standing_at (forest : Forest graph route search) {frames : List Frame}
    (here : search.frames = frames) : Standing graph route search.cycles frames :=
  here ▸ forest.standing

/-- On the innermost node's route are the active nodes. -/
theorem Forest.route_eq (forest : Forest graph route search) (stacked : Stacked graph search)
    {frame : Frame} (here : search.frames = frame :: outer) : route frame.node = search.path := by
  rw [(forest.standing_at here).1, stacked.path, stacked.active, here]

theorem Forest.initial (graph : Graph) : Forest graph (fun _ => []) {} := by
  refine ⟨⟨?_, ?_, ?_⟩, trivial, ?_, ?_⟩ <;> simp [closedBy]

theorem Forest.leave (forest : Forest graph route search) (invariant : Invariant graph finished search)
    (here : search.frames = ⟨node, []⟩ :: outer) : Forest graph route (search.leave node outer) := by
  obtain ⟨along, ⟨looked, split, tallied⟩, rest⟩ := forest.standing_at here
  refine ⟨forest.branching, rest, ?_, forest.fresh⟩
  intro other visited off
  have left : (search.leave node outer).active = outer.map Frame.node :=
    (invariant.leave here).stacked.active
  rw [left] at off
  by_cases same : other = node
  · subst same
    rw [split, List.append_nil]
    exact tallied
  · apply forest.done other visited
    rw [invariant.stacked.active_eq here]
    simpa [same] using off

def extend (route : String → List String) (search : Search) (node : String) : String → List String :=
  Function.update route node (search.path ++ [node])

theorem extend_self : extend route search node node = search.path ++ [node] :=
  Function.update_self ..

theorem extend_visited (fresh : node ∉ search.visited) {other : String}
    (visited : other ∈ search.visited) : extend route search node other = route other := by
  have apart : other ≠ node := fun same => fresh (same ▸ visited)
  exact Function.update_of_ne apart ..

theorem Branching.enter (branching : Branching route search.visited)
    (stacked : Stacked graph search) (marked : Marked graph finished search)
    (begins : ∀ above ∈ search.active, route above <+: search.path) (fresh : node ∉ search.visited) :
    Branching (extend route search node) (node :: search.visited) := by
  have seen : ∀ above ∈ search.path, above ∈ search.visited := fun above member =>
    marked.mem_visited.mpr (Or.inr (stacked.mem_path.mp member))
  refine ⟨?_, ?_, ?_⟩
  all_goals
    rw [List.forall_mem_cons, extend_self]
  · refine ⟨List.suffix_append .., ?_⟩
    intro other visited
    rw [extend_visited fresh visited]
    exact branching.ends other visited
  · constructor
    · intro above member
      rcases List.mem_append.mp member with active | last
      · rw [extend_visited fresh (seen above active)]
        exact ⟨List.mem_cons_of_mem _ (seen above active),
          (begins above (stacked.mem_path.mp active)).trans (List.prefix_append ..)⟩
      · rw [List.mem_singleton.mp last, extend_self]
        exact ⟨List.mem_cons_self, List.prefix_refl _⟩
    · intro other visited above member
      rw [extend_visited fresh visited] at member ⊢
      obtain ⟨inside, begins⟩ := branching.begins other visited above member
      rw [extend_visited fresh inside]
      exact ⟨List.mem_cons_of_mem _ inside, begins⟩
  · constructor
    · apply List.Nodup.append _ (List.nodup_singleton node)
      · rw [List.disjoint_singleton]
        exact fun member => fresh (seen node member)
      · rw [stacked.path]
        exact List.nodup_reverse.mpr marked.active_distinct
    · intro other visited
      rw [extend_visited fresh visited]
      exact branching.distinct other visited

/-- Entering a node, from the innermost one or as a root, adds its route. -/
theorem Forest.enter (forest : Forest graph route search) (stacked : Stacked graph search)
    (marked : Marked graph finished search) (fresh : node ∉ search.visited) :
    Forest graph (extend route search node) (search.enter graph.adjacency node) := by
  have begins : ∀ above ∈ search.active, route above <+: search.path := by
    intro above active
    rw [stacked.active] at active
    rw [stacked.path, stacked.active]
    exact forest.standing.begins active
  have seen : ∀ above ∈ search.frames.map Frame.node, above ∈ search.visited := by
    intro above inside
    rw [← stacked.active] at inside
    exact marked.mem_visited.mpr (Or.inr inside)
  refine ⟨forest.branching.enter stacked marked begins fresh, ⟨?_, ?_, ?_⟩, ?_, ?_⟩
  · rw [extend_self, stacked.path, stacked.active]
    simp
  · exact ⟨[], by simp [Graph.targets_adjacency], tallied_nil (forest.fresh node fresh)⟩
  · exact forest.standing.congr (fun above inside => extend_visited fresh (seen above inside))
      (fun _ _ _ => rfl)
  · intro other visited off
    obtain ⟨apart, off⟩ := List.ne_and_not_mem_of_not_mem_cons off
    have before := (List.mem_cons.mp visited).resolve_left apart
    exact (forest.done other before off).congr (extend_visited fresh before) (fun _ => rfl)
  · intro other outside
    exact forest.fresh other (fun visited => outside (List.mem_cons_of_mem _ visited))

/-- A target off the route of the innermost node is looked at and closes nothing. -/
theorem Forest.advance (forest : Forest graph route search)
    (here : search.frames = ⟨node, target :: pending⟩ :: outer) (off : target ∉ route node) :
    Forest graph route (search.advance node pending outer) :=
  ⟨forest.branching, (forest.standing_at here).skip off, forest.done, forest.fresh⟩

theorem Forest.close (forest : Forest graph route search) (invariant : Invariant graph finished search)
    (here : search.frames = ⟨node, target :: pending⟩ :: outer) (back : target ∈ search.active) :
    Forest graph route ((search.advance node pending outer).close target) := by
  have stacked := invariant.stacked
  have path : route node = search.path := forest.route_eq stacked here
  have on : target ∈ route node := by
    rw [path]
    exact stacked.mem_path.mpr back
  have ends : [node, target] <:+ closing (route node) target := by
    apply closing_ends on
    rw [path]
    exact stacked.path_ends here
  have active := stacked.active_eq here
  have distinct := invariant.marked.active_distinct
  rw [active, List.nodup_cons] at distinct
  have elsewhere : ∀ other, other ≠ node → ∀ last,
      closedBy (search.cycles ++ [closing (route node) target]) other last =
        closedBy search.cycles other last := by
    intro other apart last
    rw [closedBy_append ends, if_neg (fun same => apart same.1), List.append_nil]
  have cycles : ((search.advance node pending outer).close target).cycles =
      search.cycles ++ [closing (route node) target] := by
    rw [path]
    rfl
  have visited : node ∈ search.visited := by
    apply invariant.marked.mem_visited.mpr
    rw [active]
    exact Or.inr List.mem_cons_self
  obtain ⟨along, ⟨looked, split, tallied⟩, rest⟩ := forest.standing_at here
  refine ⟨forest.branching, ?_, ?_, ?_⟩
  · rw [cycles]
    refine ⟨along, ⟨looked ++ [target], by simpa using split, tallied.close on ends⟩, ?_⟩
    apply rest.congr (fun _ _ => rfl)
    intro other inside
    exact elsewhere other (fun same => distinct.1 (same ▸ inside))
  · rw [cycles]
    intro other seen off
    refine (forest.done other seen off).congr rfl (elsewhere other ?_)
    rintro rfl
    exact off (active ▸ List.mem_cons_self)
  · rw [cycles]
    intro other outside last
    rw [elsewhere other (fun same => outside (same ▸ visited))]
    exact forest.fresh other outside last

/-- Every step keeps the forest; only entering a node adds to the routes. -/
theorem Forest.step (forest : Forest graph route search)
    (invariant : Invariant graph finished search) :
    ∃ route, Forest graph route (search.step graph.adjacency) := by
  apply step_cases (P := fun next => ∃ route, Forest graph route next)
  case idle => exact fun _ => ⟨route, forest⟩
  case leave => exact fun node outer here => ⟨route, forest.leave invariant here⟩
  case enter =>
    intro node target pending outer here fresh
    have off : target ∉ route node := by
      rw [forest.route_eq invariant.stacked here, invariant.stacked.mem_path]
      exact fun active => fresh (invariant.marked.mem_visited.mpr (Or.inr active))
    exact ⟨_, (forest.advance here off).enter (invariant.stacked.advance here)
      invariant.marked.advance fresh⟩
  case close => exact fun _ _ _ _ here _ back => ⟨route, forest.close invariant here back⟩
  case skip =>
    intro node target pending outer here seen off
    refine ⟨route, forest.advance here ?_⟩
    rw [forest.route_eq invariant.stacked here, invariant.stacked.mem_path]
    exact off

theorem Rested.visits_forest {seen roots : List String} (rested : Rested graph seen search)
    (listed : roots ⊆ graph.nodes) (forest : ∃ route, Forest graph route search) :
    ∃ route, Forest graph route (roots.foldl (Search.visit graph graph.adjacency) search) := by
  induction roots generalizing search seen with
  | nil => exact forest
  | cons root roots ih =>
    obtain ⟨here, later⟩ := List.cons_subset.mp listed
    apply ih (rested.visit here) later
    apply rested.visit_keeps (P := fun next => ∃ route, Forest graph route next) here
    · exact fun _ _ invariant ⟨_, forest⟩ => forest.step invariant
    · intro fresh
      obtain ⟨⟨finished, invariant⟩, _, _⟩ := rested
      obtain ⟨route, forest⟩ := forest
      exact ⟨_, forest.enter invariant.stacked invariant.marked fresh⟩
    · exact forest

/-- An edge has closed nothing, or one cycle each time it occurs. -/
def Counted (graph : Graph) (route : String → List String) : Prop :=
  ∀ source target, closedBy graph.cycles source target = [] ∨
    source ∈ (all graph).visited ∧ target ∈ route source ∧
    closedBy graph.cycles source target =
      List.replicate ((graph.targetsOf source).count target) (closing (route source) target)

theorem all_forest (graph : Graph) :
    ∃ route, Branching route (all graph).visited ∧ Counted graph route := by
  obtain ⟨route, forest⟩ := (rested_initial graph).visits_forest (List.Subset.refl graph.nodes)
    ⟨_, .initial graph⟩
  obtain ⟨⟨finished, invariant⟩, idle, _⟩ := rested_all graph
  have none : (all graph).active = [] := invariant.stacked.active_nil idle
  refine ⟨route, forest.branching, ?_⟩
  intro source target
  by_cases visited : source ∈ (all graph).visited
  · have off : source ∉ (all graph).active := by
      rw [none]
      exact List.not_mem_nil
    have tallied := forest.done source visited off
    by_cases on : target ∈ route source
    · exact Or.inr ⟨visited, on, (tallied target).trans (if_pos on)⟩
    · exact Or.inl ((tallied target).trans (if_neg on))
  · exact Or.inl (forest.fresh source visited target)

/-! ### What a cycle's nodes tell -/

theorem eq_of_suffix_of_mem {first last : String} {more rest : List String}
    (distinct : (last :: rest).Nodup) (part : first :: more <:+ last :: rest)
    (inside : last ∈ first :: more) : first :: more = last :: rest := by
  rcases List.suffix_cons_iff.mp part with same | later
  · exact same
  · exact absurd (later.subset inside) (List.nodup_cons.mp distinct).1

/-- Of a path, each part from a node to the end has other nodes. -/
theorem closing_determined {path : List String} {other : String} (distinct : path.Nodup)
    (member : target ∈ path) (also : other ∈ path)
    (same : ∀ node, node ∈ closing path target ↔ node ∈ closing path other) :
    closing path target = closing path other := by
  obtain ⟨before, after, split, closed⟩ := closing_eq member
  obtain ⟨front, rest, parted, closes⟩ := closing_eq also
  have part : target :: after <:+ path := ⟨before, split.symm⟩
  have tail : other :: rest <:+ path := ⟨front, parted.symm⟩
  have target_inside : target ∈ other :: rest := by
    have inside := (same target).mp (by simp [closed])
    simpa [closes, or_comm] using inside
  have other_inside : other ∈ target :: after := by
    have inside := (same other).mpr (by simp [closes])
    simpa [closed, or_comm] using inside
  have equal : target :: after = other :: rest := by
    rcases List.suffix_or_suffix_of_suffix part tail with inner | inner
    · exact eq_of_suffix_of_mem (distinct.sublist tail.sublist) inner other_inside
    · exact (eq_of_suffix_of_mem (distinct.sublist part.sublist) inner target_inside).symm
  rw [closed, closes, equal, (List.cons.inj equal).1]

/-- Nodes on each other's routes have the same route. -/
theorem Branching.route_eq {visited : List String} (branching : Branching route visited)
    (node_visited : node ∈ visited) (source_visited : source ∈ visited) (on : node ∈ route source)
    (also : source ∈ route node) : route node = route source := by
  have begins := (branching.begins source source_visited node on).2
  have back := (branching.begins node node_visited source also).2
  exact begins.eq_of_length (le_antisymm begins.length_le back.length_le)

end Search

namespace Graph

variable {graph : Graph} {route : String → List String} {source target : String}
  {cycle other : List String}

theorem count_targetsOf (graph : Graph) (source target : String) :
    (graph.targetsOf source).count target = graph.edges.count ⟨source, target⟩ := by
  unfold targetsOf
  induction graph.edges with
  | nil => rfl
  | cons edge edges ih =>
    obtain ⟨from_node, to_node⟩ := edge
    by_cases same : from_node = source
    · by_cases reaches : to_node = target <;> simp [same, reaches, ih]
    · simp [same, ih]

theorem closing_of_reported (counted : Search.Counted graph route) (reported : cycle ∈ graph.cycles)
    (ends : [source, target] <:+ cycle) :
    source ∈ (Search.all graph).visited ∧ target ∈ route source ∧
      cycle = Search.closing (route source) target := by
  have member := Search.mem_closedBy.mpr ⟨reported, ends⟩
  rcases counted source target with none | ⟨visited, on, same⟩
  · rw [none] at member
    cases member
  · rw [same] at member
    exact ⟨visited, on, (List.mem_replicate.mp member).2⟩

theorem IsCycle.ends (isCycle : graph.IsCycle cycle) : ∃ source target, [source, target] <:+ cycle := by
  have long := isCycle.long
  rcases List.eq_nil_or_concat cycle with rfl | ⟨front, target, rfl⟩
  · simp at long
  · rcases List.eq_nil_or_concat front with rfl | ⟨before, source, rfl⟩
    · simp at long
    · exact ⟨source, target, before, by simp⟩

/-- The set of its nodes determines a reported cycle. -/
theorem eq_of_same_nodes (reported : cycle ∈ graph.cycles) (also : other ∈ graph.cycles)
    (same : ∀ node, node ∈ cycle ↔ node ∈ other) : cycle = other := by
  obtain ⟨route, branching, counted⟩ := Search.all_forest graph
  obtain ⟨source, target, ends⟩ := (isCycle_of_reported reported).1.ends
  obtain ⟨origin, last, closes⟩ := (isCycle_of_reported also).1.ends
  obtain ⟨visited, on, rfl⟩ := closing_of_reported counted reported ends
  obtain ⟨reached, along, rfl⟩ := closing_of_reported counted also closes
  have source_on : source ∈ route origin :=
    Search.closing_subset along ((same source).mp (ends.subset (by simp)))
  have origin_on : origin ∈ route source :=
    Search.closing_subset on ((same origin).mpr (closes.subset (by simp)))
  have route_eq := branching.route_eq visited reached source_on origin_on
  rw [route_eq] at on same ⊢
  exact Search.closing_determined (branching.distinct origin reached) on along same

theorem eq_of_same_end (reported : cycle ∈ graph.cycles) (also : other ∈ graph.cycles)
    (ends : [source, target] <:+ cycle) (closes : [source, target] <:+ other) : cycle = other := by
  obtain ⟨route, _, counted⟩ := Search.all_forest graph
  rw [(closing_of_reported counted reported ends).2.2, (closing_of_reported counted also closes).2.2]

theorem length_closedBy (graph : Graph) (source target : String) :
    (Search.closedBy graph.cycles source target).length = 0 ∨
      (Search.closedBy graph.cycles source target).length = graph.edges.count ⟨source, target⟩ := by
  obtain ⟨route, _, counted⟩ := Search.all_forest graph
  rcases counted source target with none | ⟨_, _, same⟩
  · exact Or.inl (by rw [none, List.length_nil])
  · exact Or.inr (by rw [same, List.length_replicate, count_targetsOf])

theorem nodup_cycles (single : graph.edges.Nodup) : graph.cycles.Nodup := by
  apply List.nodup_iff_count_le_one.mpr
  intro cycle
  by_cases reported : cycle ∈ graph.cycles
  · obtain ⟨source, target, ends⟩ := (isCycle_of_reported reported).1.ends
    have once : graph.edges.count ⟨source, target⟩ ≤ 1 := List.nodup_iff_count_le_one.mp single _
    have counted : graph.cycles.count cycle ≤
        (Search.closedBy graph.cycles source target).length := by
      rw [Search.closedBy, ← List.countP_eq_length_filter]
      apply List.countP_mono_left
      intro other _ same
      rw [List.isSuffixOf_iff_suffix, eq_of_beq same]
      exact ends
    rcases length_closedBy graph source target with none | all <;> omega
  · rw [List.count_eq_zero_of_not_mem reported]
    exact Nat.zero_le 1

theorem IsCycle.mem_dropLast_iff (isCycle : graph.IsCycle cycle) {node : String} :
    node ∈ cycle.dropLast ↔ node ∈ cycle := by
  obtain ⟨long, closed, _, _⟩ := isCycle
  match cycle, long with
  | start :: next :: steps, _ =>
    refine ⟨List.mem_of_mem_dropLast, fun member => ?_⟩
    rw [← List.dropLast_append_getLast (List.cons_ne_nil start (next :: steps)),
      List.mem_append] at member
    rcases member with inside | last
    · exact inside
    · rw [List.head?_cons, List.getLast?_eq_some_getLast (List.cons_ne_nil _ _)] at closed
      rw [List.mem_singleton.mp last, ← Option.some.inj closed]
      exact List.mem_cons_self

theorem eq_of_rotated (reported : cycle ∈ graph.cycles) (also : other ∈ graph.cycles)
    (rotated : cycle.dropLast.IsRotated other.dropLast) : cycle = other := by
  apply eq_of_same_nodes reported also
  intro node
  rw [← (isCycle_of_reported reported).1.mem_dropLast_iff,
    ← (isCycle_of_reported also).1.mem_dropLast_iff, rotated.mem_iff]

end Graph

/-- No cycle is reported more often than there are edges that close it. The lists that end with an
edge are all the same, and there is none or one for each occurrence of the edge; lists with the same
nodes are the same list. So in a graph without repeated edges no cycle is reported twice, nor a second
time from another start. -/
theorem cycles_reported_once (graph : Graph) :
    (∀ source target,
      (graph.cycles.countP (fun cycle => [source, target].isSuffixOf cycle) = 0 ∨
        graph.cycles.countP (fun cycle => [source, target].isSuffixOf cycle) =
          graph.edges.count ⟨source, target⟩) ∧
      ∀ cycle ∈ graph.cycles, ∀ other ∈ graph.cycles,
        [source, target] <:+ cycle → [source, target] <:+ other → cycle = other) ∧
    (∀ cycle ∈ graph.cycles, ∀ other ∈ graph.cycles,
      (∀ node, node ∈ cycle ↔ node ∈ other) → cycle = other) ∧
    (graph.edges.Nodup → graph.cycles.Pairwise fun cycle other =>
      cycle ≠ other ∧ ¬cycle.dropLast.IsRotated other.dropLast) := by
  refine ⟨fun source target => ⟨?_, ?_⟩, ?_, ?_⟩
  · rw [List.countP_eq_length_filter]
    exact Graph.length_closedBy graph source target
  · exact fun cycle reported other also => Graph.eq_of_same_end reported also
  · exact fun cycle reported other also => Graph.eq_of_same_nodes reported also
  · intro single
    apply (Graph.nodup_cycles single).imp_of_mem
    intro cycle other reported also apart
    exact ⟨apart, fun rotated => apart (Graph.eq_of_rotated reported also rotated)⟩

/-- Two loops that share an edge, and the hidden loop with its repeated edge. -/
theorem cycles_reported_once_loops :
    let loops : Graph :=
      { nodes := ["c", "a"], edges := [⟨"a", "b"⟩, ⟨"b", "a"⟩, ⟨"b", "c"⟩, ⟨"c", "a"⟩] }
    (loops.edges.Nodup ∧ loops.cycles = [["a", "b", "a"], ["c", "a", "b", "c"]] ∧
      loops.cycles.Pairwise fun cycle other =>
        cycle ≠ other ∧ ¬cycle.dropLast.IsRotated other.dropLast) ∧
    (Graph.hiddenLoop.cycles.countP (fun cycle => ["c", "b"].isSuffixOf cycle) = 0 ∨
      Graph.hiddenLoop.cycles.countP (fun cycle => ["c", "b"].isSuffixOf cycle) =
        Graph.hiddenLoop.edges.count ⟨"c", "b"⟩) ∧
    Graph.hiddenLoop.edges.count ⟨"c", "b"⟩ = 2 ∧
    (["b", "c", "b"] ∈ Graph.hiddenLoop.cycles ∧ ["c", "b"] <:+ ["b", "c", "b"] ∧
      ∀ other ∈ Graph.hiddenLoop.cycles, ["c", "b"] <:+ other → ["b", "c", "b"] = other) ∧
    ∀ other ∈ Graph.hiddenLoop.cycles,
      (∀ node, node ∈ ["b", "c", "b"] ↔ node ∈ other) → ["b", "c", "b"] = other := by
  intro loops
  have single : loops.edges.Nodup := by decide
  have reported : ["b", "c", "b"] ∈ Graph.hiddenLoop.cycles := by decide
  have ends : ["c", "b"] <:+ ["b", "c", "b"] := by decide
  obtain ⟨edges, nodes, _⟩ := cycles_reported_once Graph.hiddenLoop
  exact ⟨⟨single, by decide, (cycles_reported_once loops).2.2 single⟩, (edges "c" "b").1, by decide,
    ⟨reported, ends, fun other also => (edges "c" "b").2 _ reported other also ends⟩, nodes _ reported⟩

end Linkage
