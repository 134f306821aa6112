import Linkage.Proofs.Graph.Iterations
/-!
All that the search for cycles does, written down deed by deed: entering a node, looking at a place on
its list of targets, leaving it. A node that is entered brings duties, and `Does.balanced` keeps the
books: what is done and what the open frames still owe are together the duties of the visited nodes.
At the end no frame is open, so every duty of every node in reach is done once and nothing else is:
`search_covers`.
-/

namespace Linkage

/-- One thing that the search does. `place` is where the target stands on the list of the source. -/
inductive Deed where
  | enter (node : String)
  | look (source : String) (place : Nat) (target : String)
  | leave (node : String)
  deriving DecidableEq, Repr

def Deed.node : Deed → String
  | .enter node => node
  | .look source _ _ => source
  | .leave node => node

def Frame.place (rows : List (String × List String)) (frame : Frame) : Nat :=
  (Graph.targets rows frame.node).length - frame.pending.length

namespace Search

/-! ### The journal -/

/-- What the next step does. A target that is new is entered in the same step. -/
def deeds (rows : List (String × List String)) (search : Search) : List Deed :=
  match search.frames with
  | [] => []
  | ⟨node, []⟩ :: _ => [.leave node]
  | ⟨node, target :: pending⟩ :: _ =>
    .look node (Frame.place rows ⟨node, target :: pending⟩) target ::
      if search.visited.contains target then [] else [.enter target]

def runDeeds (rows : List (String × List String)) : Nat → Search → List Deed
  | 0, _ => []
  | bound + 1, search =>
    if search.frames.isEmpty then []
    else search.deeds rows ++ runDeeds rows bound (search.step rows)

def visitDeeds (graph : Graph) (rows : List (String × List String)) (search : Search)
    (root : String) : List Deed :=
  if search.visited.contains root then []
  else .enter root :: runDeeds rows (bound graph) (search.enter rows root)

def visitsDeeds (graph : Graph) (rows : List (String × List String)) :
    List String → Search → List Deed
  | [], _ => []
  | root :: roots, search =>
    search.visitDeeds graph rows root ++ visitsDeeds graph rows roots (search.visit graph rows root)

def journal (graph : Graph) : List Deed := visitsDeeds graph graph.adjacency graph.nodes {}

/-- By the deed the search gets from the first state to the second. -/
inductive Does (rows : List (String × List String)) : Search → Deed → Search → Prop
  | enter {search : Search} {node : String} (fresh : node ∉ search.visited) :
    Does rows search (.enter node) (search.enter rows node)
  | pass {search : Search} {node target : String} {pending : List String} {outer : List Frame}
    (here : search.frames = ⟨node, target :: pending⟩ :: outer)
    (off : target ∈ search.visited → target ∉ search.active) :
    Does rows search (.look node (Frame.place rows ⟨node, target :: pending⟩) target)
      (search.advance node pending outer)
  | close {search : Search} {node target : String} {pending : List String} {outer : List Frame}
    (here : search.frames = ⟨node, target :: pending⟩ :: outer)
    (seen : target ∈ search.visited) (back : target ∈ search.active) :
    Does rows search (.look node (Frame.place rows ⟨node, target :: pending⟩) target)
      ((search.advance node pending outer).close target)
  | leave {search : Search} {node : String} {outer : List Frame}
    (here : search.frames = ⟨node, []⟩ :: outer) :
    Does rows search (.leave node) (search.leave node outer)

/-- By the deeds in order the search gets from the first state to the second. -/
inductive Performs (rows : List (String × List String)) : Search → List Deed → Search → Prop
  | none (search : Search) : Performs rows search [] search
  | next {search mid last : Search} {done : List Deed} {deed : Deed}
    (before : Performs rows search done mid) (does : Does rows mid deed last) :
    Performs rows search (done ++ [deed]) last

variable {graph : Graph} {rows : List (String × List String)} {search next last : Search}
  {done more : List Deed} {deed : Deed} {node target : String} {pending : List String}
  {outer : List Frame}

theorem Does.performs (does : Does rows search deed next) : Performs rows search [deed] next :=
  .next (.none search) does

theorem Performs.trans (first : Performs rows search done next)
    (second : Performs rows next more last) : Performs rows search (done ++ more) last := by
  induction second with
  | none => simpa using first
  | next _ does ih =>
    rw [← List.append_assoc]
    exact ih.next does

theorem deeds_look (here : search.frames = ⟨node, target :: pending⟩ :: outer) :
    search.deeds rows = .look node (Frame.place rows ⟨node, target :: pending⟩) target ::
      if target ∈ search.visited then [] else [.enter target] := by
  simp [deeds, here]

theorem performs_step (rows : List (String × List String)) (search : Search) :
    Performs rows search (search.deeds rows) (search.step rows) := by
  apply step_cases (P := Performs rows search (search.deeds rows))
  case idle =>
    intro idle
    simp only [deeds, idle]
    exact .none search
  case leave =>
    intro node outer here
    simp only [deeds, here]
    exact (Does.leave here).performs
  case enter =>
    intro node target pending outer here fresh
    have looks : Does rows search _ _ := .pass here (fun seen => absurd seen fresh)
    have enters : Does rows (search.advance node pending outer) _ _ := .enter fresh
    rw [deeds_look here, if_neg fresh]
    exact looks.performs.trans enters.performs
  case close =>
    intro node target pending outer here seen back
    rw [deeds_look here, if_pos seen]
    exact (Does.close here seen back).performs
  case skip =>
    intro node target pending outer here seen off
    rw [deeds_look here, if_pos seen]
    exact (Does.pass here (fun _ => off)).performs

theorem performs_run (rows : List (String × List String)) (bound : Nat) (search : Search) :
    Performs rows search (runDeeds rows bound search) (run rows bound search) := by
  induction bound generalizing search with
  | zero => exact .none search
  | succ bound ih =>
    unfold runDeeds run
    split
    · exact .none search
    · exact (performs_step rows search).trans (ih _)

theorem performs_visit (graph : Graph) (rows : List (String × List String)) (search : Search)
    (root : String) :
    Performs rows search (search.visitDeeds graph rows root) (search.visit graph rows root) := by
  unfold visitDeeds visit
  split
  case isTrue => exact .none search
  case isFalse unreached =>
    have enters : Does rows search _ _ := .enter (by simpa using unreached)
    exact enters.performs.trans (performs_run rows (bound graph) _)

theorem performs_visits (graph : Graph) (rows : List (String × List String)) (roots : List String)
    (search : Search) :
    Performs rows search (visitsDeeds graph rows roots search)
      (roots.foldl (visit graph rows) search) := by
  induction roots generalizing search with
  | nil => exact .none search
  | cons root roots ih => exact (performs_visit graph rows search root).trans (ih _)

theorem performs_journal (graph : Graph) :
    Performs graph.adjacency {} (journal graph) (all graph) :=
  performs_visits graph graph.adjacency graph.nodes {}

example : journal Graph.hiddenLoop =
    [.enter "a", .look "a" 0 "b", .enter "b", .look "b" 0 "c", .enter "c", .look "c" 0 "b",
      .look "c" 1 "b", .leave "c", .leave "b", .leave "a"] := by decide

/-! ### Duties -/

def looks (node : String) (place : Nat) (targets : List String) : List Deed :=
  (targets.zipIdx place).map (fun entry => .look node entry.2 entry.1)

def owed (rows : List (String × List String)) (frame : Frame) : List Deed :=
  looks frame.node (frame.place rows) frame.pending ++ [.leave frame.node]

/-- What there is to do about a node. -/
def duties (rows : List (String × List String)) (node : String) : List Deed :=
  .enter node :: owed rows ⟨node, Graph.targets rows node⟩

theorem nodup_looks (node : String) (place : Nat) (targets : List String) :
    (looks node place targets).Nodup := by
  have places : (targets.zipIdx place).Nodup := by
    apply List.Nodup.of_map Prod.snd
    rw [List.zipIdx_map_snd]
    exact List.nodup_range'
  apply places.map
  rintro ⟨target, here⟩ ⟨other, there⟩ same
  simp only [Deed.look.injEq, true_and] at same
  rw [same.1, same.2]

theorem mem_looks {targets : List String} :
    deed ∈ looks node 0 targets ↔
      ∃ place target, targets[place]? = some target ∧ deed = .look node place target := by
  simp only [looks, List.mem_map, Prod.exists, List.mk_mem_zipIdx_iff_getElem?]
  constructor
  · rintro ⟨target, place, stands, rfl⟩
    exact ⟨place, target, stands, rfl⟩
  · rintro ⟨place, target, stands, rfl⟩
    exact ⟨target, place, stands, rfl⟩

theorem duties_eq (rows : List (String × List String)) (node : String) :
    duties rows node = .enter node :: (looks node 0 (Graph.targets rows node) ++ [.leave node]) := by
  simp [duties, owed, Frame.place]

theorem mem_duties :
    deed ∈ duties rows node ↔ deed = .enter node ∨ deed = .leave node ∨
      ∃ place target, (Graph.targets rows node)[place]? = some target ∧
        deed = .look node place target := by
  rw [duties_eq, List.mem_cons, List.mem_append, List.mem_singleton, mem_looks]
  exact or_congr_right or_comm

theorem node_of_duty (duty : deed ∈ duties rows node) : deed.node = node := by
  rcases mem_duties.mp duty with rfl | rfl | ⟨place, target, _, rfl⟩ <;> rfl

theorem nodup_duties (rows : List (String × List String)) (node : String) :
    (duties rows node).Nodup := by
  rw [duties_eq, List.nodup_cons, List.nodup_append]
  refine ⟨by simp [mem_looks], nodup_looks _ _ _, List.nodup_singleton _, ?_⟩
  intro deed look leave last
  obtain ⟨place, target, _, rfl⟩ := mem_looks.mp look
  simp [List.mem_singleton.mp last]

/-- Different nodes have no duty in common. -/
theorem nodup_all_duties {nodes : List String} (distinct : nodes.Nodup) :
    (nodes.flatMap (duties rows)).Nodup := by
  rw [List.nodup_flatMap]
  refine ⟨fun node _ => nodup_duties rows node, distinct.imp ?_⟩
  intro node other apart deed duty shared
  exact apart ((node_of_duty duty).symm.trans (node_of_duty shared))

/-! ### The books -/

/-- No frame has more targets pending than its node has, and what is done and what is owed are
together the duties of the visited nodes. -/
structure Balanced (rows : List (String × List String)) (done : List Deed) (search : Search) :
    Prop where
  within : ∀ frame ∈ search.frames, frame.pending.length ≤ (Graph.targets rows frame.node).length
  settled : (done ++ search.frames.flatMap (owed rows)).Perm (search.visited.flatMap (duties rows))

theorem owed_cons (within : (target :: pending).length ≤ (Graph.targets rows node).length) :
    owed rows ⟨node, target :: pending⟩ =
      .look node (Frame.place rows ⟨node, target :: pending⟩) target :: owed rows ⟨node, pending⟩ := by
  -- Without the bound the difference of lengths would be cut off at zero.
  have place : Frame.place rows ⟨node, pending⟩ = Frame.place rows ⟨node, target :: pending⟩ + 1 := by
    simp only [Frame.place, List.length_cons] at within ⊢
    omega
  simp [owed, looks, place]

theorem Balanced.enter (balanced : Balanced rows done search) :
    Balanced rows (done ++ [.enter node]) (search.enter rows node) := by
  constructor
  · simpa [Search.enter] using balanced.within
  · have opened : done ++ [.enter node] ++ (search.enter rows node).frames.flatMap (owed rows) =
        done ++ (duties rows node ++ search.frames.flatMap (owed rows)) := by
      simp [Search.enter, duties]
    rw [opened]
    -- The node's duties come first among those of the visited nodes, but after what was done before.
    exact (List.perm_append_comm_assoc ..).trans (balanced.settled.append_left _)

theorem Balanced.advance (balanced : Balanced rows done search)
    (here : search.frames = ⟨node, target :: pending⟩ :: outer) :
    Balanced rows (done ++ [.look node (Frame.place rows ⟨node, target :: pending⟩) target])
      (search.advance node pending outer) := by
  obtain ⟨within, settled⟩ := balanced
  rw [here, List.forall_mem_cons] at within
  rw [here, List.flatMap_cons, owed_cons within.1] at settled
  constructor
  · rw [Search.advance, List.forall_mem_cons]
    exact ⟨(Nat.le_succ _).trans within.1, within.2⟩
  · simpa [Search.advance] using settled

theorem Balanced.leave (balanced : Balanced rows done search)
    (here : search.frames = ⟨node, []⟩ :: outer) :
    Balanced rows (done ++ [.leave node]) (search.leave node outer) := by
  obtain ⟨within, settled⟩ := balanced
  rw [here] at within settled
  constructor
  · exact (List.forall_mem_cons.mp within).2
  · simpa [Search.leave, owed, looks] using settled

/-- Every deed keeps the books balanced. -/
theorem Does.balanced (does : Does rows search deed next) (balanced : Balanced rows done search) :
    Balanced rows (done ++ [deed]) next := by
  cases does with
  | enter => exact balanced.enter
  | pass here => exact balanced.advance here
  | close here =>
    -- Recording a cycle touches neither the frames nor the visited nodes.
    obtain ⟨within, settled⟩ := balanced.advance here
    exact ⟨within, settled⟩
  | leave here => exact balanced.leave here

theorem Performs.balanced (performs : Performs rows {} done search) : Balanced rows done search := by
  induction performs with
  | none => exact ⟨by simp, by simp⟩
  | next _ does ih => exact does.balanced ih

/-! ### The whole search -/

theorem moves_wellFounded (graph : Graph) :
    WellFounded (fun next search => Moves graph.adjacency search next) :=
  Subrelation.wf (fun moves => moves.remaining_lt) (measure (remaining graph)).wf

theorem mem_visited_all : node ∈ (all graph).visited ↔ graph.Reachable node := by
  obtain ⟨finished, invariant, reached⟩ := all_finished graph
  rw [invariant.visited_iff_finished (rested_all graph).2.1, reached]

theorem journal_perm (graph : Graph) :
    (journal graph).Perm ((all graph).visited.flatMap (duties graph.adjacency)) := by
  have settled := (performs_journal graph).balanced.settled
  -- No frame is open in the end, so nothing is owed.
  rw [(rested_all graph).2.1] at settled
  simpa using settled

theorem nodup_journal (graph : Graph) : (journal graph).Nodup := by
  obtain ⟨⟨_, invariant⟩, _⟩ := rested_all graph
  exact (journal_perm graph).nodup_iff.mpr (nodup_all_duties invariant.marked.distinct)

theorem mem_journal :
    deed ∈ journal graph ↔
      graph.Reachable deed.node ∧ deed ∈ duties graph.adjacency deed.node := by
  rw [(journal_perm graph).mem_iff, List.mem_flatMap]
  constructor
  · rintro ⟨node, visited, duty⟩
    rw [node_of_duty duty]
    exact ⟨mem_visited_all.mp visited, duty⟩
  · rintro ⟨reachable, duty⟩
    exact ⟨deed.node, mem_visited_all.mpr reachable, duty⟩

end Search

open Search in
/-- From no state can the search take steps for ever, and the visit of any root ends because no frame
is left. The journal of the whole search holds no deed twice. A node is entered, and left again, if
and only if some listed node leads to it; of such a node every place on the list of targets is looked
at, and nothing else is. -/
theorem search_covers (graph : Graph) :
    WellFounded (fun next search => Moves graph.adjacency search next) ∧
    (∀ (search : Search) (root : String), search.frames = [] → root ∉ search.visited →
      Relation.ReflTransGen (Moves graph.adjacency) (search.enter graph.adjacency root)
        (search.visit graph graph.adjacency root) ∧
      (search.visit graph graph.adjacency root).frames = []) ∧
    Performs graph.adjacency {} (journal graph) (all graph) ∧
    (journal graph).Nodup ∧
    (∀ node, Deed.enter node ∈ journal graph ↔ graph.Reachable node) ∧
    (∀ node, Deed.leave node ∈ journal graph ↔ graph.Reachable node) ∧
    ∀ node place target, Deed.look node place target ∈ journal graph ↔
      graph.Reachable node ∧ (Graph.targets graph.adjacency node)[place]? = some target := by
  refine ⟨moves_wellFounded graph, ?_, performs_journal graph, nodup_journal graph, ?_, ?_, ?_⟩
  · exact fun search root idle fresh => ⟨leads_visit fresh, visit_done idle fresh⟩
  · intro node
    simp [mem_journal, mem_duties, Deed.node]
  · intro node
    simp [mem_journal, mem_duties, Deed.node]
  · intro node place target
    simp [mem_journal, mem_duties, Deed.node]

/-- A node that is listed twice, points to itself and points twice to a node that is not listed, and
an edge out of reach. -/
def Graph.knotted : Graph where
  nodes := ["a", "b", "a"]
  edges := [⟨"a", "a"⟩, ⟨"a", "c"⟩, ⟨"x", "y"⟩, ⟨"a", "c"⟩, ⟨"c", "b"⟩, ⟨"b", "a"⟩]

open Search in
theorem search_covers_knotted :
    (({} : Search).frames = [] ∧ "x" ∉ ({} : Search).visited ∧
      (({} : Search).visit Graph.knotted Graph.knotted.adjacency "x").frames = []) ∧
    (Graph.knotted.Reachable "c" ∧ (journal Graph.knotted).count (.enter "c") = 1) ∧
    ((Graph.targets Graph.knotted.adjacency "a")[1]? = some "c" ∧
      (journal Graph.knotted).count (.look "a" 1 "c") = 1) ∧
    ((Graph.targets Graph.knotted.adjacency "a")[2]? = some "c" ∧
      (journal Graph.knotted).count (.look "a" 2 "c") = 1) ∧
    ¬Graph.knotted.Reachable "x" ∧ Deed.enter "x" ∉ journal Graph.knotted := by
  obtain ⟨_, visits, _, once, enters, _, looks⟩ := search_covers Graph.knotted
  have root : Graph.knotted.Reachable "a" := Graph.reachable_of_listed (by decide)
  have inner : Graph.knotted.Reachable "c" := root.step (by decide)
  have first : (Graph.targets Graph.knotted.adjacency "a")[1]? = some "c" := by decide
  have second : (Graph.targets Graph.knotted.adjacency "a")[2]? = some "c" := by decide
  have outside : Deed.enter "x" ∉ journal Graph.knotted := by decide
  exact ⟨⟨rfl, by decide, (visits {} "x" rfl (by decide)).2⟩,
    ⟨inner, List.count_eq_one_of_mem once ((enters "c").mpr inner)⟩,
    ⟨first, List.count_eq_one_of_mem once ((looks "a" 1 "c").mpr ⟨root, first⟩)⟩,
    ⟨second, List.count_eq_one_of_mem once ((looks "a" 2 "c").mpr ⟨root, second⟩)⟩,
    fun reachable => outside ((enters "x").mpr reachable), outside⟩

end Linkage
