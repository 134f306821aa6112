import Linkage.Graph.Cycles
import Linkage.Proofs.Graph.Walks
/-!
Single steps of the search for cycles, and how many of them there are. `step_cases` says once what a
step can do. `remaining` bounds the steps still to come; `run_done` shows that the bound a visit runs
with is never used up.
-/

namespace Linkage.Search

variable {graph : Graph} {rows : List (String × List String)} {search : Search}

def advance (node : String) (pending : List String) (outer : List Frame) (search : Search) : Search :=
  { search with frames := ⟨node, pending⟩ :: outer }

def close (target : String) (search : Search) : Search :=
  { search with cycles := search.cycles ++ [closing search.path target] }

theorem step_cases {P : Search → Prop} (rows : List (String × List String)) (search : Search)
    (idle : search.frames = [] → P search)
    (leave : ∀ node outer, search.frames = ⟨node, []⟩ :: outer → P (search.leave node outer))
    (enter : ∀ node target pending outer, search.frames = ⟨node, target :: pending⟩ :: outer →
      target ∉ search.visited → P ((search.advance node pending outer).enter rows target))
    (close : ∀ node target pending outer, search.frames = ⟨node, target :: pending⟩ :: outer →
      target ∈ search.visited → target ∈ search.active →
      P ((search.advance node pending outer).close target))
    (skip : ∀ node target pending outer, search.frames = ⟨node, target :: pending⟩ :: outer →
      target ∈ search.visited → target ∉ search.active → P (search.advance node pending outer)) :
    P (search.step rows) := by
  unfold step
  split
  case h_1 none => exact idle none
  case h_2 node outer here => exact leave node outer here
  case h_3 node target pending outer here =>
    dsimp only
    by_cases seen : target ∈ search.visited
    · rw [if_neg (by simpa using seen)]
      by_cases back : target ∈ search.active
      · rw [if_pos (by simpa using back)]
        exact close node target pending outer here seen back
      · rw [if_neg (by simpa using back)]
        exact skip node target pending outer here seen back
    · rw [if_pos (by simpa using seen)]
      exact enter node target pending outer here seen

/-! ### How many steps there are -/

/-- The steps that the open frames take by themselves. Every pending target counts twice, for looking
at it and for leaving the node it may lead to. -/
def weight : List Frame → Nat
  | [] => 0
  | frame :: outer => 2 * frame.pending.length + 1 + weight outer

def remaining (graph : Graph) (search : Search) : Nat :=
  weight search.frames + 2 * (graph.untouched search.visited).length

/-- Entering a node costs the edges that leave it, and one step to leave the node again. -/
theorem remaining_enter {node : String} (fresh : node ∉ search.visited) :
    remaining graph (search.enter graph.adjacency node) = remaining graph search + 1 := by
  have split := Graph.length_untouched graph fresh
  simp only [remaining, enter, weight, Graph.targets_adjacency]
  omega

theorem remaining_step (busy : search.frames ≠ []) :
    remaining graph (search.step graph.adjacency) < remaining graph search := by
  apply step_cases (P := fun next => remaining graph next < remaining graph search)
  case idle => exact fun none => absurd none busy
  case leave =>
    intro node outer here
    simp only [remaining, leave, here, weight]
    omega
  case enter =>
    intro node target pending outer here fresh
    rw [remaining_enter (by exact fresh)]
    simp only [remaining, advance, here, weight, List.length_cons]
    omega
  case close | skip =>
    intro node target pending outer here _ _
    simp only [remaining, advance, close, here, weight, List.length_cons]
    omega

/-- A step of a search that has a frame open. -/
def Moves (rows : List (String × List String)) (search next : Search) : Prop :=
  search.frames ≠ [] ∧ search.step rows = next

theorem Moves.remaining_lt {next : Search} (moves : Moves graph.adjacency search next) :
    remaining graph next < remaining graph search := by
  obtain ⟨busy, rfl⟩ := moves
  exact remaining_step busy

/-! ### Runs -/

theorem run_done {bound : Nat} (enough : remaining graph search ≤ bound) :
    (run graph.adjacency bound search).frames = [] := by
  induction bound generalizing search with
  | zero =>
    unfold run
    cases same : search.frames with
    | nil => rfl
    | cons frame outer => simp [remaining, weight, same] at enough
  | succ bound ih =>
    unfold run
    split
    · simpa using ‹search.frames.isEmpty = true›
    · have busy : search.frames ≠ [] := by simpa using ‹¬search.frames.isEmpty = true›
      have less : remaining graph (search.step graph.adjacency) < remaining graph search :=
        remaining_step busy
      exact ih (by omega)

/-- A run ends where the steps lead. -/
theorem run_eq {last : Search} {bound : Nat} (enough : remaining graph search ≤ bound)
    (leads : Relation.ReflTransGen (Moves graph.adjacency) search last) (done : last.frames = []) :
    run graph.adjacency bound search = last := by
  induction leads using Relation.ReflTransGen.head_induction_on generalizing bound with
  | refl => cases bound <;> simp [run, done]
  | head moves _ ih =>
    have less := moves.remaining_lt
    obtain ⟨busy, rfl⟩ := moves
    obtain ⟨smaller, rfl⟩ : ∃ smaller, bound = smaller + 1 := ⟨bound - 1, by omega⟩
    rw [run, if_neg (by simpa using busy)]
    exact ih (by omega)

theorem leads_run (rows : List (String × List String)) (bound : Nat) (search : Search) :
    Relation.ReflTransGen (Moves rows) search (run rows bound search) := by
  induction bound generalizing search with
  | zero => exact .refl
  | succ bound ih =>
    unfold run
    split
    · exact .refl
    · have busy : search.frames ≠ [] := by simpa using ‹¬search.frames.isEmpty = true›
      exact .head ⟨busy, rfl⟩ (ih _)

/-- More steps than enough make no difference. -/
theorem run_of_le {bound wider : Nat} (enough : remaining graph search ≤ bound)
    (more : bound ≤ wider) : run graph.adjacency wider search = run graph.adjacency bound search :=
  run_eq (enough.trans more) (leads_run ..) (run_done enough)

/-- What every step keeps, a run keeps. -/
theorem run_keeps {P : Search → Prop} (keeps : ∀ search, P search → P (search.step rows))
    {bound : Nat} (start : P search) : P (run rows bound search) := by
  induction bound generalizing search with
  | zero => exact start
  | succ bound ih =>
    unfold run
    split
    · exact start
    · exact ih (keeps search start)

theorem remaining_root {root : String} (idle : search.frames = []) (fresh : root ∉ search.visited) :
    remaining graph (search.enter graph.adjacency root) ≤ bound graph := by
  have fewer : (graph.untouched search.visited).length ≤ graph.edges.length :=
    List.length_filter_le ..
  rw [remaining_enter fresh, remaining, idle, bound]
  simp only [weight]
  omega

theorem visit_fresh {root : String} (fresh : root ∉ search.visited) :
    search.visit graph rows root = run rows (bound graph) (search.enter rows root) := by
  unfold visit
  exact if_neg (by simpa using fresh)

/-- A visit ends because no frame is left. -/
theorem visit_done {root : String} (idle : search.frames = []) (fresh : root ∉ search.visited) :
    (search.visit graph graph.adjacency root).frames = [] := by
  rw [visit_fresh fresh]
  exact run_done (remaining_root idle fresh)

end Linkage.Search
