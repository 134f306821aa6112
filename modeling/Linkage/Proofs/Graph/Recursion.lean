import Linkage.Proofs.Graph.Steps
/-!
The search for cycles as a recursion over the edge list. `recursive_cycles` shows that the search with
a stack of frames and a table of adjacencies reports the same cycles in the same order.
-/

namespace Linkage.Recursive

structure Trail where
  visited : List String := []
  stack : List String := []
  path : List String := []
  cycles : List (List String) := []
  deriving DecidableEq, Repr

namespace Trail

def push (node : String) (trail : Trail) : Trail :=
  { trail with
    visited := node :: trail.visited
    stack := node :: trail.stack
    path := trail.path ++ [node] }

def pop (node : String) (trail : Trail) : Trail :=
  { trail with stack := trail.stack.filter (· ≠ node), path := trail.path.dropLast }

def emit (target : String) (trail : Trail) : Trail :=
  { trail with
    cycles := trail.cycles ++ [trail.path.drop (trail.path.idxOf target) ++ [target]] }

/-- The trails that this one can grow into. What is visited stays visited, which is why the recursion
ends. -/
abbrev Later (trail : Trail) : Type := { after : Trail // trail.visited ⊆ after.visited }

end Trail

mutual

/-- Visits a node: follows the edges that leave it, in the order of the edge list. -/
def visit (graph : Graph) (node : String) (trail : Trail) (_fresh : node ∉ trail.visited) :
    trail.Later :=
  let ⟨explored, kept⟩ := follow graph (graph.edges.filter (·.source = node)) (trail.push node)
  ⟨explored.pop node, fun _ seen => kept (List.mem_cons_of_mem node seen)⟩
termination_by 2 * (graph.untouched trail.visited).length + 1
decreasing_by
  have split := graph.length_untouched _fresh
  simp only [Graph.targetsOf, List.length_map] at split
  simp only [Trail.push]
  omega

/-- Follows edges one after the other. A target that is not visited is visited next; one on the stack
closes a cycle. -/
def follow (graph : Graph) (edges : List Edge) (trail : Trail) : trail.Later :=
  match edges with
  | [] => ⟨trail, List.Subset.refl _⟩
  | edge :: edges =>
    if fresh : edge.target ∉ trail.visited then
      let ⟨inside, kept⟩ := visit graph edge.target trail fresh
      let ⟨after, more⟩ := follow graph edges inside
      ⟨after, List.Subset.trans kept more⟩
    else if edge.target ∈ trail.stack then
      let ⟨after, kept⟩ := follow graph edges (trail.emit edge.target)
      ⟨after, kept⟩
    else follow graph edges trail
termination_by 2 * (graph.untouched trail.visited).length + 2 * edges.length
decreasing_by
  · simp only [List.length_cons]
    omega
  · have fewer := graph.length_untouched_le kept
    simp only [List.length_cons]
    omega
  · simp only [Trail.emit, List.length_cons]
    omega
  · simp only [List.length_cons]
    omega

end

def search (graph : Graph) : Trail :=
  graph.nodes.foldl
    (fun trail root => if fresh : root ∉ trail.visited then (visit graph root trail fresh).1 else trail)
    {}

def cycles (graph : Graph) : List (List String) := (search graph).cycles

/-! ### One edge at a time -/

variable (graph : Graph) {trail : Trail}

theorem visit_eq {node : String} (fresh : node ∉ trail.visited) :
    (visit graph node trail fresh).1 =
      (follow graph (graph.edges.filter (·.source = node)) (trail.push node)).1.pop node := by
  rw [visit]

theorem follow_fresh {edge : Edge} (edges : List Edge) (fresh : edge.target ∉ trail.visited) :
    (follow graph (edge :: edges) trail).1 =
      (follow graph edges (visit graph edge.target trail fresh).1).1 := by
  rw [follow, dif_pos fresh]

theorem follow_back {edge : Edge} (edges : List Edge) (seen : edge.target ∈ trail.visited)
    (back : edge.target ∈ trail.stack) :
    (follow graph (edge :: edges) trail).1 = (follow graph edges (trail.emit edge.target)).1 := by
  rw [follow, dif_neg (not_not_intro seen), if_pos back]

theorem follow_past {edge : Edge} (edges : List Edge) (seen : edge.target ∈ trail.visited)
    (off : edge.target ∉ trail.stack) :
    (follow graph (edge :: edges) trail).1 = (follow graph edges trail).1 := by
  rw [follow, dif_neg (not_not_intro seen), if_neg off]

def Trail.resume (frames : List Frame) (trail : Trail) : Search :=
  { frames
    path := trail.path
    active := trail.stack
    visited := trail.visited
    cycles := trail.cycles }

theorem closing_eq_drop (path : List String) (target : String) :
    Search.closing path target = path.drop (path.idxOf target) ++ [target] := by
  rw [Search.closing, List.dropWhile_eq_drop_findIdx_not]
  simp [List.idxOf, bne]

section Moves

variable {target : String} (node : String) (pending : List String) (outer : List Frame)

theorem moves_leave (trail : Trail) :
    Search.Moves graph.adjacency (trail.resume (⟨node, []⟩ :: outer))
      ((trail.pop node).resume outer) := by
  refine ⟨by simp [Trail.resume], ?_⟩
  simp [Search.step, Search.leave, Trail.resume, Trail.pop, bne, beq_eq_decide]

theorem moves_enter (fresh : target ∉ trail.visited) :
    Search.Moves graph.adjacency (trail.resume (⟨node, target :: pending⟩ :: outer))
      ((trail.push target).resume
        (⟨target, graph.targetsOf target⟩ :: ⟨node, pending⟩ :: outer)) := by
  refine ⟨by simp [Trail.resume], ?_⟩
  simp [Search.step, Search.enter, Trail.resume, Trail.push, fresh, Graph.targets_adjacency]

theorem moves_close (seen : target ∈ trail.visited) (back : target ∈ trail.stack) :
    Search.Moves graph.adjacency (trail.resume (⟨node, target :: pending⟩ :: outer))
      ((trail.emit target).resume (⟨node, pending⟩ :: outer)) := by
  refine ⟨by simp [Trail.resume], ?_⟩
  simp [Search.step, Trail.resume, Trail.emit, seen, back, closing_eq_drop]

theorem moves_skip (seen : target ∈ trail.visited) (off : target ∉ trail.stack) :
    Search.Moves graph.adjacency (trail.resume (⟨node, target :: pending⟩ :: outer))
      (trail.resume (⟨node, pending⟩ :: outer)) := by
  refine ⟨by simp [Trail.resume], ?_⟩
  simp [Search.step, Trail.resume, seen, off]

end Moves

/-! ### Whole visits -/

/-- The search with frames goes from entering a node to leaving it as a visit of the recursion does.
The frames further out stand for the calls that wait, and do not matter. -/
def VisitLeads (node : String) (trail : Trail) (fresh : node ∉ trail.visited) : Prop :=
  ∀ outer, Relation.ReflTransGen (Search.Moves graph.adjacency)
    ((trail.push node).resume (⟨node, graph.targetsOf node⟩ :: outer))
    ((visit graph node trail fresh).1.resume outer)

def FollowLeads (edges : List Edge) (trail : Trail) : Prop :=
  ∀ node outer, Relation.ReflTransGen (Search.Moves graph.adjacency)
    (trail.resume (⟨node, edges.map Edge.target⟩ :: outer))
    ((follow graph edges trail).1.resume (⟨node, []⟩ :: outer))

theorem leads :
    (∀ node trail fresh, VisitLeads graph node trail fresh) ∧
      ∀ edges trail, FollowLeads graph edges trail := by
  apply visit.mutual_induct graph (VisitLeads graph) (FollowLeads graph)
  · intro node trail fresh _ _ _ through outer
    rw [visit_eq]
    exact (through node outer).tail (moves_leave graph node outer _)
  · intro trail node outer
    rw [follow]
    exact .refl
  · intro trail edge edges fresh inside kept call after more _ visited followed node outer
    have enters := moves_enter graph node (edges.map Edge.target) outer fresh
    have through := visited (⟨node, edges.map Edge.target⟩ :: outer)
    rw [call] at through
    rw [follow_fresh graph edges fresh, call]
    exact .head enters (through.trans (followed node outer))
  · intro trail edge edges seen back _ _ _ followed node outer
    have moves := moves_close graph node (edges.map Edge.target) outer (not_not.mp seen) back
    rw [follow_back graph edges (not_not.mp seen) back]
    exact .head moves (followed node outer)
  · intro trail edge edges seen off followed node outer
    have moves := moves_skip graph node (edges.map Edge.target) outer (not_not.mp seen) off
    rw [follow_past graph edges (not_not.mp seen) off]
    exact .head moves (followed node outer)

theorem visit_root {root : String} (fresh : root ∉ trail.visited) :
    (trail.resume []).visit graph graph.adjacency root =
      (visit graph root trail fresh).1.resume [] := by
  have entered : (trail.resume []).enter graph.adjacency root =
      (trail.push root).resume [⟨root, graph.targetsOf root⟩] := by
    simp [Search.enter, Trail.resume, Trail.push, Graph.targets_adjacency]
  rw [Search.visit_fresh (by exact fresh)]
  apply Search.run_eq (Search.remaining_root rfl fresh) _ rfl
  rw [entered]
  exact (leads graph).1 root trail fresh []

theorem visit_roots (roots : List String) (trail : Trail) :
    roots.foldl (Search.visit graph graph.adjacency) (trail.resume []) =
      (roots.foldl (fun trail root =>
        if fresh : root ∉ trail.visited then (visit graph root trail fresh).1 else trail)
        trail).resume [] := by
  induction roots generalizing trail with
  | nil => rfl
  | cons root roots ih =>
    rw [List.foldl_cons, List.foldl_cons]
    by_cases seen : root ∈ trail.visited
    · have same : (trail.resume []).visit graph graph.adjacency root = trail.resume [] := by
        simp [Search.visit, Trail.resume, seen]
      rw [same, dif_neg (not_not_intro seen), ih]
    · rw [visit_root graph seen, dif_pos seen, ih]

/-- The search with frames finds the cycles that the recursion finds, in the same order. -/
theorem recursive_cycles : graph.cycles = cycles graph := by
  have final : Search.all graph = (search graph).resume [] := visit_roots graph graph.nodes {}
  rw [Graph.cycles, final]
  rfl

end Linkage.Recursive
