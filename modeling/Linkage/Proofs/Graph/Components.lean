import Linkage.Proofs.Graph.Reports
/-!
Which nodes of import cycles are reported. A node is entered once, and only an edge back to the path
closes a cycle, so a node on a cycle may be missing from every reported one (`bypassed_unreported`).
What holds of every node on a cycle is said by `components_reported`: the nodes that lead to it and
back have a reported cycle among them.
-/

namespace Linkage

namespace Graph

variable {graph : Graph} {start node other : String} {steps : List String}

/-- Each of the two nodes leads to the other. -/
def Mutual (graph : Graph) (node other : String) : Prop :=
  Relation.ReflTransGen graph.Joins node other ∧ Relation.ReflTransGen graph.Joins other node

theorem Mutual.symm (both : graph.Mutual node other) : graph.Mutual other node :=
  ⟨both.2, both.1⟩

theorem Mutual.trans {third : String} (first : graph.Mutual node other)
    (second : graph.Mutual other third) : graph.Mutual node third :=
  ⟨first.1.trans second.1, second.2.trans first.2⟩

theorem ClosedWalk.mutual_start (walk : graph.ClosedWalk start steps) (member : node ∈ steps) :
    graph.Mutual start node := by
  obtain ⟨chain, returns⟩ := walk
  constructor
  · exact chain.cons_induction _ steps (fun _ _ joined reached => reached.tail joined) .refl node member
  · obtain ⟨front, rfl⟩ := List.getLast?_eq_some_iff.mp returns
    have back := (chain.tail).backwards_concat_induction
      (fun node => Relation.ReflTransGen graph.Joins node start) front
      (fun _ _ joined reached => reached.head joined) .refl
    rcases List.mem_append.mp member with inside | last
    · exact back node inside
    · rw [List.mem_singleton.mp last]

theorem ClosedWalk.mutual_of_mem (walk : graph.ClosedWalk start steps) (member : node ∈ steps)
    (also : other ∈ steps) : graph.Mutual node other :=
  (walk.mutual_start member).symm.trans (walk.mutual_start also)

theorem ClosedWalk.mem_steps (walk : graph.ClosedWalk start steps) (member : node ∈ start :: steps) :
    node ∈ steps := by
  rcases List.mem_cons.mp member with rfl | inside
  · exact List.mem_of_getLast? walk.2
  · exact inside

theorem mutual_of_reported {cycle : List String} (reported : cycle ∈ graph.cycles)
    (member : node ∈ cycle) (also : other ∈ cycle) : graph.Mutual node other := by
  obtain ⟨start, steps, rfl, walk⟩ := (isCycle_of_reported reported).1.closedWalk
  exact walk.mutual_of_mem (walk.mem_steps member) (walk.mem_steps also)

/-- A closed walk runs over an edge that closes a reported cycle, whose nodes lead to those of the
walk and back. -/
theorem ClosedWalk.meets_component (walk : graph.ClosedWalk start steps)
    (reachable : graph.Reachable start) (member : node ∈ steps) :
    ∃ cycle ∈ graph.cycles,
      (∃ source target, [source, target] <:+: start :: steps ∧ [source, target] <:+ cycle) ∧
      ∀ other ∈ cycle, graph.Mutual other node := by
  obtain ⟨source, target, part, cycle, reported, ends⟩ := walk.meets_report reachable
  refine ⟨cycle, reported, ⟨source, target, part, ends⟩, ?_⟩
  intro other inside
  have onCycle : target ∈ cycle := ends.subset (by simp)
  have onWalk : target ∈ steps := walk.mem_steps (part.subset (by simp))
  exact (mutual_of_reported reported inside onCycle).trans (walk.mutual_of_mem onWalk member)

end Graph

/-! ### The first node that reaches a component -/

namespace Search

variable {graph : Graph} {search : Search} {finished seen roots : List String} {root : String}

theorem Invariant.innermost_visited (invariant : Invariant graph finished search) {frame : Frame}
    {outer : List Frame} (here : search.frames = frame :: outer) : frame.node ∈ search.visited := by
  apply invariant.marked.mem_visited.mpr
  rw [invariant.stacked.active_eq here]
  exact Or.inr List.mem_cons_self

theorem Invariant.finished_leads (invariant : Invariant graph finished search)
    (idle : search.frames = []) {source target : String} (member : source ∈ finished)
    (leads : Relation.ReflTransGen graph.Joins source target) : target ∈ finished := by
  induction leads with
  | refl => exact member
  | tail _ joined ih => exact invariant.finished_closed idle ih joined

theorem Invariant.within_step {P : String → Prop} (invariant : Invariant graph finished search)
    (passed : ∀ source target, P source → graph.Joins source target → P target)
    (within : ∀ node ∈ search.visited, P node) :
    ∀ node ∈ (search.step graph.adjacency).visited, P node := by
  apply step_cases (P := fun next => ∀ node ∈ next.visited, P node)
  case enter =>
    intro node target pending outer here _ other member
    rcases List.mem_cons.mp member with rfl | before
    · exact passed _ _ (within node (invariant.innermost_visited here)) (invariant.joins here)
    · exact within other before
  all_goals
    intros
    exact within _ ‹_›

/-- What the roots have and edges pass on, all nodes have that the roots lead to. -/
theorem Rested.within {P : String → Prop} (rested : Rested graph seen search)
    (passed : ∀ source target, P source → graph.Joins source target → P target)
    (within : ∀ node ∈ search.visited, P node) (listed : roots ⊆ graph.nodes)
    (starts : ∀ root ∈ roots, P root) :
    ∀ node ∈ (roots.foldl (Search.visit graph graph.adjacency) search).visited, P node := by
  induction roots generalizing search seen with
  | nil => exact within
  | cons root roots ih =>
    obtain ⟨here, later⟩ := List.cons_subset.mp listed
    refine ih (rested.visit here) ?_ later
      (fun root member => starts root (List.mem_cons_of_mem _ member))
    apply rested.visit_keeps (P := fun next => ∀ node ∈ next.visited, P node) here
    · exact fun _ _ invariant within => invariant.within_step passed within
    · exact fun _ => List.forall_mem_cons.mpr ⟨starts root List.mem_cons_self, within⟩
    · exact within

/-- The root of a visit is the outermost active node, and the last one to finish. -/
def Rooted (root : String) (finished : List String) (search : Search) : Prop :=
  search.active.getLast? = some root ∨ search.active = [] ∧ finished.head? = some root

theorem Rooted.step (rooted : Rooted root finished search)
    (invariant : Invariant graph finished search) :
    ∃ finished, Invariant graph finished (search.step graph.adjacency) ∧
      Rooted root finished (search.step graph.adjacency) := by
  -- While a frame is open, the root is active.
  have outermost {frame : Frame} {outer : List Frame} (here : search.frames = frame :: outer) :
      (frame.node :: outer.map Frame.node).getLast? = some root := by
    rw [← invariant.stacked.active_eq here]
    apply rooted.resolve_right
    rintro ⟨none, _⟩
    rw [invariant.stacked.active_eq here] at none
    cases none
  apply step_cases
    (P := fun next => ∃ finished, Invariant graph finished next ∧ Rooted root finished next)
  case idle => exact fun _ => ⟨finished, invariant, rooted⟩
  case leave =>
    intro node outer here
    have left := invariant.leave here
    refine ⟨node :: finished, left, ?_⟩
    rw [Rooted, left.stacked.active]
    cases outer with
    | nil =>
      have same : node = root := by simpa using outermost here
      exact Or.inr ⟨rfl, congrArg some same⟩
    | cons frame outer => exact Or.inl (by simpa [leave] using outermost here)
  case enter =>
    intro node target pending outer here fresh
    refine ⟨finished, invariant.enter here fresh, Or.inl ?_⟩
    have active := invariant.stacked.active_eq here
    simpa [enter, advance, active] using outermost here
  case close => exact fun _ _ _ _ here _ back => ⟨finished, invariant.close here back, rooted⟩
  case skip => exact fun _ _ _ _ here seen off => ⟨finished, invariant.skip here seen off, rooted⟩

theorem Rested.visit_fresh (rested : Rested graph seen search) (listed : root ∈ graph.nodes)
    (fresh : root ∉ search.visited) :
    ∃ finished, Invariant graph (root :: finished) (search.visit graph graph.adjacency root) ∧
      (search.visit graph graph.adjacency root).frames = [] := by
  have idle := (rested.visit listed).2.1
  obtain ⟨⟨finished, invariant⟩, done, _⟩ := rested
  have none := invariant.stacked.active_nil done
  rw [Search.visit, if_neg (by simpa using fresh)] at idle ⊢
  obtain ⟨all, invariant, rooted⟩ : ∃ finished,
      Invariant graph finished (run graph.adjacency (bound graph) (search.enter graph.adjacency root)) ∧
        Rooted root finished (run graph.adjacency (bound graph) (search.enter graph.adjacency root)) := by
    apply run_keeps
      (P := fun next => ∃ finished, Invariant graph finished next ∧ Rooted root finished next)
    · exact fun _ ⟨_, invariant, rooted⟩ => rooted.step invariant
    · exact ⟨finished, invariant.enter_root done fresh listed, Or.inl (by simp [enter, none])⟩
  rcases rooted with active | ⟨_, last⟩
  · rw [invariant.stacked.active_nil idle] at active
    cases active
  · obtain ⟨rest, rfl⟩ := List.head?_eq_some_iff.mp last
    exact ⟨rest, invariant, idle⟩

theorem cycles_step (rows : List (String × List String)) (search : Search) :
    search.cycles ⊆ (search.step rows).cycles := by
  apply step_cases (P := fun next => search.cycles ⊆ next.cycles)
  case close => exact fun _ _ _ _ _ _ _ => List.subset_append_left ..
  all_goals
    intros
    exact List.Subset.refl _

theorem cycles_visits (graph : Graph) (rows : List (String × List String)) (search : Search)
    (roots : List String) : search.cycles ⊆ (roots.foldl (visit graph rows) search).cycles := by
  induction roots generalizing search with
  | nil => exact List.Subset.refl _
  | cons root roots ih =>
    refine List.Subset.trans ?_ (ih _)
    unfold visit
    split
    · exact List.Subset.refl _
    · apply run_keeps (P := fun next => search.cycles ⊆ next.cycles)
      · exact fun next kept => List.Subset.trans kept (cycles_step _ next)
      · exact List.Subset.refl _

end Search

/-- No listed node before the root leads to it. So the search starts at it, it finishes last of all
that it leads to, and an edge back to it closes a cycle. -/
theorem Graph.first_reported {graph : Graph} {before after : List String} {root source : String}
    (split : graph.nodes = before ++ root :: after)
    (first : ∀ earlier ∈ before, ¬Relation.ReflTransGen graph.Joins earlier root)
    (leads : Relation.ReflTransGen graph.Joins root source) (joined : graph.Joins source root) :
    Search.Reported graph.cycles source root := by
  have listed : root ∈ graph.nodes := by simp [split]
  have start : Search.Rested graph [] {} := ⟨⟨[], .initial graph⟩, rfl, List.nil_subset _⟩
  have earlier : before ⊆ graph.nodes := by simp [split]
  have fresh : root ∉ (before.foldl (Search.visit graph graph.adjacency) {}).visited := by
    intro visited
    have reached := start.within
      (P := fun node => ∃ earlier ∈ before, Relation.ReflTransGen graph.Joins earlier node)
      (fun _ _ ⟨earlier, member, path⟩ joined => ⟨earlier, member, path.tail joined⟩) (by simp)
      earlier (fun earlier member => ⟨earlier, member, .refl⟩) root visited
    obtain ⟨earlier, member, path⟩ := reached
    exact first earlier member path
  obtain ⟨finished, invariant, idle⟩ := (start.visits earlier).visit_fresh listed fresh
  have inside : source ∈ root :: finished :=
    invariant.finished_leads idle List.mem_cons_self leads
  have reported := (invariant.explored.ordered.descends invariant.marked.finished_distinct inside
    joined).resolve_right (by simp)
  apply reported.mono
  have whole : Search.all graph = after.foldl (Search.visit graph graph.adjacency)
      (Search.visit graph graph.adjacency
        (before.foldl (Search.visit graph graph.adjacency) {}) root) := by
    rw [Search.all, split, List.foldl_append, List.foldl_cons]
  rw [Graph.cycles, whole]
  exact Search.cycles_visits ..

/-! ### Files on cycles -/

/-- A file on an import cycle has a reported cycle among the files that lead to it and back; every
closed walk through it runs over an edge that closes one. The file itself is reported when no earlier
file of the map leads to it, and when every closed walk among those files passes it. -/
theorem components_reported (map : RepoMap) (extensions : List String) (file start : String)
    (steps : List String) (walk : (Graph.ofRepoMap map extensions).ClosedWalk start steps)
    (passes : file ∈ steps) :
    (∃ cycle ∈ map.cycles extensions,
      (∃ source target, [source, target] <:+: start :: steps ∧ [source, target] <:+ cycle) ∧
      ∀ node ∈ cycle, (Graph.ofRepoMap map extensions).Mutual node file) ∧
    ((∃ before after, map.paths = before ++ file :: after ∧ ∀ earlier ∈ before,
        ¬Relation.ReflTransGen (Graph.ofRepoMap map extensions).Joins earlier file) →
      ∃ cycle ∈ map.cycles extensions, file ∈ cycle) ∧
    ((∀ other round, (Graph.ofRepoMap map extensions).ClosedWalk other round →
        (∀ node ∈ round, (Graph.ofRepoMap map extensions).Mutual node file) → file ∈ round) →
      ∃ cycle ∈ map.cycles extensions, file ∈ cycle) := by
  obtain ⟨cycle, reported, closes, related⟩ := walk.meets_component walk.reachable passes
  refine ⟨⟨cycle, reported, closes, related⟩, ?_, ?_⟩
  · rintro ⟨before, after, split, first⟩
    obtain ⟨source, member, joined⟩ := Graph.joins_of_walk walk.1 passes
    have leads := (walk.mutual_of_mem passes (walk.mem_steps member)).1
    rw [← Graph.nodes_ofRepoMap map extensions] at split
    obtain ⟨cycle, reported, ends⟩ := Graph.first_reported split first leads joined
    exact ⟨cycle, reported, ends.subset (by simp)⟩
  · intro everywhere
    obtain ⟨other, round, rfl, closed⟩ := (Graph.isCycle_of_reported reported).1.closedWalk
    have inside := everywhere other round closed
      (fun node member => related node (List.mem_cons_of_mem _ member))
    exact ⟨_, reported, List.mem_cons_of_mem _ inside⟩

/-- The first file closes a cycle with the second. The third is on a cycle through both, and is
entered when the second is finished. -/
def RepoMap.bypass : RepoMap where
  files :=
    [("a.ts", { imports := [{ source := "./b" }, { source := "./c" }] }),
      ("b.ts", { imports := [{ source := "./a" }] }),
      ("c.ts", { imports := [{ source := "./b" }] })]
  distinct := by decide

theorem bypass_walk :
    (Graph.ofRepoMap .bypass [".ts"]).ClosedWalk "a.ts" ["c.ts", "b.ts", "a.ts"] :=
  ⟨by decide, rfl⟩

theorem components_reported_bypass :
    (Graph.ofRepoMap .bypass [".ts"]).ClosedWalk "a.ts" ["c.ts", "b.ts", "a.ts"] ∧
      (∃ cycle ∈ RepoMap.bypass.cycles [".ts"],
        ∀ node ∈ cycle, (Graph.ofRepoMap .bypass [".ts"]).Mutual node "c.ts") ∧
      ∃ cycle ∈ RepoMap.bypass.cycles [".ts"], "a.ts" ∈ cycle := by
  obtain ⟨⟨cycle, reported, _, related⟩, _⟩ :=
    components_reported .bypass [".ts"] "c.ts" _ _ bypass_walk (by decide)
  obtain ⟨_, first, _⟩ :=
    components_reported .bypass [".ts"] "a.ts" _ _ bypass_walk (by decide)
  exact ⟨bypass_walk, ⟨cycle, reported, related⟩, first ⟨[], _, rfl, by simp⟩⟩

/-- Not every file on an import cycle is in a reported one. -/
theorem bypassed_unreported :
    ¬∀ (map : RepoMap) (extensions : List String) (file start : String) (steps : List String),
      (Graph.ofRepoMap map extensions).ClosedWalk start steps → file ∈ steps →
        ∃ cycle ∈ map.cycles extensions, file ∈ cycle := by
  intro all
  obtain ⟨cycle, reported, member⟩ := all .bypass [".ts"] "c.ts" _ _ bypass_walk (by decide)
  have only : RepoMap.bypass.cycles [".ts"] = [["a.ts", "b.ts", "a.ts"]] := by
    decide +kernel
  rw [only, List.mem_singleton] at reported
  rw [reported] at member
  exact absurd member (by decide)

end Linkage
