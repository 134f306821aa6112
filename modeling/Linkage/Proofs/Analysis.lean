import Linkage.Proofs.Dependents
import Linkage.Proofs.Discovery
import Linkage.Proofs.Graph.Components
import Linkage.Query
/-!
Whole analyses with the built-in analyzers. `report_coherent`: what a report finds agrees with the
graph and the cycles it holds. `report_agrees`: a report holds what the single queries answer.
-/

namespace Linkage

/-! ### Groups of a report -/

namespace Report

variable {map : RepoMap} {settings : Settings} {index : UsageIndex} {excluded : List String}
  {groups : List (String × List Finding)} {analyzers : List Analyzer} {analyzer : Analyzer}
  {name : String}

/-- The findings of the analyzer that are not in excluded files. -/
def kept (map : RepoMap) (settings : Settings) (analyzer : Analyzer) : List Finding :=
  keepIncluded settings.excluded (analyzer.findings map (.build map settings.extensions))

theorem mem_kept {finding : Finding} :
    finding ∈ kept map settings analyzer ↔
      finding ∈ analyzer.findings map (.build map settings.extensions) ∧
        isExcluded settings.excluded finding.file = false := by
  rw [kept, keepIncluded_eq, List.mem_filter, Bool.not_eq_true']

/-- Whether the analyzer applies to the map and files its findings in the group. -/
def fills (map : RepoMap) (name : String) (analyzer : Analyzer) : Bool :=
  analyzer.supports map && analyzer.group = name

theorem fills_iff :
    fills map name analyzer = true ↔ analyzer.supports map = true ∧ analyzer.group = name := by
  simp [fills]

theorem get?_file :
    Assoc.get? name (file map index excluded groups analyzer) =
      if fills map name analyzer then some (keepIncluded excluded (analyzer.findings map index))
      else Assoc.get? name groups := by
  unfold file fills
  by_cases supported : analyzer.supports map = true
  · by_cases same : analyzer.group = name
    · subst same
      simp [supported, Assoc.get?_put_self]
    · simp [supported, same, Assoc.get?_put_other same]
  · simp [supported]

/-- A group holds the findings of the last analyzer that fills it. -/
theorem get?_files (analyzers : List Analyzer) :
    Assoc.get? name (analyzers.foldl (file map index excluded) groups) =
      ((analyzers.reverse.find? (fills map name)).map
        (fun analyzer => keepIncluded excluded (analyzer.findings map index))).or
        (Assoc.get? name groups) := by
  induction analyzers using List.reverseRecOn with
  | nil => rfl
  | append_singleton before last ih =>
    rw [List.foldl_append, List.foldl_cons, List.foldl_nil, get?_file, ih, List.reverse_append,
      List.reverse_singleton, List.singleton_append, List.find?_cons]
    cases fills map name last <;> simp

theorem group_compile (map : RepoMap) (settings : Settings) (analyzers : List Analyzer)
    (name : String) :
    (compile map settings analyzers).group name =
      ((analyzers.reverse.find? (fills map name)).map (kept map settings)).getD [] := by
  rw [group, compile, get?_files, Assoc.get?, Option.or_none]
  rfl

/-- A group that holds anything has it from an analyzer that fills it. -/
theorem group_cases (map : RepoMap) (settings : Settings) (analyzers : List Analyzer)
    (name : String) :
    (compile map settings analyzers).group name = [] ∧ analyzers.any (fills map name) = false ∨
      ∃ analyzer ∈ analyzers, fills map name analyzer = true ∧
        (compile map settings analyzers).group name = kept map settings analyzer := by
  rw [group_compile]
  cases found : analyzers.reverse.find? (fills map name) with
  | none =>
    have unfilled : ∀ analyzer ∈ analyzers, ¬fills map name analyzer = true := by
      simpa using found
    exact Or.inl ⟨rfl, List.any_eq_false.mpr unfilled⟩
  | some analyzer =>
    have listed := List.mem_reverse.mp (List.mem_of_find?_eq_some found)
    exact Or.inr ⟨analyzer, listed, List.find?_some found, rfl⟩

theorem mem_group_compile {finding : Finding}
    (member : finding ∈ (compile map settings analyzers).group name) :
    ∃ analyzer ∈ analyzers, analyzer.group = name ∧
      finding ∈ analyzer.findings map (.build map settings.extensions) := by
  rcases group_cases map settings analyzers name with
    ⟨empty, _⟩ | ⟨analyzer, listed, filled, holds⟩
  · rw [empty] at member
    cases member
  · rw [holds] at member
    exact ⟨analyzer, listed, (fills_iff.mp filled).2, (mem_kept.mp member).1⟩

/-- An analyzer whose group no other one fills, and that finds nothing where it does not apply, has
its findings in the report. -/
theorem group_compile_of_unique (member : analyzer ∈ analyzers)
    (unique : ∀ other ∈ analyzers, other.group = analyzer.group → other = analyzer)
    (idle : analyzer.supports map = false →
      analyzer.findings map (.build map settings.extensions) = []) :
    (compile map settings analyzers).group analyzer.group = kept map settings analyzer := by
  rcases group_cases map settings analyzers analyzer.group with
    ⟨empty, unfilled⟩ | ⟨other, listed, filled, holds⟩
  · have unsupported : analyzer.supports map = false := by
      simpa [fills] using List.any_eq_false.mp unfilled analyzer member
    rw [empty, kept, idle unsupported, keepIncluded_eq, List.filter_nil]
  · rw [holds, unique other listed (fills_iff.mp filled).2]

end Report

/-! ### The built-in analyzers -/

namespace Analyzer

def IsBuiltIn : Analyzer → Prop
  | unusedExports _ => True
  | orphans _ _ => True
  | plugin _ => False

variable {map : RepoMap} {index : UsageIndex} {analyzer : Analyzer}

theorem isBuiltIn_of_mem {settings : Settings} (member : analyzer ∈ builtIn settings) :
    analyzer.IsBuiltIn := by
  simp only [builtIn, List.mem_cons, List.not_mem_nil, or_false] at member
  rcases member with rfl | rfl <;> trivial

theorem group_unusedExports (entryPoints : List String) :
    (unusedExports entryPoints).group = unusedExportsName := rfl

theorem group_orphans (suffixes beginnings : List String) :
    (orphans suffixes beginnings).group = orphansName := rfl

theorem IsBuiltIn.eq_unusedExports (isBuiltIn : analyzer.IsBuiltIn)
    (group : analyzer.group = unusedExportsName) :
    ∃ entryPoints, analyzer = unusedExports entryPoints := by
  cases analyzer with
  | unusedExports entryPoints => exact ⟨entryPoints, rfl⟩
  | orphans suffixes beginnings =>
    rw [group_orphans] at group
    exact absurd group (by decide)
  | plugin _ => exact isBuiltIn.elim

theorem IsBuiltIn.eq_orphans (isBuiltIn : analyzer.IsBuiltIn)
    (group : analyzer.group = orphansName) :
    ∃ suffixes beginnings, analyzer = orphans suffixes beginnings := by
  cases analyzer with
  | unusedExports entryPoints =>
    rw [group_unusedExports] at group
    exact absurd group (by decide)
  | orphans suffixes beginnings => exact ⟨suffixes, beginnings, rfl⟩
  | plugin _ => exact isBuiltIn.elim

/-- Skipping a built-in analyzer loses nothing. -/
theorem IsBuiltIn.findings_of_unsupported (isBuiltIn : analyzer.IsBuiltIn)
    (unsupported : analyzer.supports map = false) : analyzer.findings map index = [] := by
  cases analyzer with
  | unusedExports entryPoints =>
    have none : map.files = [] := by simpa [supports, RepoMap.isEmpty] using unsupported
    simp [findings, Unused.find, none]
  | orphans suffixes beginnings =>
    simp only [findings, Orphans.find, List.flatMap_eq_nil_iff]
    rintro ⟨file, record⟩ listed
    have bare : record.classes = [] ∧ record.functions = [] := by
      simpa [declares] using List.any_eq_false.mp unsupported _ listed
    simp [Orphans.classes, Orphans.functions, bare]
  | plugin _ => exact isBuiltIn.elim

end Analyzer

theorem Unused.certainty_of_mem {map : RepoMap} {index : UsageIndex} {entryPoints : List String}
    {finding : Finding} (member : finding ∈ find map index entryPoints) :
    finding.certainty = grade index finding.file := by
  simp only [find, List.mem_flatMap, Prod.exists] at member
  obtain ⟨file, record, _, reported⟩ := member
  unfold ofFile at reported
  split at reported
  · cases reported
  · obtain ⟨entry, _, rfl⟩ := List.mem_map.mp reported
    rfl

theorem Orphans.unimported_of_mem {map : RepoMap} {index : UsageIndex}
    {suffixes beginnings : List String} {finding : Finding}
    (member : finding ∈ find map index suffixes beginnings) :
    index.isFileImported finding.file = false := by
  simp only [find, List.mem_flatMap, Prod.exists, List.mem_append] at member
  obtain ⟨file, record, _, reported⟩ := member
  have orphaned : ∃ declaration, isOrphan index file declaration = true ∧ finding.file = file := by
    rcases reported with reported | reported
    all_goals
      simp only [classes, functions] at reported
      split at reported
      · cases reported
      · obtain ⟨declaration, kept, rfl⟩ := List.mem_map.mp reported
        have both := (List.mem_filter.mp kept).2
        rw [Bool.and_eq_true] at both
        exact ⟨declaration, both.2, rfl⟩
  obtain ⟨declaration, isOrphan, rfl⟩ := orphaned
  simp only [Orphans.isOrphan, Bool.and_eq_true, Bool.not_eq_true'] at isOrphan
  exact isOrphan.2

/-! ### Files with incoming edges -/

theorem UsageIndex.isFileImported_iff_joins {map : RepoMap} {extensions : List String}
    {file : String} :
    (build map extensions).isFileImported file = true ↔
      ∃ source, (Graph.ofRepoMap map extensions).Joins source file := by
  rw [isFileImported_iff]
  exact exists_congr fun _ => Graph.joins_ofRepoMap.symm

theorem Graph.joins_of_reported {graph : Graph} {cycle : List String} {node : String}
    (reported : cycle ∈ graph.cycles) (member : node ∈ cycle) :
    ∃ source, graph.Joins source node := by
  obtain ⟨start, steps, rfl, walk⟩ := (isCycle_of_reported reported).1.closedWalk
  obtain ⟨source, _, joined⟩ := joins_of_walk walk.1 (walk.mem_steps member)
  exact ⟨source, joined⟩

/-! ### Analyses -/

namespace Analysis

variable {map : RepoMap} {settings : Settings} {selection : Selection} {report : Report}

/-- Built-in analyzers are given, or no plugin is on offer. -/
def Selection.IsBuiltIn : Selection → Prop
  | given analyzers => ∀ analyzer ∈ analyzers, analyzer.IsBuiltIn
  | discovered offers => offers = []

theorem value_analyze (map : RepoMap) (settings : Settings) (selection : Selection) :
    (analyze map settings selection).run.value =
      (selection.analyzers settings).map (Report.compile map settings) := by
  unfold analyze
  cases selection.analyzers settings <;> rfl

theorem compiled_of_analyze (succeeds : (analyze map settings selection).run.value = .ok report) :
    ∃ analyzers, selection.analyzers settings = .ok analyzers ∧
      report = Report.compile map settings analyzers := by
  rw [value_analyze] at succeeds
  cases selected : selection.analyzers settings with
  | error fault =>
    rw [selected] at succeeds
    cases succeeds
  | ok analyzers =>
    rw [selected] at succeeds
    exact ⟨analyzers, rfl, (Except.ok.inj succeeds).symm⟩

theorem Selection.IsBuiltIn.analyzers (isBuiltIn : selection.IsBuiltIn) {analyzers : List Analyzer}
    (selected : selection.analyzers settings = .ok analyzers) :
    ∀ analyzer ∈ analyzers, analyzer.IsBuiltIn := by
  intro analyzer member
  cases selection with
  | given chosen =>
    rw [← Except.ok.inj selected] at member
    exact isBuiltIn analyzer member
  | discovered offers =>
    obtain rfl := isBuiltIn
    exact Analyzer.isBuiltIn_of_mem ((Discovery.mem_discover selected).mp member).1

/-- The graph of a report explains its findings. An unused export is graded by whether an edge leads
to its file, and orphans are in files that no edge leads to. So no file on a reported cycle has an
orphan or an unused export of medium certainty. -/
theorem report_coherent (map : RepoMap) (settings : Settings) (selection : Selection)
    (report : Report) (isBuiltIn : selection.IsBuiltIn)
    (succeeds : (analyze map settings selection).run.value = .ok report) :
    (∀ finding ∈ report.group "unused-exports",
      (finding.certainty = "MEDIUM" ↔ ¬∃ source, report.graph.Joins source finding.file) ∧
      (finding.certainty = "LOW" ↔ ∃ source, report.graph.Joins source finding.file)) ∧
    (∀ finding ∈ report.group "orphaned-infrastructure",
      ¬∃ source, report.graph.Joins source finding.file) ∧
    ∀ cycle ∈ report.cycles, ∀ file ∈ cycle,
      (∀ finding ∈ report.group "orphaned-infrastructure", finding.file ≠ file) ∧
      ∀ finding ∈ report.group "unused-exports", finding.certainty = "MEDIUM" →
        finding.file ≠ file := by
  obtain ⟨analyzers, selected, rfl⟩ := compiled_of_analyze succeeds
  have builtIn := isBuiltIn.analyzers selected
  have graded : ∀ finding ∈ (Report.compile map settings analyzers).group "unused-exports",
      (finding.certainty = "MEDIUM" ↔
        ¬∃ source, (Graph.ofRepoMap map settings.extensions).Joins source finding.file) ∧
      (finding.certainty = "LOW" ↔
        ∃ source, (Graph.ofRepoMap map settings.extensions).Joins source finding.file) := by
    intro finding member
    obtain ⟨analyzer, listed, group, found⟩ := Report.mem_group_compile member
    obtain ⟨entryPoints, rfl⟩ := (builtIn analyzer listed).eq_unusedExports group
    rw [← UsageIndex.isFileImported_iff_joins, Unused.certainty_of_mem found, Unused.grade]
    split <;> simp_all [Certainty.low, Certainty.medium]
  have alone : ∀ finding ∈ (Report.compile map settings analyzers).group "orphaned-infrastructure",
      ¬∃ source, (Graph.ofRepoMap map settings.extensions).Joins source finding.file := by
    intro finding member
    obtain ⟨analyzer, listed, group, found⟩ := Report.mem_group_compile member
    obtain ⟨suffixes, beginnings, rfl⟩ := (builtIn analyzer listed).eq_orphans group
    rw [← UsageIndex.isFileImported_iff_joins, Orphans.unimported_of_mem found]
    simp
  refine ⟨graded, alone, ?_⟩
  intro cycle reported file member
  have joined : ∃ source, (Graph.ofRepoMap map settings.extensions).Joins source file :=
    Graph.joins_of_reported reported member
  constructor
  · rintro finding found rfl
    exact alone finding found joined
  · rintro finding found medium rfl
    exact (graded finding found).1.mp medium joined

end Analysis

/-- Two files that import each other, one of them with an export that is not asked for by name, and
a third file that nobody imports. -/
def RepoMap.entangled : RepoMap where
  files :=
    [("a.ts", { exports := [{ name := "x" }], imports := [{ source := "./b" }] }),
      ("b.ts", { imports := [{ source := "./a" }] }),
      ("c.ts", {
        exports := [{ name := "y" }]
        classes := [{ name := "FileCache", exported := true }] })]
  distinct := by decide

theorem Analysis.report_coherent_entangled :
    ∃ report, (analyze .entangled {} (.discovered [])).run.value = .ok report ∧
      (∃ finding ∈ report.group "unused-exports", finding.name = "x" ∧ finding.certainty = "LOW" ∧
        ∃ source, report.graph.Joins source finding.file) ∧
      (∃ finding ∈ report.group "unused-exports", finding.name = "y" ∧
        finding.certainty = "MEDIUM" ∧ ¬∃ source, report.graph.Joins source finding.file) ∧
      (∃ finding ∈ report.group "orphaned-infrastructure", finding.name = "FileCache" ∧
        ¬∃ source, report.graph.Joins source finding.file) ∧
      ["a.ts", "b.ts", "a.ts"] ∈ report.cycles ∧
      ∀ finding ∈ report.group "orphaned-infrastructure", finding.file ≠ "a.ts" := by
  have succeeds : (analyze .entangled {} (.discovered [])).run.value =
      .ok (Report.compile .entangled {} (Analyzer.builtIn {})) := rfl
  obtain ⟨graded, alone, cyclic⟩ := report_coherent .entangled {} (.discovered []) _ rfl succeeds
  have low : ⟨"a.ts", "x", none, "export", "LOW", none⟩ ∈
      (Report.compile .entangled {} (Analyzer.builtIn {})).group "unused-exports" := by decide
  have medium : ⟨"c.ts", "y", none, "export", "MEDIUM", none⟩ ∈
      (Report.compile .entangled {} (Analyzer.builtIn {})).group "unused-exports" := by decide
  have orphan : ⟨"c.ts", "FileCache", none, "class", "HIGH", some "infrastructure"⟩ ∈
      (Report.compile .entangled {} (Analyzer.builtIn {})).group "orphaned-infrastructure" := by
    decide
  have cycle : ["a.ts", "b.ts", "a.ts"] ∈
      (Report.compile .entangled {} (Analyzer.builtIn {})).cycles := by decide
  exact ⟨_, succeeds, ⟨_, low, rfl, rfl, (graded _ low).2.mp rfl⟩,
    ⟨_, medium, rfl, rfl, (graded _ medium).1.mp rfl⟩, ⟨_, orphan, rfl, alone _ orphan⟩, cycle,
    (cyclic _ cycle _ List.mem_cons_self).1⟩

/-! ### Single questions -/

theorem Action.on_logged {α : Type} (computation : Logged α) (host : Host) :
    (logged computation).on host =
      (.ok computation.value, computation.records.foldl Host.log host) := rfl

/-- Where the map and the settings can be loaded, a question is answered on them. -/
theorem Query.answer_of_load {question : Question} {path : String} {given : Option String}
    {host after : Host} {map : RepoMap} {settings : Settings}
    (loads : (Project.load path given).on host = (.ok (map, settings), after)) :
    (((about question).answer path given).on host).1 = .ok (question.answerOn map settings).value := by
  unfold answer
  rw [Action.on_bind, loads]
  dsimp only
  rw [Action.on_logged]

theorem Analyzer.eq_of_group_eq {settings : Settings} {analyzer other : Analyzer}
    (member : analyzer ∈ builtIn settings) (also : other ∈ builtIn settings)
    (same : other.group = analyzer.group) : other = analyzer := by
  have apart : unusedExportsName ≠ orphansName := by decide
  simp only [builtIn, List.mem_cons, List.not_mem_nil, or_false] at member also
  rcases member with rfl | rfl <;> rcases also with rfl | rfl
  · rfl
  · exact absurd same.symm apart
  · exact absurd same apart
  · rfl

namespace Analysis

variable {map : RepoMap} {settings : Settings} {report : Report} {analyzer : Analyzer}

/-- The group of a built-in analyzer that is asked for holds what the analyzer finds, whether or not
the analysis passed it over. -/
theorem group_of_asked (succeeds : (analyze map settings (.discovered [])).run.value = .ok report)
    (member : analyzer ∈ Analyzer.builtIn settings)
    (asked : Discovery.Asked settings.enabled analyzer.name) :
    report.group analyzer.group = Report.kept map settings analyzer := by
  obtain ⟨analyzers, selected, rfl⟩ := compiled_of_analyze succeeds
  have discovered : Discovery.discover settings.enabled settings [] = .ok analyzers := selected
  apply Report.group_compile_of_unique
  · exact (Discovery.mem_discover discovered).mpr ⟨member, asked⟩
  · intro other listed
    exact Analyzer.eq_of_group_eq member ((Discovery.mem_discover discovered).mp listed).1
  · exact (Analyzer.isBuiltIn_of_mem member).findings_of_unsupported

/-- A report and the answers to single questions tell the same: the graph, the cycles, and for each
built-in analyzer that is asked for its findings. A question about a map and settings on disk is
answered on what is loaded. -/
theorem report_agrees (map : RepoMap) (settings : Settings) (report : Report)
    (succeeds : (analyze map settings (.discovered [])).run.value = .ok report) :
    (Question.graph.answerOn map settings).value = report.graph.toJson ∧
    (Question.cycles.answerOn map settings).value = Report.cyclesJson report.cycles ∧
    (Discovery.Asked settings.enabled "unused-exports" →
      (Question.unused.answerOn map settings).value =
        Finding.listJson (report.group "unused-exports")) ∧
    (Discovery.Asked settings.enabled "orphaned-infrastructure" →
      (Question.orphans.answerOn map settings).value =
        Finding.listJson (report.group "orphaned-infrastructure")) ∧
    ∀ (question : Question) (path : String) (given : Option String) (host after : Host),
      (Project.load path given).on host = (.ok (map, settings), after) →
      (((Query.about question).answer path given).on host).1 =
        .ok (question.answerOn map settings).value := by
  obtain ⟨analyzers, _, compiled⟩ := compiled_of_analyze succeeds
  refine ⟨?_, ?_, ?_, ?_, fun _ _ _ _ _ => Query.answer_of_load⟩
  · rw [compiled]
    rfl
  · rw [compiled]
    rfl
  · intro asked
    have findings := group_of_asked succeeds List.mem_cons_self asked
    rw [Analyzer.group_unusedExports, Analyzer.unusedExportsName] at findings
    rw [findings]
    rfl
  · intro asked
    have findings := group_of_asked succeeds (List.mem_cons_of_mem _ List.mem_cons_self) asked
    rw [Analyzer.group_orphans, Analyzer.orphansName] at findings
    rw [findings]
    rfl

def partialSettings : Settings := { enabled := some ["UNUSED-EXPORTS"], excluded := ["c*"] }

def blankHost : Host := { tree := ⟨[("/map", .file (.text "{}"))]⟩ }

theorem report_agrees_entangled :
    (∃ report, (analyze .entangled partialSettings (.discovered [])).run.value = .ok report ∧
      report.group "unused-exports" = [⟨"a.ts", "x", none, "export", "LOW", none⟩] ∧
      (Question.graph.answerOn .entangled partialSettings).value = report.graph.toJson ∧
      (Question.cycles.answerOn .entangled partialSettings).value =
        Report.cyclesJson report.cycles ∧
      Discovery.Asked partialSettings.enabled "unused-exports" ∧
      (Question.unused.answerOn .entangled partialSettings).value =
        Finding.listJson (report.group "unused-exports")) ∧
    (Project.load "/map" none).on blankHost = (.ok (.empty, {}), blankHost) ∧
      (((Query.about .orphans).answer "/map" none).on blankHost).1 =
        .ok (Question.orphans.answerOn .empty {}).value := by
  have succeeds : (analyze .entangled partialSettings (.discovered [])).run.value =
      .ok (Report.compile .entangled partialSettings
        [.unusedExports partialSettings.entryPoints]) := rfl
  have asked : Discovery.Asked partialSettings.enabled "unused-exports" := by
    intro names given
    obtain rfl := Option.some.inj given
    exact ⟨"UNUSED-EXPORTS", List.mem_cons_self, by decide⟩
  have loads : (Project.load "/map" none).on blankHost = (.ok (.empty, {}), blankHost) := rfl
  obtain ⟨graph, cycles, unused, _, _⟩ := report_agrees .entangled partialSettings _ succeeds
  obtain ⟨_, _, _, _, onDisk⟩ := report_agrees .empty {} _ rfl
  exact ⟨⟨_, succeeds, by decide, graph, cycles, asked, unused asked⟩, loads,
    onDisk .orphans "/map" none blankHost blankHost loads⟩

end Analysis

end Linkage
