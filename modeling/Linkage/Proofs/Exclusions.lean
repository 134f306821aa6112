import Linkage.Proofs.Detectors
/-!
Excluded files. `exclusions_filter_findings`: patterns that exclude files take findings out of the
groups of a report and change nothing else, so that an import counts wherever it stands.
-/

namespace Linkage

variable {map : RepoMap} {settings : Settings} {index : UsageIndex}
  {groups : List (String × List Finding)} {patterns more other : List String}

/-! ### Patterns -/

theorem isExcluded_append (patterns more : List String) (file : String) :
    isExcluded (patterns ++ more) file = (isExcluded patterns file || isExcluded more file) :=
  List.any_append

theorem isExcluded_congr (same : ∀ pattern, pattern ∈ other ↔ pattern ∈ patterns) (file : String) :
    isExcluded other file = isExcluded patterns file := by
  unfold isExcluded
  rw [Bool.eq_iff_iff, List.any_eq_true, List.any_eq_true]
  exact exists_congr fun pattern => and_congr_left fun _ => same pattern

theorem keepIncluded_append (patterns more : List String) (findings : List Finding) :
    keepIncluded (patterns ++ more) findings = keepIncluded more (keepIncluded patterns findings) := by
  rw [keepIncluded_eq, keepIncluded_eq, keepIncluded_eq, List.filter_filter]
  apply List.filter_congr
  intro finding _
  rw [isExcluded_append, Bool.not_or, Bool.and_comm]

theorem keepIncluded_congr (same : ∀ pattern, pattern ∈ other ↔ pattern ∈ patterns) :
    keepIncluded other = keepIncluded patterns := by
  funext findings
  simp only [keepIncluded_eq, isExcluded_congr same]

/-! ### Reports -/

namespace Report

variable {analyzers : List Analyzer} {importer target : String} {entry : Import} {finding : Finding}

/-- The groups less the findings in excluded files. A group stays when it has no findings left. -/
def sift (patterns : List String) (groups : List (String × List Finding)) :
    List (String × List Finding) :=
  groups.map (fun group => (group.1, keepIncluded patterns group.2))

theorem keys_sift (patterns : List String) (groups : List (String × List Finding)) :
    Assoc.keys (sift patterns groups) = Assoc.keys groups := by
  simp [Assoc.keys, sift]

theorem file_sift (analyzer : Analyzer) :
    file map index (patterns ++ more) (sift more groups) analyzer =
      sift more (file map index patterns groups analyzer) := by
  unfold file
  split
  · rw [keepIncluded_append]
    exact Assoc.put_map (keepIncluded more) _ _ groups
  · rfl

theorem files_sift (analyzers : List Analyzer) :
    analyzers.foldl (file map index (patterns ++ more)) (sift more groups) =
      sift more (analyzers.foldl (file map index patterns) groups) := by
  induction analyzers generalizing groups with
  | nil => rfl
  | cons analyzer later ih => rw [List.foldl_cons, List.foldl_cons, file_sift, ih]

theorem groups_append (map : RepoMap) (settings : Settings) (analyzers : List Analyzer)
    (patterns more : List String) :
    (compile map { settings with excluded := patterns ++ more } analyzers).groups =
      sift more (compile map { settings with excluded := patterns } analyzers).groups := by
  show analyzers.foldl (file map _ (patterns ++ more)) (sift more []) = _
  exact files_sift analyzers

theorem compile_congr (same : ∀ pattern, pattern ∈ other ↔ pattern ∈ patterns) :
    compile map { settings with excluded := other } analyzers =
      compile map { settings with excluded := patterns } analyzers := by
  have filed : ∀ index, file map index other = file map index patterns := by
    intro index
    funext groups analyzer
    rw [file, file, keepIncluded_congr same]
  simp only [compile, filed]

/-! ### Imports -/

section
variable (builtIn : ∀ analyzer ∈ analyzers, analyzer.IsBuiltIn)
  (resolves : map.Resolves settings.extensions importer entry target)
include builtIn resolves

theorem unused_of_resolves
    (member : finding ∈ (compile map settings analyzers).group "unused-exports")
    (here : finding.file = target) :
    finding.certainty = "LOW" ∧ ¬entry.Binds target finding.name := by
  obtain ⟨analyzer, listed, group, found⟩ := mem_group_compile member
  obtain ⟨entryPoints, rfl⟩ := (builtIn analyzer listed).eq_unusedExports group
  subst here
  constructor
  · rw [Unused.certainty_of_mem found, Unused.grade,
      if_pos (UsageIndex.isFileImported_iff.mpr ⟨importer, entry, resolves⟩)]
    rfl
  · intro binds
    have unused := (Unused.reports_iff.mp ⟨finding, found, rfl, rfl⟩).2.2
    have used := UsageIndex.isSymbolUsed_iff.mpr
      ⟨importer, entry, finding.file, finding.name, resolves, binds, rfl⟩
    rw [used] at unused
    cases unused

theorem orphan_of_resolves
    (member : finding ∈ (compile map settings analyzers).group "orphaned-infrastructure") :
    finding.file ≠ target := by
  rintro rfl
  obtain ⟨analyzer, listed, group, found⟩ := mem_group_compile member
  obtain ⟨suffixes, beginnings, rfl⟩ := (builtIn analyzer listed).eq_orphans group
  have unimported := Orphans.unimported_of_mem found
  rw [UsageIndex.isFileImported_iff.mpr ⟨importer, entry, resolves⟩] at unimported
  cases unimported

end

end Report

namespace Analysis

def excluding (map : RepoMap) (settings : Settings) (selection : Selection) (patterns : List String) :
    Except Discovery.Fault Report :=
  (analyze map { settings with excluded := patterns } selection).run.value

theorem excluding_eq (map : RepoMap) (settings : Settings) (selection : Selection)
    (patterns : List String) :
    excluding map settings selection patterns = (selection.analyzers settings).map
      (Report.compile map { settings with excluded := patterns }) := by
  rw [excluding, value_analyze]
  cases selection <;> rfl

/-- More patterns take findings out of the groups and leave the rest of a report as it is; only which
patterns there are matters. Imports count also where they stand in excluded files: what an import
binds is not unused, its target is graded as imported and has no orphans. -/
theorem exclusions_filter_findings (map : RepoMap) (settings : Settings) (selection : Selection)
    (patterns more : List String) :
    (∀ fault, excluding map settings selection (patterns ++ more) = .error fault ↔
      excluding map settings selection patterns = .error fault) ∧
    (∀ report, excluding map settings selection patterns = .ok report →
      ∃ fewer, excluding map settings selection (patterns ++ more) = .ok fewer ∧
        fewer.graph = report.graph ∧ fewer.cycles = report.cycles ∧
        Assoc.keys fewer.groups = Assoc.keys report.groups ∧
        fewer.groups = report.groups.map (fun group =>
          (group.1, group.2.filter (fun finding => !isExcluded more finding.file)))) ∧
    (∀ other, (∀ pattern, pattern ∈ other ↔ pattern ∈ patterns) →
      excluding map settings selection other = excluding map settings selection patterns) ∧
    ∀ report importer entry target, excluding map settings selection patterns = .ok report →
      map.Resolves settings.extensions importer entry target →
        report.graph.Joins importer target ∧
        (selection.IsBuiltIn →
          (∀ finding ∈ report.group "unused-exports", finding.file = target →
            finding.certainty = "LOW" ∧ ¬entry.Binds target finding.name) ∧
          ∀ finding ∈ report.group "orphaned-infrastructure", finding.file ≠ target) := by
  simp only [excluding_eq]
  cases selected : selection.analyzers settings with
  | error fault => exact ⟨fun _ => Iff.rfl, nofun, fun _ _ => rfl, nofun⟩
  | ok analyzers =>
    refine ⟨fun _ => ⟨nofun, nofun⟩, ?_, ?_, ?_⟩
    · intro report succeeds
      obtain rfl := Except.ok.inj succeeds
      refine ⟨_, rfl, rfl, rfl, ?_, ?_⟩
      · rw [Report.groups_append, Report.keys_sift]
      · simp only [Report.groups_append, Report.sift, keepIncluded_eq]
    · intro other same
      exact congrArg Except.ok (Report.compile_congr same)
    · intro report importer entry target succeeds resolves
      obtain rfl := Except.ok.inj succeeds
      refine ⟨Graph.joins_ofRepoMap.mpr ⟨entry, resolves⟩, fun isBuiltIn => ?_⟩
      have builtIn := isBuiltIn.analyzers selected
      exact ⟨fun _ => Report.unused_of_resolves builtIn resolves,
        fun _ => Report.orphan_of_resolves builtIn resolves⟩

/-- One of two files that import each other is excluded, and the other one is graded as imported. When
the third file is excluded as well, its orphan goes and the group stays. -/
theorem exclusions_filter_entangled :
    ∃ report fewer, excluding .entangled {} (.discovered []) ["b*"] = .ok report ∧
      excluding .entangled {} (.discovered []) ["b*", "c*"] = .ok fewer ∧
      fewer.graph = report.graph ∧ fewer.cycles = report.cycles ∧
      fewer.groups = [("unused-exports", [⟨"a.ts", "x", none, "export", "LOW", none⟩]),
        ("orphaned-infrastructure", [])] ∧
      excluding .entangled {} (.discovered []) ["b*", "b*"] = .ok report ∧
      isExcluded ["b*"] "b.ts" = true ∧
      RepoMap.entangled.Resolves Resolution.defaultExtensions "b.ts" { source := "./a" } "a.ts" ∧
      report.graph.Joins "b.ts" "a.ts" ∧
      ∀ finding ∈ report.group "unused-exports", finding.file = "a.ts" →
        finding.certainty = "LOW" := by
  have resolves : RepoMap.entangled.Resolves Resolution.defaultExtensions "b.ts"
      { source := "./a" } "a.ts" :=
    ⟨⟨{ imports := [{ source := "./a" }] }, by simp [RepoMap.entangled]⟩, by decide⟩
  have succeeds : excluding .entangled {} (.discovered []) ["b*"] =
      .ok (Report.compile .entangled { excluded := ["b*"] } (Analyzer.builtIn {})) := rfl
  obtain ⟨_, filtered, unordered, counted⟩ :=
    exclusions_filter_findings .entangled {} (.discovered []) ["b*"] ["c*"]
  obtain ⟨fewer, also, graph, cycles, _, groups⟩ := filtered _ succeeds
  obtain ⟨joined, graded⟩ := counted _ _ _ _ succeeds resolves
  refine ⟨_, fewer, succeeds, also, graph, cycles, groups.trans (by decide),
    (unordered ["b*", "b*"] (by simp)).trans succeeds, by decide, resolves, joined, ?_⟩
  exact fun finding member here => ((graded rfl).1 finding member here).1

end Analysis

end Linkage
