import Linkage.Proofs.Analysis
import Mathlib.Algebra.GroupWithZero.Nat
import Mathlib.Algebra.Order.BigOperators.Group.List
/-!
Which findings a report keeps. Analyzers file their findings by group, and one that fills a group
again replaces what is there. `findings_counted_iff`: the report has a group for each analyzer that no
later one replaces, and it counts every finding just when the replaced analyzers had none.
-/

namespace Linkage

namespace Report

variable {map : RepoMap} {settings : Settings} {index : UsageIndex} {excluded : List String}
  {groups : List (String × List Finding)} {analyzers : List Analyzer} {analyzer : Analyzer}
  {name : String}

/-- The analyzers that apply to the map and whose group none of those after them fills. -/
def lasting (map : RepoMap) : List Analyzer → List Analyzer
  | [] => []
  | analyzer :: later =>
    if analyzer.supports map && !later.any (fills map analyzer.group) then
      analyzer :: lasting map later
    else lasting map later

/-! ### Groups -/

theorem nodup_file (distinct : (Assoc.keys groups).Nodup) :
    (Assoc.keys (file map index excluded groups analyzer)).Nodup := by
  unfold file
  split
  · exact Assoc.nodup_put distinct
  · exact distinct

theorem nodup_files (distinct : (Assoc.keys groups).Nodup) (analyzers : List Analyzer) :
    (Assoc.keys (analyzers.foldl (file map index excluded) groups)).Nodup := by
  induction analyzers generalizing groups with
  | nil => exact distinct
  | cons analyzer later ih => exact ih (nodup_file distinct)

theorem nodup_groups (map : RepoMap) (settings : Settings) (analyzers : List Analyzer) :
    (Assoc.keys (compile map settings analyzers).groups).Nodup := by
  have none : (Assoc.keys ([] : List (String × List Finding))).Nodup := List.nodup_nil
  exact nodup_files none analyzers

/-- After some analyzers there are the groups of those that last, and the former groups that none of
them fills. -/
theorem files_perm (distinct : (Assoc.keys groups).Nodup) (analyzers : List Analyzer) :
    (analyzers.foldl (file map index excluded) groups).Perm
      ((lasting map analyzers).map (fun analyzer =>
          (analyzer.group, keepIncluded excluded (analyzer.findings map index))) ++
        groups.filter (fun group => !analyzers.any (fills map group.1))) := by
  induction analyzers generalizing groups with
  | nil => simp [lasting]
  | cons analyzer later ih =>
    rw [List.foldl_cons]
    refine (ih (nodup_file distinct)).trans ?_
    cases supported : analyzer.supports map with
    | false => simp [file, lasting, fills, supported]
    | true =>
      have filed := (Assoc.put_perm analyzer.group
        (keepIncluded excluded (analyzer.findings map index)) distinct).filter
          (fun group => !later.any (fills map group.1))
      have others : (Assoc.erase analyzer.group groups).filter
            (fun group => !later.any (fills map group.1)) =
          groups.filter (fun group => !(analyzer :: later).any (fills map group.1)) := by
        rw [Assoc.erase, List.filter_filter]
        congr 1
        funext group
        rw [List.any_cons, fills, supported, Bool.true_and, Bool.not_or, Bool.and_comm, bne_comm]
        rfl
      rw [file, if_pos supported]
      refine (filed.append_left _).trans ?_
      rw [List.filter_cons, others, lasting, supported, Bool.true_and]
      -- The new group goes in front of those that later analyzers fill, unless it is one of them.
      split
      · exact List.perm_middle
      · exact List.Perm.refl _

theorem groups_compile (map : RepoMap) (settings : Settings) (analyzers : List Analyzer) :
    (compile map settings analyzers).groups.Perm
      ((lasting map analyzers).map (fun analyzer => (analyzer.group, kept map settings analyzer))) := by
  have filed : (compile map settings analyzers).groups.Perm _ :=
    files_perm (by simp [Assoc.keys]) analyzers
  rwa [List.filter_nil, List.append_nil] at filed

/-- An analyzer that lasts has its findings in the report. -/
theorem group_of_lasting (lasts : analyzer ∈ lasting map analyzers) :
    (compile map settings analyzers).group analyzer.group = kept map settings analyzer := by
  have filed : (analyzer.group, kept map settings analyzer) ∈
      (compile map settings analyzers).groups :=
    (groups_compile map settings analyzers).mem_iff.mpr (List.mem_map_of_mem lasts)
  rw [group, Assoc.get?_of_mem (nodup_groups map settings analyzers) filed]
  rfl

/-! ### Counting -/

/-- How many findings the analyzers that apply have outside excluded files. -/
def emitted (map : RepoMap) (settings : Settings) (analyzers : List Analyzer) : Nat :=
  ((analyzers.filter (·.supports map)).map (fun analyzer => (kept map settings analyzer).length)).sum

/-- Of two analyzers that apply and fill one group, the earlier has no findings to lose. -/
def Lossless (map : RepoMap) (settings : Settings) (analyzers : List Analyzer) : Prop :=
  analyzers.Pairwise (fun earlier later =>
    earlier.supports map = true → fills map earlier.group later = true →
      kept map settings earlier = [])

instance : Decidable (Lossless map settings analyzers) :=
  inferInstanceAs (Decidable (List.Pairwise _ _))

theorem length_findings (map : RepoMap) (settings : Settings) (analyzers : List Analyzer) :
    (compile map settings analyzers).findings.length =
      ((lasting map analyzers).map (fun analyzer => (kept map settings analyzer).length)).sum := by
  have perm := (groups_compile map settings analyzers).flatMap_right Prod.snd
  rw [findings, perm.length_eq, List.flatMap_map, List.length_flatMap]

theorem lasting_sublist (analyzers : List Analyzer) :
    (lasting map analyzers).Sublist (analyzers.filter (·.supports map)) := by
  induction analyzers with
  | nil => exact List.Sublist.refl _
  | cons analyzer later ih =>
    rw [lasting, List.filter_cons]
    cases analyzer.supports map with
    | false => exact ih
    | true =>
      rw [Bool.true_and]
      split
      · exact ih.cons_cons _
      · exact ih.cons _

theorem lasting_counted_iff (analyzers : List Analyzer) :
    ((lasting map analyzers).map (fun analyzer => (kept map settings analyzer).length)).sum =
      emitted map settings analyzers ↔ Lossless map settings analyzers := by
  induction analyzers with
  | nil => simp [lasting, emitted, Lossless]
  | cons analyzer later ih =>
    have fewer : ((lasting map later).map (fun analyzer => (kept map settings analyzer).length)).sum ≤
        emitted map settings later :=
      ((lasting_sublist later).map _).sum_le_sum (fun _ _ => Nat.zero_le _)
    have lossless : Lossless map settings (analyzer :: later) ↔
        (analyzer.supports map = true → later.any (fills map analyzer.group) = true →
          kept map settings analyzer = []) ∧ Lossless map settings later := by
      simp only [Lossless, List.pairwise_cons, List.any_eq_true]
      grind
    rw [lossless, ← ih]
    cases supported : analyzer.supports map with
    | false => simp [lasting, emitted, supported]
    | true =>
      have added : emitted map settings (analyzer :: later) =
          (kept map settings analyzer).length + emitted map settings later := by
        simp [emitted, supported]
      rw [added, lasting, supported, ← List.length_eq_zero_iff]
      cases replaced : later.any (fills map analyzer.group) with
      | false => simp
      | true =>
        -- Only the emitted side counts this analyzer, and the rest of that side is no smaller.
        simp only [Bool.not_true, Bool.and_false, Bool.false_eq_true, if_false, forall_const]
        omega

theorem Lossless.lasts (lossless : Lossless map settings analyzers) (member : analyzer ∈ analyzers)
    (supported : analyzer.supports map = true) (some : kept map settings analyzer ≠ []) :
    analyzer ∈ lasting map analyzers := by
  induction analyzers with
  | nil => cases member
  | cons first later ih =>
    obtain ⟨here, lossless⟩ := List.pairwise_cons.mp lossless
    rw [lasting]
    rcases List.mem_cons.mp member with rfl | member
    · have unreplaced : later.any (fills map analyzer.group) = false := by
        rw [List.any_eq_false]
        exact fun other after fills => some (here other after supported fills)
      simp [supported, unreplaced]
    · have lasts := ih lossless member
      split
      · exact List.mem_cons_of_mem _ lasts
      · exact lasts

theorem lossless_of_distinct (distinct : analyzers.Pairwise (fun earlier later =>
    earlier.group ≠ later.group)) : Lossless map settings analyzers :=
  distinct.imp fun apart _ fills => absurd (fills_iff.mp fills).2.symm apart

end Report

theorem Analyzer.pairwise_builtIn (settings : Settings) :
    (builtIn settings).Pairwise (fun earlier later => earlier.group ≠ later.group) := by
  have apart : unusedExportsName ≠ orphansName := by decide
  simpa [builtIn, group_unusedExports, group_orphans] using apart

namespace Analysis

/-- The groups of a report are those of the analyzers that no later one replaces. Its findings are as
many as the analyzers have outside excluded files just when each replaced analyzer has none, and then
every such finding is in the report under its analyzer's group. So it is for built-in analyzers that
are discovered without plugins. -/
theorem findings_counted_iff (map : RepoMap) (settings : Settings) (selection : Selection)
    (analyzers : List Analyzer) (selected : selection.analyzers settings = .ok analyzers) :
    ∃ report, (analyze map settings selection).run.value = .ok report ∧
      report.groups.Perm ((Report.lasting map analyzers).map (fun analyzer =>
        (analyzer.group, Report.kept map settings analyzer))) ∧
      (report.findings.length = Report.emitted map settings analyzers ↔
        Report.Lossless map settings analyzers) ∧
      (Report.Lossless map settings analyzers →
        ∀ analyzer ∈ analyzers, analyzer.supports map = true →
          ∀ finding ∈ analyzer.findings map (.build map settings.extensions),
            isExcluded settings.excluded finding.file = false →
              finding ∈ report.group analyzer.group) ∧
      (selection = .discovered [] → Report.Lossless map settings analyzers) := by
  refine ⟨Report.compile map settings analyzers, ?_, Report.groups_compile map settings analyzers,
    ?_, ?_, ?_⟩
  · rw [value_analyze, selected]
    rfl
  · rw [Report.length_findings]
    exact Report.lasting_counted_iff analyzers
  · intro lossless analyzer member supported finding found included
    have kept : finding ∈ Report.kept map settings analyzer := Report.mem_kept.mpr ⟨found, included⟩
    rwa [Report.group_of_lasting (lossless.lasts member supported (List.ne_nil_of_mem kept))]
  · rintro rfl
    exact Report.lossless_of_distinct
      ((Analyzer.pairwise_builtIn settings).sublist (Discovery.discover_sublist selected))

def unnamed (findings : List Finding) : Analyzer :=
  .plugin { typeName := "StaticAnalyzer", analyze := fun _ _ => findings }

def noted (file name : String) : Finding :=
  { file, name, line := none, kind := "export", certainty := "LOW", role := none }

/-- Three plugins that share a group. The first finds something in an excluded file only, and the
second applies to no map. -/
def sharing : List Analyzer :=
  [unnamed [noted "b.ts" "x"],
    .plugin {
      typeName := "StaticAnalyzer"
      supports := fun _ => false
      analyze := fun _ _ => [noted "a.ts" "y"] },
    unnamed [noted "a.ts" "z", noted "b.ts" "z"]]

theorem findings_counted_sharing :
    ∃ report, (analyze .entangled { excluded := ["b*"] } (.given sharing)).run.value = .ok report ∧
      Report.Lossless .entangled { excluded := ["b*"] } sharing ∧
      Report.emitted .entangled { excluded := ["b*"] } sharing = 1 ∧
      report.findings.length = 1 ∧ noted "a.ts" "z" ∈ report.group "StaticAnalyzer" := by
  have lossless : Report.Lossless .entangled { excluded := ["b*"] } sharing := by
    decide +kernel
  have emitted : Report.emitted .entangled { excluded := ["b*"] } sharing = 1 := by decide +kernel
  obtain ⟨report, succeeds, _, counted, found, _⟩ :=
    findings_counted_iff .entangled { excluded := ["b*"] } (.given sharing) sharing rfl
  refine ⟨report, succeeds, lossless, emitted, (counted.mpr lossless).trans emitted, ?_⟩
  exact found lossless (unnamed [noted "a.ts" "z", noted "b.ts" "z"]) (by simp [sharing]) rfl _
    List.mem_cons_self (by decide +kernel)

/-- Of two plugins without names and with one finding each, the second replaces the first. -/
theorem replaced_uncounted :
    ∃ report, (analyze (.ofList [("a.ts", {})]) {} (.given [unnamed [noted "a.ts" "x"],
        unnamed [noted "a.ts" "y"]])).run.value = .ok report ∧
      Report.emitted (.ofList [("a.ts", {})]) {}
        [unnamed [noted "a.ts" "x"], unnamed [noted "a.ts" "y"]] = 2 ∧
      report.findings = [noted "a.ts" "y"] :=
  ⟨_, rfl, by decide +kernel, by decide +kernel⟩

end Analysis

end Linkage
