import Linkage.Proofs.Documents
import Mathlib.Algebra.Ring.Int.Defs
/-!
The summary of a report. Certainties are counted finding by finding, and a certainty that is met for
the first time gets a count of its own. `summary_exact`: every number of a summary is the size of what
the report holds, and the two ways of counting findings agree.
-/

namespace Linkage

theorem Graph.length_edges (map : RepoMap) (extensions : List String) :
    (ofRepoMap map extensions).edges.length = map.imports.countP (fun statement =>
      (Resolution.resolve map.paths extensions statement.1 statement.2.source).isSome) := by
  rw [ofRepoMap_eq, List.length_map, RepoMap.links, List.length_filterMap_eq_countP]
  apply List.countP_congr
  intro statement _
  rw [Option.isSome_map]

namespace Report

variable {counts : List (String × Int)} {certainty : String}

/-! ### One finding -/

theorem get?_count (finding : Finding) :
    (Assoc.get? certainty (count counts finding)).getD 0 =
      (Assoc.get? certainty counts).getD 0 + if finding.certainty = certainty then 1 else 0 := by
  unfold count Assoc.modify
  by_cases same : finding.certainty = certainty
  · subst same
    rw [Assoc.get?_put_self, if_pos rfl, Option.getD_some]
  · rw [Assoc.get?_put_other same, if_neg same]
    omega

theorem mem_keys_count (finding : Finding) :
    certainty ∈ Assoc.keys (count counts finding) ↔
      finding.certainty = certainty ∨ certainty ∈ Assoc.keys counts := by
  unfold count Assoc.modify
  rw [Assoc.mem_keys_put, eq_comm]

theorem sum_count (counts : List (String × Int)) (finding : Finding) :
    ((count counts finding).map Prod.snd).sum = (counts.map Prod.snd).sum + 1 := by
  induction counts with
  | nil => rfl
  | cons entry counts ih =>
    obtain ⟨name, size⟩ := entry
    unfold count Assoc.modify at ih ⊢
    rw [Assoc.get?, Assoc.put]
    by_cases same : name = finding.certainty
    · rw [if_pos same, if_pos same, Option.getD_some]
      simp only [List.map_cons, List.sum_cons]
      omega
    · rw [if_neg same, if_neg same]
      simp only [List.map_cons, List.sum_cons, ih]
      omega

/-! ### All findings -/

theorem get?_counts (findings : List Finding) :
    (Assoc.get? certainty (findings.foldl count counts)).getD 0 =
      (Assoc.get? certainty counts).getD 0 +
        findings.countP (fun finding => finding.certainty = certainty) := by
  induction findings generalizing counts with
  | nil => simp
  | cons finding findings ih =>
    rw [List.foldl_cons, ih, get?_count, List.countP_cons]
    by_cases same : finding.certainty = certainty
    · simp only [same, if_true, decide_true]
      omega
    · simp [same]

theorem mem_keys_counts (findings : List Finding) :
    certainty ∈ Assoc.keys (findings.foldl count counts) ↔
      certainty ∈ Assoc.keys counts ∨ ∃ finding ∈ findings, finding.certainty = certainty := by
  induction findings generalizing counts with
  | nil => simp
  | cons finding findings ih =>
    rw [List.foldl_cons, ih, mem_keys_count, List.exists_mem_cons_iff]
    tauto

theorem sum_counts (findings : List Finding) (counts : List (String × Int)) :
    ((findings.foldl count counts).map Prod.snd).sum =
      (counts.map Prod.snd).sum + findings.length := by
  induction findings generalizing counts with
  | nil => simp
  | cons finding findings ih =>
    rw [List.foldl_cons, ih, sum_count, List.length_cons]
    omega

/-! ### Summaries -/

theorem get?_byCertainty (report : Report) (certainty : String) :
    (Assoc.get? certainty report.byCertainty).getD 0 =
      report.findings.countP (fun finding => finding.certainty = certainty) := by
  have none : (Assoc.get? certainty (Certainty.levels.map (·, (0 : Int)))).getD 0 = 0 := by
    cases found : Assoc.get? certainty (Certainty.levels.map (·, (0 : Int))) with
    | none => rfl
    | some size =>
      obtain ⟨_, _, same⟩ := List.mem_map.mp (Assoc.mem_of_get? found)
      exact (Prod.mk.inj same).2.symm
  rw [byCertainty, get?_counts, none, Int.zero_add]

theorem mem_keys_byCertainty (report : Report) (certainty : String) :
    certainty ∈ Assoc.keys report.byCertainty ↔
      certainty ∈ Certainty.levels ∨ ∃ finding ∈ report.findings, finding.certainty = certainty := by
  rw [byCertainty, mem_keys_counts]
  simp [Assoc.keys]

theorem sum_findings (report : Report) :
    (report.summary.findings.map Prod.snd).sum = report.findings.length := by
  simp only [summary, findings, List.map_map, List.length_flatMap]
  rfl

/-- Each group is written as a list of its findings, and the summary gives the lengths. -/
theorem summary_findings (report : Report) :
    report.summary.findings =
      (report.groups.map (fun group => (group.1, Finding.listJson group.2))).map
        (fun group => (group.1, group.2.items.length)) := by
  simp [summary, Finding.listJson, Json.items]

theorem sum_byCertainty (report : Report) :
    (report.byCertainty.map Prod.snd).sum = report.findings.length := by
  rw [byCertainty, sum_counts]
  simp [Certainty.levels]

end Report

namespace Analysis

/-- In the report of an analysis, whatever certainties its analyzers use: each certainty is counted
with all its findings, the usual grades and those that occur are listed and no others, both ways of
counting give the same total, and the other numbers are those of the files, of the imports that
resolve, and of what is written out. -/
theorem summary_exact (map : RepoMap) (settings : Settings) (selection : Selection) (report : Report)
    (succeeds : (analyze map settings selection).run.value = .ok report) :
    (∀ certainty, (Assoc.get? certainty report.summary.byCertainty).getD 0 =
      report.findings.countP (fun finding => finding.certainty = certainty)) ∧
    (Assoc.keys report.summary.byCertainty).Nodup ∧
    (∀ certainty, certainty ∈ Assoc.keys report.summary.byCertainty ↔
      certainty ∈ ["HIGH", "MEDIUM", "LOW"] ∨
        ∃ finding ∈ report.findings, finding.certainty = certainty) ∧
    (report.summary.byCertainty.map Prod.snd).sum =
      ((report.summary.findings.map Prod.snd).sum : Nat) ∧
    report.summary.files = map.size ∧
    report.summary.edges = map.imports.countP (fun statement =>
      (Resolution.resolve map.paths settings.extensions statement.1 statement.2.source).isSome) ∧
    report.toJson.field? "summary" = some report.summary.toJson ∧
    (∃ groups, report.toJson.field? "findings" = some (.object groups) ∧
      (Assoc.keys groups).Nodup ∧ (∀ group ∈ groups, ∃ findings, group.2 = .array findings) ∧
      report.summary.findings = groups.map (fun group => (group.1, group.2.items.length))) ∧
    ∃ cycles, report.toJson.field? "cycles" = some (.array cycles) ∧
      report.summary.cycles = cycles.length := by
  obtain ⟨analyzers, _, compiled⟩ := compiled_of_analyze succeeds
  refine ⟨report.get?_byCertainty, report.nodup_byCertainty, report.mem_keys_byCertainty, ?_, ?_, ?_,
    rfl, ⟨_, rfl, ?_, ?_, report.summary_findings⟩, _, rfl, ?_⟩
  · rw [report.sum_findings]
    exact report.sum_byCertainty
  · rw [compiled]
    change (Graph.ofRepoMap map settings.extensions).nodes.length = map.size
    rw [Graph.nodes_ofRepoMap]
    exact List.length_map ..
  · rw [compiled]
    exact Graph.length_edges map settings.extensions
  · rw [Assoc.keys_map_snd, compiled]
    exact Report.nodup_groups map settings analyzers
  · intro group member
    obtain ⟨_, _, rfl⟩ := List.mem_map.mp member
    exact ⟨_, rfl⟩
  · exact (List.length_map ..).symm

/-- Three plugins. One uses a grade of its own, one applies to no map, and one finds something in a
single file only. -/
def graded : List Analyzer :=
  [.plugin {
      name := "graded"
      typeName := "Graded"
      analyze := fun _ _ => [noted "a.ts" "x", { noted "c.ts" "y" with certainty := "SURE" }] },
    .plugin {
      name := "idle"
      typeName := "Idle"
      supports := fun _ => false
      analyze := fun _ _ => [noted "a.ts" "z"] },
    .plugin { name := "single", typeName := "Single", analyze := fun _ _ => [noted "b.ts" "z"] }]

theorem summary_exact_graded :
    ∃ report, (analyze .entangled { excluded := ["b*"] } (.given graded)).run.value = .ok report ∧
      report.summary.byCertainty = [("HIGH", 0), ("MEDIUM", 0), ("LOW", 1), ("SURE", 1)] ∧
      report.summary.findings = [("graded", 2), ("single", 0)] ∧
      report.summary.edges = 2 ∧
      (Assoc.get? "SURE" report.summary.byCertainty).getD 0 =
        report.findings.countP (fun finding => finding.certainty = "SURE") ∧
      (report.summary.byCertainty.map Prod.snd).sum =
        ((report.summary.findings.map Prod.snd).sum : Nat) ∧
      report.summary.files = RepoMap.entangled.size := by
  have succeeds : (analyze .entangled { excluded := ["b*"] } (.given graded)).run.value =
      .ok (Report.compile .entangled { excluded := ["b*"] } graded) := rfl
  obtain ⟨counted, _, _, totals, files, _⟩ := summary_exact _ _ _ _ succeeds
  exact ⟨_, succeeds, by decide, by decide, by decide, counted "SURE", totals, files⟩

end Analysis

end Linkage
