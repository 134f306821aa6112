import Linkage.Analysis
import Linkage.Proofs.Usages
/-!
The search for unused exports, from the repo map to the findings. `unused_exact` gives the findings
as a list over the files and their exports, with no index in between.
-/

namespace Linkage.Unused

variable (map : RepoMap) (extensions entryPoints : List String) (file : String)

theorem isEntryPoint_iff :
    isEntryPoint entryPoints file = true ↔
      Text.lower (Path.stem file) ∈ entryPoints.map Text.lower := by
  rw [isEntryPoint, List.contains_iff_mem]

theorem kindOf_eq (entry : Export) :
    kindOf entry = if entry.kind = some "" then "export" else entry.kind.getD "export" := by
  unfold kindOf
  cases entry.kind with
  | none => rfl
  | some kind => by_cases empty : kind = "" <;> simp [Option.filter, empty]

open Classical in
theorem grade_build :
    grade (.build map extensions) file =
      if map.ImportsFile extensions file then "LOW" else "MEDIUM" := by
  unfold grade
  by_cases imported : map.ImportsFile extensions file
  · rw [if_pos imported, if_pos (UsageIndex.isFileImported_iff.mpr imported)]
    rfl
  · rw [if_neg imported, if_neg (fun used => imported (UsageIndex.isFileImported_iff.mp used))]
    rfl

open Classical in
/-- Which exports of a file are unused; a file that is an entry point has none. -/
theorem ofFile_build (record : FileRecord) :
    ofFile (.build map extensions) entryPoints file record =
      (record.exports.filter (fun entry =>
        Text.lower (Path.stem file) ∉ entryPoints.map Text.lower ∧
          ¬map.ImportsName extensions file entry.name)).map
        (finding (.build map extensions) file) := by
  unfold ofFile
  split
  case isTrue skipped =>
    have stem := (isEntryPoint_iff entryPoints file).mp skipped
    simp [stem]
  case isFalse searched =>
    have stem : Text.lower (Path.stem file) ∉ entryPoints.map Text.lower :=
      fun member => searched ((isEntryPoint_iff entryPoints file).mpr member)
    congr 1
    apply List.filter_congr
    intro entry _
    rw [Bool.eq_iff_iff, decide_eq_true_eq, ← UsageIndex.isSymbolUsed_iff, Bool.not_eq_true',
      Bool.not_eq_true]
    exact (and_iff_right stem).symm

open Classical in
/-- With no index given, the findings are the exports in map order, without those of entry points and
those that some import of the map binds. An import that resolves to the file lowers the grade. -/
theorem unused_exact :
    (Analysis.unused map none extensions entryPoints).value =
      map.files.flatMap (fun (file, record) =>
        (record.exports.filter (fun entry =>
          Text.lower (Path.stem file) ∉ entryPoints.map Text.lower ∧
            ¬map.ImportsName extensions file entry.name)).map
          (fun entry =>
            { file
              name := entry.name
              line := entry.line
              kind := if entry.kind = some "" then "export" else entry.kind.getD "export"
              certainty := if map.ImportsFile extensions file then "LOW" else "MEDIUM" })) := by
  have searched : (Analysis.unused map none extensions entryPoints).value =
      find map (.build map extensions) entryPoints := rfl
  rw [searched, find]
  congr 1
  funext ⟨file, record⟩
  dsimp only
  rw [ofFile_build]
  congr 1
  funext entry
  rw [finding, grade_build, kindOf_eq]

end Linkage.Unused
