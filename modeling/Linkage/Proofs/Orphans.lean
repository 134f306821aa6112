import Linkage.Analysis
import Linkage.Proofs.Pattern
import Linkage.Proofs.Usages
/-!
The search for orphaned infrastructure, from the repo map to the findings. `orphans_exact` gives the
findings as a list over the files, their classes and their functions, with no index and no pattern in
between.
-/

namespace Linkage.Orphans

variable (map : RepoMap) (extensions : List String) (file : String)

theorem isOrphan_build (declaration : Declaration) :
    isOrphan (.build map extensions) file declaration = true ↔
      declaration.exported = true ∧ ¬map.ImportsFile extensions file ∧
        ¬map.ImportsName extensions file declaration.name := by
  rw [← UsageIndex.isFileImported_iff, ← UsageIndex.isSymbolUsed_iff, isOrphan]
  simp only [Bool.and_eq_true, Bool.not_eq_true', Bool.not_eq_true]
  exact and_right_comm.trans and_assoc

open Classical in
/-- Which declarations of a file are reported, for any rule that looks for one of several words in a
name. Without words there are none: no word is there to be found. -/
theorem reported_build {words : List String} {named : String → Bool} {fits : String → String → Prop}
    (rule : words ≠ [] → ∀ name, named name = true ↔ ∃ word ∈ words, fits word name)
    (declarations : List Declaration) (report : Declaration → Finding) :
    (if words.isEmpty then []
      else (declarations.filter (fun declaration =>
        named declaration.name && isOrphan (.build map extensions) file declaration)).map report) =
      (declarations.filter (fun declaration =>
        declaration.exported ∧ (∃ word ∈ words, fits word declaration.name) ∧
          ¬map.ImportsFile extensions file ∧
          ¬map.ImportsName extensions file declaration.name)).map report := by
  split
  case isTrue empty =>
    have none : words = [] := List.isEmpty_iff.mp empty
    simp [none]
  case isFalse some =>
    have nonempty : words ≠ [] := fun none => some (List.isEmpty_iff.mpr none)
    congr 1
    apply List.filter_congr
    intro declaration _
    rw [Bool.eq_iff_iff, Bool.and_eq_true, decide_eq_true_eq, isOrphan_build,
      rule nonempty declaration.name]
    exact and_left_comm

open Classical in
/-- With no index given, the findings are the exported classes and functions of each file, in map
order, that bear a telling name and that no import reaches: none resolves to the file, and none binds
the name. -/
theorem orphans_exact (suffixes beginnings : List String) :
    (Analysis.orphans map none extensions suffixes beginnings).value =
      map.files.flatMap (fun (file, record) =>
        (record.classes.filter (fun declaration =>
          declaration.exported ∧ (∃ word ∈ suffixes, Naming.EndsWith word declaration.name) ∧
            ¬map.ImportsFile extensions file ∧
            ¬map.ImportsName extensions file declaration.name)).map
          (fun declaration =>
            { file
              name := declaration.name
              line := declaration.line
              kind := "class"
              certainty := "HIGH"
              role := some "infrastructure" }) ++
        (record.functions.filter (fun declaration =>
          declaration.exported ∧ (∃ word ∈ beginnings, Naming.StartsWith word declaration.name) ∧
            ¬map.ImportsFile extensions file ∧
            ¬map.ImportsName extensions file declaration.name)).map
          (fun declaration =>
            { file
              name := declaration.name
              line := declaration.line
              kind := "function"
              certainty := "HIGH"
              role := some "factory" })) := by
  have searched : (Analysis.orphans map none extensions suffixes beginnings).value =
      find map (.build map extensions) suffixes beginnings := rfl
  rw [searched, find]
  congr 1
  funext ⟨file, record⟩
  dsimp only
  rw [classes, reported_build map extensions file Naming.isInfrastructure_iff]
  rw [functions, reported_build map extensions file Naming.isFactory_iff]
  rfl

end Linkage.Orphans
