import Linkage.Proofs.Analysis
import Linkage.Proofs.Orphans
import Linkage.Proofs.UnusedExports
/-!
The two detectors on one index, whatever the index says. Each is brought to what it asks the index
about a name of a file: the search for orphans whether the name is unreached, the search for unused
exports whether it is unused, with the grade telling the rest. So they agree on names that both look at.
-/

namespace Linkage

variable {map : RepoMap} {index : UsageIndex} {record : FileRecord} {file name : String}
  {entryPoints suffixes beginnings : List String}

def UsageIndex.Unreached (index : UsageIndex) (file name : String) : Prop :=
  index.isSymbolUsed file name = false ∧ index.isFileImported file = false

def Reports (findings : List Finding) (file name : String) : Prop :=
  ∃ finding ∈ findings, finding.file = file ∧ finding.name = name

instance (findings : List Finding) (file name : String) : Decidable (Reports findings file name) :=
  inferInstanceAs (Decidable (∃ finding ∈ findings, finding.file = file ∧ finding.name = name))

/-- The file has an exported class or function with a name that tells infrastructure. -/
def FileRecord.Offers (record : FileRecord) (suffixes beginnings : List String) (name : String) :
    Prop :=
  (∃ declaration ∈ record.classes, declaration.exported = true ∧ declaration.name = name ∧
    ∃ word ∈ suffixes, Naming.EndsWith word name) ∨
  ∃ declaration ∈ record.functions, declaration.exported = true ∧ declaration.name = name ∧
    ∃ word ∈ beginnings, Naming.StartsWith word name

theorem Orphans.isOrphan_iff {declaration : Declaration} :
    isOrphan index file declaration = true ↔
      declaration.exported = true ∧ index.Unreached file declaration.name := by
  simp [isOrphan, UsageIndex.Unreached, and_assoc]

/-- Which declarations of a file are reported, for any rule that looks for one of several words in a
name. -/
theorem Orphans.mem_reported {words : List String} {named : String → Bool}
    {fits : String → String → Prop}
    (rule : words ≠ [] → ∀ name, named name = true ↔ ∃ word ∈ words, fits word name)
    {declarations : List Declaration} {report : Declaration → Finding} {finding : Finding} :
    finding ∈ (if words.isEmpty then []
      else (declarations.filter (fun declaration =>
        named declaration.name && isOrphan index file declaration)).map report) ↔
      ∃ declaration ∈ declarations, report declaration = finding ∧ declaration.exported = true ∧
        (∃ word ∈ words, fits word declaration.name) ∧ index.Unreached file declaration.name := by
  split
  case isTrue empty => simp [List.isEmpty_iff.mp empty]
  case isFalse some =>
    have nonempty : words ≠ [] := fun none => some (List.isEmpty_iff.mpr none)
    simp only [List.mem_map, List.mem_filter, Bool.and_eq_true, rule nonempty, isOrphan_iff]
    constructor
    · rintro ⟨declaration, ⟨member, fits, exported, unreached⟩, same⟩
      exact ⟨declaration, member, same, exported, fits, unreached⟩
    · rintro ⟨declaration, member, same, exported, fits, unreached⟩
      exact ⟨declaration, ⟨member, fits, exported, unreached⟩, same⟩

theorem Orphans.reports_iff :
    Reports (find map index suffixes beginnings) file name ↔
      (∃ record, (file, record) ∈ map.files ∧ record.Offers suffixes beginnings name) ∧
        index.Unreached file name := by
  simp only [Reports, find, List.mem_flatMap, Prod.exists, List.mem_append, classes, functions,
    mem_reported Naming.isInfrastructure_iff, mem_reported Naming.isFactory_iff]
  constructor
  · rintro ⟨_, ⟨path, record, listed, reported⟩, rfl, rfl⟩
    rcases reported with ⟨declaration, member, rfl, exported, fits, unreached⟩ |
      ⟨declaration, member, rfl, exported, fits, unreached⟩
    · exact ⟨⟨record, listed, .inl ⟨declaration, member, exported, rfl, fits⟩⟩, unreached⟩
    · exact ⟨⟨record, listed, .inr ⟨declaration, member, exported, rfl, fits⟩⟩, unreached⟩
  · rintro ⟨⟨record, listed, offers⟩, unreached⟩
    rcases offers with ⟨declaration, member, exported, rfl, fits⟩ |
      ⟨declaration, member, exported, rfl, fits⟩
    · exact ⟨_, ⟨file, record, listed, .inl ⟨declaration, member, rfl, exported, fits, unreached⟩⟩,
        rfl, rfl⟩
    · exact ⟨_, ⟨file, record, listed, .inr ⟨declaration, member, rfl, exported, fits, unreached⟩⟩,
        rfl, rfl⟩

theorem Unused.reports_iff :
    Reports (find map index entryPoints) file name ↔
      (∃ record, (file, record) ∈ map.files ∧ name ∈ record.exports.map Export.name) ∧
        isEntryPoint entryPoints file = false ∧ index.isSymbolUsed file name = false := by
  simp only [Reports, find, List.mem_flatMap, Prod.exists, ofFile]
  constructor
  · rintro ⟨finding, ⟨path, record, listed, reported⟩, rfl, rfl⟩
    split at reported
    case isTrue => cases reported
    case isFalse inner =>
      obtain ⟨entry, kept, rfl⟩ := List.mem_map.mp reported
      obtain ⟨member, unused⟩ := List.mem_filter.mp kept
      exact ⟨⟨record, listed, List.mem_map_of_mem member⟩, Bool.eq_false_iff.mpr inner,
        (Bool.not_eq_true' _).mp unused⟩
  · rintro ⟨⟨record, listed, named⟩, inner, unused⟩
    obtain ⟨entry, member, rfl⟩ := List.mem_map.mp named
    refine ⟨finding index file entry, ⟨file, record, listed, ?_⟩, rfl, rfl⟩
    rw [if_neg (Bool.eq_false_iff.mp inner)]
    exact List.mem_map_of_mem (List.mem_filter.mpr ⟨member, (Bool.not_eq_true' _).mpr unused⟩)

theorem Unused.grade_eq_medium : grade index file = "MEDIUM" ↔ index.isFileImported file = false := by
  unfold grade
  cases index.isFileImported file <;> decide

/-- Given one index, whatever it holds, the detectors agree on the names that a file exports and that
tell infrastructure: such a name is an orphan just when it is an unused export of medium certainty.
Then no unused export of the file is of low certainty. -/
theorem detectors_agree (map : RepoMap) (index : UsageIndex)
    (extensions others suffixes beginnings entryPoints : List String)
    (listed : (file, record) ∈ map.files)
    (inner : Text.lower (Path.stem file) ∉ entryPoints.map Text.lower)
    (exported : name ∈ record.exports.map Export.name)
    (offered : record.Offers suffixes beginnings name) :
    (Reports (Analysis.orphans map (some index) extensions suffixes beginnings).value file name ↔
      ∃ finding ∈ (Analysis.unused map (some index) others entryPoints).value,
        finding.file = file ∧ finding.name = name ∧ finding.certainty = "MEDIUM") ∧
    (Reports (Analysis.orphans map (some index) extensions suffixes beginnings).value file name →
      ∀ finding ∈ (Analysis.unused map (some index) others entryPoints).value,
        finding.file = file → finding.certainty ≠ "LOW") := by
  have orphaned : Reports (Analysis.orphans map (some index) extensions suffixes beginnings).value
      file name ↔ index.Unreached file name :=
    Orphans.reports_iff.trans (and_iff_right ⟨record, listed, offered⟩)
  have searched : (Analysis.unused map (some index) others entryPoints).value =
      Unused.find map index entryPoints := rfl
  have notEntry : Unused.isEntryPoint entryPoints file = false :=
    Bool.eq_false_iff.mpr (mt (Unused.isEntryPoint_iff entryPoints file).mp inner)
  rw [orphaned, searched]
  -- The certainty of an unused export says whether its file is imported, the other half of `Unreached`.
  refine ⟨⟨?_, ?_⟩, ?_⟩
  · rintro ⟨unused, unimported⟩
    obtain ⟨finding, member, rfl, same⟩ :=
      Unused.reports_iff.mpr ⟨⟨record, listed, exported⟩, notEntry, unused⟩
    refine ⟨finding, member, rfl, same, ?_⟩
    rw [Unused.certainty_of_mem member, Unused.grade_eq_medium]
    exact unimported
  · rintro ⟨finding, member, rfl, rfl, medium⟩
    rw [Unused.certainty_of_mem member, Unused.grade_eq_medium] at medium
    exact ⟨(Unused.reports_iff.mp ⟨finding, member, rfl, rfl⟩).2.2, medium⟩
  · rintro ⟨_, unimported⟩ finding member rfl
    rw [Unused.certainty_of_mem member, Unused.grade_eq_medium.mpr unimported]
    decide

def clientRecord : FileRecord where
  exports := [⟨"DbClient", some "class", some 1⟩, ⟨"createDb", none, none⟩, ⟨"version", none, none⟩]
  classes := [⟨"DbClient", true, some 1⟩]
  functions := [⟨"createDb", true, none⟩]

def clientMap (imports : List Import) : RepoMap :=
  .ofList [("db.ts", clientRecord), ("app.ts", { imports })]

/-- The index of a time when nobody imported the factory makes both detectors report it, also when
the map has an import of it now. -/
theorem detectors_agree_stale :
    Reports (Analysis.orphans (clientMap [⟨"./db", some "named", some ["createDb"]⟩])
        (some (.build (clientMap []) [".ts"])) [] ["Client"] ["create"]).value "db.ts" "createDb" ∧
      ∃ finding ∈ (Analysis.unused (clientMap [⟨"./db", some "named", some ["createDb"]⟩])
          (some (.build (clientMap []) [".ts"])) [] ["index"]).value,
        finding.file = "db.ts" ∧ finding.name = "createDb" ∧ finding.certainty = "MEDIUM" := by
  have orphaned : Reports (Analysis.orphans (clientMap [⟨"./db", some "named", some ["createDb"]⟩])
      (some (.build (clientMap []) [".ts"])) [] ["Client"] ["create"]).value "db.ts" "createDb" := by
    decide +kernel
  have offered : clientRecord.Offers ["Client"] ["create"] "createDb" :=
    .inr ⟨_, List.mem_cons_self, rfl, rfl, "create", List.mem_cons_self, 'D', ['b'], by decide,
      by decide, by decide⟩
  have agreed := detectors_agree (clientMap [⟨"./db", some "named", some ["createDb"]⟩])
    (.build (clientMap []) [".ts"]) [] [] ["Client"] ["create"] ["index"] List.mem_cons_self
    (by decide +kernel) (by decide) offered
  exact ⟨orphaned, agreed.1.mp orphaned⟩

end Linkage
