import Linkage.Analysis
import Linkage.Proofs.Graph.Renaming
import Linkage.Proofs.Path
import Linkage.Proofs.Usages
import Mathlib.Data.List.Nodup
/-!
Moving a whole repository below a directory. When no import leads out of the repository, every import
resolves to the moved file it resolved to before. Graph, cycles, index and findings only depend on
which files the imports reach, on the stems of the files and on the order of their paths, and the
move keeps all three.
-/

namespace Linkage

open Linkage.Path (under IsRelativeDirectory Inside)

variable {dir : String}

/-! ### Resolution -/

def Path.IsRelative (path : String) : Prop :=
  path.toList.head? ≠ some '/' ∧ path.toList.head? ≠ some '\\'

instance (path : String) : Decidable (Path.IsRelative path) := inferInstanceAs (Decidable (_ ∧ _))

theorem Path.IsRelative.forwardSlashes {path : String} (relative : IsRelative path) :
    (forwardSlashes path).toList.head? ≠ some '/' := by
  obtain ⟨slash, backslash⟩ := relative
  cases same : path.toList with
  | nil => simp [Path.forwardSlashes, same]
  | cons c chars =>
    rw [same] at slash backslash
    have other : c ≠ '/' ∧ c ≠ '\\' := by simpa using And.intro slash backslash
    simp [Path.forwardSlashes, same, other]

namespace Resolution

variable {importer specifier : String}

theorem directory_eq (importer : String) :
    Resolution.directory importer =
      if Path.dirname (Path.forwardSlashes importer) = "" then "."
      else Path.dirname (Path.forwardSlashes importer) := rfl

theorem directory_under (directory : IsRelativeDirectory dir) (relative : Path.IsRelative importer) :
    Resolution.directory (under dir importer) =
      if Path.dirname (Path.forwardSlashes importer) = "" then dir
      else under dir (Resolution.directory importer) := by
  have nonempty : dir ≠ "" := by
    rintro rfl
    exact directory.toList_ne_nil rfl
  rw [directory_eq, directory_eq, directory.forwardSlashes_under,
    directory.dirname_under relative.forwardSlashes]
  by_cases top : Path.dirname (Path.forwardSlashes importer) = ""
  · simp [top, nonempty]
  · simp [top, under]

theorem directory_ne_nil (importer : String) : (Resolution.directory importer).toList ≠ [] := by
  intro empty
  have same : Resolution.directory importer = "" := String.toList_inj.mp (by simpa using empty)
  rw [directory_eq] at same
  split at same
  case isTrue => exact absurd same (by decide)
  case isFalse nested => exact nested same

theorem head_directory (relative : Path.IsRelative importer) :
    (Resolution.directory importer).toList.head? ≠ some '/' := by
  rw [directory_eq]
  split
  · decide
  · exact Path.head_dirname relative.forwardSlashes

/-- A file at the top is in `.` before the move and in the directory itself after it; either way its
directory leads as far. -/
theorem walk_directory (directory : IsRelativeDirectory dir) (relative : Path.IsRelative importer) :
    Path.walk [] (Path.split (Resolution.directory (under dir importer)).toList) =
      Path.walk [] (Path.split dir.toList ++ Path.split (Resolution.directory importer).toList) := by
  rw [directory_under directory relative]
  split
  case isTrue top =>
    have skipped (walked : List (List Char)) : Path.walk walked [['.']] = walked := rfl
    rw [directory_eq, if_pos top, Path.walk_append]
    exact (skipped _).symm
  case isFalse => rw [Path.toList_under, Path.split_append]

theorem base_under (directory : IsRelativeDirectory dir) (relative : Path.IsRelative importer)
    (inside : Inside (base importer specifier)) :
    base (under dir importer) specifier = under dir (base importer specifier) := by
  have moved_relative : (Resolution.directory (under dir importer)).toList.head? ≠ some '/' := by
    rw [directory_under directory relative]
    split
    · exact directory.relative
    · exact Path.head_under directory.toList_ne_nil directory.relative _
  apply directory.normalize_moved
  case relative => exact Path.head_under (directory_ne_nil _) (head_directory relative) _
  case moved_relative => exact Path.head_under (directory_ne_nil _) moved_relative _
  case inside => exact inside
  case leads =>
    have leads := walk_directory directory relative
    have texts (dir path : String) : (dir ++ "/" ++ path).toList = dir.toList ++ '/' :: path.toList :=
      Path.toList_under dir path
    rw [texts, texts, Path.split_append, Path.split_append, ← List.append_assoc, Path.walk_append,
      leads, ← Path.walk_append]

theorem candidates_under (dir base : String) (extensions : List String) :
    candidates (under dir base) extensions = (candidates base extensions).map (under dir) := by
  simp [candidates, Path.under_append, Function.comp_def]

theorem resolve_under (directory : IsRelativeDirectory dir) (relative : Path.IsRelative importer)
    (inside : isRelative specifier = true → Inside (base importer specifier))
    (files extensions : List String) :
    resolve (files.map (under dir)) extensions (under dir importer) specifier =
      (resolve files extensions importer specifier).map (under dir) := by
  unfold resolve
  split
  case isFalse => rfl
  case isTrue pointed =>
    have present : (files.map (under dir)).contains ∘ under dir = files.contains :=
      funext (contains_map_of_injective (Path.under_strictMono dir).injective files)
    rw [base_under directory relative (inside pointed), candidates_under, List.find?_map, present]

end Resolution

/-! ### Repo maps -/

namespace RepoMap

def under (dir : String) (map : RepoMap) : RepoMap where
  files := map.files.map (Prod.map (Path.under dir) id)
  distinct := by
    rw [Assoc.keys_rename]
    exact List.Nodup.map (Path.under_strictMono dir).injective map.distinct

/-- No path is absolute, and no relative import leads to the top of the repository or out of it. -/
structure Relocatable (map : RepoMap) : Prop where
  relative : ∀ path ∈ map.paths, Path.IsRelative path
  inside : ∀ statement ∈ map.imports, Resolution.isRelative statement.2.source = true →
    Inside (Resolution.base statement.1 statement.2.source)

theorem under_eq_rename (dir : String) (map : RepoMap) :
    map.under dir = map.rename (Path.under dir)
      (List.Nodup.map (Path.under_strictMono dir).injective map.distinct) := rfl

end RepoMap

def Link.under (dir : String) (link : Link) : Link :=
  { link with importer := Path.under dir link.importer, target := Path.under dir link.target }

def Finding.under (dir : String) (finding : Finding) : Finding :=
  { finding with file := Path.under dir finding.file }

section

variable {map : RepoMap} (directory : IsRelativeDirectory dir) (relocatable : map.Relocatable)
  (extensions : List String)

include directory relocatable

theorem Resolution.resolve_of_relocatable {importer : String} {entry : Import}
    (member : (importer, entry) ∈ map.imports) :
    resolve (map.paths.map (under dir)) extensions (under dir importer) entry.source =
      (resolve map.paths extensions importer entry.source).map (under dir) := by
  obtain ⟨record, listed, _⟩ := RepoMap.mem_imports.mp member
  have relative := relocatable.relative importer (List.mem_map_of_mem listed)
  exact resolve_under directory relative (relocatable.inside (importer, entry) member) _ _

theorem RepoMap.links_under :
    (map.under dir).links extensions = (map.links extensions).map (Link.under dir) := by
  rw [under_eq_rename, links_rename]
  · rfl
  · exact fun _ _ => Resolution.resolve_of_relocatable directory relocatable extensions

theorem Graph.ofRepoMap_under :
    ofRepoMap (map.under dir) extensions = (ofRepoMap map extensions).rename (under dir) := by
  rw [RepoMap.under_eq_rename, ofRepoMap_rename]
  exact fun _ _ => Resolution.resolve_of_relocatable directory relocatable extensions

theorem RepoMap.cycles_under :
    (map.under dir).cycles extensions = (map.cycles extensions).map (List.map (Path.under dir)) := by
  rw [cycles, Graph.ofRepoMap_under directory relocatable,
    Graph.cycles_rename (Path.under_strictMono dir).injective, cycles]

/-! ### Look-ups -/

namespace UsageIndex

theorem dependents_under (file : String) :
    (build (map.under dir) extensions).dependents (under dir file) =
      ((build map extensions).dependents file).map (under dir) := by
  rw [dependents, dependents, byFile_build, byFile_build, map.links_under directory relocatable,
    List.map_map, ← Multimap.get_ofPairs_map (Path.under_strictMono dir), List.map_map]
  rfl

omit relocatable in
theorem usagePairs_under (link : Link) :
    usagePairs (link.under dir) = (usagePairs link).map (Prod.map (under dir) (under dir)) := by
  have binds : link.entry.binds (under dir link.target) = link.entry.binds link.target := by
    unfold Import.binds
    rw [directory.stem_under]
  simp [usagePairs, Link.under, binds, symbolKey, Path.under_append]

theorem usages_under (file name : String) :
    (build (map.under dir) extensions).usages (under dir file) name =
      ((build map extensions).usages file name).map (under dir) := by
  have key : symbolKey (under dir file) name = under dir (symbolKey file name) := by
    simp [symbolKey, Path.under_append]
  rw [usages, usages, bySymbol_build, bySymbol_build, map.links_under directory relocatable,
    List.flatMap_map, key, ← Multimap.get_ofPairs_map (Path.under_strictMono dir), List.map_flatMap]
  simp only [usagePairs_under directory]

theorem isFileImported_under (file : String) :
    (build (map.under dir) extensions).isFileImported (under dir file) =
      (build map extensions).isFileImported file := by
  rw [isFileImported, dependents_under directory relocatable, List.isEmpty_map, isFileImported]

theorem isSymbolUsed_under (file name : String) :
    (build (map.under dir) extensions).isSymbolUsed (under dir file) name =
      (build map extensions).isSymbolUsed file name := by
  rw [isSymbolUsed, usages_under directory relocatable, List.isEmpty_map, isSymbolUsed]

end UsageIndex

/-! ### Findings -/

namespace Unused

theorem finding_under (file : String) (entry : Export) :
    finding (.build (map.under dir) extensions) (under dir file) entry =
      (finding (.build map extensions) file entry).under dir := by
  rw [finding, grade, UsageIndex.isFileImported_under directory relocatable]
  rfl

theorem ofFile_under (entryPoints : List String) (file : String) (record : FileRecord) :
    ofFile (.build (map.under dir) extensions) entryPoints (under dir file) record =
      (ofFile (.build map extensions) entryPoints file record).map (Finding.under dir) := by
  have same_stem : isEntryPoint entryPoints (under dir file) = isEntryPoint entryPoints file := by
    rw [isEntryPoint, directory.stem_under, isEntryPoint]
  rw [ofFile, ofFile, same_stem, apply_ite (List.map (Finding.under dir)), List.map_map]
  simp only [UsageIndex.isSymbolUsed_under directory relocatable]
  congr 1
  exact List.map_congr_left fun entry _ => finding_under directory relocatable extensions file entry

theorem find_under (entryPoints : List String) :
    find (map.under dir) (.build (map.under dir) extensions) entryPoints =
      (find map (.build map extensions) entryPoints).map (Finding.under dir) := by
  rw [find, find, RepoMap.under, List.flatMap_map, List.map_flatMap]
  congr 1
  funext ⟨file, record⟩
  exact ofFile_under directory relocatable extensions entryPoints file record

end Unused

namespace Orphans

theorem isOrphan_under (file : String) (declaration : Declaration) :
    isOrphan (.build (map.under dir) extensions) (under dir file) declaration =
      isOrphan (.build map extensions) file declaration := by
  rw [isOrphan, UsageIndex.isSymbolUsed_under directory relocatable,
    UsageIndex.isFileImported_under directory relocatable, isOrphan]

theorem reported_under (named : Declaration → Bool) (file kind role : String)
    (declarations : List Declaration) :
    (declarations.filter (fun declaration => named declaration &&
        isOrphan (.build (map.under dir) extensions) (under dir file) declaration)).map
        (finding (under dir file) kind role) =
      ((declarations.filter (fun declaration => named declaration &&
        isOrphan (.build map extensions) file declaration)).map
        (finding file kind role)).map (Finding.under dir) := by
  simp only [isOrphan_under directory relocatable, List.map_map]
  rfl

theorem classes_under (suffixes : List String) (file : String) (record : FileRecord) :
    classes (.build (map.under dir) extensions) suffixes (under dir file) record =
      (classes (.build map extensions) suffixes file record).map (Finding.under dir) := by
  rw [classes, classes, apply_ite (List.map (Finding.under dir)), reported_under directory relocatable]
  rfl

theorem functions_under (beginnings : List String) (file : String) (record : FileRecord) :
    functions (.build (map.under dir) extensions) beginnings (under dir file) record =
      (functions (.build map extensions) beginnings file record).map (Finding.under dir) := by
  rw [functions, functions, apply_ite (List.map (Finding.under dir)),
    reported_under directory relocatable]
  rfl

theorem find_under (suffixes beginnings : List String) :
    find (map.under dir) (.build (map.under dir) extensions) suffixes beginnings =
      (find map (.build map extensions) suffixes beginnings).map (Finding.under dir) := by
  rw [find, find, RepoMap.under, List.flatMap_map, List.map_flatMap]
  congr 1
  funext ⟨file, record⟩
  rw [List.map_append, ← classes_under directory relocatable, ← functions_under directory relocatable]
  rfl

end Orphans

end

/-- The analyses of a map that is moved as a whole give what they gave before, in the same order, with
every file moved. -/
theorem analyses_relocate {dir : String} {map : RepoMap} (directory : IsRelativeDirectory dir)
    (relocatable : map.Relocatable) (extensions : List String) :
    Graph.ofRepoMap (map.under dir) extensions =
      (Graph.ofRepoMap map extensions).rename (under dir) ∧
    (map.under dir).cycles extensions = (map.cycles extensions).map (List.map (under dir)) ∧
    (∀ entryPoints,
      (Analysis.unused (map.under dir) none extensions entryPoints).value =
        (Analysis.unused map none extensions entryPoints).value.map (Finding.under dir)) ∧
    (∀ suffixes beginnings,
      (Analysis.orphans (map.under dir) none extensions suffixes beginnings).value =
        (Analysis.orphans map none extensions suffixes beginnings).value.map (Finding.under dir)) ∧
    (∀ file name,
      (UsageIndex.build (map.under dir) extensions).usages (under dir file) name =
        ((UsageIndex.build map extensions).usages file name).map (under dir)) ∧
    (∀ file,
      (UsageIndex.build (map.under dir) extensions).dependents (under dir file) =
        ((UsageIndex.build map extensions).dependents file).map (under dir)) :=
  ⟨Graph.ofRepoMap_under directory relocatable extensions,
    RepoMap.cycles_under directory relocatable extensions,
    Unused.find_under directory relocatable extensions,
    Orphans.find_under directory relocatable extensions,
    UsageIndex.usages_under directory relocatable extensions,
    UsageIndex.dependents_under directory relocatable extensions⟩

/-- A file at the top and two below, with an empty segment, a backslash and a detour in what they
import. -/
def RepoMap.nested : RepoMap where
  files := [
    ("app.ts", {
      imports := [{ source := "./lib//store", kind := some "named", names := some ["open"] }] }),
    ("lib/store.ts", {
      exports := [{ name := "open" }, { name := "close" }]
      imports := [{ source := "..\\util" }] }),
    ("util/index.ts", { imports := [{ source := "./x/../../lib/store.ts" }] })]
  distinct := by decide

theorem analyses_relocate_nested :
    IsRelativeDirectory "../packages/core" ∧ RepoMap.nested.Relocatable ∧
      (RepoMap.nested.under "../packages/core").cycles [".ts"] =
        [["../packages/core/lib/store.ts", "../packages/core/util/index.ts",
          "../packages/core/lib/store.ts"]] ∧
      (UsageIndex.build (RepoMap.nested.under "../packages/core") [".ts"]).usages
        "../packages/core/lib/store.ts" "open" = ["../packages/core/app.ts"] := by
  have directory : IsRelativeDirectory "../packages/core" :=
    ⟨by decide, by decide, by decide, by decide⟩
  have relocatable : RepoMap.nested.Relocatable := ⟨by decide, by decide⟩
  obtain ⟨_, cycles, _, _, usages, _⟩ := analyses_relocate directory relocatable [".ts"]
  refine ⟨directory, relocatable, ?_, ?_⟩
  · rw [cycles]
    decide +kernel
  · exact (usages "lib/store.ts" "open").trans (by decide)

end Linkage
