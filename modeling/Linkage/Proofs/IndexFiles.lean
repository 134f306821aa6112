import Linkage.Proofs.Specifiers
/-!
Imports of directories. The index file is looked up under the directory's normal form with a slash and
the file name behind it. Below the top that is the index file's own normal form, and `directory_index`
says that it is found. At the top it is not: there the directory is `.`, while a path in normal form
does not start with `./`.
-/

namespace Linkage

namespace Path

variable {chars segment : List Char} {walked : List (List Char)} {dir path child : String}

/-! ### Normal forms again -/

/-- Each segment leads on from those before it. -/
def Settled : List (List Char) → Prop
  | [] => True
  | last :: before => follow false before last = last :: before ∧ Settled before

theorem Settled.follow (settled : Settled walked) (segment : List Char) :
    Settled (follow false walked segment) := by
  rcases follow_cases walked segment with ⟨_, same⟩ | ⟨rfl, _, same⟩ |
    ⟨_, last, before, rfl, _, same⟩ | ⟨_, _, same⟩
  · rwa [same]
  · rw [same]
    exact ⟨same, settled⟩
  · rw [same]
    exact settled.2
  · rw [same]
    exact ⟨same walked, settled⟩

theorem Settled.walk (settled : Settled walked) (segments : List (List Char)) :
    Settled (walk walked segments) := by
  induction segments generalizing walked with
  | nil => exact settled
  | cons segment segments ih => exact ih (settled.follow segment)

theorem Settled.walk_reverse (settled : Settled walked) : Path.walk [] walked.reverse = walked := by
  induction walked with
  | nil => rfl
  | cons last before ih =>
    rw [List.reverse_cons, walk_append, ih settled.2]
    exact settled.1

theorem walk_again (segments : List (List Char)) :
    walk [] (walk [] segments).reverse = walk [] segments := by
  have start : Settled [] := trivial
  exact (start.walk segments).walk_reverse

theorem head_normalizeChars (absolute : chars.head? = some '/') :
    (normalizeChars chars).head? = some '/' := by
  obtain ⟨rest, rfl⟩ := List.head?_eq_some_iff.mp absolute
  obtain ⟨more, slashes⟩ : ∃ more, leadingSlashes ('/' :: rest) = '/' :: more := by
    unfold leadingSlashes
    split <;> simp_all
  simp [normalizeChars, slashes]

/-- The normal form of a relative path is a directory to start from, unless it is the top. -/
theorem isRelativeDirectory_normalize (relative : path.toList.head? ≠ some '/')
    (slashed : Slashed path) (below : normalize path ≠ ".") : IsRelativeDirectory (normalize path) := by
  have named : normalizeChars path.toList ≠ ['.'] := fun same => below (by rw [normalize, same])
  obtain ⟨somewhere, written⟩ := normalizeChars_named relative named
  have cut : split (normalizeChars path.toList) = (walk [] (split path.toList)).reverse := by
    rw [written, split_join_walk somewhere]
  have parts : [] ∉ split (normalizeChars path.toList) := by
    rw [cut, List.mem_reverse]
    exact nil_not_mem_walk _
  have relative : (normalize path).toList.head? ≠ some '/' := by
    rw [normalize, String.toList_ofList]
    exact head_of_split parts
  refine ⟨normalize_of_walk relative ?_ ?_, relative, below, slashed.normalize⟩
  · rw [normalize, String.toList_ofList, cut, walk_again, List.reverse_reverse]
  · rw [normalize, String.toList_ofList]
    exact ne_nil_of_split parts

/-! ### Files in a directory -/

theorem IsRelativeDirectory.normalize_child (directory : IsRelativeDirectory dir)
    (name : IsName child.toList) (plain : '/' ∉ child.toList) :
    normalize (under dir child) = under dir child := by
  apply normalize_of_walk (head_under directory.toList_ne_nil directory.relative child) _ (by simp)
  rw [toList_under, split_append, walk_append, directory.walk_split, split_plain plain,
    walk_names (by simpa using name), List.reverse_append]

theorem normalize_child_top (name : IsName child.toList) (plain : '/' ∉ child.toList) :
    normalize (under "." child) = child := by
  apply normalize_of_walk (by simp) _ name.1
  have skipped : walk [] (split ".".toList) = [] := rfl
  rw [toList_under, split_append, walk_append, skipped, split_plain plain,
    walk_names (by simpa using name), List.append_nil]

end Path

namespace Resolution

variable {files extensions : List String} {importer specifier dir extension : String}

def indexFile (dir extension : String) : String := Path.normalize (dir ++ "/index" ++ extension)

theorem index_eq_under (dir extension : String) :
    dir ++ "/index" ++ extension = Path.under dir ("index" ++ extension) := by
  apply String.toList_inj.mp
  simp

theorem isName_index (extension : String) : Path.IsName ("index" ++ extension).toList := by
  simp [Path.IsName, Path.parent]

theorem plain_index (plain : '/' ∉ extension.toList) : '/' ∉ ("index" ++ extension).toList := by
  simpa using plain

theorem indexFile_below (directory : Path.IsRelativeDirectory dir) (plain : '/' ∉ extension.toList) :
    dir ++ "/index" ++ extension = indexFile dir extension := by
  rw [indexFile, index_eq_under, directory.normalize_child (isName_index _) (plain_index plain)]

theorem indexFile_top (plain : '/' ∉ extension.toList) :
    indexFile "." extension = "index" ++ extension := by
  rw [indexFile, index_eq_under, Path.normalize_child_top (isName_index _) (plain_index plain)]

theorem isRelativeDirectory_base (leads : base importer specifier = dir)
    (relative : dir.toList.head? ≠ some '/') (below : dir ≠ ".") : Path.IsRelativeDirectory dir := by
  subst leads
  apply Path.isRelativeDirectory_normalize _ _ below
  · intro absolute
    apply relative
    rw [base, Path.normalize, String.toList_ofList, Path.head_normalizeChars absolute]
  · have slash : Path.Slashed "/" := by decide
    exact ((slashed_directory importer).append slash).append (Path.slashed_forwardSlashes specifier)

/-- When neither the path itself nor the path with an extension is a file, the index files are left. -/
theorem resolve_index (pointed : isRelative specifier = true) (leads : base importer specifier = dir)
    (no_file : dir ∉ files) (no_extended : ∀ extension ∈ extensions, dir ++ extension ∉ files) :
    resolve files extensions importer specifier =
      (extensions.find? (fun extension => files.contains (dir ++ "/index" ++ extension))).map
        (dir ++ "/index" ++ ·) := by
  have missed : (dir :: extensions.map (dir ++ ·)).find? files.contains = none := by
    rw [List.find?_eq_none]
    simpa [no_file] using no_extended
  rw [resolve, if_pos pointed, leads, candidates, List.find?_append, missed, Option.none_or,
    List.find?_map]
  rfl

/-- The first index file that exists is taken, where each is looked up as it is written. -/
theorem first_index
    (written : ∀ extension ∈ extensions, dir ++ "/index" ++ extension = indexFile dir extension)
    (indexed : ∃ extension ∈ extensions, indexFile dir extension ∈ files) :
    ∃ before extension after, extensions = before ++ extension :: after ∧
      (∀ earlier ∈ before, indexFile dir earlier ∉ files) ∧ indexFile dir extension ∈ files ∧
      (extensions.find? (fun extension => files.contains (dir ++ "/index" ++ extension))).map
        (dir ++ "/index" ++ ·) = some (indexFile dir extension) := by
  obtain ⟨extension, found⟩ : ∃ extension, extensions.find? (fun extension =>
      files.contains (dir ++ "/index" ++ extension)) = some extension := by
    obtain ⟨extension, listed, present⟩ := indexed
    rw [← Option.isSome_iff_exists, List.find?_isSome]
    exact ⟨extension, listed, by simpa [written extension listed] using present⟩
  obtain ⟨present, before, after, cut, missed⟩ := List.find?_eq_some_iff_append.mp found
  have here := written extension (by simp [cut])
  refine ⟨before, extension, after, cut, ?_, ?_, ?_⟩
  · intro earlier member
    rw [← written earlier (by simp [cut, member])]
    simpa using missed earlier member
  · rw [← here]
    exact List.contains_iff_mem.mp present
  · rw [found, Option.map_some, here]

/-- No path in normal form is what is looked up at the top. -/
theorem no_index_top (normal : ∀ file ∈ files, Path.normalize file = file)
    (plain : '/' ∉ extension.toList) : "." ++ "/index" ++ extension ∉ files := by
  intro present
  have short := indexFile_top plain
  rw [indexFile, normal _ present] at short
  simpa using congrArg (List.head? ∘ String.toList) short

end Resolution

open Linkage.Resolution (base indexFile resolve)

/-- A specifier leads to a directory that has an index file and is not the path of a file, with an
extension or without. Below the top it resolves to the index file with the first extension for which
there is one; at the top it does not resolve. -/
theorem directory_index (files extensions : List String) (importer specifier dir : String)
    (normal : ∀ file ∈ files, Path.normalize file = file)
    (plain : ∀ extension ∈ extensions, '/' ∉ extension.toList)
    (pointed : Resolution.isRelative specifier = true)
    (leads : base importer specifier = dir) (relative : dir.toList.head? ≠ some '/')
    (no_file : dir ∉ files) (no_extended : ∀ extension ∈ extensions, dir ++ extension ∉ files)
    (indexed : ∃ extension ∈ extensions, indexFile dir extension ∈ files) :
    (dir ≠ "." →
      ∃ before extension after, extensions = before ++ extension :: after ∧
        (∀ earlier ∈ before, indexFile dir earlier ∉ files) ∧ indexFile dir extension ∈ files ∧
        resolve files extensions importer specifier = some (indexFile dir extension)) ∧
    (dir = "." → resolve files extensions importer specifier = none) := by
  rw [Resolution.resolve_index pointed leads no_file no_extended]
  constructor
  · intro below
    have directory := Resolution.isRelativeDirectory_base leads relative below
    apply Resolution.first_index _ indexed
    exact fun extension listed => Resolution.indexFile_below directory (plain extension listed)
  · rintro rfl
    rw [Option.map_eq_none_iff, List.find?_eq_none]
    intro extension listed present
    exact Resolution.no_index_top normal (plain extension listed) (List.contains_iff_mem.mp present)

def twoIndexes : List String := ["lib/ui/index.js", "lib/ui/index.ts", "src/app.js"]

theorem directory_index_nested :
    (∀ file ∈ twoIndexes, Path.normalize file = file) ∧
      base "src/app.js" "../lib//ui/." = "lib/ui" ∧ indexFile "lib/ui" ".ts" ∈ twoIndexes ∧
      (∃ before extension after, [".jsx", ".ts", ".js"] = before ++ extension :: after ∧
        (∀ earlier ∈ before, indexFile "lib/ui" earlier ∉ twoIndexes) ∧
        indexFile "lib/ui" extension ∈ twoIndexes ∧
        resolve twoIndexes [".jsx", ".ts", ".js"] "src/app.js" "../lib//ui/." =
          some (indexFile "lib/ui" extension)) ∧
      resolve twoIndexes [".jsx", ".ts", ".js"] "src/app.js" "../lib//ui/." = some "lib/ui/index.ts" := by
  have normal : ∀ file ∈ twoIndexes, Path.normalize file = file := by decide
  have leads : base "src/app.js" "../lib//ui/." = "lib/ui" := by decide
  have listed : indexFile "lib/ui" ".ts" ∈ twoIndexes := by decide
  have found := directory_index twoIndexes [".jsx", ".ts", ".js"] "src/app.js" "../lib//ui/." "lib/ui"
    normal (by decide) (by decide) leads (by decide) (by decide) (by decide)
    ⟨".ts", by decide, listed⟩
  exact ⟨normal, leads, listed, found.1 (by decide), by decide⟩

/-- The index file of the top directory is not found: what is looked up is `./index.js`. -/
theorem top_index_unresolved :
    (∀ file ∈ ["index.js", "src/app.js"], Path.normalize file = file ∧ file.toList.head? ≠ some '/') ∧
      (∀ extension ∈ [".js"], extension.toList.head? = some '.' ∧ '/' ∉ extension.toList) ∧
      Resolution.isRelative ".." = true ∧ base "src/app.js" ".." = "." ∧
      "." ∉ ["index.js", "src/app.js"] ∧
      (∀ extension ∈ [".js"], "." ++ extension ∉ ["index.js", "src/app.js"]) ∧
      indexFile "." ".js" = "index.js" ∧ indexFile "." ".js" ∈ ["index.js", "src/app.js"] ∧
      resolve ["index.js", "src/app.js"] [".js"] "src/app.js" ".." = none := by
  decide

end Linkage
