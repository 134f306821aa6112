import Linkage.Proofs.Graph.Walks
import Mathlib.Data.List.Basic
/-!
Adding a file to a repo map and taking one out. An import takes the first of its candidates that is a
file, so a file that comes or goes matters only to the imports that resolve to it:
`imports_of_others_kept`.
-/

namespace Linkage

/-- One file more or less: an import resolves as without it, or to it. -/
theorem Resolution.resolve_one_more {files wider : List String} {path : String}
    (kept : files ⊆ wider) (only : ∀ file ∈ wider, file ∈ files ∨ file = path)
    (extensions : List String) (importer specifier : String) :
    resolve wider extensions importer specifier = resolve files extensions importer specifier ∨
      resolve wider extensions importer specifier = some path := by
  have candidates_kept : ∀ candidate ∈ candidates (base importer specifier) extensions,
      candidate ∈ files → candidate ∈ wider := fun _ _ listed => kept listed
  rcases resolve_widen candidates_kept with same | ⟨target, new, resolved⟩
  · exact Or.inl same
  · obtain old | rfl := only target (mem_of_resolve resolved)
    · exact absurd old new
    · exact Or.inr resolved

theorem filterMap_sublist {α β : Type} {f g : α → Option β} {items : List α}
    (kept : ∀ item ∈ items, ∀ value, f item = some value → g item = some value) :
    (items.filterMap f).Sublist (items.filterMap g) := by
  have chosen : items.filterMap f = (items.filter (fun item => (f item).isSome)).filterMap g := by
    rw [List.filterMap_filter]
    apply List.filterMap_congr
    intro item member
    cases found : f item with
    | none => rfl
    | some value => simp [kept item member value found]
  rw [chosen]
  exact List.filter_sublist.filterMap g

namespace RepoMap

variable {map : RepoMap} {path importer : String} {record : FileRecord} {entry : Import}
  {extensions : List String}

/-! ### A file more -/

theorem files_put (absent : path ∉ map.paths) :
    (map.put path record).files = map.files ++ [(path, record)] :=
  Assoc.put_of_absent absent

theorem paths_put (absent : path ∉ map.paths) : (map.put path record).paths = map.paths ++ [path] := by
  rw [paths, files_put absent, Assoc.keys, List.map_append]
  rfl

theorem imports_put (absent : path ∉ map.paths) :
    (map.put path record).imports = map.imports ++ record.imports.map (path, ·) := by
  rw [imports, files_put absent, List.flatMap_append, List.flatMap_singleton]
  rfl

theorem resolve_put (absent : path ∉ map.paths) (record : FileRecord) (extensions : List String)
    (importer specifier : String) :
    Resolution.resolve (map.put path record).paths extensions importer specifier =
        Resolution.resolve map.paths extensions importer specifier ∨
      Resolution.resolve (map.put path record).paths extensions importer specifier = some path := by
  rw [paths_put absent]
  apply Resolution.resolve_one_more (List.subset_append_left _ _)
  intro file listed
  simpa using listed

/-- The links that neither start nor end at the new file were there before. -/
theorem links_put_sublist (absent : path ∉ map.paths) :
    (((map.put path record).links extensions).filter
      (fun link => link.importer != path && link.target != path)).Sublist (map.links extensions) := by
  rw [links, imports_put absent, List.filterMap_append, List.filter_append,
    ← List.append_nil (map.links extensions)]
  apply List.Sublist.append
  · -- An import of another file that does not resolve to the new one is a link of the old map too.
    rw [List.filter_filterMap]
    apply filterMap_sublist
    rintro ⟨importer, entry⟩ _ link found
    obtain ⟨linked, avoids⟩ := Option.filter_eq_some_iff.mp found
    obtain ⟨target, resolved, rfl⟩ := Option.map_eq_some_iff.mp linked
    rcases resolve_put absent record extensions importer entry.source with same | new
    · rw [Option.map_eq_some_iff]
      exact ⟨target, same.symm.trans resolved, rfl⟩
    · obtain rfl : path = target := Option.some.inj (new.symm.trans resolved)
      simp at avoids
  · rw [List.sublist_nil, List.filter_eq_nil_iff]
    intro link member
    obtain ⟨⟨importer, entry⟩, listed, found⟩ := List.mem_filterMap.mp member
    obtain ⟨_, _, same⟩ := List.mem_map.mp listed
    obtain ⟨target, _, rfl⟩ := Option.map_eq_some_iff.mp found
    simp [← (Prod.mk.inj same).1]

/-! ### A file less -/

theorem mem_paths_erase {file : String} :
    file ∈ (map.erase path).paths ↔ file ∈ map.paths ∧ file ≠ path := by
  simp only [paths, erase, Assoc.keys, Assoc.erase, List.mem_map, List.mem_filter, bne_iff_ne]
  constructor
  · rintro ⟨entry, ⟨listed, other⟩, rfl⟩
    exact ⟨⟨entry, listed, rfl⟩, other⟩
  · rintro ⟨⟨entry, listed, rfl⟩, other⟩
    exact ⟨entry, ⟨listed, other⟩, rfl⟩

theorem mem_imports_erase (stands : (importer, entry) ∈ map.imports) (other : importer ≠ path) :
    (importer, entry) ∈ (map.erase path).imports := by
  obtain ⟨record, listed, inside⟩ := mem_imports.mp stands
  exact mem_imports.mpr ⟨record, List.mem_filter.mpr ⟨listed, by simpa using other⟩, inside⟩

theorem resolve_erase {specifier : String}
    (elsewhere : Resolution.resolve map.paths extensions importer specifier ≠ some path) :
    Resolution.resolve (map.erase path).paths extensions importer specifier =
      Resolution.resolve map.paths extensions importer specifier := by
  have kept : (map.erase path).paths ⊆ map.paths := fun _ listed => (mem_paths_erase.mp listed).1
  have only : ∀ file ∈ map.paths, file ∈ (map.erase path).paths ∨ file = path := by
    intro file listed
    by_cases same : file = path
    · exact Or.inr same
    · exact Or.inl (mem_paths_erase.mpr ⟨listed, same⟩)
  rcases Resolution.resolve_one_more kept only extensions importer specifier with same | found
  · exact same.symm
  · exact absurd found elsewhere

end RepoMap

open Linkage.Resolution (resolve)

/-- A file that is added changes no import of the other files unless that import now resolves to it,
so that the edges away from it were there before and in the same order. A file that is taken out
changes no import of the other files unless that import resolved to it. -/
theorem imports_of_others_kept (extensions : List String) :
    (∀ (map : RepoMap) (path : String) (record : FileRecord), path ∉ map.paths →
      (∀ importer entry, (importer, entry) ∈ map.imports →
        (importer, entry) ∈ (map.put path record).imports ∧
        (resolve (map.put path record).paths extensions importer entry.source =
            resolve map.paths extensions importer entry.source ∨
          resolve (map.put path record).paths extensions importer entry.source = some path)) ∧
      ((Graph.ofRepoMap (map.put path record) extensions).edges.filter
        (fun edge => edge.source != path && edge.target != path)).Sublist
        (Graph.ofRepoMap map extensions).edges) ∧
    (∀ (map : RepoMap) (path importer : String) (entry : Import), (importer, entry) ∈ map.imports →
      importer ≠ path → resolve map.paths extensions importer entry.source ≠ some path →
      (importer, entry) ∈ (map.erase path).imports ∧
      resolve (map.erase path).paths extensions importer entry.source =
        resolve map.paths extensions importer entry.source) := by
  constructor
  · intro map path record absent
    constructor
    · intro importer entry stands
      rw [RepoMap.imports_put absent]
      exact ⟨List.mem_append_left _ stands, RepoMap.resolve_put absent record extensions _ _⟩
    · rw [Graph.ofRepoMap_eq, Graph.ofRepoMap_eq, List.filter_map]
      exact (RepoMap.links_put_sublist absent).map _
  · intro map path importer entry stands other elsewhere
    exact ⟨RepoMap.mem_imports_erase stands other, RepoMap.resolve_erase elsewhere⟩

/-- A file that imports a directory, a missing file and a file in that directory, which imports it
in turn. -/
def RepoMap.layered : RepoMap where
  files := [
    ("app.ts", {
      imports := [{ source := "./lib" }, { source := "./gone" }, { source := "./lib/index" }] }),
    ("lib/index.ts", { imports := [{ source := "../app" }] })]
  distinct := by decide

def RepoMap.overlaid : RepoMap := layered.put "lib.ts" { imports := [{ source := "./app" }] }

/-- The new file stands before the index file of the directory, and nothing else changes. When it is
taken out, the import of the index file still resolves, and the missing file is still missing. -/
theorem imports_of_others_kept_layered :
    "lib.ts" ∉ RepoMap.layered.paths ∧
      (Graph.ofRepoMap .layered [".ts"]).edges =
        [⟨"app.ts", "lib/index.ts"⟩, ⟨"app.ts", "lib/index.ts"⟩, ⟨"lib/index.ts", "app.ts"⟩] ∧
      (Graph.ofRepoMap .overlaid [".ts"]).edges =
        [⟨"app.ts", "lib.ts"⟩, ⟨"app.ts", "lib/index.ts"⟩, ⟨"lib/index.ts", "app.ts"⟩,
          ⟨"lib.ts", "app.ts"⟩] ∧
      ((Graph.ofRepoMap .overlaid [".ts"]).edges.filter
        (fun edge => edge.source != "lib.ts" && edge.target != "lib.ts")).Sublist
        (Graph.ofRepoMap .layered [".ts"]).edges ∧
      resolve (RepoMap.overlaid.erase "lib.ts").paths [".ts"] "app.ts" "./lib/index" =
        some "lib/index.ts" ∧
      resolve (RepoMap.overlaid.erase "lib.ts").paths [".ts"] "app.ts" "./gone" = none := by
  have absent : "lib.ts" ∉ RepoMap.layered.paths := by decide
  obtain ⟨added, removed⟩ := imports_of_others_kept [".ts"]
  have kept := removed .overlaid "lib.ts" "app.ts" { source := "./lib/index" } (by decide)
    (by decide) (by decide)
  have missing := removed .overlaid "lib.ts" "app.ts" { source := "./gone" } (by decide)
    (by decide) (by decide)
  exact ⟨absent, by decide, by decide, (added _ _ _ absent).2, kept.2.trans (by decide),
    missing.2.trans (by decide)⟩

end Linkage
