import Linkage.RepoMap.Basic
/-!
Which imports of a repo map resolve, and to what. A resolved import leads from a file of the map to
a file of the map. `foldl_links`: a loop over the files and their statements that passes over what
does not resolve is a loop over the resolved imports.
-/

namespace Linkage

namespace Resolution

variable {files wider extensions : List String} {importer specifier target : String}

theorem mem_of_resolve (resolved : resolve files extensions importer specifier = some target) :
    target ∈ files := by
  unfold resolve at resolved
  split at resolved
  · simpa using List.find?_some resolved
  · cases resolved

theorem find?_widen {candidates : List String}
    (kept : ∀ candidate ∈ candidates, candidate ∈ files → candidate ∈ wider) :
    candidates.find? wider.contains = candidates.find? files.contains ∨
      ∃ target, target ∉ files ∧ candidates.find? wider.contains = some target := by
  induction candidates with
  | nil => exact Or.inl rfl
  | cons candidate candidates ih =>
    obtain ⟨here, later⟩ := List.forall_mem_cons.mp kept
    rw [List.find?_cons, List.find?_cons]
    by_cases found : candidate ∈ wider
    · by_cases before : candidate ∈ files
      · exact Or.inl (by simp [found, before])
      · exact Or.inr ⟨candidate, before, by simp [found]⟩
    · simpa [found, mt here found] using ih later

/-- Among more files an import resolves as before or to a file that is new. -/
theorem resolve_widen
    (kept : ∀ candidate ∈ candidates (base importer specifier) extensions,
      candidate ∈ files → candidate ∈ wider) :
    resolve wider extensions importer specifier = resolve files extensions importer specifier ∨
      ∃ target, target ∉ files ∧ resolve wider extensions importer specifier = some target := by
  unfold resolve
  split
  · exact find?_widen kept
  · exact Or.inl rfl

end Resolution

/-- An import statement that resolves: the importer, the statement and the file it reaches. -/
structure Link where
  importer : String
  entry : Import
  target : String
  deriving DecidableEq, Repr

namespace RepoMap

/-- The imports that resolve within the map, in map order. -/
def links (map : RepoMap) (extensions : List String) : List Link :=
  map.imports.filterMap (fun (importer, entry) =>
    (Resolution.resolve map.paths extensions importer entry.source).map (⟨importer, entry, ·⟩))

theorem foldl_links {α : Type} (map : RepoMap) (step : α → Link → α) {extensions : List String}
    {visit : String → α → Import → α}
    (visits : ∀ importer found entry, visit importer found entry =
      (Resolution.resolve map.paths extensions importer entry.source).elim found
        (fun target => step found ⟨importer, entry, target⟩)) (start : α) :
    map.files.foldl (fun found file => file.2.imports.foldl (visit file.1) found) start =
      (map.links extensions).foldl step start := by
  rw [links, imports, List.foldl_filterMap, List.foldl_flatMap]
  simp only [List.foldl_map]
  congr 1
  funext found file
  congr 1
  funext found entry
  rw [visits]
  cases Resolution.resolve map.paths extensions file.1 entry.source <;> rfl

/-- A file of the map holds the statement, which resolves to the target. -/
def Resolves (map : RepoMap) (extensions : List String) (importer : String) (entry : Import)
    (target : String) : Prop :=
  (∃ record, (importer, record) ∈ map.files ∧ entry ∈ record.imports) ∧
    Resolution.resolve map.paths extensions importer entry.source = some target

theorem mem_imports {map : RepoMap} {importer : String} {entry : Import} :
    (importer, entry) ∈ map.imports ↔
      ∃ record, (importer, record) ∈ map.files ∧ entry ∈ record.imports := by
  simp only [imports, List.mem_flatMap, List.mem_map, Prod.mk.injEq, Prod.exists]
  constructor
  · rintro ⟨_, record, listed, _, inside, rfl, rfl⟩
    exact ⟨record, listed, inside⟩
  · rintro ⟨record, listed, inside⟩
    exact ⟨importer, record, listed, entry, inside, rfl, rfl⟩

theorem mem_links {map : RepoMap} {extensions : List String} {link : Link} :
    link ∈ map.links extensions ↔ map.Resolves extensions link.importer link.entry link.target := by
  obtain ⟨importer, entry, target⟩ := link
  simp only [links, List.mem_filterMap, Prod.exists, Option.map_eq_some_iff, Link.mk.injEq, Resolves,
    mem_imports]
  constructor
  · rintro ⟨_, _, stands, _, resolved, rfl, rfl, rfl⟩
    exact ⟨stands, resolved⟩
  · rintro ⟨stands, resolved⟩
    exact ⟨importer, entry, stands, target, resolved, rfl, rfl, rfl⟩

theorem Resolves.mem_paths {map : RepoMap} {extensions : List String} {importer target : String}
    {entry : Import} (resolves : map.Resolves extensions importer entry target) :
    importer ∈ map.paths ∧ target ∈ map.paths := by
  obtain ⟨⟨record, listed, _⟩, resolved⟩ := resolves
  exact ⟨List.mem_map_of_mem listed, Resolution.mem_of_resolve resolved⟩

end RepoMap

end Linkage
