import Linkage.Proofs.Dependents
/-!
Usages of single names. A name of a file is looked up under one text, and that text tells the file
only as far as colons allow: `lib.ts:v2` with the name `open` and `lib.ts` with the name `v2:open`
have one key. Where no other file that is imported may have the key, the usages are exact.
-/

namespace Linkage

theorem Import.binds_iff {entry : Import} {target name : String} :
    entry.Binds target name ↔
      ((entry.kind = some "named" ∨ entry.kind = some "import") ∧
        ∃ names, entry.names = some names ∧ name ∈ names) ∨
      (entry.kind = some "default" ∧ name = Path.stem target) := by
  constructor
  · intro binds
    cases binds with
    | named kind listed member => exact Or.inl ⟨kind, _, listed, member⟩
    | default kind => exact Or.inr ⟨kind, rfl⟩
  · rintro (⟨kind, names, listed, member⟩ | ⟨kind, same⟩)
    · exact .named kind listed member
    · rw [same]
      exact .default kind

namespace UsageIndex

variable {map : RepoMap} {extensions : List String} {file name importer : String}

theorem toList_symbolKey (file name : String) :
    (symbolKey file name).toList = file.toList ++ ':' :: name.toList := by
  simp [symbolKey]

theorem symbolKey_left_inj {bound : String} :
    symbolKey file bound = symbolKey file name ↔ bound = name := by
  rw [← String.toList_inj, toList_symbolKey, toList_symbolKey]
  simp [String.toList_inj]

/-- Of the files that are imported, no other one may have the key: none has a path that, with a colon
after it, begins the key. -/
def Unshared (map : RepoMap) (extensions : List String) (file name : String) : Prop :=
  ∀ path, map.ImportsFile extensions path →
    path.toList ++ [':'] <+: (symbolKey file name).toList → path = file

theorem importsFile_iff_key {path : String} :
    map.ImportsFile extensions path ↔ path ∈ Assoc.keys (build map extensions).byFile := by
  rw [mem_keys_byFile]
  exact exists_congr fun _ => mem_dependents.symm

instance (map : RepoMap) (extensions : List String) (file name : String) :
    Decidable (Unshared map extensions file name) :=
  decidable_of_iff
    (∀ path ∈ Assoc.keys (build map extensions).byFile,
      path.toList ++ [':'] <+: (symbolKey file name).toList → path = file)
    (forall_congr' fun _ => imp_congr_left importsFile_iff_key.symm)

/-- A text is read back from what starts with it by cutting at the first colon. -/
theorem takeWhile_before_colon {before : List Char} (rest : List Char) (plain : ':' ∉ before) :
    (before ++ ':' :: rest).takeWhile (· != ':') = before := by
  rw [List.takeWhile_append_of_pos]
  · simp
  · intro c member
    exact bne_iff_ne.mpr fun same => plain (same ▸ member)

theorem unshared_of_no_colon (paths : ∀ path ∈ map.paths, ':' ∉ path.toList)
    (plain : ':' ∉ file.toList) : Unshared map extensions file name := by
  rintro path ⟨_, _, resolves⟩ ⟨rest, whole⟩
  have plainPath := paths path resolves.mem_paths.2
  rw [List.append_assoc, List.singleton_append, toList_symbolKey] at whole
  have same : path.toList = file.toList := by
    rw [← takeWhile_before_colon rest plainPath, whole, takeWhile_before_colon _ plain]
  exact String.toList_inj.mp same

theorem begins_symbolKey (file name : String) :
    file.toList ++ [':'] <+: (symbolKey file name).toList := by
  rw [toList_symbolKey]
  exact ⟨name.toList, by simp⟩

theorem Unshared.mem_usages (unshared : Unshared map extensions file name) :
    importer ∈ (build map extensions).usages file name ↔
      ∃ entry, map.Resolves extensions importer entry file ∧ entry.Binds file name := by
  constructor
  · intro used
    obtain ⟨entry, target, bound, resolves, binds, same⟩ := UsageIndex.mem_usages.mp used
    have begins := begins_symbolKey target bound
    rw [same] at begins
    obtain rfl := unshared target ⟨importer, entry, resolves⟩ begins
    obtain rfl := symbolKey_left_inj.mp same
    exact ⟨entry, resolves, binds⟩
  · rintro ⟨entry, resolves, binds⟩
    exact UsageIndex.mem_usages.mpr ⟨entry, file, name, resolves, binds, rfl⟩

/-- Without colons in paths, the usages of a name of a file are the files with an import that
resolves to the file and binds the name, each once and in ascending order. An import binds the names
it lists when it is a named one, and the stem of its target when it is a default one. -/
theorem usages_exact (map : RepoMap) (extensions : List String) (file name : String)
    (paths : ∀ path ∈ map.paths, ':' ∉ path.toList) (plain : ':' ∉ file.toList) :
    ((build map extensions).usages file name).Pairwise (· < ·) ∧
    ∀ importer, importer ∈ (build map extensions).usages file name ↔
      ∃ entry, map.Resolves extensions importer entry file ∧
        (((entry.kind = some "named" ∨ entry.kind = some "import") ∧
            ∃ names, entry.names = some names ∧ name ∈ names) ∨
          (entry.kind = some "default" ∧ name = Path.stem file)) := by
  refine ⟨pairwise_usages, ?_⟩
  intro importer
  rw [(unshared_of_no_colon paths plain).mem_usages]
  simp only [Import.binds_iff]

/-- One file imports a name with a colon in it, twice. Another one imports the whole file, and by name
nothing. -/
def versioned : RepoMap where
  files :=
    [("use.ts", { imports :=
        [{ source := "./lib", kind := some "named", names := some ["close", "v2:open"] },
          { source := "./lib", kind := some "import", names := some ["v2:open"] }] }),
      ("all.ts", { imports :=
        [{ source := "./lib", kind := some "namespace", names := some ["v2:open"] },
          { source := "./lib", kind := some "named" }] }),
      ("lib.ts", {})]
  distinct := by decide

theorem usages_exact_versioned :
    (∀ path ∈ versioned.paths, ':' ∉ path.toList) ∧ ':' ∉ "lib.ts".toList ∧
      ((build versioned [".ts"]).usages "lib.ts" "v2:open").Pairwise (· < ·) ∧
      "use.ts" ∈ (build versioned [".ts"]).usages "lib.ts" "v2:open" ∧
      "all.ts" ∉ (build versioned [".ts"]).usages "lib.ts" "v2:open" := by
  have paths : ∀ path ∈ versioned.paths, ':' ∉ path.toList := by decide
  have plain : ':' ∉ "lib.ts".toList := by decide
  obtain ⟨ascending, uses⟩ := usages_exact versioned [".ts"] "lib.ts" "v2:open" paths plain
  have resolves : versioned.Resolves [".ts"] "use.ts"
      { source := "./lib", kind := some "import", names := some ["v2:open"] } "lib.ts" := by
    refine ⟨⟨_, List.mem_cons_self, ?_⟩, by decide⟩
    exact List.mem_cons_of_mem _ List.mem_cons_self
  refine ⟨paths, plain, ascending, ?_, by decide⟩
  exact (uses "use.ts").mpr ⟨_, resolves, Or.inl ⟨Or.inr rfl, _, rfl, List.mem_cons_self⟩⟩

/-- Where no other file that is imported may have the key of the name, every file that uses the name
depends on the file, and the name counts as used only by an import that resolves to the file. -/
theorem usages_subset_dependents (map : RepoMap) (extensions : List String) (file name : String)
    (unshared : Unshared map extensions file name) :
    (∀ importer ∈ (build map extensions).usages file name,
      importer ∈ (build map extensions).dependents file) ∧
    ((build map extensions).isSymbolUsed file name = true →
      ∃ importer entry, map.Resolves extensions importer entry file ∧ entry.Binds file name) := by
  constructor
  · intro importer used
    obtain ⟨entry, resolves, _⟩ := unshared.mem_usages.mp used
    exact mem_dependents.mpr ⟨entry, resolves⟩
  · intro used
    obtain ⟨importer, member⟩ := isSymbolUsed_iff_exists.mp used
    exact ⟨importer, unshared.mem_usages.mp member⟩

def colliding : RepoMap where
  files :=
    [("lib.ts", { exports := [{ name := "v2:open" }] }),
      ("lib.ts:v2", { exports := [{ name := "open" }] }),
      ("app.ts", { imports :=
        [{ source := "./lib.ts:v2", kind := some "named", names := some ["open"] }] })]
  distinct := by decide

theorem usages_subset_dependents_colliding :
    Unshared colliding [".ts"] "lib.ts:v2" "open" ∧
      "app.ts" ∈ (build colliding [".ts"]).usages "lib.ts:v2" "open" ∧
      "app.ts" ∈ (build colliding [".ts"]).dependents "lib.ts:v2" := by
  have unshared : Unshared colliding [".ts"] "lib.ts:v2" "open" := by decide
  have used : "app.ts" ∈ (build colliding [".ts"]).usages "lib.ts:v2" "open" := by decide
  exact ⟨unshared, used, (usages_subset_dependents _ _ _ _ unshared).1 _ used⟩

/-- The key alone does not tell the file: what is imported from one counts as used from another, which
nobody imports. -/
theorem usage_without_dependent :
    ¬∀ (map : RepoMap) (extensions : List String) (file name importer : String),
      importer ∈ (build map extensions).usages file name →
        importer ∈ (build map extensions).dependents file := by
  intro subset
  have used : "app.ts" ∈ (build colliding [".ts"]).usages "lib.ts" "v2:open" := by decide
  have independent : "app.ts" ∉ (build colliding [".ts"]).dependents "lib.ts" := by decide
  exact independent (subset _ _ _ _ _ used)

end UsageIndex

end Linkage
