import Linkage.Proofs.Graph.Renaming
import Linkage.Proofs.Path
import Linkage.Proofs.Usages
import Mathlib.Data.List.Nodup
/-!
Separators in the paths of a repo map. The path that a specifier stands for is written with slashes,
whatever separators the importer and the specifier have, but it is looked up among the paths of the
map as they stand. `slashes_rename_graph_iff`: writing slashes for all backslashes in the paths of a
map does no more than rename the nodes of its graph, unless some import then reaches a file that was
written with a backslash before.
-/

namespace Linkage

namespace Path

variable {path other : String} {chars segment : List Char} {segments walked : List (List Char)}
  {c : Char}

def Slashed (path : String) : Prop := '\\' ∉ path.toList

instance (path : String) : Decidable (Slashed path) := inferInstanceAs (Decidable (_ ∉ _))

theorem slashed_forwardSlashes (path : String) : Slashed (forwardSlashes path) := by
  intro member
  rw [forwardSlashes, String.toList_ofList] at member
  obtain ⟨c, _, written⟩ := List.mem_map.mp member
  split at written
  · exact absurd written (by decide)
  · contradiction

theorem Slashed.forwardSlashes_eq (slashed : Slashed path) : forwardSlashes path = path := by
  rw [forwardSlashes, map_slash_eq_self slashed, String.ofList_toList]

theorem forwardSlashes_idem (path : String) :
    forwardSlashes (forwardSlashes path) = forwardSlashes path :=
  (slashed_forwardSlashes path).forwardSlashes_eq

theorem Slashed.append (slashed : Slashed path) (also : Slashed other) : Slashed (path ++ other) := by
  rw [Slashed, String.toList_append, List.mem_append, not_or]
  exact ⟨slashed, also⟩

/-! ### Characters of directories and normal forms -/

theorem dirname_subset (path : String) : (dirname path).toList ⊆ path.toList := by
  intro c member
  have before : c ∈ path.toList.reverse.dropWhile (· != '/') := by
    rw [dirname, String.toList_ofList] at member
    split at member
    · exact member
    · exact (List.dropWhile_sublist _).subset (List.mem_reverse.mp member)
  exact List.mem_reverse.mp ((List.dropWhile_sublist _).subset before)

theorem mem_join : c ∈ join segments → c = '/' ∨ ∃ segment ∈ segments, c ∈ segment := by
  fun_induction join segments with
  | case1 => simp
  | case2 segment => exact fun member => Or.inr ⟨segment, List.mem_cons_self, member⟩
  | case3 segment segments _ ih =>
    intro member
    rcases List.mem_append.mp member with here | later
    · exact Or.inr ⟨segment, List.mem_cons_self, here⟩
    · rcases List.mem_cons.mp later with slash | later
      · exact Or.inl slash
      · refine (ih later).imp_right ?_
        rintro ⟨piece, inside, member⟩
        exact ⟨piece, List.mem_cons_of_mem _ inside, member⟩

theorem subset_join (piece : segment ∈ segments) : segment ⊆ join segments := by
  fun_induction join segments with
  | case1 => cases piece
  | case2 other =>
    rw [List.mem_singleton.mp piece]
    exact List.Subset.refl _
  | case3 first segments _ ih =>
    rcases List.mem_cons.mp piece with rfl | later
    · exact List.subset_append_left _ _
    · intro c member
      exact List.mem_append_right _ (List.mem_cons_of_mem _ (ih later member))

theorem subset_of_mem_split (piece : segment ∈ split chars) : segment ⊆ chars := by
  have whole := subset_join piece
  rwa [join_split] at whole

theorem mem_follows {rooted : Bool} (member : segment ∈ segments.foldl (follow rooted) walked) :
    segment ∈ walked ∨ segment ∈ segments := by
  induction segments generalizing walked with
  | nil => exact Or.inl member
  | cons next segments ih =>
    rcases ih member with before | later
    · rcases mem_follow before with before | ⟨rfl, _⟩
      · exact Or.inl before
      · exact Or.inr List.mem_cons_self
    · exact Or.inr (List.mem_cons_of_mem _ later)

theorem mem_leadingSlashes (member : c ∈ leadingSlashes chars) : c = '/' := by
  unfold leadingSlashes at member
  split at member <;> simp_all

theorem mem_normalizeChars (member : c ∈ normalizeChars chars) :
    c = '.' ∨ c = '/' ∨ c ∈ chars := by
  unfold normalizeChars at member
  dsimp only at member
  split at member
  · exact Or.inl (List.mem_singleton.mp member)
  · right
    rcases List.mem_append.mp member with leading | inside
    · exact Or.inl (mem_leadingSlashes leading)
    · refine (mem_join inside).imp_right ?_
      rintro ⟨segment, walked, inside⟩
      have piece := (mem_follows (List.mem_reverse.mp walked)).resolve_left List.not_mem_nil
      exact subset_of_mem_split piece inside

theorem Slashed.normalize (slashed : Slashed path) : Slashed (normalize path) := by
  intro member
  rw [Path.normalize, String.toList_ofList] at member
  rcases mem_normalizeChars member with dot | slash | inside
  · exact absurd dot (by decide)
  · exact absurd slash (by decide)
  · exact slashed inside

end Path

open Linkage.Path (Slashed forwardSlashes)

/-! ### Resolution -/

namespace Resolution

variable {files extensions : List String} {importer specifier target candidate : String}

theorem slashed_directory (importer : String) : Slashed (directory importer) := by
  unfold directory
  dsimp only
  split
  · decide
  · exact fun member => Path.slashed_forwardSlashes importer (Path.dirname_subset _ member)

theorem slashed_base (importer specifier : String) : Slashed (base importer specifier) := by
  have slash : Slashed "/" := by decide
  exact (((slashed_directory importer).append slash).append
    (Path.slashed_forwardSlashes specifier)).normalize

theorem base_forwardSlashes (importer specifier : String) :
    base (forwardSlashes importer) specifier = base importer specifier := by
  rw [base, base, directory, directory, Path.forwardSlashes_idem]

variable (slashed : ∀ extension ∈ extensions, Slashed extension)

include slashed

theorem slashed_candidate (member : candidate ∈ candidates (base importer specifier) extensions) :
    Slashed candidate := by
  have bare := slashed_base importer specifier
  have index : Slashed "/index" := by decide
  simp only [candidates, List.mem_append, List.mem_cons, List.mem_map] at member
  rcases member with (rfl | ⟨extension, listed, rfl⟩) | ⟨extension, listed, rfl⟩
  · exact bare
  · exact bare.append (slashed extension listed)
  · exact (bare.append index).append (slashed extension listed)

theorem slashed_of_resolve (resolved : resolve files extensions importer specifier = some target) :
    Slashed target := by
  unfold resolve at resolved
  split at resolved
  · exact slashed_candidate slashed (List.mem_of_find?_eq_some resolved)
  · cases resolved

/-- With slashes in all paths, an import resolves as before or reaches a path that is new: no
candidate has a backslash, so the paths that had none still answer for it. -/
theorem resolve_forwardSlashes (files : List String) (importer specifier : String) :
    resolve (files.map forwardSlashes) extensions (forwardSlashes importer) specifier =
      resolve files extensions importer specifier ∨
    ∃ target, target ∉ files ∧
      resolve (files.map forwardSlashes) extensions (forwardSlashes importer) specifier =
        some target := by
  have ignored : resolve (files.map forwardSlashes) extensions (forwardSlashes importer) specifier =
      resolve (files.map forwardSlashes) extensions importer specifier := by
    rw [resolve, base_forwardSlashes, resolve]
  rw [ignored]
  apply resolve_widen
  intro candidate member listed
  have same := (slashed_candidate slashed member).forwardSlashes_eq
  exact List.mem_map.mpr ⟨candidate, listed, same⟩

end Resolution

/-! ### Graphs -/

namespace Graph

variable {map : RepoMap} {extensions : List String}
  (distinct : (map.paths.map forwardSlashes).Nodup)
  (slashed : ∀ extension ∈ extensions, Slashed extension)

include slashed

/-- Where no file that was written with a backslash is reached, the imports resolve as before. -/
theorem ofRepoMap_forwardSlashes
    (unreached : ∀ path ∈ map.paths, ¬Slashed path →
      ¬(map.rename forwardSlashes distinct).ImportsFile extensions (forwardSlashes path)) :
    ofRepoMap (map.rename forwardSlashes distinct) extensions =
      (ofRepoMap map extensions).rename forwardSlashes := by
  apply ofRepoMap_rename
  intro importer entry member
  rcases Resolution.resolve_forwardSlashes slashed map.paths importer entry.source with
    same | ⟨target, new, resolved⟩
  · rw [same]
    cases resolved : Resolution.resolve map.paths extensions importer entry.source with
    | none => rfl
    | some target =>
      rw [Option.map_some, (Resolution.slashed_of_resolve slashed resolved).forwardSlashes_eq]
  · obtain ⟨path, listed, rfl⟩ := List.mem_map.mp (Resolution.mem_of_resolve resolved)
    have written : ¬Slashed path := by
      intro slashed
      rw [slashed.forwardSlashes_eq] at new
      exact new listed
    have stands : (forwardSlashes importer, entry) ∈
        (map.rename forwardSlashes distinct).imports := by
      rw [RepoMap.imports_rename]
      exact List.mem_map.mpr ⟨(importer, entry), member, rfl⟩
    rw [← RepoMap.paths_rename distinct] at resolved
    exact absurd ⟨_, entry, RepoMap.mem_imports.mp stands, resolved⟩
      (unreached path listed written)

/-- The graph of a map keeps no edge to a file that is written with a backslash. -/
theorem slashed_of_joins {source target : String}
    (joined : (ofRepoMap map extensions).Joins source target) : Slashed target := by
  obtain ⟨_, _, resolved⟩ := joins_ofRepoMap.mp joined
  exact Resolution.slashed_of_resolve slashed resolved

end Graph

/-- Writing slashes for the backslashes in the paths of a map, where that keeps the paths distinct,
renames the nodes of its graph and changes nothing else exactly when no import of the new map reaches
a file whose path had a backslash: those are the files that no import of the old map reaches. -/
theorem slashes_rename_graph_iff (map : RepoMap) (extensions : List String)
    (distinct : (map.paths.map forwardSlashes).Nodup)
    (slashed : ∀ extension ∈ extensions, '\\' ∉ extension.toList) :
    Graph.ofRepoMap (map.rename forwardSlashes distinct) extensions =
        (Graph.ofRepoMap map extensions).rename forwardSlashes ↔
      ∀ path ∈ map.paths, '\\' ∈ path.toList →
        ¬(map.rename forwardSlashes distinct).ImportsFile extensions (forwardSlashes path) := by
  constructor
  · rintro same path listed written ⟨importer, entry, resolves⟩
    have joined := Graph.joins_ofRepoMap.mpr ⟨entry, resolves⟩
    rw [same] at joined
    obtain ⟨edge, member, renamed⟩ := List.mem_map.mp joined
    have target : forwardSlashes edge.target = forwardSlashes path := congrArg Edge.target renamed
    have known : edge.target ∈ map.paths := (Graph.mem_paths_of_joins member).2
    rw [← List.inj_on_of_nodup_map distinct known listed target] at written
    exact Graph.slashed_of_joins slashed member written
  · intro unreached
    apply Graph.ofRepoMap_forwardSlashes distinct slashed
    intro path listed written
    exact unreached path listed (not_not.mp written)

/-- Backslashes in specifiers and in the path of a file that nobody imports. -/
def RepoMap.mixed : RepoMap where
  files := [
    ("src\\app.ts", { imports := [{ source := "..\\lib/util" }, { source := ".\\..\\lib" }] }),
    ("lib/util.ts", { imports := [{ source := "./index" }] }),
    ("lib/index.ts", {})]
  distinct := by decide

theorem mixed_distinct : (RepoMap.mixed.paths.map forwardSlashes).Nodup := by decide

theorem slashes_rename_graph_mixed :
    ∃ distinct : (RepoMap.mixed.paths.map forwardSlashes).Nodup,
      (∀ extension ∈ [".ts"], '\\' ∉ extension.toList) ∧
      (∀ path ∈ RepoMap.mixed.paths, '\\' ∈ path.toList →
        ¬(RepoMap.mixed.rename forwardSlashes distinct).ImportsFile [".ts"] (forwardSlashes path)) ∧
      Graph.ofRepoMap (RepoMap.mixed.rename forwardSlashes distinct) [".ts"] =
        (Graph.ofRepoMap .mixed [".ts"]).rename forwardSlashes ∧
      (Graph.ofRepoMap .mixed [".ts"]).edges = [⟨"src\\app.ts", "lib/util.ts"⟩,
        ⟨"src\\app.ts", "lib/index.ts"⟩, ⟨"lib/util.ts", "lib/index.ts"⟩] := by
  have slashed : ∀ extension ∈ [".ts"], '\\' ∉ extension.toList := by decide
  have unreached : ∀ path ∈ RepoMap.mixed.paths, '\\' ∈ path.toList →
      ¬(RepoMap.mixed.rename forwardSlashes mixed_distinct).ImportsFile [".ts"]
        (forwardSlashes path) := by
    simp only [← UsageIndex.isFileImported_iff]
    decide +kernel
  exact ⟨mixed_distinct, slashed, unreached,
    (slashes_rename_graph_iff .mixed [".ts"] mixed_distinct slashed).mpr unreached, by decide⟩

def RepoMap.backslashed : RepoMap where
  files := [("src\\app.ts", { imports := [{ source := "./util" }] }), ("src\\util.ts", {})]
  distinct := by decide

/-- The neighbour is only found once the paths are written with slashes. -/
theorem backslashed_unresolved :
    ∃ distinct : (RepoMap.backslashed.paths.map forwardSlashes).Nodup,
      (∀ extension ∈ [".ts"], '\\' ∉ extension.toList) ∧
      (Graph.ofRepoMap (RepoMap.backslashed.rename forwardSlashes distinct) [".ts"]).edges =
        [⟨"src/app.ts", "src/util.ts"⟩] ∧
      (Graph.ofRepoMap .backslashed [".ts"]).edges = [] ∧
      Graph.ofRepoMap (RepoMap.backslashed.rename forwardSlashes distinct) [".ts"] ≠
        (Graph.ofRepoMap .backslashed [".ts"]).rename forwardSlashes := by
  exact ⟨by decide, by decide, by decide, by decide, by decide⟩

end Linkage
