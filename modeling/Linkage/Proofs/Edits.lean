import Linkage.Analysis
import Linkage.Proofs.Graph.Reports
import Linkage.Proofs.Usages
import Mathlib.Data.List.Flatten
import Mathlib.Data.List.Forall2
/-!
Edits of a repo map that leave alone what its files export and declare. The findings depend on the
imports only through the index, and the index only through the set of imports that resolve.
`analyses_unordered`: the order of the files and of their imports decides the order of what is found
and nothing else. `analyses_grow`: further imports add edges and take findings away.
-/

namespace Linkage

/-! ### Files up to their imports -/

/-- The second file is the first one with other imports, which are related to the old ones. -/
structure FileEdit (related : List Import → List Import → Prop) (file other : String × FileRecord) :
    Prop where
  path : other.1 = file.1
  exports : other.2.exports = file.2.exports
  classes : other.2.classes = file.2.classes
  functions : other.2.functions = file.2.functions
  imports : related file.2.imports other.2.imports

namespace RepoMap

variable {map other more : RepoMap} {extensions : List String}

def bare (file : String × FileRecord) : String × FileRecord :=
  (file.1, { file.2 with imports := [] })

def symbols (map : RepoMap) : List (String × FileRecord) := map.files.map bare

theorem paths_eq_symbols (map : RepoMap) : map.paths = map.symbols.map Prod.fst := by
  rw [symbols, List.map_map]
  rfl

theorem bare_eq_of_edit {related : List Import → List Import → Prop}
    {file edited : String × FileRecord} (edit : FileEdit related file edited) :
    bare file = bare edited := by
  simp only [bare, edit.path, edit.exports, edit.classes, edit.functions]

theorem bare_eq_of_edits {related : List Import → List Import → Prop}
    {files edited : List (String × FileRecord)} (edits : List.Forall₂ (FileEdit related) files edited) :
    files.map bare = edited.map bare := by
  rw [← List.forall₂_eq_eq_eq, List.forall₂_map_left_iff, List.forall₂_map_right_iff]
  exact edits.imp fun _ _ => bare_eq_of_edit

/-- The same files in some order, each with its imports in some order. -/
def Reordered (map other : RepoMap) : Prop :=
  ∃ files, map.files.Perm files ∧ List.Forall₂ (FileEdit List.Perm) files other.files

/-- The same files in the same order, each with further imports anywhere among its own. -/
def Extended (map more : RepoMap) : Prop :=
  List.Forall₂ (FileEdit List.Sublist) map.files more.files

theorem Reordered.symbols_perm (reordered : map.Reordered other) : map.symbols.Perm other.symbols := by
  obtain ⟨files, perm, edits⟩ := reordered
  rw [symbols, symbols, ← bare_eq_of_edits edits]
  exact perm.map bare

theorem Extended.symbols_eq (extended : map.Extended more) : map.symbols = more.symbols :=
  bare_eq_of_edits extended

theorem Reordered.paths_perm (reordered : map.Reordered other) : map.paths.Perm other.paths := by
  rw [paths_eq_symbols, paths_eq_symbols]
  exact reordered.symbols_perm.map Prod.fst

theorem Extended.paths_eq (extended : map.Extended more) : map.paths = more.paths := by
  rw [paths_eq_symbols, paths_eq_symbols, extended.symbols_eq]

/-! ### Imports that resolve -/

/-- What holds of the lists file by file, and goes along with appending them, holds of the whole. -/
theorem flatMap_related {α β : Type} {related : List β → List β → Prop} {f : α → List β}
    {files edited : List α} (nil : related [] [])
    (append : ∀ {a b c d}, related a b → related c d → related (a ++ c) (b ++ d))
    (each : List.Forall₂ (fun file other => related (f file) (f other)) files edited) :
    related (files.flatMap f) (edited.flatMap f) := by
  induction each with
  | nil => exact nil
  | cons here _ ih =>
    rw [List.flatMap_cons, List.flatMap_cons]
    exact append here ih

theorem Reordered.imports_perm (reordered : map.Reordered other) :
    map.imports.Perm other.imports := by
  obtain ⟨files, perm, edits⟩ := reordered
  refine (perm.flatMap_right _).trans (flatMap_related .nil .append (edits.imp ?_))
  rintro ⟨path, record⟩ ⟨_, edited⟩ edit
  obtain rfl : _ = path := edit.path
  exact edit.imports.map _

theorem Extended.imports_sublist (extended : map.Extended more) :
    map.imports.Sublist more.imports := by
  refine flatMap_related .slnil .append (extended.imp ?_)
  rintro ⟨path, record⟩ ⟨_, edited⟩ edit
  obtain rfl : _ = path := edit.path
  exact edit.imports.map _

theorem Reordered.links_perm (reordered : map.Reordered other) :
    (map.links extensions).Perm (other.links extensions) := by
  have contains : map.paths.contains = other.paths.contains := by
    funext path
    rw [Bool.eq_iff_iff, List.contains_iff_mem, List.contains_iff_mem,
      reordered.paths_perm.mem_iff]
  have same : Resolution.resolve map.paths extensions = Resolution.resolve other.paths extensions := by
    funext importer specifier
    rw [Resolution.resolve, contains, Resolution.resolve]
  rw [links, links, same]
  exact reordered.imports_perm.filterMap _

theorem Extended.links_sublist (extended : map.Extended more) :
    (map.links extensions).Sublist (more.links extensions) := by
  rw [links, links, extended.paths_eq]
  exact extended.imports_sublist.filterMap _

theorem Extended.resolves {importer target : String} {entry : Import} (extended : map.Extended more)
    (resolves : map.Resolves extensions importer entry target) :
    more.Resolves extensions importer entry target := by
  have member : ⟨importer, entry, target⟩ ∈ map.links extensions := mem_links.mpr resolves
  exact mem_links.mp (extended.links_sublist.subset member)

end RepoMap

/-! ### Findings by symbols -/

theorem UsageIndex.exportsByFile_eq_symbols (map : RepoMap) (extensions : List String) :
    (build map extensions).exportsByFile =
      .ofSets (map.symbols.map (fun (path, record) => (path, exportNames record))) := by
  rw [exportsByFile_build, RepoMap.symbols, List.map_map]
  rfl

theorem Unused.find_eq_symbols (map : RepoMap) (index : UsageIndex) (entryPoints : List String) :
    find map index entryPoints =
      map.symbols.flatMap (fun (file, record) => ofFile index entryPoints file record) := by
  rw [find, RepoMap.symbols, List.flatMap_map]
  rfl

theorem Orphans.find_eq_symbols (map : RepoMap) (index : UsageIndex)
    (suffixes beginnings : List String) :
    find map index suffixes beginnings =
      map.symbols.flatMap (fun (file, record) =>
        classes index suffixes file record ++ functions index beginnings file record) := by
  rw [find, RepoMap.symbols, List.flatMap_map]
  rfl

/-! ### Order -/

section

variable {map other : RepoMap} {extensions : List String}

theorem UsageIndex.build_eq_of_reordered (reordered : map.Reordered other) :
    build map extensions = build other extensions := by
  have links : (map.links extensions).Perm (other.links extensions) := reordered.links_perm
  have bySymbol : (build map extensions).bySymbol = (build other extensions).bySymbol := by
    rw [bySymbol_build, bySymbol_build]
    exact Multimap.ofPairs_congr fun _ => (links.flatMap_right _).mem_iff
  have byFile : (build map extensions).byFile = (build other extensions).byFile := by
    rw [byFile_build, byFile_build]
    exact Multimap.ofPairs_congr fun _ => (links.map _).mem_iff
  have exportsByFile :
      (build map extensions).exportsByFile = (build other extensions).exportsByFile := by
    rw [exportsByFile_eq_symbols, exportsByFile_eq_symbols]
    apply Multimap.ofSets_perm _ (reordered.symbols_perm.map _)
    rw [Assoc.keys, List.map_map]
    exact map.paths_eq_symbols ▸ map.distinct
  exact (UsageIndex.mk.injEq ..).mpr ⟨bySymbol, byFile, exportsByFile⟩

/-- What two maps tell alike, whatever the order in which they tell it. -/
structure RepoMap.Agree (extensions : List String) (map other : RepoMap) : Prop where
  index : (UsageIndex.build map extensions).toJson = (UsageIndex.build other extensions).toJson
  edges : (Graph.ofRepoMap map extensions).edges.Perm (Graph.ofRepoMap other extensions).edges
  unused : ∀ entryPoints, (Analysis.unused map none extensions entryPoints).value.Perm
    (Analysis.unused other none extensions entryPoints).value
  orphans : ∀ suffixes beginnings,
    (Analysis.orphans map none extensions suffixes beginnings).value.Perm
      (Analysis.orphans other none extensions suffixes beginnings).value
  cycles : map.cycles extensions = [] ↔ other.cycles extensions = []

theorem Unused.find_perm (reordered : map.Reordered other) (entryPoints : List String) :
    (find map (.build map extensions) entryPoints).Perm
      (find other (.build other extensions) entryPoints) := by
  rw [UsageIndex.build_eq_of_reordered reordered, find_eq_symbols, find_eq_symbols]
  exact reordered.symbols_perm.flatMap_right _

theorem Orphans.find_perm (reordered : map.Reordered other) (suffixes beginnings : List String) :
    (find map (.build map extensions) suffixes beginnings).Perm
      (find other (.build other extensions) suffixes beginnings) := by
  rw [UsageIndex.build_eq_of_reordered reordered, find_eq_symbols, find_eq_symbols]
  exact reordered.symbols_perm.flatMap_right _

theorem Graph.edges_perm (reordered : map.Reordered other) :
    (ofRepoMap map extensions).edges.Perm (ofRepoMap other extensions).edges := by
  rw [ofRepoMap_eq, ofRepoMap_eq]
  exact reordered.links_perm.map _

theorem RepoMap.Reordered.cycles_iff (reordered : map.Reordered other) :
    map.cycles extensions = [] ↔ other.cycles extensions = [] := by
  have nodes : (Graph.ofRepoMap map extensions).nodes.Perm
      (Graph.ofRepoMap other extensions).nodes := by
    rw [Graph.nodes_ofRepoMap, Graph.nodes_ofRepoMap]
    exact reordered.paths_perm
  have edges : (Graph.ofRepoMap map extensions).edges.Perm
      (Graph.ofRepoMap other extensions).edges := Graph.edges_perm reordered
  -- The search takes another course and may report other cycles, so it is compared by what exists.
  rw [← not_iff_not]
  exact ⟨Graph.cycles_ne_nil_of_subset nodes.subset edges.subset,
    Graph.cycles_ne_nil_of_subset nodes.symm.subset edges.symm.subset⟩

theorem RepoMap.Reordered.agree (reordered : map.Reordered other) (extensions : List String) :
    map.Agree extensions other where
  index := by rw [UsageIndex.build_eq_of_reordered reordered]
  edges := Graph.edges_perm reordered
  unused := Unused.find_perm reordered
  orphans := Orphans.find_perm reordered
  cycles := reordered.cycles_iff

theorem RepoMap.reordered_of_perm (perm : map.files.Perm other.files) : map.Reordered other :=
  ⟨other.files, perm, List.forall₂_same.mpr fun _ _ => ⟨rfl, rfl, rfl, rfl, List.Perm.refl _⟩⟩

/-- A file that is taken out and put back is listed last. -/
theorem RepoMap.reordered_put_back {path : String} {record : FileRecord}
    (listed : (path, record) ∈ map.files) : map.Reordered ((map.erase path).put path record) := by
  have front : map.files.Perm ((path, record) :: Assoc.erase path map.files) := by
    have put := Assoc.put_perm path record map.distinct
    rwa [Assoc.put_of_mem map.distinct listed] at put
  have gone : path ∉ Assoc.keys (Assoc.erase path map.files) := by
    simp [Assoc.keys, Assoc.erase]
  have back := Assoc.put_perm path record (map.erase path).distinct
  rw [erase, Assoc.erase_of_absent gone] at back
  exact reordered_of_perm (front.trans back.symm)

end

/-- The order of the files and of the imports in a file decides at most the order of what is found:
the index is the same, edges and findings are the same up to order, and cycles are reported for both
orders or for neither. So it is when a file is taken out and put back, which moves it to the end. -/
theorem analyses_unordered (map : RepoMap) (extensions : List String) :
    (∀ other, map.Reordered other → map.Agree extensions other) ∧
    ∀ path record, (path, record) ∈ map.files →
      map.Agree extensions ((map.erase path).put path record) :=
  ⟨fun _ reordered => reordered.agree extensions,
    fun _ _ listed => (RepoMap.reordered_put_back listed).agree extensions⟩

/-- Two files that import each other, a third that both import, by name and as a whole, and two that
declare infrastructure and that nobody imports. -/
def RepoMap.triangle : RepoMap where
  files := [
    ("a.ts", {
      exports := [{ name := "x" }]
      imports := [{ source := "./b" }, { source := "./c", kind := some "named", names := some ["y"] }] }),
    ("b.ts", { imports := [{ source := "./c" }, { source := "./a" }] }),
    ("c.ts", { exports := [{ name := "y" }, { name := "z" }] }),
    ("d.ts", { classes := [{ name := "HubClient", exported := true }] }),
    ("e.ts", { functions := [{ name := "makeHub", exported := true }] })]
  distinct := by decide

def RepoMap.triangleBack : RepoMap where
  files := [
    ("e.ts", { functions := [{ name := "makeHub", exported := true }] }),
    ("d.ts", { classes := [{ name := "HubClient", exported := true }] }),
    ("c.ts", { exports := [{ name := "y" }, { name := "z" }] }),
    ("b.ts", { imports := [{ source := "./a" }, { source := "./c" }] }),
    ("a.ts", {
      exports := [{ name := "x" }]
      imports := [{ source := "./c", kind := some "named", names := some ["y"] }, { source := "./b" }] })]
  distinct := by decide

theorem analyses_unordered_triangle :
    RepoMap.triangle.Reordered .triangleBack ∧ RepoMap.triangle.Agree [".ts"] .triangleBack ∧
    (RepoMap.triangle.cycles [".ts"] = [["a.ts", "b.ts", "a.ts"]] ∧
      RepoMap.triangleBack.cycles [".ts"] = [["b.ts", "a.ts", "b.ts"]]) ∧
    ((Analysis.orphans .triangle none [".ts"] ["Client"] ["make"]).value.map Finding.name =
        ["HubClient", "makeHub"] ∧
      (Analysis.orphans .triangleBack none [".ts"] ["Client"] ["make"]).value.map Finding.name =
        ["makeHub", "HubClient"]) ∧
    ("b.ts", { imports := [{ source := "./c" }, { source := "./a" }] }) ∈ RepoMap.triangle.files ∧
    RepoMap.triangle.Agree [".ts"] ((RepoMap.triangle.erase "b.ts").put "b.ts"
      { imports := [{ source := "./c" }, { source := "./a" }] }) := by
  have reordered : RepoMap.triangle.Reordered .triangleBack := by
    refine ⟨RepoMap.triangle.files.reverse, (List.reverse_perm _).symm, ?_⟩
    have same (file : String × FileRecord) : FileEdit List.Perm file file :=
      ⟨rfl, rfl, rfl, rfl, List.Perm.refl _⟩
    exact .cons (same _) (.cons (same _) (.cons (same _)
      (.cons ⟨rfl, rfl, rfl, rfl, List.Perm.swap _ _ _⟩
        (.cons ⟨rfl, rfl, rfl, rfl, List.Perm.swap _ _ _⟩ .nil))))
  have listed : ("b.ts", { imports := [{ source := "./c" }, { source := "./a" }] }) ∈
      RepoMap.triangle.files := by decide
  obtain ⟨any, putBack⟩ := analyses_unordered .triangle [".ts"]
  exact ⟨reordered, any _ reordered, ⟨by decide +kernel, by decide +kernel⟩,
    ⟨by decide +kernel, by decide +kernel⟩, listed, putBack _ _ listed⟩

/-! ### Further imports -/

def Finding.ungraded (finding : Finding) : Finding := { finding with certainty := "" }

/-- The finding is the former one, or the former one with its certainty down from medium to low. -/
def Finding.Lowered (finding former : Finding) : Prop :=
  finding = former ∨ former.certainty = "MEDIUM" ∧ finding = { former with certainty := "LOW" }

namespace Unused

variable {index wider : UsageIndex}

def exports (map : RepoMap) (index : UsageIndex) (entryPoints : List String) :
    List (String × Export) :=
  map.symbols.flatMap (fun (file, record) =>
    if isEntryPoint entryPoints file then []
    else (record.exports.filter (fun entry => !index.isSymbolUsed file entry.name)).map (file, ·))

theorem find_eq_exports (map : RepoMap) (index : UsageIndex) (entryPoints : List String) :
    find map index entryPoints =
      (exports map index entryPoints).map (fun (file, entry) => finding index file entry) := by
  rw [find_eq_symbols, exports, List.map_flatMap]
  congr 1
  funext ⟨file, record⟩
  dsimp only
  rw [ofFile, apply_ite (List.map _), List.map_map]
  rfl

theorem finding_lowered {file : String} (entry : Export)
    (imported : index.isFileImported file = true → wider.isFileImported file = true) :
    (finding wider file entry).Lowered (finding index file entry) := by
  cases before : index.isFileImported file with
  | true => exact Or.inl (by simp [finding, grade, before, imported before])
  | false =>
    cases after : wider.isFileImported file with
    | true => exact Or.inr (by simp [finding, grade, before, after, Certainty.medium, Certainty.low])
    | false => exact Or.inl (by simp [finding, grade, before, after])

end Unused

section

variable {map more : RepoMap} {extensions : List String} (extended : map.Extended more)

include extended

theorem UsageIndex.isFileImported_of_extended {file : String}
    (imported : (build map extensions).isFileImported file = true) :
    (build more extensions).isFileImported file = true := by
  rw [isFileImported_iff] at imported ⊢
  obtain ⟨importer, entry, resolves⟩ := imported
  exact ⟨importer, entry, extended.resolves resolves⟩

theorem UsageIndex.isSymbolUsed_of_extended {file name : String}
    (used : (build map extensions).isSymbolUsed file name = true) :
    (build more extensions).isSymbolUsed file name = true := by
  rw [isSymbolUsed_iff] at used ⊢
  obtain ⟨importer, entry, target, bound, resolves, binds, same⟩ := used
  exact ⟨importer, entry, target, bound, extended.resolves resolves, binds, same⟩

theorem Unused.exports_sublist (entryPoints : List String) :
    (exports more (.build more extensions) entryPoints).Sublist
      (exports map (.build map extensions) entryPoints) := by
  rw [exports, exports, extended.symbols_eq]
  apply List.Sublist.flatMap_right
  rintro ⟨file, record⟩ _
  dsimp only
  split
  · exact List.Sublist.refl _
  · apply List.Sublist.map
    apply List.monotone_filter_right
    intro entry unused
    rw [Bool.not_eq_true', Bool.eq_false_iff] at unused ⊢
    exact mt (UsageIndex.isSymbolUsed_of_extended extended) unused

/-- Each unused export was unused before, and its grade has gone down if at all. -/
theorem Unused.find_lowered (entryPoints : List String) :
    List.SublistForall₂ Finding.Lowered (find more (.build more extensions) entryPoints)
      (find map (.build map extensions) entryPoints) := by
  rw [find_eq_exports, find_eq_exports, List.sublistForall₂_iff]
  refine ⟨_, ?_, (exports_sublist extended entryPoints).map _⟩
  rw [List.forall₂_map_left_iff, List.forall₂_map_right_iff, List.forall₂_same]
  rintro ⟨file, entry⟩ _
  exact finding_lowered entry (UsageIndex.isFileImported_of_extended extended)

theorem Unused.find_ungraded (entryPoints : List String) :
    ((find more (.build more extensions) entryPoints).map Finding.ungraded).Sublist
      ((find map (.build map extensions) entryPoints).map Finding.ungraded) := by
  rw [find_eq_exports, find_eq_exports, List.map_map, List.map_map]
  exact (exports_sublist extended entryPoints).map _

theorem Orphans.isOrphan_of_extended {file : String} {declaration : Declaration}
    (orphan : isOrphan (.build more extensions) file declaration = true) :
    isOrphan (.build map extensions) file declaration = true := by
  simp only [isOrphan, Bool.and_eq_true, Bool.not_eq_true', Bool.eq_false_iff] at orphan ⊢
  obtain ⟨⟨exported, unused⟩, unimported⟩ := orphan
  exact ⟨⟨exported, mt (UsageIndex.isSymbolUsed_of_extended extended) unused⟩,
    mt (UsageIndex.isFileImported_of_extended extended) unimported⟩

theorem Orphans.reported_sublist (named : Declaration → Bool) (file kind role : String)
    (declarations : List Declaration) :
    ((declarations.filter (fun declaration => named declaration &&
        isOrphan (.build more extensions) file declaration)).map (finding file kind role)).Sublist
      ((declarations.filter (fun declaration => named declaration &&
        isOrphan (.build map extensions) file declaration)).map (finding file kind role)) := by
  apply List.Sublist.map
  apply List.monotone_filter_right
  intro declaration reported
  rw [Bool.and_eq_true] at reported ⊢
  exact ⟨reported.1, isOrphan_of_extended extended reported.2⟩

theorem Orphans.find_sublist (suffixes beginnings : List String) :
    (find more (.build more extensions) suffixes beginnings).Sublist
      (find map (.build map extensions) suffixes beginnings) := by
  rw [find_eq_symbols, find_eq_symbols, extended.symbols_eq]
  apply List.Sublist.flatMap_right
  rintro ⟨file, record⟩ _
  dsimp only
  apply List.Sublist.append
  · rw [classes, classes]
    split
    · exact List.Sublist.refl _
    · exact reported_sublist extended _ _ _ _ _
  · rw [functions, functions]
    split
    · exact List.Sublist.refl _
    · exact reported_sublist extended _ _ _ _ _

theorem Graph.edges_sublist :
    (ofRepoMap map extensions).edges.Sublist (ofRepoMap more extensions).edges := by
  rw [ofRepoMap_eq, ofRepoMap_eq]
  exact extended.links_sublist.map _

theorem RepoMap.Extended.cycles_ne_nil (some : map.cycles extensions ≠ []) :
    more.cycles extensions ≠ [] := by
  have nodes : (Graph.ofRepoMap map extensions).nodes ⊆ (Graph.ofRepoMap more extensions).nodes := by
    rw [Graph.nodes_ofRepoMap, Graph.nodes_ofRepoMap, extended.paths_eq]
    exact List.Subset.refl _
  exact Graph.cycles_ne_nil_of_subset nodes (Graph.edges_sublist extended).subset some

end

/-- Imports that are inserted anywhere in the files of a map add edges and take findings away. The
edges were there in the same order, an unused export that is left keeps its grade or goes from medium
to low, no orphan is new, and where cycles were reported some still are. -/
theorem analyses_grow (map more : RepoMap) (extensions : List String)
    (extended : map.Extended more) :
    (Graph.ofRepoMap map extensions).edges.Sublist (Graph.ofRepoMap more extensions).edges ∧
    (∀ entryPoints,
      ((Analysis.unused more none extensions entryPoints).value.map Finding.ungraded).Sublist
        ((Analysis.unused map none extensions entryPoints).value.map Finding.ungraded) ∧
      List.SublistForall₂ Finding.Lowered
        (Analysis.unused more none extensions entryPoints).value
        (Analysis.unused map none extensions entryPoints).value) ∧
    (∀ suffixes beginnings,
      (Analysis.orphans more none extensions suffixes beginnings).value.Sublist
        (Analysis.orphans map none extensions suffixes beginnings).value) ∧
    (map.cycles extensions ≠ [] → more.cycles extensions ≠ []) :=
  ⟨Graph.edges_sublist extended,
    fun entryPoints => ⟨Unused.find_ungraded extended entryPoints,
      Unused.find_lowered extended entryPoints⟩,
    Orphans.find_sublist extended, extended.cycles_ne_nil⟩

def RepoMap.apart : RepoMap where
  files := [
    ("a.ts", { imports := [{ source := "./b" }] }),
    ("b.ts", { imports := [{ source := "./a" }] }),
    ("c.ts", {
      exports := [{ name := "x" }, { name := "y" }]
      classes := [{ name := "FileCache", exported := true }] })]
  distinct := by decide

def RepoMap.joined : RepoMap where
  files := [
    ("a.ts", {
      imports := [{ source := "./c", kind := some "named", names := some ["x"] }, { source := "./b" }] }),
    ("b.ts", { imports := [{ source := "./a" }] }),
    ("c.ts", {
      exports := [{ name := "x" }, { name := "y" }]
      classes := [{ name := "FileCache", exported := true }] })]
  distinct := by decide

theorem analyses_grow_joined :
    RepoMap.apart.Extended .joined ∧
    ((Analysis.unused .apart none [".ts"] []).value =
        [⟨"c.ts", "x", none, "export", "MEDIUM", none⟩, ⟨"c.ts", "y", none, "export", "MEDIUM", none⟩] ∧
      (Analysis.unused .joined none [".ts"] []).value =
        [⟨"c.ts", "y", none, "export", "LOW", none⟩]) ∧
    List.SublistForall₂ Finding.Lowered (Analysis.unused .joined none [".ts"] []).value
      (Analysis.unused .apart none [".ts"] []).value ∧
    (Analysis.orphans .joined none [".ts"] ["Cache"] []).value.Sublist
      (Analysis.orphans .apart none [".ts"] ["Cache"] []).value ∧
    RepoMap.apart.cycles [".ts"] = [["a.ts", "b.ts", "a.ts"]] ∧ RepoMap.joined.cycles [".ts"] ≠ [] := by
  have extended : RepoMap.apart.Extended .joined :=
    .cons ⟨rfl, rfl, rfl, rfl, .cons _ (List.Sublist.refl _)⟩
      (.cons ⟨rfl, rfl, rfl, rfl, List.Sublist.refl _⟩
        (.cons ⟨rfl, rfl, rfl, rfl, List.Sublist.refl _⟩ .nil))
  obtain ⟨_, unused, orphans, cycles⟩ := analyses_grow .apart .joined [".ts"] extended
  have cyclic : RepoMap.apart.cycles [".ts"] = [["a.ts", "b.ts", "a.ts"]] := by decide +kernel
  exact ⟨extended, ⟨by decide +kernel, by decide +kernel⟩, (unused []).2, orphans _ _, cyclic,
    cycles (by simp [cyclic])⟩

end Linkage
