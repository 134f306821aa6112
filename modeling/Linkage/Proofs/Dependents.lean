import Linkage.Proofs.Graph.Walks
import Linkage.Proofs.Usages
/-!
The index and the dependency graph of a repo map record the same imports, the one as sets by target,
the other as a list with repetitions. `build_mirrors` says what each tells of the other.
-/

namespace Linkage

variable (map : RepoMap) (extensions : List String)

theorem RepoMap.length_links :
    (map.links extensions).length + (map.unresolved extensions).length = map.imports.length := by
  rw [links, unresolved, List.length_filterMap_eq_countP, ← List.countP_eq_length_filter]
  rw [List.length_eq_countP_add_countP
    (fun statement =>
      (Resolution.resolve map.paths extensions statement.1 statement.2.source).isSome)]
  congr 1
  · apply List.countP_congr
    intro _ _
    rw [Option.isSome_map]
  · apply List.countP_congr
    intro _ _
    simp

namespace UsageIndex

variable {map extensions} {key file name : String} {importers : List String}

theorem pairwise_dependents : ((build map extensions).dependents file).Pairwise (· < ·) := by
  rw [dependents, byFile_build]
  exact Multimap.pairwise_get_ofPairs _ _

theorem pairwise_usages : ((build map extensions).usages file name).Pairwise (· < ·) := by
  rw [usages, bySymbol_build]
  exact Multimap.pairwise_get_ofPairs _ _

theorem mem_dependents_iff_joins {source target : String} :
    source ∈ (build map extensions).dependents target ↔
      (Graph.ofRepoMap map extensions).Joins source target := by
  rw [mem_dependents, Graph.joins_ofRepoMap]

theorem mem_keys_byFile :
    file ∈ Assoc.keys (build map extensions).byFile ↔
      ∃ importer, importer ∈ (build map extensions).dependents file := by
  rw [dependents, byFile_build, Multimap.mem_keys_ofPairs]

theorem entry_byFile (entry : (file, importers) ∈ (build map extensions).byFile) :
    (build map extensions).dependents file = importers ∧ importers ≠ [] := by
  rw [byFile_build] at entry
  rw [dependents, byFile_build]
  exact Multimap.entry_ofPairs entry

theorem entry_bySymbol (entry : (key, importers) ∈ (build map extensions).bySymbol) :
    (build map extensions).bySymbol.get key = importers ∧ importers ≠ [] := by
  rw [bySymbol_build] at entry ⊢
  exact Multimap.entry_ofPairs entry

theorem keys_exportsByFile :
    Assoc.keys (build map extensions).exportsByFile = TextSet.ofList map.paths := by
  rw [exportsByFile_build, Multimap.keys_ofSets, Assoc.keys, List.map_map]
  rfl

/-- What an index and a graph have in common when both record the imports of one repo map. -/
structure Mirrors (map : RepoMap) (extensions : List String) (index : UsageIndex) (graph : Graph) :
    Prop where
  dependents_iff : ∀ source target,
    source ∈ index.dependents target ↔ ⟨source, target⟩ ∈ graph.edges
  /-- No dependent is listed twice or out of order. -/
  dependents_ascend : ∀ target, (index.dependents target).Pairwise (· < ·)
  keys_iff : ∀ target,
    target ∈ Assoc.keys index.byFile ↔ ∃ source, ⟨source, target⟩ ∈ graph.edges
  sets_filled : ∀ target, (target, []) ∉ index.byFile
  /-- Every import gives one edge, unless it does not resolve. -/
  edges_count : graph.edges.length + (map.unresolved extensions).length = map.imports.length
  edges_known : ∀ edge ∈ graph.edges, edge.source ∈ map.paths ∧ edge.target ∈ map.paths
  byFile_known : ∀ target importers, (target, importers) ∈ index.byFile →
    target ∈ map.paths ∧ ∀ importer ∈ importers, importer ∈ map.paths
  bySymbol_known : ∀ key importers, (key, importers) ∈ index.bySymbol →
    (∃ target ∈ map.paths, ∃ name, key = symbolKey target name) ∧
      ∀ importer ∈ importers, importer ∈ map.paths
  exports_known : (Assoc.keys index.exportsByFile).Perm map.paths

theorem known_byFile (entry : (file, importers) ∈ (build map extensions).byFile) :
    file ∈ map.paths ∧ ∀ importer ∈ importers, importer ∈ map.paths := by
  obtain ⟨rfl, filled⟩ := entry_byFile entry
  have known {importer : String} (member : importer ∈ (build map extensions).dependents file) :
      importer ∈ map.paths ∧ file ∈ map.paths := by
    obtain ⟨_, resolves⟩ := mem_dependents.mp member
    exact resolves.mem_paths
  obtain ⟨importer, member⟩ := List.exists_mem_of_ne_nil _ filled
  exact ⟨(known member).2, fun _ member => (known member).1⟩

theorem known_bySymbol (entry : (key, importers) ∈ (build map extensions).bySymbol) :
    (∃ target ∈ map.paths, ∃ name, key = symbolKey target name) ∧
      ∀ importer ∈ importers, importer ∈ map.paths := by
  obtain ⟨rfl, filled⟩ := entry_bySymbol entry
  constructor
  · obtain ⟨importer, member⟩ := List.exists_mem_of_ne_nil _ filled
    obtain ⟨_, target, name, resolves, _, same⟩ := mem_bySymbol.mp member
    exact ⟨target, resolves.mem_paths.2, name, same.symm⟩
  · intro importer member
    obtain ⟨_, _, _, resolves, _⟩ := mem_bySymbol.mp member
    exact resolves.mem_paths.1

theorem exports_perm_paths :
    (Assoc.keys (build map extensions).exportsByFile).Perm map.paths := by
  rw [keys_exportsByFile]
  have distinct : (TextSet.ofList map.paths).Nodup :=
    (TextSet.pairwise_ofList map.paths).imp ne_of_lt
  exact (List.perm_ext_iff_of_nodup distinct map.distinct).mpr fun _ => TextSet.mem_ofList

theorem build_mirrors (map : RepoMap) (extensions : List String) :
    Mirrors map extensions (build map extensions) (Graph.ofRepoMap map extensions) where
  dependents_iff _ _ := mem_dependents_iff_joins
  dependents_ascend _ := pairwise_dependents
  keys_iff _ := mem_keys_byFile.trans (exists_congr fun _ => mem_dependents_iff_joins)
  sets_filled _ entry := (entry_byFile entry).2 rfl
  edges_count := by
    rw [Graph.ofRepoMap_eq, List.length_map]
    exact map.length_links extensions
  edges_known _ member := Graph.mem_paths_of_joins member
  byFile_known _ _ := known_byFile
  bySymbol_known _ _ := known_bySymbol
  exports_known := exports_perm_paths

end UsageIndex

end Linkage
