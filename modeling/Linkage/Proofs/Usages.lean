import Linkage.Proofs.Links
import Linkage.Proofs.Multimap
import Linkage.UsageIndex
/-!
What the index of a repo map answers, said of the import statements themselves: who imports a file,
and who imports a name from a file.
-/

namespace Linkage

/-- The import binds the name when it resolves to the target: a named import binds each name it
lists, a default import the stem of the target, any other import nothing. -/
inductive Import.Binds (entry : Import) (target : String) : String → Prop where
  | named {names : List String} {name : String}
      (kind : entry.kind = some "named" ∨ entry.kind = some "import")
      (listed : entry.names = some names) (member : name ∈ names) : Binds entry target name
  | default (kind : entry.kind = some "default") : Binds entry target (Path.stem target)

theorem Import.mem_binds {entry : Import} {target name : String} :
    name ∈ entry.binds target ↔ entry.Binds target name := by
  constructor
  · intro member
    have listed : ∀ {name}, name ∈ entry.names.getD [] →
        ∃ names, entry.names = some names ∧ name ∈ names := by
      intro name member
      cases same : entry.names with
      | none => simp [same] at member
      | some names => exact ⟨names, rfl, by simpa [same] using member⟩
    unfold binds at member
    split at member
    case h_1 kind =>
      obtain ⟨names, same, inside⟩ := listed member
      exact .named (Or.inl kind) same inside
    case h_2 kind =>
      obtain ⟨names, same, inside⟩ := listed member
      exact .named (Or.inr kind) same inside
    case h_3 kind =>
      rw [List.mem_singleton.mp member]
      exact .default kind
    case h_4 => cases member
  · intro binds
    cases binds with
    | named kind listed member => rcases kind with kind | kind <;> simpa [Import.binds, kind, listed]
    | default kind => simp [Import.binds, kind]

namespace RepoMap

def ImportsFile (map : RepoMap) (extensions : List String) (file : String) : Prop :=
  ∃ importer entry, map.Resolves extensions importer entry file

/-- Some import of the map binds a name of its target that has the same key as the name of the
file. -/
def ImportsName (map : RepoMap) (extensions : List String) (file name : String) : Prop :=
  ∃ importer entry target bound, map.Resolves extensions importer entry target ∧
    entry.Binds target bound ∧ UsageIndex.symbolKey target bound = UsageIndex.symbolKey file name

end RepoMap

namespace UsageIndex

variable {map : RepoMap} {extensions : List String} {file name importer : String}

def usagePairs (link : Link) : List (String × String) :=
  (link.entry.binds link.target).map (fun name => (symbolKey link.target name, link.importer))

def addLink (index : UsageIndex) (link : Link) : UsageIndex :=
  { index with
    bySymbol := (usagePairs link).foldl (fun found pair => found.add pair.1 pair.2) index.bySymbol
    byFile := index.byFile.add link.target link.importer }

theorem build_eq (map : RepoMap) (extensions : List String) :
    build map extensions = (map.links extensions).foldl addLink
      { exportsByFile :=
          .ofSets (map.files.map (fun (path, record) => (path, exportNames record))) } := by
  have visits : ∀ importer index entry, addImport map.paths extensions importer index entry =
      (Resolution.resolve map.paths extensions importer entry.source).elim index
        (fun target => addLink index ⟨importer, entry, target⟩) := by
    intro importer index entry
    rw [addImport]
    cases Resolution.resolve map.paths extensions importer entry.source with
    | none => rfl
    | some target =>
      rw [Option.elim_some, addLink, usagePairs, List.foldl_map]
  rw [← map.foldl_links addLink visits, Multimap.ofSets, List.foldl_map, build]
  split
  case isTrue none =>
    rw [List.isEmpty_iff.mp none]
    rfl
  case isFalse => rfl

theorem bySymbol_build (map : RepoMap) (extensions : List String) :
    (build map extensions).bySymbol = .ofPairs ((map.links extensions).flatMap usagePairs) := by
  rw [build_eq, Multimap.ofPairs, List.foldl_flatMap]
  exact (List.foldl_hom bySymbol (fun _ _ => rfl)).symm

theorem byFile_build (map : RepoMap) (extensions : List String) :
    (build map extensions).byFile =
      .ofPairs ((map.links extensions).map (fun link => (link.target, link.importer))) := by
  rw [build_eq, Multimap.ofPairs, List.foldl_map]
  exact (List.foldl_hom byFile (fun _ _ => rfl)).symm

theorem exportsByFile_build (map : RepoMap) (extensions : List String) :
    (build map extensions).exportsByFile =
      .ofSets (map.files.map (fun (path, record) => (path, exportNames record))) := by
  have kept : ∀ (links : List Link) (index : UsageIndex),
      (links.foldl addLink index).exportsByFile = index.exportsByFile := by
    intro links
    induction links with
    | nil => exact fun _ => rfl
    | cons link links ih => exact fun _ => ih _
  rw [build_eq, kept]

theorem mem_dependents :
    importer ∈ (build map extensions).dependents file ↔
      ∃ entry, map.Resolves extensions importer entry file := by
  rw [dependents, byFile_build, Multimap.mem_get_ofPairs]
  simp only [List.mem_map, RepoMap.mem_links, Prod.mk.injEq]
  constructor
  · rintro ⟨link, resolves, rfl, rfl⟩
    exact ⟨link.entry, resolves⟩
  · rintro ⟨entry, resolves⟩
    exact ⟨⟨importer, entry, file⟩, resolves, rfl, rfl⟩

theorem mem_bySymbol {key : String} :
    importer ∈ (build map extensions).bySymbol.get key ↔
      ∃ entry target bound, map.Resolves extensions importer entry target ∧
        entry.Binds target bound ∧ symbolKey target bound = key := by
  rw [bySymbol_build, Multimap.mem_get_ofPairs]
  simp only [List.mem_flatMap, RepoMap.mem_links, usagePairs, List.mem_map, Import.mem_binds,
    Prod.mk.injEq]
  constructor
  · rintro ⟨link, resolves, bound, binds, same, rfl⟩
    exact ⟨link.entry, link.target, bound, resolves, binds, same⟩
  · rintro ⟨entry, target, bound, resolves, binds, same⟩
    exact ⟨⟨importer, entry, target⟩, resolves, bound, binds, same, rfl⟩

theorem mem_usages :
    importer ∈ (build map extensions).usages file name ↔
      ∃ entry target bound, map.Resolves extensions importer entry target ∧
        entry.Binds target bound ∧ symbolKey target bound = symbolKey file name :=
  mem_bySymbol

theorem isFileImported_iff :
    (build map extensions).isFileImported file = true ↔ map.ImportsFile extensions file := by
  rw [isFileImported, Bool.not_eq_true', List.isEmpty_eq_false_iff_exists_mem]
  exact exists_congr fun _ => mem_dependents

theorem isSymbolUsed_iff_exists {index : UsageIndex} :
    index.isSymbolUsed file name = true ↔ ∃ importer, importer ∈ index.usages file name := by
  rw [isSymbolUsed, Bool.not_eq_true', List.isEmpty_eq_false_iff_exists_mem]

theorem isSymbolUsed_iff :
    (build map extensions).isSymbolUsed file name = true ↔ map.ImportsName extensions file name := by
  rw [isSymbolUsed_iff_exists]
  exact exists_congr fun _ => mem_usages

end UsageIndex

end Linkage
