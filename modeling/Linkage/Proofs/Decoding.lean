import Linkage.RepoMap.Decode
/-!
Repo maps from documents. A document is refused by its outermost shape only; what lies deeper is read
where it is usable and passed over where it is not. `DescribedBy` says what is read, item by item.
Documents that differ in one place are related by `AtField`, which goes down one field at a time, so
that an edit anywhere in a document is a chain of such steps.
-/

namespace Linkage

variable {α : Type} {key name path : String} {document padded changed item : Json}
  {edit : Json → Json → Prop}

/-! ### Dictionaries that agree off a key -/

namespace Assoc

variable {entries others : List (String × α)} {value other : α}

theorem keys_put (key : String) (value : α) (entries : List (String × α)) :
    keys (put key value entries) =
      if key ∈ keys entries then keys entries else keys entries ++ [key] := by
  induction entries with
  | nil => simp [keys, put]
  | cons entry rest ih =>
    by_cases same : entry.1 = key
    · simp [keys, put, same]
    · simp only [keys, put, same, if_false, List.map_cons, List.mem_cons, Ne.symm same, false_or]
        at ih ⊢
      rw [ih]
      by_cases later : key ∈ List.map Prod.fst rest <;> simp [later]

theorem mem_keys_ofList {pairs : List (String × α)} : key ∈ keys (ofList pairs) ↔ key ∈ keys pairs := by
  have folded : ∀ (later entries : List (String × α)),
      key ∈ keys (later.foldl (fun entries pair => put pair.1 pair.2 entries) entries) ↔
        key ∈ keys entries ∨ key ∈ keys later := by
    intro later
    induction later with
    | nil => simp [keys]
    | cons pair later ih =>
      intro entries
      rw [List.foldl_cons, ih, mem_keys_put]
      simp only [keys, List.map_cons, List.mem_cons]
      exact (or_congr_left or_comm).trans or_assoc
  exact (folded pairs []).trans (by simp [keys])

/-- The same keys in the same order, and the same values but under one key. -/
structure AgreesOff (key : String) (entries others : List (String × α)) : Prop where
  keys : Assoc.keys others = Assoc.keys entries
  values : ∀ k, k ≠ key → get? k others = get? k entries

theorem AgreesOff.refl (key : String) (entries : List (String × α)) : AgreesOff key entries entries :=
  ⟨rfl, fun _ _ => rfl⟩

theorem AgreesOff.put (agrees : AgreesOff key entries others) (same : name = key ∨ value = other) :
    AgreesOff key (put name value entries) (put name other others) := by
  refine ⟨by rw [keys_put, keys_put, agrees.keys], fun k apart => ?_⟩
  by_cases here : name = k
  · subst here
    rw [get?_put_self, get?_put_self, same.resolve_left apart]
  · rw [get?_put_other here, get?_put_other here, agrees.values k apart]

theorem AgreesOff.foldl (agrees : AgreesOff key entries others) (pairs : List (String × α)) :
    AgreesOff key (pairs.foldl (fun entries pair => Assoc.put pair.1 pair.2 entries) entries)
      (pairs.foldl (fun entries pair => Assoc.put pair.1 pair.2 entries) others) := by
  induction pairs generalizing entries others with
  | nil => exact agrees
  | cons pair pairs ih => exact ih (agrees.put (.inr rfl))

theorem agreesOff_ofList (before after : List (String × α)) (key : String) (value other : α) :
    AgreesOff key (ofList (before ++ (key, value) :: after))
      (ofList (before ++ (key, other) :: after)) := by
  rw [ofList, ofList, List.foldl_append, List.foldl_append]
  exact ((AgreesOff.refl key _).put (.inl rfl)).foldl after

end Assoc

theorem RepoMap.files_ofList (files : List (String × FileRecord)) :
    (RepoMap.ofList files).files = Assoc.ofList files :=
  (List.foldl_hom RepoMap.files (fun _ _ => rfl)).symm

/-! ### Names -/

namespace Json

def Names (key : String) (item : Json) (name : String) : Prop :=
  item.field? key = some (.string name) ∧ name ≠ ""

/-- The item is no object, or has under the key nothing, something else than a text or an empty text. -/
def Nameless (key : String) (item : Json) : Prop :=
  ∀ name, item.field? key = some (.string name) → name = ""

theorem nonEmpty?_eq_some : document.nonEmpty? = some name ↔ document = .string name ∧ name ≠ "" := by
  rw [nonEmpty?, Option.filter_eq_some_iff]
  cases document <;> simp [string?]

theorem bind_nonEmpty? : (item.field? key).bind nonEmpty? = some name ↔ item.Names key name := by
  rw [Option.bind_eq_some_iff, Names]
  simp only [nonEmpty?_eq_some]
  constructor
  · rintro ⟨_, found, rfl, some⟩
    exact ⟨found, some⟩
  · rintro ⟨found, some⟩
    exact ⟨_, found, rfl, some⟩

theorem bind_nonEmpty?_eq_none : (item.field? key).bind nonEmpty? = none ↔ item.Nameless key := by
  rw [Option.eq_none_iff_forall_ne_some]
  simp only [ne_eq, bind_nonEmpty?, Names, not_and, Decidable.not_not]
  rfl

theorem bind_line? {line : Int} :
    (item.field? "line").bind line? = some line ↔ item.field? "line" = some (.int line) := by
  have only (document : Json) : document.line? = some line ↔ document = .int line := by
    cases document <;> simp [line?]
  rw [Option.bind_eq_some_iff]
  simp [only]

end Json

/-! ### Items -/

/-- The entries are read from the items in order. Items that have no name are passed over, and no
others are. -/
inductive Gathered (key : String) (read : Json → α → Prop) : List Json → List α → Prop where
  | nil : Gathered key read [] []
  | skip {item : Json} {items : List Json} {entries : List α} (nameless : item.Nameless key)
    (rest : Gathered key read items entries) : Gathered key read (item :: items) entries
  | take {item : Json} {items : List Json} {entry : α} {entries : List α} (taken : read item entry)
    (rest : Gathered key read items entries) : Gathered key read (item :: items) (entry :: entries)

def gather (key : String) (build : Json → String → α) (item : Json) : Option α :=
  ((item.field? key).bind Json.nonEmpty?).map (build item)

theorem gather_of_nameless {build : Json → String → α} (nameless : item.Nameless key) :
    gather key build item = none := by
  rw [gather, Json.bind_nonEmpty?_eq_none.mpr nameless, Option.map_none]

theorem gathered {build : Json → String → α} {read : Json → α → Prop}
    (reads : ∀ item name, item.Names key name → read item (build item name)) (items : List Json) :
    Gathered key read items (items.filterMap (gather key build)) := by
  induction items with
  | nil => exact .nil
  | cons item items ih =>
    cases named : (item.field? key).bind Json.nonEmpty? with
    | none =>
      have nameless := Json.bind_nonEmpty?_eq_none.mp named
      rw [List.filterMap_cons_none (gather_of_nameless nameless)]
      exact .skip nameless ih
    | some name =>
      rw [List.filterMap_cons_some (by rw [gather, named]; rfl)]
      exact .take (reads item name (Json.bind_nonEmpty?.mp named)) ih

theorem Gathered.mem {read : Json → α → Prop} {items : List Json} {entries : List α} {entry : α}
    (gathered : Gathered key read items entries) (member : entry ∈ entries) :
    ∃ item ∈ items, read item entry := by
  induction gathered with
  | nil => cases member
  | skip _ _ ih =>
    obtain ⟨item, inside, reads⟩ := ih member
    exact ⟨item, List.mem_cons_of_mem _ inside, reads⟩
  | take taken _ ih =>
    rcases List.mem_cons.mp member with rfl | later
    · exact ⟨_, List.mem_cons_self, taken⟩
    · obtain ⟨item, inside, reads⟩ := ih later
      exact ⟨item, List.mem_cons_of_mem _ inside, reads⟩

/-- The export is what its item says. A kind must not be empty, and a line is an integer. -/
structure Export.ReadFrom (item : Json) (entry : Export) : Prop where
  name : item.Names "name" entry.name
  kind : ∀ kind, entry.kind = some kind ↔ item.Names "kind" kind
  line : ∀ line, entry.line = some line ↔ item.field? "line" = some (.int line)

/-- The declaration is what its item says. It is exported by `true` and by nothing like it. -/
structure Declaration.ReadFrom (item : Json) (entry : Declaration) : Prop where
  name : item.Names "name" entry.name
  exported : entry.exported = true ↔ item.field? "exported" = some (.bool true)
  line : ∀ line, entry.line = some line ↔ item.field? "line" = some (.int line)

/-- The import is what its item says. Of the names it lists only texts count. -/
structure Import.ReadFrom (item : Json) (entry : Import) : Prop where
  source : item.Names "source" entry.source
  kind : ∀ kind, entry.kind = some kind ↔ item.field? "kind" = some (.string kind)
  names : ∀ names, entry.names = some names ↔
    ∃ items, item.field? "names" = some (.array items) ∧ items.filterMap Json.string? = names

def Export.build (item : Json) (name : String) : Export where
  name
  kind := (item.field? "kind").bind Json.nonEmpty?
  line := (item.field? "line").bind Json.line?

def Declaration.build (item : Json) (name : String) : Declaration where
  name
  exported := Json.isTrue (item.field? "exported")
  line := (item.field? "line").bind Json.line?

def Import.build (item : Json) (source : String) : Import where
  source
  kind := (item.field? "kind").bind Json.string?
  names := (item.field? "names").bind Json.names?

theorem gather_eq (key : String) (build : Json → String → α) (item : Json) :
    (do let name ← (← item.field? key).nonEmpty?
        return build item name) = gather key build item := by
  unfold gather
  cases item.field? key with
  | none => rfl
  | some found =>
    change (found.nonEmpty? >>= fun name => pure (build item name)) = found.nonEmpty?.map (build item)
    cases found.nonEmpty? <;> rfl

theorem Export.ofJson?_eq : Export.ofJson? = gather "name" build :=
  funext (gather_eq "name" build)

theorem Declaration.ofJson?_eq : Declaration.ofJson? = gather "name" build :=
  funext (gather_eq "name" build)

theorem Import.ofJson?_eq : Import.ofJson? = gather "source" build :=
  funext (gather_eq "source" build)

theorem Export.readFrom_build (item : Json) (name : String) (named : item.Names "name" name) :
    (build item name).ReadFrom item :=
  ⟨named, fun _ => Json.bind_nonEmpty?, fun _ => Json.bind_line?⟩

theorem Json.isTrue_iff {found : Option Json} : isTrue found = true ↔ found = some (.bool true) := by
  unfold isTrue
  split <;> simp_all

theorem Declaration.readFrom_build (item : Json) (name : String) (named : item.Names "name" name) :
    (build item name).ReadFrom item :=
  ⟨named, Json.isTrue_iff, fun _ => Json.bind_line?⟩

theorem Import.readFrom_build (item : Json) (source : String) (named : item.Names "source" source) :
    (build item source).ReadFrom item := by
  refine ⟨named, fun kind => ?_, fun names => ?_⟩
  · have only (document : Json) : document.string? = some kind ↔ document = .string kind := by
      cases document <;> simp [Json.string?]
    simp [build, Option.bind_eq_some_iff, only]
  · have only (document : Json) : document.names? = some names ↔
        ∃ items, document = .array items ∧ items.filterMap Json.string? = names := by
      cases document <;> simp [Json.names?]
    simp only [build, Option.bind_eq_some_iff, only]
    constructor
    · rintro ⟨_, found, items, rfl, same⟩
      exact ⟨items, found, same⟩
    · rintro ⟨items, found, same⟩
      exact ⟨_, found, items, rfl, same⟩

/-! ### Documents -/

def Json.symbols (described : Json) : Json := (described.field? "symbols").getD .null

def Json.files (document : Json) : List (String × Json) :=
  ((document.field? "files").getD .null).fields

structure FileRecord.ReadFrom (described : Json) (record : FileRecord) : Prop where
  exports : Gathered "name" Export.ReadFrom (described.symbols.itemsOf "exports") record.exports
  classes : Gathered "name" Declaration.ReadFrom (described.symbols.itemsOf "classes") record.classes
  functions :
    Gathered "name" Declaration.ReadFrom (described.symbols.itemsOf "functions") record.functions
  imports : Gathered "source" Import.ReadFrom (described.itemsOf "imports") record.imports

structure FileRecord.Named (record : FileRecord) : Prop where
  exports : ∀ entry ∈ record.exports, entry.name ≠ ""
  classes : ∀ declaration ∈ record.classes, declaration.name ≠ ""
  functions : ∀ declaration ∈ record.functions, declaration.name ≠ ""
  imports : ∀ entry ∈ record.imports, entry.source ≠ ""

theorem FileRecord.ofJson_eq (described : Json) :
    FileRecord.ofJson described =
      { exports := (described.symbols.itemsOf "exports").filterMap (gather "name" Export.build)
        classes := (described.symbols.itemsOf "classes").filterMap (gather "name" Declaration.build)
        functions := (described.symbols.itemsOf "functions").filterMap (gather "name" Declaration.build)
        imports := (described.itemsOf "imports").filterMap (gather "source" Import.build) } := by
  rw [← Export.ofJson?_eq, ← Declaration.ofJson?_eq, ← Import.ofJson?_eq]
  rfl

theorem FileRecord.readFrom_ofJson (described : Json) :
    (FileRecord.ofJson described).ReadFrom described := by
  rw [ofJson_eq]
  exact ⟨gathered Export.readFrom_build _, gathered Declaration.readFrom_build _,
    gathered Declaration.readFrom_build _, gathered Import.readFrom_build _⟩

theorem FileRecord.ReadFrom.named {described : Json} {record : FileRecord}
    (read : record.ReadFrom described) : record.Named where
  exports entry member := by
    obtain ⟨_, _, from_item⟩ := read.exports.mem member
    exact from_item.name.2
  classes declaration member := by
    obtain ⟨_, _, from_item⟩ := read.classes.mem member
    exact from_item.name.2
  functions declaration member := by
    obtain ⟨_, _, from_item⟩ := read.functions.mem member
    exact from_item.name.2
  imports entry member := by
    obtain ⟨_, _, from_item⟩ := read.imports.mem member
    exact from_item.source.2

/-- The document is neither a null nor an object, or the table of files in it is there and neither
of them. -/
def Json.Misshapen (document : Json) : Prop :=
  (document ≠ .null ∧ ∀ fields, document ≠ .object fields) ∨
    ∃ fields found, document = .object fields ∧ Assoc.get? "files" fields = some found ∧
      found ≠ .null ∧ ∀ files, found ≠ .object files

/-- The map has the files of the document that have a path, each as it is described there. -/
structure RepoMap.DescribedBy (document : Json) (map : RepoMap) : Prop where
  paths : ∀ path, path ∈ map.paths ↔ path ≠ "" ∧ path ∈ Assoc.keys document.files
  records : ∀ path record, (path, record) ∈ map.files →
    record.Named ∧ ∃ described, (path, described) ∈ document.files ∧ record.ReadFrom described

namespace RepoMap

theorem ofJson_cases (document : Json) :
    document.Misshapen ∧ (∃ fault, ofJson document = .error fault) ∨
      ¬document.Misshapen ∧ ofJson document = .ok (.ofFields document.files) := by
  cases document with
  | null => exact .inr ⟨by simp [Json.Misshapen], rfl⟩
  | object fields =>
    rw [ofJson, Json.files, Json.field?, Json.fields]
    cases found : Assoc.get? "files" fields with
    | none => exact .inr ⟨by simp [Json.Misshapen, found], rfl⟩
    | some files =>
      cases files with
      | null => exact .inr ⟨by simp [Json.Misshapen, found], rfl⟩
      | object table => exact .inr ⟨by simp [Json.Misshapen, found], rfl⟩
      | _ => exact .inl ⟨by simp [Json.Misshapen, found], _, rfl⟩
  | _ => exact .inl ⟨by simp [Json.Misshapen], _, rfl⟩

theorem files_ofFields (fields : List (String × Json)) :
    (ofFields fields).files =
      Assoc.ofList ((fields.filter (·.1 != "")).map (fun field => (field.1, .ofJson field.2))) :=
  files_ofList _

theorem describedBy_ofFields (document : Json) : (ofFields document.files).DescribedBy document := by
  refine ⟨fun path => ?_, fun path record member => ?_⟩
  · rw [paths, files_ofFields, Assoc.mem_keys_ofList]
    simp only [Assoc.keys, List.map_map, List.mem_map, List.mem_filter, Function.comp_apply, bne_iff_ne]
    constructor
    · rintro ⟨field, ⟨member, some⟩, rfl⟩
      exact ⟨some, field, member, rfl⟩
    · rintro ⟨some, field, member, rfl⟩
      exact ⟨field, ⟨member, some⟩, rfl⟩
  · rw [files_ofFields] at member
    obtain ⟨field, kept, same⟩ := List.mem_map.mp (Assoc.mem_of_mem_ofList member)
    obtain ⟨rfl, rfl⟩ := Prod.mk.inj same
    have read := FileRecord.readFrom_ofJson field.2
    exact ⟨read.named, field.2, (List.mem_filter.mp kept).1, read⟩

end RepoMap

/-! ### Edits -/

namespace Json

/-- Objects that differ in one field at most, and there by an edit. -/
inductive AtField (key : String) (edit : Json → Json → Prop) : Json → Json → Prop where
  | intro (before after : List (String × Json)) {value other : Json} (edited : edit value other) :
    AtField key edit (.object (before ++ (key, value) :: after))
      (.object (before ++ (key, other) :: after))

/-- Arrays of which the second has one more item, without a name. -/
inductive Inserts (key : String) : Json → Json → Prop where
  | intro (before after : List Json) {item : Json} (nameless : item.Nameless key) :
    Inserts key (.array (before ++ after)) (.array (before ++ item :: after))

inductive PadsRecord : Json → Json → Prop where
  | symbols {described padded : Json} (list : String)
    (edited : AtField "symbols" (AtField list (Inserts "name")) described padded) :
    PadsRecord described padded
  | imports {described padded : Json} (edited : AtField "imports" (Inserts "source") described padded) :
    PadsRecord described padded

inductive AddsPathless : Json → Json → Prop where
  | intro (before after : List (String × Json)) (described : Json) :
    AddsPathless (.object (before ++ after)) (.object (before ++ ("", described) :: after))

/-- Documents of which the second has one more item or file that is of no use. -/
inductive Pads : Json → Json → Prop where
  | record {document padded : Json} (path : String)
    (edited : AtField "files" (AtField path PadsRecord) document padded) : Pads document padded
  | pathless {document padded : Json} (edited : AtField "files" AddsPathless document padded) :
    Pads document padded

/-- A field of an edited object is as it was, or it is the edited one. -/
theorem AtField.field? (edited : AtField key edit document changed) (name : String) :
    changed.field? name = document.field? name ∨
      name = key ∧ ∃ value other, document.field? name = some value ∧
        changed.field? name = some other ∧ edit value other := by
  obtain @⟨before, after, value, other, edited⟩ := edited
  simp only [Json.field?, fields]
  induction before with
  | nil =>
    by_cases same : key = name
    · exact .inr ⟨same.symm, value, other, if_pos same, if_pos same, edited⟩
    · exact .inl (by simp [Assoc.get?, same])
  | cons field before ih =>
    by_cases same : field.1 = name
    · exact .inl (by simp [Assoc.get?, same])
    · simpa [Assoc.get?, same] using ih

theorem AtField.field?_other (edited : AtField key edit document changed) (apart : name ≠ key) :
    changed.field? name = document.field? name :=
  (edited.field? name).resolve_right (fun same => apart same.1)

theorem AtField.gather_items (edited : AtField path (Inserts key) document padded)
    (build : Json → String → α) (list : String) :
    (padded.itemsOf list).filterMap (gather key build) =
      (document.itemsOf list).filterMap (gather key build) := by
  rcases edited.field? list with same | ⟨_, _, _, found, now, inserted⟩
  · rw [itemsOf, itemsOf, same]
  · rw [itemsOf, itemsOf, found, now]
    obtain ⟨before, after, nameless⟩ := inserted
    simp only [Option.getD_some, items, List.filterMap_append,
      List.filterMap_cons_none (gather_of_nameless nameless)]

theorem PadsRecord.ofJson_eq {described padded : Json} (pads : PadsRecord described padded) :
    FileRecord.ofJson padded = FileRecord.ofJson described := by
  rw [FileRecord.ofJson_eq, FileRecord.ofJson_eq]
  cases pads with
  | symbols list edited =>
    have imports : padded.itemsOf "imports" = described.itemsOf "imports" := by
      rw [itemsOf, itemsOf, edited.field?_other (by decide)]
    rw [imports, Json.symbols, Json.symbols]
    rcases edited.field? "symbols" with same | ⟨_, _, _, found, now, inside⟩
    · rw [same]
    · rw [found, now]
      simp only [Option.getD_some, inside.gather_items]
  | imports edited =>
    rw [Json.symbols, Json.symbols, edited.field?_other (by decide), edited.gather_items]

end Json

namespace RepoMap

theorem ofJson_of_files {files : List (String × Json)}
    (found : document.field? "files" = some (.object files)) :
    ofJson document = .ok (.ofFields files) := by
  cases document with
  | object fields =>
    have there : Assoc.get? "files" fields = some (.object files) := found
    rw [ofJson, there]
  | _ => cases found

/-- All that counts of an object is its table of files. -/
theorem ofJson_edited (edited : Json.AtField "files" edit document changed) :
    ofJson changed = ofJson document ∨ ∃ value other, edit value other ∧
      document.field? "files" = some value ∧ changed.field? "files" = some other := by
  rcases edited.field? "files" with same | ⟨_, value, other, found, now, inside⟩
  · refine .inl ?_
    obtain ⟨before, after, _⟩ := edited
    simp only [Json.field?, Json.fields] at same
    rw [ofJson, ofJson, same]
  · exact .inr ⟨value, other, inside, found, now⟩

theorem ofJson_padded (pads : Json.Pads document padded) : ofJson padded = ofJson document := by
  cases pads with
  | record path edited =>
    rcases ofJson_edited edited with same | ⟨_, _, inside, found, now⟩
    · exact same
    · obtain ⟨before, after, record⟩ := inside
      rw [ofJson_of_files found, ofJson_of_files now, ofFields, ofFields]
      by_cases none : path = "" <;>
        simp [List.filter_append, none, record.ofJson_eq]
  | pathless edited =>
    rcases ofJson_edited edited with same | ⟨_, _, inside, found, now⟩
    · exact same
    · obtain ⟨before, after, described⟩ := inside
      rw [ofJson_of_files found, ofJson_of_files now, ofFields, ofFields]
      simp [List.filter_append]

theorem agreesOff_ofFields (before after : List (String × Json)) (path : String)
    (described other : Json) :
    Assoc.AgreesOff path (ofFields (before ++ (path, described) :: after)).files
      (ofFields (before ++ (path, other) :: after)).files := by
  rw [files_ofFields, files_ofFields]
  -- A description under the empty path is dropped on both sides.
  by_cases none : path = ""
  · simpa [List.filter_append, List.filter_cons, none] using Assoc.AgreesOff.refl ..
  · simpa [List.filter_append, List.filter_cons, none] using Assoc.agreesOff_ofList ..

/-- A document is refused by its shape alone. Else the map holds what the document describes, under
names that are not empty. Items and files that are of no use can be added without effect, and what
becomes of one description touches no other file. -/
theorem ofJson_tolerant (document : Json) :
    ((∃ fault, ofJson document = .error fault) ↔ document.Misshapen) ∧
    (∀ map, ofJson document = .ok map → map.DescribedBy document) ∧
    (∀ padded, document.Pads padded → ofJson padded = ofJson document) ∧
    ∀ path changed, Json.AtField "files" (Json.AtField path fun _ _ => True) document changed →
      ∀ map, ofJson document = .ok map → ∃ other, ofJson changed = .ok other ∧
        other.paths = map.paths ∧
        ∀ place, place ≠ path → Assoc.get? place other.files = Assoc.get? place map.files := by
  refine ⟨?_, ?_, fun _ => ofJson_padded, ?_⟩
  · rcases ofJson_cases document with ⟨misshapen, refused⟩ | ⟨shaped, read⟩
    · exact iff_of_true refused misshapen
    · refine iff_of_false ?_ shaped
      rintro ⟨fault, refused⟩
      rw [read] at refused
      cases refused
  · intro map found
    rcases ofJson_cases document with ⟨_, fault, refused⟩ | ⟨_, read⟩
    · rw [refused] at found
      cases found
    · obtain rfl := Except.ok.inj (read.symm.trans found)
      exact describedBy_ofFields document
  · intro path changed edited map found
    rcases ofJson_edited edited with same | ⟨_, _, inside, before, now⟩
    · exact ⟨map, same.trans found, rfl, fun _ _ => rfl⟩
    · obtain ⟨earlier, later, _⟩ := inside
      obtain rfl := Except.ok.inj ((ofJson_of_files before).symm.trans found)
      have agrees := agreesOff_ofFields earlier later path
      exact ⟨_, ofJson_of_files now, (agrees _ _).keys, (agrees _ _).values⟩

/-- Two exports, one of them with a line that is none, more items between them, and a second file. -/
def cluttered (more : List Json) (second : Json) : Json :=
  .object [("files", .object [("a.ts", .object [("symbols", .object [("exports", .array
    ([.object [("name", .string "x"), ("line", .bool true)]] ++
      (more ++ [.object [("name", .string "y"), ("line", .int 3)]])))])]), ("b.ts", second)])]

theorem ofJson_tolerant_cluttered :
    ∃ map, ofJson (cluttered [] (.int 7)) = .ok map ∧ map.paths = ["a.ts", "b.ts"] ∧
      map.DescribedBy (cluttered [] (.int 7)) ∧
      ofJson (cluttered [.object [("name", .string "")]] (.int 7)) = .ok map ∧
      ∃ other, ofJson (cluttered [] (.object [("imports", .null)])) = .ok other ∧
        other.paths = ["a.ts", "b.ts"] ∧
        Assoc.get? "a.ts" other.files = Assoc.get? "a.ts" map.files := by
  obtain ⟨_, described, padded, isolated⟩ := ofJson_tolerant (cluttered [] (.int 7))
  have pads : (cluttered [] (.int 7)).Pads (cluttered [.object [("name", .string "")]] (.int 7)) := by
    refine .record "a.ts" (.intro [] [] (.intro [] [("b.ts", .int 7)]
      (.symbols "exports" (.intro [] [] (.intro [] [] (.intro [_] [_] ?_))))))
    intro name found
    exact (Json.string.inj (Option.some.inj found)).symm
  have edited : Json.AtField "files" (Json.AtField "b.ts" fun _ _ => True) (cluttered [] (.int 7))
      (cluttered [] (.object [("imports", .null)])) :=
    .intro [] [] (.intro [_] [] trivial)
  obtain ⟨other, read, paths, kept⟩ := isolated "b.ts" _ edited _ rfl
  exact ⟨_, rfl, rfl, described _ rfl, padded _ pads, other, read, paths, kept "a.ts" (by decide)⟩

end RepoMap

end Linkage
