import Linkage.Proofs.Json.Limits
import Linkage.Proofs.Json.Strings
import Linkage.Text.Newline
/-!
Documents that are written and read again.

What a document is read back from may have any text after it that ends a number. Arrays and objects
are read back item by item, and the bound of the reader is spent more slowly than the text.
-/

namespace Linkage

theorem Text.unixLines_eq {chars : List Char} (returnless : '\r' ∉ chars) : unixLines chars = chars := by
  induction chars with
  | nil => rfl
  | cons c chars ih =>
    obtain ⟨other, later⟩ := List.ne_and_not_mem_of_not_mem_cons returnless
    rw [unixLines, ih later]
    all_goals simp [Ne.symm other]

namespace Json

/-- Documents without fractions whose objects have each key once. -/
inductive Plain : Json → Prop
  | null : Plain .null
  | bool (value : Bool) : Plain (.bool value)
  | int (value : Int) : Plain (.int value)
  | string (value : String) : Plain (.string value)
  | array {items : List Json} (each : ∀ item ∈ items, Plain item) : Plain (.array items)
  | object {fields : List (String × Json)} (distinct : (Assoc.keys fields).Nodup)
    (each : ∀ field ∈ fields, Plain field.2) : Plain (.object fields)

variable {limits : Limits} {json item value : Json} {items : List Json}
  {fields : List (String × Json)} {key : String} {level depth bound : Nat}

@[simp] theorem plain_null : Plain .null := .null

@[simp] theorem plain_bool (value : Bool) : Plain (.bool value) := .bool value

@[simp] theorem plain_int (value : Int) : Plain (.int value) := .int value

@[simp] theorem plain_string (value : String) : Plain (.string value) := .string value

@[simp] theorem plain_array_iff : Plain (.array items) ↔ ∀ item ∈ items, Plain item :=
  ⟨fun plain => by cases plain; assumption, .array⟩

@[simp] theorem plain_object_iff :
    Plain (.object fields) ↔ (Assoc.keys fields).Nodup ∧ ∀ field ∈ fields, Plain field.2 :=
  ⟨fun plain => by cases plain; exact ⟨‹_›, ‹_›⟩, fun ⟨distinct, each⟩ => .object distinct each⟩

/-! ### Blanks -/

theorem skipSpace_cons {c : Char} (dark : isSpace c = false) (rest : List Char) :
    skipSpace (c :: rest) = c :: rest := by
  simp [skipSpace, dark]

theorem skipSpace_newLine (level : Nat) (rest : List Char) :
    skipSpace (newLine level ++ rest) = skipSpace rest := by
  apply List.dropWhile_append_of_pos
  intro c member
  rcases List.mem_cons.mp member with rfl | blank
  · rfl
  · rw [List.eq_of_mem_replicate blank]
    rfl

theorem isSpace_of_isDigit {c : Char} (digit : isDigit c = true) : isSpace c = false ∧ c ≠ ']' := by
  constructor
  · rw [Bool.eq_false_iff]
    intro blank
    simp only [isSpace, Bool.or_eq_true, decide_eq_true_eq] at blank
    rcases blank with ((rfl | rfl) | rfl) | rfl <;> cases digit
  · rintro rfl
    cases digit

/-- A document starts with a character that is no blank and closes no array. -/
theorem Plain.write_eq_cons (plain : Plain json) (level : Nat) :
    ∃ c rest, write level json = c :: rest ∧ isSpace c = false ∧ c ≠ ']' := by
  cases plain with
  | null => exact ⟨'n', _, rfl, rfl, by decide⟩
  | bool value => cases value <;> exact ⟨_, _, rfl, rfl, by decide⟩
  | int value =>
    obtain ⟨c, digits, same, digit, _⟩ := toDigits_eq_cons value.natAbs
    rw [write, toList_toString]
    split
    · exact ⟨'-', _, rfl, rfl, by decide⟩
    · exact ⟨c, digits, same, isSpace_of_isDigit digit⟩
  | string value => exact ⟨'"', _, rfl, rfl, by decide⟩
  | @array items each => cases items <;> exact ⟨'[', _, rfl, rfl, by decide⟩
  | @object fields distinct each => cases fields <;> exact ⟨'\x7b', _, rfl, rfl, by decide⟩

theorem Plain.skipSpace_write (plain : Plain json) (level : Nat) (rest : List Char) :
    skipSpace (write level json ++ rest) = write level json ++ rest := by
  obtain ⟨c, more, same, dark, _⟩ := plain.write_eq_cons level
  rw [same, List.cons_append, skipSpace_cons dark]

theorem Plain.bound_succ (plain : Plain json) (enough : (write level json).length ≤ bound) :
    ∃ smaller, bound = smaller + 1 := by
  obtain ⟨c, rest, same, _, _⟩ := plain.write_eq_cons level
  rw [same, List.length_cons] at enough
  exact Nat.exists_eq_add_of_le' (by omega)

/-! ### Arrays and objects -/

theorem endsNumber_items (items : List Json) (level outer : Nat) (rest : List Char) :
    EndsNumber (writeItems level items ++ (newLine outer ++ rest)) := by
  cases items <;> exact endsNumber_cons _ (by decide)

theorem endsNumber_fields (fields : List (String × Json)) (level outer : Nat) (rest : List Char) :
    EndsNumber (writeFields level fields ++ (newLine outer ++ rest)) := by
  cases fields <;> exact endsNumber_cons _ (by decide)

/-- The document is read back wherever it is written, if the reader can take it. -/
def ReadsBack (limits : Limits) (json : Json) : Prop :=
  ∀ level depth bound rest, Within limits depth json → (write level json).length ≤ bound →
    EndsNumber rest → readValue limits depth bound (write level json ++ rest) = .ok (json, rest)

/-- Reads an item and leaves what follows it. -/
theorem readItems_item {tail : List Char} (reads : ReadsBack limits item)
    (within : Within limits depth item) (enough : (write level item).length ≤ bound)
    (ends : EndsNumber tail) :
    readItems limits depth (bound + 1) (write level item ++ tail) =
      match skipSpace tail with
      | ']' :: rest => .ok ([item], rest)
      | ',' :: rest => do
        let (items, rest) ← readItems limits depth bound (skipSpace rest)
        return (item :: items, rest)
      | rest => stop .comma rest := by
  rw [readItems, reads level depth bound tail within enough ends]
  rfl

theorem readItems_write (plain : ∀ each ∈ item :: items, Plain each)
    (reads : ∀ each ∈ item :: items, ReadsBack limits each)
    (within : ∀ each ∈ item :: items, Within limits depth each)
    (enough : (write level item).length + (writeItems level items).length + 1 ≤ bound)
    (outer : Nat) (rest : List Char) :
    readItems limits depth bound
        (write level item ++ (writeItems level items ++ (newLine outer ++ ']' :: rest))) =
      .ok (item :: items, rest) := by
  induction items generalizing item bound with
  | nil =>
    obtain ⟨smaller, rfl⟩ : ∃ smaller, bound = smaller + 1 := ⟨bound - 1, by omega⟩
    rw [readItems_item (reads item List.mem_cons_self) (within item List.mem_cons_self) (by omega)
      (endsNumber_items [] level outer (']' :: rest))]
    rw [writeItems, List.nil_append, skipSpace_newLine, skipSpace_cons rfl]
    rfl
  | cons next items ih =>
    obtain ⟨smaller, rfl⟩ : ∃ smaller, bound = smaller + 1 := ⟨bound - 1, by omega⟩
    have comma : writeItems level (next :: items) ++ (newLine outer ++ ']' :: rest) =
        ',' :: (newLine level ++ (write level next ++
          (writeItems level items ++ (newLine outer ++ ']' :: rest)))) := by
      simp [writeItems]
    have size : (writeItems level (next :: items)).length ≥
        (write level next).length + (writeItems level items).length + 1 := by
      simp only [writeItems, List.length_append, List.length_cons]
      omega
    have following := ih (fun each member => plain each (List.mem_cons_of_mem _ member))
      (fun each member => reads each (List.mem_cons_of_mem _ member))
      (fun each member => within each (List.mem_cons_of_mem _ member))
      (show _ ≤ smaller by omega)
    rw [readItems_item (reads item List.mem_cons_self) (within item List.mem_cons_self) (by omega)
      (endsNumber_items (next :: items) level outer (']' :: rest))]
    simp only [comma, skipSpace_cons (c := ',') rfl, skipSpace_newLine,
      (plain next (by simp)).skipSpace_write, following]
    rfl

/-- Reads a field and leaves what follows it. -/
theorem readFields_field {field : String × Json} {tail : List Char} (plain : Plain field.2)
    (reads : ReadsBack limits field.2) (within : Within limits depth field.2)
    (enough : (write level field.2).length ≤ bound) (ends : EndsNumber tail) :
    readFields limits depth (bound + 1)
        (writeString field.1 ++ (": ".toList ++ (write level field.2 ++ tail))) =
      match skipSpace tail with
      | '\x7d' :: rest => .ok ([field], rest)
      | ',' :: rest => do
        let (fields, rest) ← readFields limits depth bound (skipSpace rest)
        return (field :: fields, rest)
      | rest => stop .comma rest := by
  have colon : skipSpace (": ".toList ++ (write level field.2 ++ tail)) =
      ':' :: ' ' :: (write level field.2 ++ tail) := rfl
  have blank : skipSpace (' ' :: (write level field.2 ++ tail)) = write level field.2 ++ tail :=
    plain.skipSpace_write level tail
  rw [writeString_append, readFields, readString_writeString]
  simp only [bind, Except.bind, colon, blank, reads level depth bound tail within enough ends]
  rfl

theorem readFields_write {field : String × Json} (plain : ∀ each ∈ field :: fields, Plain each.2)
    (reads : ∀ each ∈ field :: fields, ReadsBack limits each.2)
    (within : ∀ each ∈ field :: fields, Within limits depth each.2)
    (enough : (write level field.2).length + (writeFields level fields).length + 1 ≤ bound)
    (outer : Nat) (rest : List Char) :
    readFields limits depth bound (writeString field.1 ++ (": ".toList ++ (write level field.2 ++
        (writeFields level fields ++ (newLine outer ++ '\x7d' :: rest))))) =
      .ok (field :: fields, rest) := by
  induction fields generalizing field bound with
  | nil =>
    obtain ⟨smaller, rfl⟩ : ∃ smaller, bound = smaller + 1 := ⟨bound - 1, by omega⟩
    rw [readFields_field (plain field List.mem_cons_self) (reads field List.mem_cons_self)
      (within field List.mem_cons_self) (by omega)
      (endsNumber_fields [] level outer ('\x7d' :: rest))]
    rw [writeFields, List.nil_append, skipSpace_newLine, skipSpace_cons rfl]
    rfl
  | cons next fields ih =>
    obtain ⟨smaller, rfl⟩ : ∃ smaller, bound = smaller + 1 := ⟨bound - 1, by omega⟩
    have comma : writeFields level (next :: fields) ++ (newLine outer ++ '\x7d' :: rest) =
        ',' :: (newLine level ++ (writeString next.1 ++ (": ".toList ++ (write level next.2 ++
          (writeFields level fields ++ (newLine outer ++ '\x7d' :: rest)))))) := by
      simp [writeFields]
    have quote : ∀ more, skipSpace (writeString next.1 ++ more) = writeString next.1 ++ more := by
      intro more
      rw [writeString_append, skipSpace_cons rfl]
    have size : (writeFields level (next :: fields)).length ≥
        (write level next.2).length + (writeFields level fields).length + 1 := by
      simp only [writeFields, List.length_append, List.length_cons]
      omega
    have following := ih (fun each member => plain each (List.mem_cons_of_mem _ member))
      (fun each member => reads each (List.mem_cons_of_mem _ member))
      (fun each member => within each (List.mem_cons_of_mem _ member))
      (show _ ≤ smaller by omega)
    rw [readFields_field (plain field List.mem_cons_self) (reads field List.mem_cons_self)
      (within field List.mem_cons_self) (by omega)
      (endsNumber_fields (next :: fields) level outer ('\x7d' :: rest))]
    simp only [comma, skipSpace_cons (c := ',') rfl, skipSpace_newLine, quote, following]
    rfl

/-! ### Documents -/

theorem readValue_toString (limits : Limits) (depth bound : Nat) (value : Int) (rest : List Char) :
    readValue limits depth (bound + 1) ((toString value).toList ++ rest) =
      readAtom limits ((toString value).toList ++ rest) := by
  obtain ⟨c, digits, same, digit, _⟩ := toDigits_eq_cons value.natAbs
  have apart : ∀ d, isDigit d = false → c ≠ d := by
    rintro d other rfl
    rw [digit] at other
    cases other
  rw [toList_toString, same]
  split
  · rfl
  · rw [List.cons_append, readValue]
    all_goals exact fun _ first => apart _ (by decide) (List.cons.inj first).1

theorem readsBack_array (plain : ∀ each ∈ items, Plain each)
    (reads : ∀ each ∈ items, ReadsBack limits each) : ReadsBack limits (.array items) := by
  rintro level depth bound rest (_ | _ | _ | _ | _ | ⟨shallow, within⟩) enough ends
  obtain ⟨smaller, rfl⟩ := (Plain.array plain).bound_succ enough
  cases items with
  | nil =>
    have opening : write level (.array []) ++ rest = '[' :: ']' :: rest := by simp [write]
    rw [opening, readValue, if_neg (by simp [shallow]), skipSpace_cons rfl]
    rfl
  | cons item items =>
    have opening : write level (.array (item :: items)) ++ rest = '[' :: (newLine (level + 1) ++
        (write (level + 1) item ++ (writeItems (level + 1) items ++ (newLine level ++ ']' :: rest)))) := by
      simp [write]
    have size : (write (level + 1) item).length + (writeItems (level + 1) items).length + 1 ≤ smaller := by
      simp only [write, newLine, List.length_append, List.length_cons] at enough
      omega
    have inner := readItems_write plain reads within size level rest
    obtain ⟨c, more, same, dark, other⟩ := (plain item List.mem_cons_self).write_eq_cons (level + 1)
    rw [opening, readValue, if_neg (by simp [shallow]), skipSpace_newLine,
      (plain item List.mem_cons_self).skipSpace_write]
    rw [same, List.cons_append] at inner ⊢
    split
    case h_1 closed => exact absurd (List.cons.inj closed).1 other
    case h_2 =>
      rw [inner]
      rfl

theorem readsBack_object (distinct : (Assoc.keys fields).Nodup)
    (plain : ∀ each ∈ fields, Plain each.2)
    (reads : ∀ each ∈ fields, ReadsBack limits each.2) : ReadsBack limits (.object fields) := by
  rintro level depth bound rest (_ | _ | _ | _ | _ | _ | ⟨shallow, within⟩) enough ends
  obtain ⟨smaller, rfl⟩ := (Plain.object distinct plain).bound_succ enough
  cases fields with
  | nil =>
    have opening : write level (.object []) ++ rest = '\x7b' :: '\x7d' :: rest := by simp [write]
    rw [opening, readValue, if_neg (by simp [shallow]), skipSpace_cons rfl]
    rfl
  | cons field fields =>
    have opening : write level (.object (field :: fields)) ++ rest = '\x7b' :: (newLine (level + 1) ++
        (writeString field.1 ++ (": ".toList ++ (write (level + 1) field.2 ++
          (writeFields (level + 1) fields ++ (newLine level ++ '\x7d' :: rest)))))) := by
      simp [write]
    have size : (write (level + 1) field.2).length + (writeFields (level + 1) fields).length + 1 ≤
        smaller := by
      simp only [write, newLine, List.length_append, List.length_cons] at enough
      omega
    have inner := readFields_write plain reads within size level rest
    rw [opening, readValue, if_neg (by simp [shallow]), skipSpace_newLine]
    rw [writeString_append] at inner ⊢
    rw [skipSpace_cons rfl]
    split
    case h_1 closed => cases (List.cons.inj closed).1
    case h_2 =>
      rw [inner]
      simp only [bind, Except.bind, Assoc.ofList_of_nodup distinct]
      rfl

theorem Plain.readsBack (plain : Plain json) : ReadsBack limits json := by
  induction plain with
  | null =>
    intro level depth bound rest within enough ends
    obtain ⟨smaller, rfl⟩ := Plain.null.bound_succ enough
    rfl
  | bool value =>
    intro level depth bound rest within enough ends
    obtain ⟨smaller, rfl⟩ := (Plain.bool value).bound_succ enough
    cases value <;> rfl
  | int value =>
    rintro level depth bound rest (_ | _ | short) enough ends
    obtain ⟨smaller, rfl⟩ := (Plain.int value).bound_succ enough
    rw [write, readValue_toString, readAtom_toString short ends]
  | string value =>
    intro level depth bound rest within enough ends
    obtain ⟨smaller, rfl⟩ := (Plain.string value).bound_succ enough
    rw [write, writeString_append, readValue, readString_writeString]
    rfl
  | array each ih => exact readsBack_array each ih
  | object distinct each ih => exact readsBack_object distinct each ih

/-! ### Texts -/

theorem isWritten_of_isDigit {c : Char} (digit : isDigit c = true) : isWritten c = true := by
  rw [isDigit, Bool.and_eq_true, decide_eq_true_eq, decide_eq_true_eq] at digit
  have lower : 48 ≤ c.toNat := digit.1
  have upper : c.toNat ≤ 57 := digit.2
  simp only [isWritten, Bool.or_eq_true, Bool.and_eq_true, decide_eq_true_eq]
  omega

theorem written_toString (value : Int) : ∀ c ∈ (toString value).toList, isWritten c = true := by
  have digits : ∀ c ∈ Nat.toDigits 10 value.natAbs, isWritten c = true :=
    fun _ member => isWritten_of_isDigit (isDigit_of_mem_toDigits member)
  rw [toList_toString]
  split
  · exact List.forall_mem_cons.mpr ⟨by decide, digits⟩
  · exact digits

theorem written_newLine (level : Nat) : (newLine level).all isWritten = true := by
  have blanks : ∀ count, (List.replicate count ' ').all isWritten = true := by
    intro count
    rw [List.all_replicate]
    split <;> rfl
  rw [newLine, List.all_cons, blanks]
  rfl

theorem written_writeItems (each : ∀ item ∈ items, (write level item).all isWritten = true) :
    (writeItems level items).all isWritten = true := by
  induction items with
  | nil => rfl
  | cons item items ih =>
    obtain ⟨first, later⟩ := List.forall_mem_cons.mp each
    simp [writeItems, written_newLine, first, ih later, isWritten]

theorem written_writeFields (each : ∀ field ∈ fields, (write level field.2).all isWritten = true) :
    (writeFields level fields).all isWritten = true := by
  induction fields with
  | nil => rfl
  | cons field fields ih =>
    obtain ⟨first, later⟩ := List.forall_mem_cons.mp each
    simp [writeFields, written_newLine, written_writeString, first, ih later, isWritten]

theorem Plain.written_write (plain : Plain json) (level : Nat) :
    (write level json).all isWritten = true := by
  induction plain generalizing level with
  | null => rfl
  | bool value => cases value <;> rfl
  | int value => exact List.all_eq_true.mpr (written_toString value)
  | string value => exact written_writeString value
  | @array items each ih =>
    cases items with
    | nil => rfl
    | cons item items =>
      obtain ⟨first, later⟩ := List.forall_mem_cons.mp ih
      have others := written_writeItems (fun item member => later item member (level + 1))
      simp [write, written_newLine, first, others, isWritten]
  | @object fields distinct each ih =>
    cases fields with
    | nil => rfl
    | cons field fields =>
      obtain ⟨first, later⟩ := List.forall_mem_cons.mp ih
      have others := written_writeFields (fun field member => later field member (level + 1))
      simp [write, written_newLine, written_writeString, first, others, isWritten]

theorem skipSpace_blank {rest : List Char} (blank : ∀ c ∈ rest, isSpace c = true) :
    skipSpace rest = [] :=
  List.dropWhile_eq_nil_iff.mpr blank

theorem endsNumber_blank {rest : List Char} (blank : ∀ c ∈ rest, isSpace c = true) :
    EndsNumber rest := by
  intro c first
  have space := blank c (List.mem_of_mem_head? first)
  simp only [isSpace, Bool.or_eq_true, decide_eq_true_eq] at space
  rcases space with ((rfl | rfl) | rfl) | rfl <;> decide

theorem Plain.readDocument_write (plain : Plain json) (within : Within limits 0 json)
    {rest : List Char} (blank : ∀ c ∈ rest, isSpace c = true) :
    readDocument limits (write 0 json ++ rest) = .ok json := by
  have enough : (write 0 json).length ≤ 2 * (write 0 json ++ rest).length + 2 := by
    rw [List.length_append]
    omega
  rw [readDocument, plain.skipSpace_write,
    plain.readsBack 0 0 _ rest within enough (endsNumber_blank blank)]
  simp only [bind, Except.bind, skipSpace_blank blank]
  rfl

/-- A document is read back from its text, with blanks after it. -/
theorem Plain.parse_render_append (plain : Plain json) (within : Within limits 0 json) {rest : String}
    (blank : ∀ c ∈ rest.toList, isSpace c = true) : parse limits (json.render ++ rest) = .ok json := by
  have chars : (json.render ++ rest).toList = write 0 json ++ rest.toList := by
    rw [String.toList_append, render, String.toList_ofList]
  have marked : (write 0 json ++ rest.toList).head? ≠ some (Char.ofNat 0xFEFF) := by
    obtain ⟨c, more, same, _⟩ := plain.write_eq_cons 0
    have written := List.all_eq_true.mp (plain.written_write 0) c (same ▸ List.mem_cons_self)
    rw [same]
    rintro ⟨rfl⟩
    cases written
  rw [parse, chars]
  simp only [if_neg marked, plain.readDocument_write within blank]
  rfl

theorem Plain.parse_render (plain : Plain json) (within : Within limits 0 json) :
    parse limits json.render = .ok json := by
  have blank : ∀ c ∈ "".toList, isSpace c = true := by simp
  have read := plain.parse_render_append within blank
  rwa [String.append_empty] at read

theorem Plain.within_none (plain : Plain json) (depth : Nat) : Within {} depth json := by
  induction plain generalizing depth with
  | null => exact .null
  | bool value => exact .bool value
  | int value => exact .int rfl
  | string value => exact .string value
  | array each ih => exact .array rfl (fun item member => ih item member _)
  | object distinct each ih => exact .object rfl (fun field member => ih field member _)

theorem Plain.written_render (plain : Plain json) : ∀ c ∈ json.render.toList, isWritten c = true := by
  rw [render, String.toList_ofList]
  exact List.all_eq_true.mp (plain.written_write 0)

theorem Plain.ascii_render (plain : Plain json) :
    ∀ c ∈ json.render.toList, 0 < c.toNat ∧ c.toNat < 128 := by
  intro c member
  have written := plain.written_render c member
  simp only [isWritten, Bool.or_eq_true, Bool.and_eq_true, decide_eq_true_eq] at written
  rcases written with rfl | visible
  · decide
  · omega

theorem Plain.returnless (plain : Plain json) : '\r' ∉ json.render.toList := by
  intro member
  cases plain.written_render _ member

/-- Just the readers that can take a document read it back. -/
theorem Plain.parse_render_iff (plain : Plain json) :
    parse limits json.render = .ok json ↔ Within limits 0 json :=
  ⟨.of_parse, plain.parse_render⟩

theorem Plain.eq_of_render_eq {other : Json} (plain : Plain json) (also : Plain other)
    (same : json.render = other.render) : json = other := by
  have read := plain.parse_render (plain.within_none 0)
  rw [same, also.parse_render (also.within_none 0)] at read
  exact (Except.ok.inj read).symm

end Json

end Linkage
