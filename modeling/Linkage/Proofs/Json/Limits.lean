import Linkage.Proofs.Json.Numbers
/-!
What a reader's limits let through: every document that is read has integers of few enough digits and
is nested no deeper than the limits say.
-/

namespace Linkage

theorem ok_of_bind {ε α β : Type} {first : Except ε α} {next : α → Except ε β} {result : β}
    (done : first >>= next = .ok result) : ∃ value, first = .ok value ∧ next value = .ok result := by
  cases first with
  | error fault => cases done
  | ok value => exact ⟨value, rfl, done⟩

namespace Json

/-- Documents that stay within a reader's limits when they stand in `depth` arrays and objects. -/
inductive Within (limits : Limits) : Nat → Json → Prop
  | null {depth : Nat} : Within limits depth .null
  | bool {depth : Nat} (value : Bool) : Within limits depth (.bool value)
  | int {depth : Nat} {value : Int} (short : exceeds limits.digits (digitCount value) = false) :
    Within limits depth (.int value)
  | real {depth : Nat} (literal : String) : Within limits depth (.real literal)
  | string {depth : Nat} (value : String) : Within limits depth (.string value)
  | array {depth : Nat} {items : List Json} (shallow : exceeds limits.depth (depth + 1) = false)
    (each : ∀ item ∈ items, Within limits (depth + 1) item) : Within limits depth (.array items)
  | object {depth : Nat} {fields : List (String × Json)}
    (shallow : exceeds limits.depth (depth + 1) = false)
    (each : ∀ field ∈ fields, Within limits (depth + 1) field.2) :
    Within limits depth (.object fields)

variable {limits : Limits} {json : Json} {depth bound : Nat} {chars rest : List Char}

@[simp] theorem within_null : Within limits depth .null := .null

@[simp] theorem within_bool (value : Bool) : Within limits depth (.bool value) := .bool value

@[simp] theorem within_int_iff {value : Int} :
    Within limits depth (.int value) ↔ exceeds limits.digits (digitCount value) = false :=
  ⟨fun within => by cases within; assumption, .int⟩

@[simp] theorem within_string (value : String) : Within limits depth (.string value) := .string value

@[simp] theorem within_array_iff {items : List Json} :
    Within limits depth (.array items) ↔
      exceeds limits.depth (depth + 1) = false ∧ ∀ item ∈ items, Within limits (depth + 1) item :=
  ⟨fun within => by cases within; exact ⟨‹_›, ‹_›⟩, fun ⟨shallow, each⟩ => .array shallow each⟩

@[simp] theorem within_object_iff {fields : List (String × Json)} :
    Within limits depth (.object fields) ↔
      exceeds limits.depth (depth + 1) = false ∧
        ∀ field ∈ fields, Within limits (depth + 1) field.2 :=
  ⟨fun within => by cases within; exact ⟨‹_›, ‹_›⟩, fun ⟨shallow, each⟩ => .object shallow each⟩

theorem exceeds_of_le {limit : Option Nat} {small large : Nat} (order : small ≤ large)
    (fits : exceeds limit large = false) : exceeds limit small = false := by
  cases limit with
  | none => rfl
  | some most =>
    simp only [exceeds, Option.any_some, decide_eq_false_iff_not] at fits ⊢
    omega

theorem Within.mono {inner : Nat} (within : Within limits depth json) (order : inner ≤ depth) :
    Within limits inner json := by
  induction within generalizing inner with
  | null => exact .null
  | bool value => exact .bool value
  | int short => exact .int short
  | real literal => exact .real literal
  | string value => exact .string value
  | array shallow each ih =>
    exact .array (exceeds_of_le (by omega) shallow) (fun item member => ih item member (by omega))
  | object shallow each ih =>
    exact .object (exceeds_of_le (by omega) shallow) (fun field member => ih field member (by omega))

theorem Within.field {key : String} {value : Json} (within : Within limits depth json)
    (found : json.field? key = some value) : Within limits (depth + 1) value := by
  have member := Assoc.mem_of_get? found
  cases within with
  | object shallow each => exact each _ member
  | _ => cases member

/-! ### Integers -/

theorem naturalOfDigits_lt {digits : List Char} (each : ∀ c ∈ digits, isDigit c = true) :
    naturalOfDigits digits < 10 ^ digits.length := by
  have folded : ∀ start, digits.foldl (fun value digit => value * 10 + (digit.toNat - 48)) start <
      (start + 1) * 10 ^ digits.length := by
    induction digits with
    | nil => simp
    | cons c digits ih =>
      intro start
      have small : c.toNat - 48 ≤ 9 := by
        have digit := each c List.mem_cons_self
        rw [isDigit, Bool.and_eq_true, decide_eq_true_eq, decide_eq_true_eq] at digit
        have upper : c.toNat ≤ 57 := digit.2
        omega
      have later := ih (fun d member => each d (List.mem_cons_of_mem _ member))
        (start * 10 + (c.toNat - 48))
      calc _ < (start * 10 + (c.toNat - 48) + 1) * 10 ^ digits.length := later
        _ ≤ ((start + 1) * 10) * 10 ^ digits.length := Nat.mul_le_mul_right _ (by omega)
        _ = (start + 1) * 10 ^ (digits.length + 1) := by rw [Nat.pow_succ', Nat.mul_assoc]
  have all := folded 0
  rwa [Nat.zero_add, Nat.one_mul] at all

theorem wholePart?_some {whole : List Char} (found : wholePart? chars = some (whole, rest)) :
    whole ≠ [] ∧ (∀ c ∈ whole, isDigit c = true) ∧
      whole.length ≤ (chars.takeWhile isDigit).length := by
  unfold wholePart? at found
  split at found
  case h_1 after =>
    obtain ⟨rfl, rfl⟩ := Prod.mk.inj (Option.some.inj found)
    exact ⟨by simp, List.all_eq_true.mp rfl, by simp [isDigit]⟩
  case h_2 c after _ =>
    split at found
    case isTrue digit =>
      obtain ⟨rfl, rfl⟩ := Prod.mk.inj (Option.some.inj found)
      refine ⟨by simp [digit], ?_, Nat.le_refl _⟩
      intro d member
      exact List.mem_takeWhile_imp member
    case isFalse => cases found
  case h_3 => cases found

theorem length_toDigits_le {whole : List Char} (some : whole ≠ [])
    (each : ∀ c ∈ whole, isDigit c = true) :
    (Nat.toDigits 10 (naturalOfDigits whole)).length ≤ whole.length := by
  rw [Nat.length_toDigits_le_iff (by omega) (List.length_pos_iff.mpr some)]
  exact naturalOfDigits_lt each

theorem digitCount_le_leadingDigits {value : Int} (found : number? chars = some (.int value, rest)) :
    digitCount value ≤ leadingDigits chars := by
  unfold number? at found
  split at found
  case h_1 sign after signed =>
    have leading : leadingDigits chars = (after.takeWhile isDigit).length := by
      unfold leadingDigits
      split at signed <;> obtain ⟨rfl, rfl⟩ := Prod.mk.inj signed <;> rfl
    split at found
    case h_1 => cases found
    case h_2 whole more read =>
      obtain ⟨some, digits, short⟩ := wholePart?_some read
      have size : value.natAbs = naturalOfDigits whole := by
        dsimp only at found
        split at found
        case isTrue =>
          have same := Json.int.inj (Prod.mk.inj (Option.some.inj found)).1
          split at same <;> omega
        case isFalse => cases found
      rw [leading, digitCount, size]
      exact (length_toDigits_le some digits).trans short

theorem number?_some (found : number? chars = some (json, rest)) :
    (∃ value, json = .int value) ∨ ∃ literal, json = .real literal := by
  unfold number? at found
  split at found
  split at found
  case h_1 => cases found
  case h_2 =>
    dsimp only at found
    split at found
    case isTrue => exact .inl ⟨_, (Prod.mk.inj (Option.some.inj found)).1.symm⟩
    case isFalse => exact .inr ⟨_, (Prod.mk.inj (Option.some.inj found)).1.symm⟩

theorem Within.of_readAtom (found : readAtom limits chars = .ok (json, rest)) :
    Within limits depth json := by
  unfold readAtom at found
  split at found
  case h_1 result word =>
    obtain rfl := Except.ok.inj found
    obtain ⟨entry, chosen, same⟩ := Option.map_eq_some_iff.mp word
    obtain ⟨rfl, rfl⟩ := Prod.mk.inj same
    have member := List.mem_of_find?_eq_some chosen
    simp only [words, List.mem_cons, List.not_mem_nil, or_false] at member
    rcases member with rfl | rfl | rfl | rfl | rfl | rfl <;> constructor
  case h_2 =>
    split at found
    case h_1 value after number =>
      split at found
      case isTrue => cases found
      case isFalse fits =>
        obtain ⟨rfl, rfl⟩ := Prod.mk.inj (Except.ok.inj found)
        exact .int (exceeds_of_le (digitCount_le_leadingDigits number) (by simpa using fits))
    case h_2 result other number =>
      obtain rfl := Except.ok.inj found
      rcases number?_some number with ⟨value, rfl⟩ | ⟨literal, rfl⟩
      · exact absurd rfl (other value rest)
      · exact .real literal
    case h_3 => cases found

/-! ### Arrays and objects -/

structure Sound (limits : Limits) (bound : Nat) : Prop where
  value {depth : Nat} {chars rest : List Char} {json : Json} :
    readValue limits depth bound chars = .ok (json, rest) → Within limits depth json
  items {depth : Nat} {chars rest : List Char} {items : List Json} :
    readItems limits depth bound chars = .ok (items, rest) →
      ∀ item ∈ items, Within limits depth item
  fields {depth : Nat} {chars rest : List Char} {fields : List (String × Json)} :
    readFields limits depth bound chars = .ok (fields, rest) →
      ∀ field ∈ fields, Within limits depth field.2

theorem Sound.array (sound : Sound limits bound) (shallow : exceeds limits.depth (depth + 1) = false)
    (found : (do
      let (items, rest) ← readItems limits (depth + 1) bound chars
      return (Json.array items, rest)) = .ok (json, rest)) : Within limits depth json := by
  obtain ⟨⟨items, after⟩, read, done⟩ := ok_of_bind found
  obtain ⟨rfl, rfl⟩ := Prod.mk.inj (Except.ok.inj done)
  exact .array shallow (sound.items read)

theorem Sound.object (sound : Sound limits bound)
    (shallow : exceeds limits.depth (depth + 1) = false)
    (found : (do
      let (fields, rest) ← readFields limits (depth + 1) bound chars
      return (Json.object (Assoc.ofList fields), rest)) = .ok (json, rest)) :
    Within limits depth json := by
  obtain ⟨⟨fields, after⟩, read, done⟩ := ok_of_bind found
  obtain ⟨rfl, rfl⟩ := Prod.mk.inj (Except.ok.inj done)
  exact .object shallow (fun field member => sound.fields read field (Assoc.mem_of_mem_ofList member))

theorem Sound.value_succ (sound : Sound limits bound)
    (found : readValue limits depth (bound + 1) chars = .ok (json, rest)) :
    Within limits depth json := by
  unfold readValue at found
  split at found
  case h_1 impossible => cases impossible
  case h_2 =>
    obtain ⟨⟨text, after⟩, read, done⟩ := ok_of_bind found
    obtain ⟨rfl, rfl⟩ := Prod.mk.inj (Except.ok.inj done)
    exact .string text
  case h_3 same =>
    obtain rfl := Nat.succ.inj same
    split at found
    case isTrue => cases found
    case isFalse fits =>
      have shallow : exceeds limits.depth (depth + 1) = false := by simpa using fits
      split at found
      case h_1 =>
        obtain ⟨rfl, rfl⟩ := Prod.mk.inj (Except.ok.inj found)
        exact .array shallow (fun _ member => absurd member List.not_mem_nil)
      case h_2 => exact sound.array shallow found
  case h_4 same =>
    obtain rfl := Nat.succ.inj same
    split at found
    case isTrue => cases found
    case isFalse fits =>
      have shallow : exceeds limits.depth (depth + 1) = false := by simpa using fits
      split at found
      case h_1 =>
        obtain ⟨rfl, rfl⟩ := Prod.mk.inj (Except.ok.inj found)
        exact .object shallow (fun _ member => absurd member List.not_mem_nil)
      case h_2 => exact sound.object shallow found
  case h_5 => exact .of_readAtom found

theorem Sound.items_succ {items : List Json} (sound : Sound limits bound)
    (found : readItems limits depth (bound + 1) chars = .ok (items, rest)) :
    ∀ item ∈ items, Within limits depth item := by
  rw [readItems] at found
  obtain ⟨⟨item, after⟩, read, found⟩ := ok_of_bind found
  have first : Within limits depth item := sound.value read
  dsimp only at found
  split at found
  case h_1 =>
    obtain ⟨rfl, rfl⟩ := Prod.mk.inj (Except.ok.inj found)
    simpa using first
  case h_2 =>
    obtain ⟨⟨others, last⟩, read, done⟩ := ok_of_bind found
    obtain ⟨rfl, rfl⟩ := Prod.mk.inj (Except.ok.inj done)
    exact List.forall_mem_cons.mpr ⟨first, sound.items read⟩
  case h_3 => cases found

theorem Sound.fields_succ {fields : List (String × Json)} (sound : Sound limits bound)
    (found : readFields limits depth (bound + 1) chars = .ok (fields, rest)) :
    ∀ field ∈ fields, Within limits depth field.2 := by
  unfold readFields at found
  split at found
  case h_1 impossible => cases impossible
  case h_2 same =>
    obtain rfl := Nat.succ.inj same
    obtain ⟨⟨key, after⟩, _, found⟩ := ok_of_bind found
    dsimp only at found
    split at found
    case h_1 =>
      obtain ⟨⟨value, after⟩, read, found⟩ := ok_of_bind found
      have first : Within limits depth value := sound.value read
      dsimp only at found
      split at found
      case h_1 =>
        obtain ⟨rfl, rfl⟩ := Prod.mk.inj (Except.ok.inj found)
        simpa using first
      case h_2 =>
        obtain ⟨⟨others, last⟩, read, done⟩ := ok_of_bind found
        obtain ⟨rfl, rfl⟩ := Prod.mk.inj (Except.ok.inj done)
        exact List.forall_mem_cons.mpr ⟨first, sound.fields read⟩
      case h_3 => cases found
    case h_2 => cases found
  case h_3 => cases found

theorem sound_of_bound (limits : Limits) (bound : Nat) : Sound limits bound := by
  induction bound with
  | zero => exact ⟨nofun, nofun, nofun⟩
  | succ bound ih => exact ⟨ih.value_succ, ih.items_succ, ih.fields_succ⟩

theorem Within.of_readDocument (found : readDocument limits chars = .ok json) :
    Within limits 0 json := by
  obtain ⟨⟨value, after⟩, read, found⟩ := ok_of_bind found
  dsimp only at found
  split at found
  case h_1 =>
    obtain rfl := Except.ok.inj found
    exact (sound_of_bound limits _).value read
  case h_2 => cases found

theorem Within.of_parse {text : String} (found : parse limits text = .ok json) :
    Within limits 0 json := by
  unfold parse at found
  dsimp only at found
  split at found
  case isTrue => cases found
  case isFalse =>
    cases read : readDocument limits text.toList with
    | error stop =>
      rw [read] at found
      cases found
    | ok value =>
      rw [read] at found
      obtain rfl := Except.ok.inj found
      exact .of_readDocument read

end Json

end Linkage
