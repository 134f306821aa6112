import Linkage.Json.Printer
import Linkage.Json.Reader
import Mathlib.Data.List.TakeWhile
import Mathlib.Data.String.Basic
/-!
Integers in JSON text. A written integer is read back when what follows does not carry the number on
and the reader takes that many digits.
-/

namespace Linkage.Json

/-- What follows a number without carrying it on. -/
def EndsNumber (rest : List Char) : Prop :=
  ∀ c ∈ rest.head?, isDigit c = false ∧ c ≠ '.' ∧ c ≠ 'e' ∧ c ≠ 'E'

theorem endsNumber_cons {c : Char} (rest : List Char)
    (other : isDigit c = false ∧ c ≠ '.' ∧ c ≠ 'e' ∧ c ≠ 'E') : EndsNumber (c :: rest) := by
  intro d first
  rw [← Option.some.inj first]
  exact other

variable {rest : List Char}

theorem isDigit_of_mem_toDigits {n : Nat} {c : Char} (member : c ∈ Nat.toDigits 10 n) :
    isDigit c = true :=
  Nat.isDigit_of_mem_toDigits (by omega) (by omega) member

theorem toDigits_eq_cons (n : Nat) :
    ∃ c digits, Nat.toDigits 10 n = c :: digits ∧ isDigit c = true ∧ (c = '0' → n = 0) := by
  induction n using Nat.strongRecOn with
  | _ n ih =>
    by_cases small : n < 10
    · have single := Nat.toDigits_of_lt_base small
      refine ⟨n.digitChar, [], single, isDigit_of_mem_toDigits (single ▸ List.mem_singleton_self _), ?_⟩
      exact Nat.digitChar_eq_zero.mp
    · obtain ⟨c, digits, same, digit, zero⟩ := ih (n / 10) (by omega)
      refine ⟨c, digits ++ [(n % 10).digitChar], ?_, digit, ?_⟩
      · rw [Nat.toDigits_of_base_le (by omega) (by omega), same, List.cons_append]
      · intro first
        have := zero first
        omega

theorem takeWhile_toDigits (n : Nat) (ends : EndsNumber rest) :
    (Nat.toDigits 10 n ++ rest).takeWhile isDigit = Nat.toDigits 10 n := by
  rw [List.takeWhile_append_of_pos (fun _ => isDigit_of_mem_toDigits)]
  cases rest with
  | nil => simp
  | cons c rest => simp [(ends c rfl).1]

theorem dropWhile_toDigits (n : Nat) (ends : EndsNumber rest) :
    (Nat.toDigits 10 n ++ rest).dropWhile isDigit = rest := by
  rw [List.dropWhile_append_of_pos (fun _ => isDigit_of_mem_toDigits)]
  cases rest with
  | nil => rfl
  | cons c rest => simp [(ends c rfl).1]

/-! ### Parts of a number -/

theorem wholePart?_toDigits (n : Nat) (ends : EndsNumber rest) :
    wholePart? (Nat.toDigits 10 n ++ rest) = some (Nat.toDigits 10 n, rest) := by
  obtain ⟨c, digits, same, digit, zero⟩ := toDigits_eq_cons n
  by_cases first : c = '0'
  · obtain rfl := zero first
    rfl
  · have split : splitDigits (c :: (digits ++ rest)) = (c :: digits, rest) := by
      rw [splitDigits, ← List.cons_append, ← same, takeWhile_toDigits n ends,
        dropWhile_toDigits n ends]
    rw [same, List.cons_append, wholePart?, if_pos digit, split]
    exact fun leading => first leading

theorem fractionPart_eq (ends : EndsNumber rest) : fractionPart rest = ([], rest) := by
  cases rest with
  | nil => rfl
  | cons c rest =>
    rw [fractionPart]
    exact fun _ point => (ends c rfl).2.1 (List.cons.inj point).1

theorem exponentPart_eq (ends : EndsNumber rest) : exponentPart rest = ([], rest) := by
  cases rest with
  | nil => rfl
  | cons c rest =>
    obtain ⟨_, _, small, capital⟩ := ends c rfl
    simp [exponentPart, small, capital]

theorem naturalOfDigits_eq (digits : List Char) :
    naturalOfDigits digits = Nat.ofDigitChars 10 digits 0 := by
  rw [naturalOfDigits, Nat.ofDigitChars_eq_foldl]
  congr
  funext value digit
  rw [Nat.mul_comm]
  rfl

theorem naturalOfDigits_toDigits (n : Nat) : naturalOfDigits (Nat.toDigits 10 n) = n := by
  rw [naturalOfDigits_eq, Nat.ofDigitChars_ten_toDigits]

/-! ### Whole numbers -/

theorem toDigits_unsigned (n : Nat) (rest more : List Char) :
    Nat.toDigits 10 n ++ rest ≠ '-' :: more := by
  obtain ⟨c, digits, same, digit, _⟩ := toDigits_eq_cons n
  intro signed
  rw [same, List.cons_append] at signed
  rw [(List.cons.inj signed).1] at digit
  cases digit

theorem number?_natural (n : Nat) (ends : EndsNumber rest) :
    number? (Nat.toDigits 10 n ++ rest) = some (.int n, rest) := by
  unfold number?
  split
  case h_1 sign after signed =>
    split at signed
    case h_1 more same => exact absurd same (toDigits_unsigned n rest more)
    case h_2 =>
      obtain ⟨rfl, rfl⟩ := Prod.mk.inj signed
      simp [wholePart?_toDigits n ends, fractionPart_eq ends, exponentPart_eq ends,
        naturalOfDigits_toDigits]

theorem number?_negative (n : Nat) (ends : EndsNumber rest) :
    number? ('-' :: (Nat.toDigits 10 n ++ rest)) = some (.int (-n), rest) := by
  simp [number?, wholePart?_toDigits n ends, fractionPart_eq ends, exponentPart_eq ends,
    naturalOfDigits_toDigits]

theorem leadingDigits_natural (n : Nat) (ends : EndsNumber rest) :
    leadingDigits (Nat.toDigits 10 n ++ rest) = (Nat.toDigits 10 n).length := by
  unfold leadingDigits
  split
  case h_1 more same => exact absurd same (toDigits_unsigned n rest more)
  case h_2 => rw [takeWhile_toDigits n ends]

theorem leadingDigits_negative (n : Nat) (ends : EndsNumber rest) :
    leadingDigits ('-' :: (Nat.toDigits 10 n ++ rest)) = (Nat.toDigits 10 n).length := by
  rw [leadingDigits, takeWhile_toDigits n ends]

theorem word?_natural (n : Nat) (rest : List Char) : word? (Nat.toDigits 10 n ++ rest) = none := by
  obtain ⟨c, digits, same, digit, _⟩ := toDigits_eq_cons n
  have other : ∀ d, isDigit d = false → (d == c) = false := by
    intro d plain
    rw [beq_eq_false_iff_ne]
    rintro rfl
    rw [digit] at plain
    cases plain
  rw [same]
  simp [word?, words, List.isPrefixOf, other 'n' rfl, other 't' rfl, other 'f' rfl, other 'N' rfl,
    other 'I' rfl, other '-' rfl]

theorem word?_negative (n : Nat) (rest : List Char) :
    word? ('-' :: (Nat.toDigits 10 n ++ rest)) = none := by
  obtain ⟨c, digits, same, digit, _⟩ := toDigits_eq_cons n
  have other : ('I' == c) = false := by
    rw [beq_eq_false_iff_ne]
    rintro rfl
    cases digit
  rw [same]
  simp [word?, words, List.isPrefixOf, other]

/-! ### Written integers -/

def digitCount (value : Int) : Nat := (Nat.toDigits 10 value.natAbs).length

theorem toList_toString (value : Int) :
    (toString value).toList =
      if value < 0 then '-' :: Nat.toDigits 10 value.natAbs else Nat.toDigits 10 value.natAbs := by
  cases value with
  | ofNat n =>
    have same : toString (Int.ofNat n) = toString n := rfl
    rw [same, Nat.toString_eq_ofList_toDigits]
    simp
  | negSucc n =>
    have same : toString (Int.negSucc n) = "-" ++ toString (n + 1) := rfl
    rw [same, Nat.toString_eq_ofList_toDigits]
    simp [Int.negSucc_lt_zero]

theorem readAtom_toString {limits : Limits} {value : Int}
    (short : exceeds limits.digits (digitCount value) = false) (ends : EndsNumber rest) :
    readAtom limits ((toString value).toList ++ rest) = .ok (.int value, rest) := by
  rw [toList_toString]
  split
  case isTrue negative =>
    have size : -(value.natAbs : Int) = value := by omega
    rw [List.cons_append, readAtom, word?_negative, number?_negative _ ends, leadingDigits_negative _ ends]
    dsimp only
    rw [← digitCount, short, size]
    rfl
  case isFalse natural =>
    have size : (value.natAbs : Int) = value := by omega
    rw [readAtom, word?_natural, number?_natural _ ends, leadingDigits_natural _ ends]
    dsimp only
    rw [← digitCount, short, size]
    rfl

end Linkage.Json
