import Linkage.Json.Printer
import Linkage.Json.Reader
import Mathlib.Data.String.Basic
/-!
Strings in JSON text. A written string is read back as it was, whatever follows its closing quote:
every character is written as the code units that reading joins to it again.
-/

namespace Linkage

theorem Text.hex_succ {width : Nat} (some_width : 0 < width) (value : Nat) :
    hex (width + 1) value = hex width (value / 16) ++ [(value % 16).digitChar] := by
  unfold hex
  by_cases small : value < 16
  · obtain ⟨fewer, rfl⟩ : ∃ fewer, width = fewer + 1 := ⟨width - 1, by omega⟩
    rw [Nat.toDigits_of_lt_base small, Nat.div_eq_of_lt small, Nat.toDigits_zero,
      Nat.mod_eq_of_lt small]
    simp [List.replicate_succ']
  · rw [Nat.toDigits_of_base_le (by omega) (by omega)]
    simp [List.append_assoc]

theorem Text.hex_four {code : Nat} (small : code < 0x10000) :
    hex 4 code = [(code / 4096).digitChar, (code / 256 % 16).digitChar,
      (code / 16 % 16).digitChar, (code % 16).digitChar] := by
  have top : code / 4096 < 16 := by omega
  rw [hex_succ (by omega), hex_succ (by omega), hex_succ (by omega)]
  simp [hex, Nat.div_div_eq_div_mul, Nat.toDigits_of_lt_base top]

namespace Json

theorem hexValue?_digitChar : ∀ n < 16, hexValue? n.digitChar = some n := by
  decide

theorem fourHex?_hex {code : Nat} (small : code < 0x10000) :
    fourHex? (code / 4096).digitChar (code / 256 % 16).digitChar (code / 16 % 16).digitChar
      (code % 16).digitChar = some code := by
  simp only [fourHex?, hexValue?_digitChar _ (show code / 4096 < 16 by omega),
    hexValue?_digitChar _ (Nat.mod_lt _ (show 16 > 0 by omega)), Option.some.injEq]
  omega

/-! ### Code units -/

def unitsOf (c : Char) : List Nat :=
  if c.toNat < 0x10000 then [c.toNat]
  else [0xD800 + (c.toNat - 0x10000) / 1024, 0xDC00 + (c.toNat - 0x10000) % 1024]

theorem toNat_scalar (c : Char) : c.toNat < 0xD800 ∨ 0xDFFF < c.toNat ∧ c.toNat < 0x110000 :=
  c.valid

theorem joinUnits_single {unit : Nat} (single : isHighSurrogate unit = false) (units : List Nat) :
    joinUnits (unit :: units) = charOfUnit unit :: joinUnits units := by
  cases units with
  | nil => rfl
  | cons next units => simp [joinUnits, single]

theorem joinUnits_unitsOf (c : Char) (units : List Nat) :
    joinUnits (unitsOf c ++ units) = c :: joinUnits units := by
  have scalar := toNat_scalar c
  unfold unitsOf
  split
  case isTrue small =>
    have high : isHighSurrogate c.toNat = false := by
      simp only [isHighSurrogate, Bool.and_eq_false_iff, decide_eq_false_iff_not]
      omega
    have low : isLowSurrogate c.toNat = false := by
      simp only [isLowSurrogate, Bool.and_eq_false_iff, decide_eq_false_iff_not]
      omega
    rw [List.singleton_append, joinUnits_single high, charOfUnit, high, low]
    simp
  case isFalse large =>
    have high : isHighSurrogate (0xD800 + (c.toNat - 0x10000) / 1024) = true := by
      simp only [isHighSurrogate, Bool.and_eq_true, decide_eq_true_eq]
      omega
    have low : isLowSurrogate (0xDC00 + (c.toNat - 0x10000) % 1024) = true := by
      simp only [isLowSurrogate, Bool.and_eq_true, decide_eq_true_eq]
      omega
    have code : 0x10000 + (0xD800 + (c.toNat - 0x10000) / 1024 - 0xD800) * 1024 +
        (0xDC00 + (c.toNat - 0x10000) % 1024 - 0xDC00) = c.toNat := by
      omega
    simp only [List.cons_append, List.nil_append, joinUnits, high, low, Bool.and_self, if_true, code,
      Char.ofNat_toNat]

theorem joinUnits_flatMap (chars : List Char) : joinUnits (chars.flatMap unitsOf) = chars := by
  induction chars with
  | nil => rfl
  | cons c chars ih => rw [List.flatMap_cons, joinUnits_unitsOf, ih]

/-! ### Reading what is written -/

section

variable {opening rest after : List Char} {units : List Nat}
  (follows : readUnits opening rest = .ok (units, after))

include follows

theorem readUnits_unitEscape {code : Nat} (small : code < 0x10000) :
    readUnits opening (unitEscape code ++ rest) = .ok (code :: units, after) := by
  obtain ⟨next, more, rfl⟩ : ∃ next more, rest = next :: more := by
    cases rest with
    | nil => cases follows
    | cons next more => exact ⟨next, more, rfl⟩
  simp [unitEscape, Text.hex_four small, readUnits, fourHex?_hex small, follows]

theorem readUnits_simple {letter c : Char} (stands : simpleEscape? letter = some c) :
    readUnits opening ('\\' :: letter :: rest) = .ok (c.toNat :: units, after) := by
  have other : letter ≠ 'u' := by
    rintro rfl
    cases stands
  rw [readUnits, stands, follows]
  · rfl
  · exact fun _ _ _ _ _ same _ => other same

theorem readUnits_plain {c : Char} (visible : 0x20 ≤ c.toNat) (quote : c ≠ '"')
    (backslash : c ≠ '\\') : readUnits opening (c :: rest) = .ok (c.toNat :: units, after) := by
  rw [readUnits, if_neg (by omega), follows]
  · rfl
  · exact fun same => quote same
  · exact fun same => absurd same backslash
  · exact fun _ _ _ _ _ same => absurd same backslash
  · exact fun _ _ same => absurd same backslash

theorem readUnits_writeChar (c : Char) :
    readUnits opening (writeChar c ++ rest) = .ok (unitsOf c ++ units, after) := by
  -- All escapes of one letter stand for characters of one code unit.
  have simple : ∀ letter, simpleEscape? letter = some c → c.toNat < 0x10000 →
      readUnits opening (['\\', letter] ++ rest) = .ok (unitsOf c ++ units, after) := by
    intro letter stands small
    rw [unitsOf, if_pos small]
    exact readUnits_simple follows stands
  unfold writeChar
  by_cases quote : c = '"'
  · subst quote
    exact simple '"' rfl (by decide)
  by_cases backslash : c = '\\'
  · subst backslash
    exact simple '\\' rfl (by decide)
  by_cases line : c = '\n'
  · subst line
    exact simple 'n' rfl (by decide)
  by_cases back : c = '\r'
  · subst back
    exact simple 'r' rfl (by decide)
  by_cases tab : c = '\t'
  · subst tab
    exact simple 't' rfl (by decide)
  rw [if_neg quote, if_neg backslash, if_neg line, if_neg back, if_neg tab]
  split
  case isTrue code =>
    rw [← Char.ofNat_toNat c, code] at simple ⊢
    exact simple 'b' rfl (by decide)
  split
  case isTrue code =>
    rw [← Char.ofNat_toNat c, code] at simple ⊢
    exact simple 'f' rfl (by decide)
  split
  case isTrue visible =>
    rw [Bool.and_eq_true, decide_eq_true_eq, decide_eq_true_eq] at visible
    rw [unitsOf, if_pos (by omega)]
    exact readUnits_plain follows visible.1 quote backslash
  split
  case isTrue small =>
    rw [unitsOf, if_pos small]
    exact readUnits_unitEscape follows small
  case isFalse large =>
    have scalar := toNat_scalar c
    rw [unitsOf, if_neg large, List.append_assoc]
    have second := readUnits_unitEscape follows
      (show 0xDC00 + (c.toNat - 0x10000) % 1024 < 0x10000 by omega)
    exact readUnits_unitEscape second (by omega)

end

theorem readUnits_flatMap (opening chars rest : List Char) :
    readUnits opening (chars.flatMap writeChar ++ '"' :: rest) = .ok (chars.flatMap unitsOf, rest) := by
  induction chars with
  | nil => rfl
  | cons c chars ih =>
    rw [List.flatMap_cons, List.flatMap_cons, List.append_assoc]
    exact readUnits_writeChar ih c

theorem readString_writeString (text : String) (rest : List Char) :
    readString (text.toList.flatMap writeChar ++ '"' :: rest) = .ok (text, rest) := by
  rw [readString, readUnits_flatMap]
  simp only [bind, Except.bind, pure, Except.pure, joinUnits_flatMap, String.ofList_toList]

theorem writeString_append (text : String) (rest : List Char) :
    writeString text ++ rest = '"' :: (text.toList.flatMap writeChar ++ '"' :: rest) := by
  simp [writeString]

/-! ### Characters of written text -/

/-- The characters of written text: line feeds and what can be seen of ASCII. -/
def isWritten (c : Char) : Bool := c = '\n' || (0x20 ≤ c.toNat && c.toNat < 0x7F)

theorem isWritten_digitChar : ∀ n < 16, isWritten n.digitChar = true := by
  decide

theorem written_unitEscape {code : Nat} (small : code < 0x10000) :
    (unitEscape code).all isWritten = true := by
  have digit : ∀ n, isWritten (n % 16).digitChar = true :=
    fun n => isWritten_digitChar (n % 16) (Nat.mod_lt n (by omega))
  have leading := isWritten_digitChar (code / 4096) (by omega)
  rw [unitEscape, Text.hex_four small]
  simp only [List.all_cons, digit, leading]
  rfl

theorem written_writeChar (c : Char) : (writeChar c).all isWritten = true := by
  have scalar := toNat_scalar c
  unfold writeChar
  split_ifs with _ _ _ _ _ _ _ visible small
  iterate 7 rfl
  · rw [List.all_cons, isWritten, visible, Bool.or_true]
    rfl
  · exact written_unitEscape small
  · rw [List.all_append, written_unitEscape (by omega), written_unitEscape (by omega)]
    rfl

theorem written_writeString (text : String) : (writeString text).all isWritten = true := by
  have inside : (text.toList.flatMap writeChar).all isWritten = true := by
    simp [List.all_flatMap, written_writeChar]
  simp only [writeString, List.cons_append, List.all_cons, List.all_append, inside]
  rfl

end Json

end Linkage
