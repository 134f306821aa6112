import Linkage.Text.Blank
import Linkage.Text.DigitTable
/-!
Integers as people type them: white space around, a sign, digits of any script with single
underscores between them.
-/

namespace Linkage.Text

/-- The value of a decimal digit of any script. -/
def digitValue? (c : Char) : Option Nat :=
  (DigitTable.zeros.find? (fun start => start ≤ c.toNat && c.toNat < start + 10)).map (c.toNat - ·)

/-- The most decimal digits that a number is read from or written with. -/
def digitLimit : Nat := 4300

inductive NumeralFault where
  | form
  | length (digits : Nat)
  deriving DecidableEq, Repr

def lengthMessage (digits : Nat) : String :=
  "Exceeds the limit (" ++ toString digitLimit
    ++ " digits) for integer string conversion: value has " ++ toString digits
    ++ " digits; use sys.set_int_max_str_digits() to increase the limit"

def sizeMessage : String :=
  "Exceeds the limit (" ++ toString digitLimit
    ++ " digits) for integer string conversion; use sys.set_int_max_str_digits() to increase the limit"

/-- Whether each underscore has a digit on both sides. -/
def isSpaced : List Char → Bool
  | [] => true
  | ['_'] => false
  | '_' :: '_' :: _ => false
  | _ :: rest => isSpaced rest

def ofDigits (base : Nat) (digits : List Nat) : Nat :=
  digits.foldl (fun value digit => value * base + digit) 0

/-- A number without sign. The digits at the start of the text are counted before anything is said
about what follows them. -/
def natural (chars : List Char) : Except NumeralFault Nat :=
  let start := chars.takeWhile (fun c => c = '_' || (digitValue? c).isSome)
  let digits := start.filterMap digitValue?
  if start.isEmpty || start.head? = some '_' || !isSpaced start then .error .form
  else if digitLimit < digits.length then .error (.length digits.length)
  else if start.length < chars.length then .error .form
  else .ok (ofDigits 10 digits)

def integer (text : String) : Except NumeralFault Int :=
  match stripOf isNumberBlank text.toList with
  | '-' :: rest => (natural rest).map (fun n => -(n : Int))
  | '+' :: rest => (natural rest).map (fun n => (n : Int))
  | chars => (natural chars).map (fun n => (n : Int))

def integer? (text : String) : Option Int := (integer text).toOption

def decimal? (value : Int) : Option String :=
  if value.natAbs < Nat.pow 10 digitLimit then some (toString value) else none

/-! ### Other bases -/

def digitIn? (base : Nat) (c : Char) : Option Nat :=
  let value :=
    match digitValue? c with
    | some value => some value
    | none =>
      if 'a' ≤ c && c ≤ 'z' then some (c.toNat - 87)
      else if 'A' ≤ c && c ≤ 'Z' then some (c.toNat - 55)
      else none
  value.filter (· < base)

def withoutMark (base : Nat) : List Char → List Char
  | '0' :: c :: rest =>
    if (base = 16 && (c = 'x' || c = 'X')) || (base = 8 && (c = 'o' || c = 'O'))
        || (base = 2 && (c = 'b' || c = 'B')) then rest
    else '0' :: c :: rest
  | chars => chars

def naturalIn? (base : Nat) (chars : List Char) : Option Nat :=
  let digits := withoutMark base chars
  if digits.isEmpty then none else (digits.mapM (digitIn? base)).map (ofDigits base)

/-- Reads an integer to a base up to sixteen, without underscores. -/
def integerIn? (base : Nat) (text : String) : Option Int :=
  match stripOf isNumberBlank text.toList with
  | '-' :: rest => (naturalIn? base rest).map (fun n => -(n : Int))
  | '+' :: rest => (naturalIn? base rest).map (fun n => (n : Int))
  | chars => (naturalIn? base chars).map (fun n => (n : Int))

end Linkage.Text
