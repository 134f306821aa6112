import Linkage.Decimal.Shortest
import Linkage.Text.Integer
import Linkage.Text.Lower
/-!
Reading a double from decimal text: digits of any script, a point, an exponent, or the names of the
special values, with white space around.
-/

namespace Linkage.Decimal

def splitDigits : List Char → List Nat × List Char
  | [] => ([], [])
  | c :: rest =>
    match Text.digitValue? c with
    | some digit =>
      let (digits, after) := splitDigits rest
      (digit :: digits, after)
    | none => ([], c :: rest)

def exponent? : List Char → Option Int
  | [] => some 0
  | e :: rest =>
    if e = 'e' || e = 'E' then
      let (negative, rest) :=
        match rest with
        | '-' :: rest => (true, rest)
        | '+' :: rest => (false, rest)
        | rest => (false, rest)
      match splitDigits rest with
      | ([], _) => none
      | (digits, []) =>
        let size : Int := Text.ofDigits 10 digits
        some (if negative then -size else size)
      | _ => none
    else none

def unsigned? (chars : List Char) : Option Float :=
  let (whole, rest) := splitDigits chars
  let (fraction, rest) :=
    match rest with
    | '.' :: rest => splitDigits rest
    | rest => ([], rest)
  if whole.isEmpty && fraction.isEmpty then none
  else
    (exponent? rest).map (fun exponent =>
      nearest (Text.ofDigits 10 (whole ++ fraction)) (exponent - fraction.length))

def special? (chars : List Char) : Option Float :=
  let word := Text.lower (String.ofList chars)
  if word = "inf" || word = "infinity" then some (1.0 / 0.0)
  else if word = "nan" then some (0.0 / 0.0)
  else none

def parse? (text : String) : Option Float :=
  let magnitude? (chars : List Char) : Option Float :=
    match special? chars with
    | some x => some x
    | none => unsigned? chars
  match Text.stripOf Text.isNumberBlank text.toList with
  | '-' :: rest => (magnitude? rest).map (fun x => -x)
  | '+' :: rest => magnitude? rest
  | chars => magnitude? chars

end Linkage.Decimal
