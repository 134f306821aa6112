import Linkage.Json.Reader
/-!
The forms of scalars that are written without quotes and stand for something else than a text: nulls,
truth values and numbers.
-/

namespace Linkage.Yaml.Form

/-- Whether a form ends here; a line end may still follow. -/
def atEnd (rest : List Char) : Bool := rest.isEmpty || rest = ['\n']

def unsigned : List Char → List Char
  | '-' :: rest => rest
  | '+' :: rest => rest
  | chars => chars

/-- Whether there is at least one character, and all of them satisfy the condition. -/
def allOf (condition : Char → Bool) (chars : List Char) : Bool :=
  let rest := chars.dropWhile condition
  rest.length < chars.length && atEnd rest

def isBinaryDigit (c : Char) : Bool := c = '0' || c = '1'

def isOctalDigit (c : Char) : Bool := '0' ≤ c && c ≤ '7'

def isSpacedDigit (c : Char) : Bool := Json.isDigit c || c = '_'

/-- A run of digits and underscores that starts with a digit, and what follows it. -/
def numeral? : List Char → Option (List Char)
  | c :: rest => if Json.isDigit c then some (rest.dropWhile isSpacedDigit) else none
  | [] => none

/-- Passes the parts of a number to the base sixty: a colon and a value below sixty, repeated. -/
def sixtieths? : List Char → Option (List Char)
  | ':' :: a :: b :: rest =>
    if isOctalDigit a && a ≤ '5' && Json.isDigit b then
      match rest with
      | ':' :: _ => sixtieths? rest
      | _ => some rest
    else if Json.isDigit a then
      if b = ':' then sixtieths? (b :: rest) else some (b :: rest)
    else none
  | [':', a] => if Json.isDigit a then some [] else none
  | _ => none

def isDecimalInteger (chars : List Char) : Bool :=
  match chars with
  | '0' :: rest => atEnd rest
  | _ =>
    match numeral? chars with
    | some rest => atEnd rest || ((sixtieths? rest).map atEnd).getD false
    | none => false

def isInteger (chars : List Char) : Bool :=
  let chars := unsigned chars
  isDecimalInteger chars
    || match chars with
      | '0' :: 'b' :: rest => allOf (fun c => isBinaryDigit c || c = '_') rest
      | '0' :: 'x' :: rest => allOf (fun c => (Json.hexValue? c).isSome || c = '_') rest
      | '0' :: rest => allOf (fun c => isOctalDigit c || c = '_') rest
      | _ => false

/-- An exponent, which must have a sign, or nothing; then the end. -/
def endsWithExponent (chars : List Char) : Bool :=
  atEnd chars
    || match chars with
      | e :: sign :: rest =>
        (e = 'e' || e = 'E') && (sign = '+' || sign = '-') && allOf Json.isDigit rest
      | _ => false

def isWord (words : List String) (chars : List Char) : Bool :=
  words.any (fun word => chars = word.toList || chars = word.toList ++ ['\n'])

def isFloat (chars : List Char) : Bool :=
  let positional :=
    match numeral? (unsigned chars) with
    | some ('.' :: rest) => endsWithExponent (rest.dropWhile isSpacedDigit)
    | some rest =>
      match sixtieths? rest with
      | some ('.' :: rest) => atEnd (rest.dropWhile isSpacedDigit)
      | _ => false
    | none => false
  let pointFirst :=
    match chars with
    | '.' :: rest => ((numeral? rest).map endsWithExponent).getD false
    | _ => false
  positional || pointFirst || isWord [".inf", ".Inf", ".INF"] (unsigned chars)
    || isWord [".nan", ".NaN", ".NAN"] chars

def isNull (chars : List Char) : Bool := chars.isEmpty || isWord ["~", "null", "Null", "NULL"] chars

def isMark (chars : List Char) : Bool := isWord ["!", "&", "*"] chars

def isBool (chars : List Char) : Bool :=
  isWord ["yes", "Yes", "YES", "no", "No", "NO", "true", "True", "TRUE", "false", "False", "FALSE",
    "on", "On", "ON", "off", "Off", "OFF"] chars

end Linkage.Yaml.Form
