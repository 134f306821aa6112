import Linkage.Json.Basic
import Linkage.Text.Integer
/-!
Reading JSON text. The reader works on the list of characters still to be read, so a fault first
records how many are left; the position follows from the length of the whole text. Besides the
standard's documents it takes the three numbers `NaN`, `Infinity` and `-Infinity`. A reader may be
limited in the length of integers and in how deep documents are nested.
-/

namespace Linkage.Json

inductive Cause where
  | value
  | propertyName
  | colon
  | comma
  | extraData
  | unterminated
  | controlCharacter
  | escape
  | unicodeEscape
  | byteOrderMark
  deriving DecidableEq, Repr

def Cause.message : Cause → String
  | .value => "Expecting value"
  | .propertyName => "Expecting property name enclosed in double quotes"
  | .colon => "Expecting ':' delimiter"
  | .comma => "Expecting ',' delimiter"
  | .extraData => "Extra data"
  | .unterminated => "Unterminated string starting at"
  | .controlCharacter => "Invalid control character at"
  | .escape => "Invalid \\escape"
  | .unicodeEscape => "Invalid \\uXXXX escape"
  | .byteOrderMark => "Unexpected UTF-8 BOM (decode using utf-8-sig)"

/-- What a reader can take; without a number there is no limit. -/
structure Limits where
  /-- The most digits of an integer. -/
  digits : Option Nat := none
  /-- The most arrays and objects around a document's innermost part. -/
  depth : Option Nat := none
  deriving DecidableEq, Repr

def Limits.usual : Limits := { digits := some Text.digitLimit, depth := some 988 }

def exceeds (limit : Option Nat) (count : Nat) : Bool := limit.any (· < count)

/-- What goes beyond a reader's limits. -/
inductive Excess where
  | digits (count : Nat)
  | arrays
  | objects
  deriving DecidableEq, Repr

/-- Why reading stops: something is wrong, with so many characters left, or goes beyond the limits. -/
inductive Stop where
  | wrong (cause : Cause) (remaining : Nat)
  | excess (excess : Excess)
  deriving DecidableEq, Repr

def stop {α : Type} (cause : Cause) (rest : List Char) : Except Stop α :=
  .error (.wrong cause rest.length)

def isSpace (c : Char) : Bool := c = ' ' || c = '\t' || c = '\n' || c = '\r'

def skipSpace (chars : List Char) : List Char := chars.dropWhile isSpace

/-! ### Strings -/

def hexValue? (c : Char) : Option Nat :=
  if '0' ≤ c && c ≤ '9' then some (c.toNat - 48)
  else if 'a' ≤ c && c ≤ 'f' then some (c.toNat - 87)
  else if 'A' ≤ c && c ≤ 'F' then some (c.toNat - 55)
  else none

def fourHex? (a b c d : Char) : Option Nat :=
  match hexValue? a, hexValue? b, hexValue? c, hexValue? d with
  | some a, some b, some c, some d => some (a * 4096 + b * 256 + c * 16 + d)
  | _, _, _, _ => none

def isHighSurrogate (code : Nat) : Bool := 0xD800 ≤ code && code ≤ 0xDBFF

def isLowSurrogate (code : Nat) : Bool := 0xDC00 ≤ code && code ≤ 0xDFFF

def charOfUnit (unit : Nat) : Char :=
  if isHighSurrogate unit || isLowSurrogate unit then Char.ofNat 0xFFFD else Char.ofNat unit

/-- Joins code units to characters. A pair of surrogates is one character, and a surrogate that
stands alone is replaced. -/
def joinUnits : List Nat → List Char
  | [] => []
  | [unit] => [charOfUnit unit]
  | high :: low :: rest =>
    if isHighSurrogate high && isLowSurrogate low then
      Char.ofNat (0x10000 + (high - 0xD800) * 1024 + (low - 0xDC00)) :: joinUnits rest
    else charOfUnit high :: joinUnits (low :: rest)

def simpleEscape? (c : Char) : Option Char :=
  if c = '"' || c = '\\' || c = '/' then some c
  else if c = 'b' then some (Char.ofNat 8)
  else if c = 'f' then some (Char.ofNat 12)
  else if c = 'n' then some '\n'
  else if c = 'r' then some '\r'
  else if c = 't' then some '\t'
  else none

/-- Reads the code units of a string after its opening quote; `opening` is the text from that quote
on. The four digits of a `\u` escape must be followed by some character. -/
def readUnits (opening : List Char) : List Char → Except Stop (List Nat × List Char)
  | [] => stop .unterminated opening
  | '"' :: rest => .ok ([], rest)
  | ['\\'] => stop .unterminated opening
  | '\\' :: 'u' :: a :: b :: c :: d :: rest =>
    match fourHex? a b c d, rest with
    | some unit, _ :: _ => do
      let (units, after) ← readUnits opening rest
      return (unit :: units, after)
    | _, _ => stop .unicodeEscape ('u' :: a :: b :: c :: d :: rest)
  | '\\' :: c :: rest =>
    match simpleEscape? c with
    | some char => do
      let (units, after) ← readUnits opening rest
      return (char.toNat :: units, after)
    | none =>
      if c = 'u' then stop .unicodeEscape (c :: rest) else stop .escape ('\\' :: c :: rest)
  | c :: rest =>
    if c.toNat < 0x20 then stop .controlCharacter (c :: rest)
    else do
      let (units, after) ← readUnits opening rest
      return (c.toNat :: units, after)

def readString (rest : List Char) : Except Stop (String × List Char) := do
  let (units, after) ← readUnits ('"' :: rest) rest
  return (String.ofList (joinUnits units), after)

/-! ### Numbers -/

def isDigit (c : Char) : Bool := '0' ≤ c && c ≤ '9'

def splitDigits (chars : List Char) : List Char × List Char :=
  (chars.takeWhile isDigit, chars.dropWhile isDigit)

/-- The whole part of a number: a zero alone, or digits that do not start with one. -/
def wholePart? : List Char → Option (List Char × List Char)
  | '0' :: rest => some (['0'], rest)
  | c :: rest => if isDigit c then some (splitDigits (c :: rest)) else none
  | [] => none

/-- A point and at least one digit, or nothing. -/
def fractionPart : List Char → List Char × List Char
  | '.' :: rest =>
    match splitDigits rest with
    | ([], _) => ([], '.' :: rest)
    | (digits, after) => ('.' :: digits, after)
  | chars => ([], chars)

def exponentSign : List Char → List Char × List Char
  | c :: rest => if c = '+' || c = '-' then ([c], rest) else ([], c :: rest)
  | [] => ([], [])

/-- The letter `e`, a sign or none, and at least one digit, or nothing. -/
def exponentPart : List Char → List Char × List Char
  | c :: rest =>
    if c = 'e' || c = 'E' then
      let (sign, after) := exponentSign rest
      match splitDigits after with
      | ([], _) => ([], c :: rest)
      | (digits, after) => (c :: sign ++ digits, after)
    else ([], c :: rest)
  | [] => ([], [])

def naturalOfDigits (digits : List Char) : Nat :=
  digits.foldl (fun value digit => value * 10 + (digit.toNat - 48)) 0

def number? (chars : List Char) : Option (Json × List Char) :=
  let (sign, rest) := match chars with
    | '-' :: rest => (['-'], rest)
    | _ => ([], chars)
  match wholePart? rest with
  | none => none
  | some (whole, rest) =>
    let (fraction, rest) := fractionPart rest
    let (exponent, rest) := exponentPart rest
    if fraction.isEmpty && exponent.isEmpty then
      let size : Int := naturalOfDigits whole
      some (.int (if sign.isEmpty then size else -size), rest)
    else some (.real (String.ofList (sign ++ whole ++ fraction ++ exponent)), rest)

/-! ### Documents -/

def words : List (List Char × Json) :=
  [("null".toList, .null), ("true".toList, .bool true), ("false".toList, .bool false),
    ("NaN".toList, .real "NaN"), ("Infinity".toList, .real "Infinity"),
    ("-Infinity".toList, .real "-Infinity")]

def word? (chars : List Char) : Option (Json × List Char) :=
  (words.find? (fun entry => entry.1.isPrefixOf chars)).map
    (fun entry => (entry.2, chars.drop entry.1.length))

def leadingDigits (chars : List Char) : Nat :=
  match chars with
  | '-' :: rest => (rest.takeWhile isDigit).length
  | _ => (chars.takeWhile isDigit).length

def readAtom (limits : Limits) (chars : List Char) : Except Stop (Json × List Char) :=
  match word? chars with
  | some result => .ok result
  | none =>
    match number? chars with
    | some (.int value, rest) =>
      if exceeds limits.digits (leadingDigits chars) then
        .error (.excess (.digits (leadingDigits chars)))
      else .ok (.int value, rest)
    | some result => .ok result
    | none => stop .value chars

mutual

/-- Reads one document that stands in `depth` arrays and objects. The bound counts nested calls, which
the text's length limits. -/
def readValue (limits : Limits) (depth : Nat) : Nat → List Char → Except Stop (Json × List Char)
  | 0, chars => stop .value chars
  | _ + 1, '"' :: rest => do
    let (text, rest) ← readString rest
    return (.string text, rest)
  | bound + 1, '[' :: rest =>
    if exceeds limits.depth (depth + 1) then .error (.excess .arrays)
    else
      match skipSpace rest with
      | ']' :: rest => .ok (.array [], rest)
      | rest => do
        let (items, rest) ← readItems limits (depth + 1) bound rest
        return (.array items, rest)
  | bound + 1, '\x7b' :: rest =>
    if exceeds limits.depth (depth + 1) then .error (.excess .objects)
    else
      match skipSpace rest with
      | '\x7d' :: rest => .ok (.object [], rest)
      | rest => do
        let (fields, rest) ← readFields limits (depth + 1) bound rest
        return (.object (Assoc.ofList fields), rest)
  | _ + 1, chars => readAtom limits chars

def readItems (limits : Limits) (depth : Nat) :
    Nat → List Char → Except Stop (List Json × List Char)
  | 0, chars => stop .value chars
  | bound + 1, chars => do
    let (item, rest) ← readValue limits depth bound chars
    match skipSpace rest with
    | ']' :: rest => return ([item], rest)
    | ',' :: rest =>
      let (items, rest) ← readItems limits depth bound (skipSpace rest)
      return (item :: items, rest)
    | rest => stop .comma rest

def readFields (limits : Limits) (depth : Nat) :
    Nat → List Char → Except Stop (List (String × Json) × List Char)
  | 0, chars => stop .propertyName chars
  | bound + 1, '"' :: rest => do
    let (key, rest) ← readString rest
    match skipSpace rest with
    | ':' :: rest =>
      let (value, rest) ← readValue limits depth bound (skipSpace rest)
      match skipSpace rest with
      | '\x7d' :: rest => return ([(key, value)], rest)
      | ',' :: rest =>
        let (fields, rest) ← readFields limits depth bound (skipSpace rest)
        return ((key, value) :: fields, rest)
      | rest => stop .comma rest
    | rest => stop .colon rest
  | _ + 1, chars => stop .propertyName chars

end

def readDocument (limits : Limits) (chars : List Char) : Except Stop Json := do
  let (value, rest) ← readValue limits 0 (2 * chars.length + 2) (skipSpace chars)
  match skipSpace rest with
  | [] => return value
  | rest => stop .extraData rest

/-! ### Faults -/

/-- What is wrong with a text, and after how many characters; lines and columns count from one. -/
structure Flaw where
  cause : Cause
  position : Nat
  line : Nat
  column : Nat
  deriving DecidableEq, Repr

def Flaw.message (flaw : Flaw) : String :=
  flaw.cause.message ++ ": line " ++ toString flaw.line ++ " column " ++ toString flaw.column
    ++ " (char " ++ toString flaw.position ++ ")"

def Excess.message : Excess → String
  | .digits count => Text.lengthMessage count
  | .arrays => "maximum recursion depth exceeded while decoding a JSON array from a unicode string"
  | .objects => "maximum recursion depth exceeded while decoding a JSON object from a unicode string"

inductive Fault where
  | flaw (flaw : Flaw)
  | excess (excess : Excess)
  deriving DecidableEq, Repr

def Stop.locate (chars : List Char) : Stop → Fault
  | .excess found => .excess found
  | .wrong cause remaining =>
    let position := chars.length - remaining
    let before := chars.take position
    .flaw {
      cause
      position
      line := before.count '\n' + 1
      column := (before.reverse.takeWhile (· != '\n')).length + 1 }

/-- The document written in a text. A byte order mark is refused. -/
def parse (limits : Limits) (text : String) : Except Fault Json :=
  let chars := text.toList
  let outcome :=
    if chars.head? = some (Char.ofNat 0xFEFF) then stop .byteOrderMark chars
    else readDocument limits chars
  outcome.mapError (·.locate chars)

end Linkage.Json
