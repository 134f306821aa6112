import Linkage.Decimal.Reader
import Linkage.Text.Base64
import Linkage.Text.Lower
import Linkage.Yaml.Tag
/-!
The values of scalars. A text can be well formed and still have no value under its tag.
-/

namespace Linkage.Yaml

inductive Scalar where
  | null
  | bool (value : Bool)
  | int (value : Int)
  | real (value : Float)
  | text (value : String)
  | bytes (values : List Nat)
  | timestamp (stamp : Timestamp)
  deriving DecidableEq, Inhabited

namespace Scalar

def withoutUnderscores (text : String) : List Char := text.toList.filter (· != '_')

/-- A number's sign and the rest. There must be a first character to look at. -/
def splitSign : List Char → Except Fault (Bool × List Char)
  | [] => .error .emptyNumber
  | '-' :: rest => .ok (true, rest)
  | '+' :: rest => .ok (false, rest)
  | chars => .ok (false, chars)

def integerIn (base : Nat) (chars : List Char) : Except Fault Int :=
  let text := String.ofList chars
  match Text.integerIn? base text with
  | some value => .ok value
  | none => .error (.integer base text)

def decimal (chars : List Char) : Except Fault Int :=
  let text := String.ofList chars
  (Text.integer text).mapError (fun
    | .form => .integer 10 text
    | .length digits => .digits digits)

def splitColons : List Char → List (List Char)
  | [] => [[]]
  | c :: rest =>
    if c = ':' then [] :: splitColons rest
    else
      match splitColons rest with
      | [] => [[c]]
      | part :: parts => (c :: part) :: parts

def magnitude (chars : List Char) : Except Fault Int :=
  match chars with
  | [] => .error .emptyNumber
  | ['0'] => .ok 0
  | '0' :: 'b' :: rest => integerIn 2 rest
  | '0' :: 'x' :: rest => integerIn 16 rest
  | '0' :: _ => integerIn 8 chars
  | _ =>
    if chars.contains ':' then do
      let parts ← (splitColons chars).mapM decimal
      return parts.foldl (fun value part => value * 60 + part) 0
    else decimal chars

def integer (text : String) : Except Fault Int := do
  let (negative, rest) ← splitSign (withoutUnderscores text)
  let size ← magnitude rest
  return if negative then -size else size

def double (chars : List Char) : Except Fault Float :=
  let text := String.ofList chars
  match Decimal.parse? text with
  | some value => .ok value
  | none => .error (.float text)

/-- Adds parts to the base sixty, the last one first. The weight of every part must be a finite
double. -/
def sumSixtieths (parts : List Float) : Except Fault Float := do
  let (sum, _) ← parts.reverse.foldlM (fun (sum, weight) part =>
    let factor := Decimal.nearest weight 0
    if factor.isFinite then .ok (sum + part * factor, weight * 60) else .error Fault.weight)
    ((0.0 : Float), 1)
  return sum

def float (text : String) : Except Fault Float := do
  let lowered := (Text.lower (String.ofList (withoutUnderscores text))).toList
  let (negative, rest) ← splitSign lowered
  let size ←
    if rest = ".inf".toList then pure (1.0 / 0.0 : Float)
    else if rest = ".nan".toList then pure (0.0 / 0.0 : Float)
    else if rest.contains ':' then do
      let parts ← (splitColons rest).mapM double
      sumSixtieths parts
    else double rest
  return if negative then -size else size

def boolean (text : String) : Except Fault Bool :=
  let word := Text.lower text
  if ["yes", "true", "on"].contains word then .ok true
  else if ["no", "false", "off"].contains word then .ok false
  else .error (.boolean word)

def moment (text : String) : Except Fault Timestamp :=
  match Timestamp.parse? text.toList with
  | none => .error .timestamp
  | some stamp => (stamp.check.map (fun _ => stamp)).mapError Fault.calendar

def ofText (tag : Tag) (text : String) : Except Fault Scalar :=
  match tag with
  | .null => .ok .null
  | .bool => (boolean text).map Scalar.bool
  | .int => (integer text).map Scalar.int
  | .float => (float text).map Scalar.real
  | .str => .ok (.text text)
  | .timestamp => (moment text).map Scalar.timestamp
  | .binary =>
    match Text.Base64.decode? text with
    | some values => .ok (.bytes values)
    | none => .error .malformed
  | _ => .error .malformed

end Scalar

end Linkage.Yaml
