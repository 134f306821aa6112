import Linkage.Json.Reader
import Linkage.Text.Utf8
/-!
The text of bytes that hold JSON. JSON starts with an ASCII character, so the zeros among the first
four bytes tell how wide characters are and in which order their bytes stand.
-/

namespace Linkage.Json

/-- Characters of one or more bytes, or of code units of two or four bytes in the given order. -/
inductive Encoding where
  | utf8
  | utf16 (bigEndian : Bool)
  | utf32 (bigEndian : Bool)
  deriving DecidableEq, Repr

def Encoding.ofBytes : List UInt8 → Encoding
  | a :: b :: c :: d :: _ =>
    if a = 0 then if b = 0 then .utf32 true else .utf16 true
    else if b = 0 then if c = 0 && d = 0 then .utf32 false else .utf16 false
    else .utf8
  | [a, b] => if a = 0 then .utf16 true else if b = 0 then .utf16 false else .utf8
  | _ => .utf8

/-- The number that bytes make up, the first one being the most significant. -/
def joinBytes (bytes : List UInt8) : Nat := bytes.foldl (fun value byte => value * 256 + byte.toNat) 0

/-- The code units of two bytes. There must be no byte left. -/
def units16? (bigEndian : Bool) : List UInt8 → Option (List Nat)
  | [] => some []
  | a :: b :: rest =>
    (units16? bigEndian rest).map (joinBytes (if bigEndian then [a, b] else [b, a]) :: ·)
  | _ => none

def units32? (bigEndian : Bool) : List UInt8 → Option (List Nat)
  | [] => some []
  | a :: b :: c :: d :: rest =>
    (units32? bigEndian rest).map
      (joinBytes (if bigEndian then [a, b, c, d] else [d, c, b, a]) :: ·)
  | _ => none

/-- The text of bytes, or `none` where they hold none. A mark of the encoding is dropped. -/
def textOfBytes? (bytes : List UInt8) : Option String :=
  match Encoding.ofBytes bytes with
  | .utf16 bigEndian => (units16? bigEndian bytes).map (fun units => String.ofList (joinUnits units))
  | .utf32 bigEndian =>
    match units32? bigEndian bytes with
    | some units =>
      if units.all (· ≤ 0x10FFFF) then some (String.ofList (units.map charOfUnit)) else none
    | none => none
  | .utf8 =>
    let bare :=
      match bytes with
      | 0xEF :: 0xBB :: 0xBF :: rest => rest
      | _ => bytes
    (Text.Utf8.decode bare).toOption

end Linkage.Json
