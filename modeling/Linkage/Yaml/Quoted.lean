import Linkage.Json.Reader
import Linkage.Yaml.Cursor
import Linkage.Yaml.Fault
/-!
Quoted scalars. Between single quotes a doubled quote stands for one; between double quotes a
backslash starts an escape. Line ends are folded in both.
-/

namespace Linkage.Yaml.Quoted

inductive Style where
  | single | double
  deriving DecidableEq, Repr

def Style.mark : Style → Char
  | .single => Text.singleQuote
  | .double => Text.doubleQuote

def replacement? (c : Char) : Option Char :=
  if c = '0' then some (Char.ofNat 0)
  else if c = 'a' then some (Char.ofNat 7)
  else if c = 'b' then some (Char.ofNat 8)
  else if c = 't' || c = '\t' then some '\t'
  else if c = 'n' then some '\n'
  else if c = 'v' then some (Char.ofNat 11)
  else if c = 'f' then some (Char.ofNat 12)
  else if c = 'r' then some '\r'
  else if c = 'e' then some (Char.ofNat 27)
  else if c = ' ' || c = '"' || c = '\\' || c = '/' then some c
  else if c = 'N' then some (Char.ofNat 0x85)
  else if c = '_' then some (Char.ofNat 0xA0)
  else if c = 'L' then some (Char.ofNat 0x2028)
  else if c = 'P' then some (Char.ofNat 0x2029)
  else none

def codeLength? (c : Char) : Option Nat :=
  if c = 'x' then some 2 else if c = 'u' then some 4 else if c = 'U' then some 8 else none

def hexNumber? (digits : List Char) : Option Nat :=
  digits.foldl (fun value digit =>
    match value, Json.hexValue? digit with
    | some value, some digit => some (value * 16 + digit)
    | _, _ => none) (some 0)

/-- Passes line ends and the blanks around them. No document marker may stand at a line's start. -/
def breaks : Nat → Cursor → Except Fault (List Char × Cursor)
  | 0, cursor => .ok ([], cursor)
  | bound + 1, cursor =>
    if cursor.isDocumentMark then .error .malformed
    else
      let cursor := cursor.skipWhile (fun c => c = ' ' || c = '\t')
      if isBreak cursor.peek then do
        let (here, cursor) := cursor.lineBreak
        let (more, cursor) ← breaks bound cursor
        return (here ++ more, cursor)
      else .ok ([], cursor)

/-- The second half of a pair of surrogates, if its escape stands here. -/
def lowSurrogate? : List Char → Option Nat
  | '\\' :: 'u' :: a :: b :: c :: d :: _ => (Json.fourHex? a b c d).filter Json.isLowSurrogate
  | _ => none

/-- Reads the escape after a backslash. Two escapes that make a pair of surrogates are one
character. -/
def escape (cursor : Cursor) : Except Fault (List Char × Cursor) :=
  let c := cursor.peek
  if cursor.rest.isEmpty then .error .malformed
  else
    match replacement? c, codeLength? c with
    | some char, _ => .ok ([char], cursor.next)
    | none, some length =>
      let digits := cursor.next.rest.take length
      match hexNumber? digits with
      | some code =>
        if digits.length < length then .error .malformed
        else if code > 0x7FFFFFFF then .error .characterSize
        else if code > 0x10FFFF then .error .characterCode
        else
          let after := cursor.next.advance length
          match lowSurrogate? after.rest with
          | some low =>
            if Json.isHighSurrogate code then .ok (Json.joinUnits [code, low], after.advance 6)
            else .ok ([Json.charOfUnit code], after)
          | none => .ok ([Json.charOfUnit code], after)
      | none => .error .malformed
    | none, none =>
      if isBreak c then
        let (_, cursor) := cursor.lineBreak
        breaks (cursor.rest.length + 1) cursor
      else .error .malformed

def isOrdinary (c : Char) : Bool :=
  !(c = Text.singleQuote || c = Text.doubleQuote || c = '\\' || c = ' ' || c = '\t' || isBreak c)

def word (style : Style) : Nat → Cursor → Except Fault (List Char × Cursor)
  | 0, cursor => .ok ([], cursor)
  | bound + 1, cursor => do
    let (text, cursor) := cursor.takeWhile isOrdinary
    let c := cursor.peek
    if style = .single && c = Text.singleQuote && cursor.peekAt 1 = Text.singleQuote then
      let (more, cursor) ← word style bound (cursor.advance 2)
      return (text ++ c :: more, cursor)
    else if (style = .double && c = Text.singleQuote)
        || (style = .single && (c = Text.doubleQuote || c = '\\')) then
      let (more, cursor) ← word style bound cursor.next
      return (text ++ c :: more, cursor)
    else if style = .double && c = '\\' then
      let (chars, cursor) ← escape cursor.next
      let (more, cursor) ← word style bound cursor
      return (text ++ chars ++ more, cursor)
    else return (text, cursor)

def gap (cursor : Cursor) : Except Fault (List Char × Cursor) :=
  let (blanks, cursor) := cursor.takeWhile (fun c => c = ' ' || c = '\t')
  if cursor.rest.isEmpty then .error .malformed
  else if isBreak cursor.peek then do
    let (first, cursor) := cursor.lineBreak
    let (more, cursor) ← breaks (cursor.rest.length + 1) cursor
    return (foldBreaks first more, cursor)
  else .ok (blanks, cursor)

def body (style : Style) : Nat → Cursor → Except Fault (List Char × Cursor)
  | 0, _ => .error .malformed
  | bound + 1, cursor => do
    let (text, cursor) ← word style (cursor.rest.length + 1) cursor
    if cursor.peek = style.mark then return (text, cursor.next)
    else
      let (between, cursor) ← gap cursor
      let (more, cursor) ← body style bound cursor
      return (text ++ between ++ more, cursor)

def scan (style : Style) (cursor : Cursor) : Except Fault (List Char × Cursor) :=
  body style (cursor.rest.length + 1) cursor.next

end Linkage.Yaml.Quoted
