/-!
A place in a text that is read from left to right. It knows the line and the column it stands in; a
byte order mark takes no column. Past the end of the text it shows the null character, which no
readable text contains.
-/

namespace Linkage.Yaml

def endMark : Char := Char.ofNat 0

def isBreak (c : Char) : Bool :=
  c = '\n' || c = '\r' || c.toNat = 0x85 || c.toNat = 0x2028 || c.toNat = 0x2029

def isBreakOrEnd (c : Char) : Bool := isBreak c || c = endMark

/-- White space that separates tokens, or the end of the text. -/
def isSeparator (c : Char) : Bool := c = ' ' || c = '\t' || isBreakOrEnd c

def byteOrderMark : Char := Char.ofNat 0xFEFF

def isReadable (c : Char) : Bool :=
  c = '\t' || c = '\n' || c = '\r' || (0x20 ≤ c.toNat && c.toNat ≤ 0x7E) || c.toNat = 0x85
    || (0xA0 ≤ c.toNat && c.toNat ≤ 0xFFFD) || 0x10000 ≤ c.toNat

structure Cursor where
  rest : List Char
  index : Nat := 0
  line : Nat := 0
  column : Nat := 0

namespace Cursor

def peek (cursor : Cursor) : Char := cursor.rest.headD endMark

def peekAt (cursor : Cursor) (distance : Nat) : Char := (cursor.rest.drop distance).headD endMark

def next (cursor : Cursor) : Cursor :=
  match cursor.rest with
  | [] => cursor
  | c :: rest =>
    let moved := { cursor with rest, index := cursor.index + 1 }
    if isBreak c && !(c = '\r' && rest.head? = some '\n') then
      { moved with line := cursor.line + 1, column := 0 }
    else if c = byteOrderMark then moved
    else { moved with column := cursor.column + 1 }

def advance : Nat → Cursor → Cursor
  | 0, cursor => cursor
  | count + 1, cursor => advance count cursor.next

def takeWhile (condition : Char → Bool) (cursor : Cursor) : List Char × Cursor :=
  let taken := cursor.rest.takeWhile condition
  (taken, cursor.advance taken.length)

def skipWhile (condition : Char → Bool) (cursor : Cursor) : Cursor :=
  (cursor.takeWhile condition).2

/-- Passes a line end, if there is one, and gives what it reads as. -/
def lineBreak (cursor : Cursor) : List Char × Cursor :=
  match cursor.rest with
  | '\r' :: '\n' :: _ => (['\n'], cursor.advance 2)
  | c :: _ =>
    if c.toNat = 0x2028 || c.toNat = 0x2029 then ([c], cursor.next)
    else if isBreak c then (['\n'], cursor.next)
    else ([], cursor)
  | [] => ([], cursor)

def isMarker (mark : Char) (cursor : Cursor) : Bool :=
  cursor.rest.take 3 = [mark, mark, mark] && isSeparator (cursor.peekAt 3)

def isDocumentMark (cursor : Cursor) : Bool := cursor.isMarker '-' || cursor.isMarker '.'

def skipComment (cursor : Cursor) : Cursor :=
  if cursor.peek = '#' then cursor.skipWhile (fun c => !isBreak c) else cursor

end Cursor

/-- Joins lines: one line end becomes a blank, and further ones stay. -/
def foldBreaks (first more : List Char) : List Char :=
  if first != ['\n'] then first ++ more
  else if more.isEmpty then [' ']
  else more

end Linkage.Yaml
