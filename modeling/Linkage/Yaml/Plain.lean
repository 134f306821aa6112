import Linkage.Yaml.Cursor
/-!
Plain scalars: text without quotes. It may go on over several lines, which are folded; inside a flow
collection it also ends at brackets and commas.
-/

namespace Linkage.Yaml.Plain

def isFlowMark (c : Char) : Bool :=
  c = ',' || c = '[' || c = ']' || c = '\x7b' || c = '\x7d'

/-- Whether plain text ends before `c`, which `after` follows. -/
def ends (flow : Bool) (c : Char) (after : Char) : Bool :=
  isSeparator c
    || (c = ':' && (isSeparator after || (flow && isFlowMark after)))
    || (flow && (isFlowMark c || c = '?'))

def word (flow : Bool) : List Char → List Char
  | [] => []
  | c :: rest => if ends flow c (rest.headD endMark) then [] else c :: word flow rest

/-- Passes blanks and line ends, and gives the line ends. Stops with `none` at a document marker. -/
def breaks : Nat → Cursor → Option (List Char) × Cursor
  | 0, cursor => (some [], cursor)
  | bound + 1, cursor =>
    if cursor.peek = ' ' then breaks bound cursor.next
    else if isBreak cursor.peek then
      let (here, cursor) := cursor.lineBreak
      if cursor.isDocumentMark then (none, cursor)
      else
        let (more, cursor) := breaks bound cursor
        (more.map (here ++ ·), cursor)
    else (some [], cursor)

/-- What separates two words: blanks, or line ends folded. It is empty where the scalar ends. Also
says whether a line ended. -/
def gap (cursor : Cursor) : List Char × Bool × Cursor :=
  let (blanks, cursor) := cursor.takeWhile (· = ' ')
  if isBreak cursor.peek then
    let (first, cursor) := cursor.lineBreak
    if cursor.isDocumentMark then ([], true, cursor)
    else
      match breaks (cursor.rest.length + 1) cursor with
      | (none, cursor) => ([], true, cursor)
      | (some more, cursor) => (foldBreaks first more, true, cursor)
  else (blanks, false, cursor)

/-- Reads words as long as they belong to the scalar. `before` separates the next word from the last
one, and `lineEnded` says whether a line end was in it. -/
def wordsFrom (flow : Bool) (indent : Int) :
    Nat → List Char → Bool → Cursor → List Char × Bool × Cursor
  | 0, _, lineEnded, cursor => ([], lineEnded, cursor)
  | bound + 1, before, lineEnded, cursor =>
    let text := if cursor.peek = '#' then [] else word flow cursor.rest
    if text.isEmpty then ([], lineEnded, cursor)
    else
      let (after, lineEnded, cursor) := gap (cursor.advance text.length)
      if after.isEmpty || cursor.peek = '#' || (!flow && (cursor.column : Int) < indent) then
        (before ++ text, lineEnded, cursor)
      else
        let (more, lineEnded, cursor) := wordsFrom flow indent bound after lineEnded cursor
        (before ++ text ++ more, lineEnded, cursor)

/-- Reads a plain scalar whose further lines are indented by at least `indent`. Says whether a line
ended after its last word. -/
def scan (flow : Bool) (indent : Int) (cursor : Cursor) : List Char × Bool × Cursor :=
  wordsFrom flow indent (cursor.rest.length + 1) [] false cursor

end Linkage.Yaml.Plain
