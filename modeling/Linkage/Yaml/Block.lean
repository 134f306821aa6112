import Linkage.Yaml.Cursor
import Linkage.Yaml.Fault
/-!
Block scalars: indented lines after `|`, which keeps line ends, or `>`, which folds them. A header
says what happens to the line ends at the very end, and may fix the indentation.
-/

namespace Linkage.Yaml.Block

/-- What happens to line ends after the last line: one is kept, none, or all of them. -/
inductive Chomping where
  | clip | strip | keep
  deriving DecidableEq, Repr

structure Header where
  chomping : Chomping := .clip
  indentation : Option Nat := none

def chomping? (c : Char) : Option Chomping :=
  if c = '+' then some .keep else if c = '-' then some .strip else none

def indentation? (c : Char) : Option (Except Fault Nat) :=
  if '1' ≤ c && c ≤ '9' then some (.ok (c.toNat - 48))
  else if c = '0' then some (.error .malformed)
  else none

/-- Reads the two indicators, in either order, each at most once. -/
def header (cursor : Cursor) : Except Fault (Header × Cursor) := do
  let (found, cursor) ←
    match chomping? cursor.peek with
    | some chomping =>
      let cursor := cursor.next
      match indentation? cursor.peek with
      | some size => do
        let size ← size
        pure (({ chomping, indentation := some size } : Header), cursor.next)
      | none => pure (({ chomping } : Header), cursor)
    | none =>
      match indentation? cursor.peek with
      | some size => do
        let size ← size
        let cursor := cursor.next
        match chomping? cursor.peek with
        | some chomping =>
          pure (({ chomping, indentation := some size } : Header), cursor.next)
        | none => pure (({ indentation := some size } : Header), cursor)
      | none => pure (({} : Header), cursor)
  if cursor.peek = ' ' || isBreakOrEnd cursor.peek then return (found, cursor)
  else throw .malformed

def restOfLine (cursor : Cursor) : Except Fault Cursor :=
  let cursor := (cursor.skipWhile (· = ' ')).skipComment
  if isBreakOrEnd cursor.peek then .ok cursor.lineBreak.2 else .error .malformed

/-- Passes empty lines and blanks before the first line; gives the line ends and the greatest column
reached. -/
def measure : Nat → Cursor → List Char × Nat × Cursor
  | 0, cursor => ([], 0, cursor)
  | bound + 1, cursor =>
    if cursor.peek = ' ' then
      let cursor := cursor.next
      let (breaks, deepest, after) := measure bound cursor
      (breaks, max cursor.column deepest, after)
    else if isBreak cursor.peek then
      let (here, cursor) := cursor.lineBreak
      let (breaks, deepest, after) := measure bound cursor
      (here ++ breaks, deepest, after)
    else ([], 0, cursor)

def skipIndent (indent : Nat) : Nat → Cursor → Cursor
  | 0, cursor => cursor
  | bound + 1, cursor =>
    if cursor.column < indent && cursor.peek = ' ' then skipIndent indent bound cursor.next
    else cursor

def breaks (indent : Nat) : Nat → Cursor → List Char × Cursor
  | 0, cursor => ([], cursor)
  | bound + 1, cursor =>
    let cursor := skipIndent indent (indent + 1) cursor
    if isBreak cursor.peek then
      let (here, cursor) := cursor.lineBreak
      let (more, cursor) := breaks indent bound cursor
      (here ++ more, cursor)
    else ([], cursor)

def hasLine (indent : Nat) (cursor : Cursor) : Bool :=
  cursor.column = indent && !cursor.rest.isEmpty

def startsBlank (cursor : Cursor) : Bool := cursor.peek = ' ' || cursor.peek = '\t'

/-- Reads lines. `before` holds the line ends before the next one. Gives the text, the last line's
end and the line ends after it. -/
def lines (folded : Bool) (indent : Nat) :
    Nat → List Char → Cursor → List Char × List Char × List Char × Cursor
  | 0, before, cursor => ([], [], before, cursor)
  | bound + 1, before, cursor =>
    if !hasLine indent cursor then ([], [], before, cursor)
    else
      let textFirst := !startsBlank cursor
      let (text, cursor) := cursor.takeWhile (fun c => !isBreak c)
      let (ending, cursor) := cursor.lineBreak
      let (after, cursor) := breaks indent (cursor.rest.length + 1) cursor
      if hasLine indent cursor then
        let between :=
          if folded && ending = ['\n'] && textFirst && !startsBlank cursor then
            if after.isEmpty then [' '] else []
          else ending
        let (more, last, tail, cursor) := lines folded indent bound after cursor
        (before ++ text ++ between ++ more, last, tail, cursor)
      else (before ++ text, ending, after, cursor)

def scan (folded : Bool) (indent : Int) (cursor : Cursor) : Except Fault (List Char × Cursor) := do
  let (header, cursor) ← header cursor.next
  let cursor ← restOfLine cursor
  let least := (max (indent + 1) 1).toNat
  let (before, depth, cursor) :=
    match header.indentation with
    | none =>
      let (before, deepest, cursor) := measure (cursor.rest.length + 1) cursor
      (before, max least deepest, cursor)
    | some size =>
      let depth := least + size - 1
      let (before, cursor) := breaks depth (cursor.rest.length + 1) cursor
      (before, depth, cursor)
  let (text, ending, after, cursor) := lines folded depth (cursor.rest.length + 1) before cursor
  let tail :=
    match header.chomping with
    | .strip => []
    | .clip => ending
    | .keep => ending ++ after
  return (text ++ tail, cursor)

end Linkage.Yaml.Block
