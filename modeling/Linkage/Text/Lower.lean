import Linkage.Text.Blank
import Linkage.Text.CaseTable
/-!
Lower-casing by the full Unicode rules. Two characters need more than the table: a dotted capital I
becomes two characters, and a capital sigma has a form of its own at the end of a word.
-/

namespace Linkage.Text

def isCased (c : Char) : Bool := inRanges CaseTable.cased c.toNat

def isCaseIgnorable (c : Char) : Bool := inRanges CaseTable.ignorable c.toNat

def startsCased (chars : List Char) : Bool :=
  match chars.dropWhile isCaseIgnorable with
  | [] => false
  | c :: _ => isCased c

def lowerChar (c : Char) : List Char :=
  if c.toNat < 128 then [c.toLower]
  else if c.toNat = 0x130 then ['i', Char.ofNat 0x307]
  else
    match CaseTable.lowerRuns.find? (fun (first, last, step, _) =>
      first ≤ c.toNat && c.toNat ≤ last && (c.toNat - first) % step == 0) with
    | some (_, _, _, shift) => [Char.ofNat (c.toNat + shift).toNat]
    | none => [c]

/-- The small form of a capital sigma: final when a cased letter precedes it and none follows. -/
def lowerSigma (before after : List Char) : Char :=
  if startsCased before && !startsCased after then Char.ofNat 0x3C2 else Char.ofNat 0x3C3

/-- Lowers the characters in order; `before` holds those already read, nearest first. -/
def lowerChars (before : List Char) : List Char → List Char
  | [] => []
  | c :: rest =>
    (if c.toNat = 0x3A3 then [lowerSigma before rest] else lowerChar c)
      ++ lowerChars (c :: before) rest

def lower (text : String) : String := String.ofList (lowerChars [] text.toList)

end Linkage.Text
