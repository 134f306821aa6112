/-!
White space in the sense of Unicode: blanks, line ends and the four information separators.
-/

namespace Linkage.Text

def blanks : List (Nat × Nat) :=
  [(0x9, 0xD), (0x1C, 0x20), (0x85, 0x85), (0xA0, 0xA0), (0x1680, 0x1680), (0x2000, 0x200A),
    (0x2028, 0x2029), (0x202F, 0x202F), (0x205F, 0x205F), (0x3000, 0x3000)]

def inRanges (ranges : List (Nat × Nat)) (code : Nat) : Bool :=
  ranges.any (fun range => range.1 ≤ code && code ≤ range.2)

def isBlank (c : Char) : Bool := inRanges blanks c.toNat

def stripOf (condition : Char → Bool) (chars : List Char) : List Char :=
  ((chars.dropWhile condition).reverse.dropWhile condition).reverse

def strip (chars : List Char) : List Char := stripOf isBlank chars

/-- White space that may stand around a number. The information separators may not. -/
def isNumberBlank (c : Char) : Bool := isBlank c && !(0x1C ≤ c.toNat && c.toNat ≤ 0x1F)

end Linkage.Text
