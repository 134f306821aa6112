/-!
File name patterns: `*` stands for any text, `?` for one character, and `[…]` or `[!…]` for one
character in or out of a set. A pattern matches whole texts and knows no escapes. A bracket that is
never closed is plain text.
-/

namespace Linkage.Glob

/-- One part of a pattern. A set lists ranges with both ends. -/
inductive Piece where
  | star
  | any
  | never
  | char (c : Char)
  | set (negated : Bool) (ranges : List (Char × Char))
  deriving DecidableEq, Repr

def Piece.accepts : Piece → Char → Bool
  | .star, _ => false
  | .any, _ => true
  | .never, _ => false
  | .char expected, c => expected = c
  | .set negated ranges, c => ranges.any (fun (low, high) => low ≤ c && c ≤ high) != negated

/-! ### Sets -/

/-- Splits the text of a set at the hyphens that form ranges. A hyphen needs a character before it,
and the next one can only follow two characters later. `chunk` is the text since the last such
hyphen, in reverse; `wait` characters are passed over first. -/
def chunksFrom (wait : Nat) (chunk : List Char) : List Char → List (List Char)
  | [] => [chunk.reverse]
  | c :: rest =>
    match wait with
    | wait + 1 => chunksFrom wait (c :: chunk) rest
    | 0 => if c = '-' then chunk.reverse :: chunksFrom 2 [] rest else chunksFrom 0 (c :: chunk) rest

/-- The chunks of a set, the mark of negation included in the first one. A hyphen that ends the text
belongs to the chunk before it. -/
def chunks (text : List Char) : List (List Char) :=
  let start := if text.head? = some '!' then 2 else 1
  let parts := chunksFrom start [] text
  match parts.reverse with
  | [] :: last :: before => ((last ++ ['-']) :: before).reverse
  | _ => parts

/-- Puts a chunk before others. Where the range between them is empty, its two ends vanish and the
chunks become one. -/
def attach (chunk : List Char) : List (List Char) → List (List Char)
  | [] => [chunk]
  | next :: others =>
    match chunk.getLast?, next with
    | some high, low :: rest =>
      if low < high then (chunk.dropLast ++ rest) :: others else chunk :: next :: others
    | _, _ => chunk :: next :: others

/-- The ranges of a chunk and those that follow it: a hyphen joins the last character of a chunk to
the first of the next, and every other character stands for itself. So does a hyphen that has no
character left of it to join. -/
def rangesFrom (chunk : List Char) : List (List Char) → List (Char × Char)
  | [] => chunk.map (fun c => (c, c))
  | next :: others =>
    match chunk.getLast?, next with
    | some low, high :: rest =>
      chunk.dropLast.map (fun c => (c, c)) ++ (low, high) :: rangesFrom rest others
    | _, _ => chunk.map (fun c => (c, c)) ++ ('-', '-') :: rangesFrom next others

def setPiece (text : List Char) : Piece :=
  match (chunks text).foldr attach [] with
  | [] | [[]] => .never
  | [['!']] => .any
  | ('!' :: chunk) :: others => .set true (rangesFrom chunk others)
  | chunk :: others => .set false (rangesFrom chunk others)

/-- Splits what follows an opening bracket at the bracket that closes it. A closing bracket that
comes first, or right after the mark of negation, belongs to the set. -/
def closeSet? (chars : List Char) : Option (List Char × List Char) :=
  let (mark, rest) := match chars with
    | '!' :: rest => (['!'], rest)
    | _ => ([], chars)
  let (first, rest) := match rest with
    | ']' :: rest => ([']'], rest)
    | _ => ([], rest)
  match rest.dropWhile (· != ']') with
  | ']' :: after => some (mark ++ first ++ rest.takeWhile (· != ']'), after)
  | _ => none

/-! ### Patterns -/

def piecesFrom : Nat → List Char → List Piece
  | 0, _ => []
  | _, [] => []
  | bound + 1, c :: rest =>
    if c = '*' then .star :: piecesFrom bound rest
    else if c = '?' then .any :: piecesFrom bound rest
    else if c = '[' then
      match closeSet? rest with
      | some (text, after) => setPiece text :: piecesFrom bound after
      | none => .char '[' :: piecesFrom bound rest
    else .char c :: piecesFrom bound rest

def pieces (pattern : String) : List Piece :=
  piecesFrom pattern.toList.length pattern.toList

/-- For every end of the text, the whole text first, whether it matches `piece` and then what
`after` says of the rest. -/
def matchPiece (piece : Piece) : List Char → List Bool → List Bool
  | [], after => [piece = .star && after.headD false]
  | c :: rest, after =>
    let shorter := matchPiece piece rest after.tail
    let here :=
      if piece = .star then after.headD false || shorter.headD false
      else piece.accepts c && after.tail.headD false
    here :: shorter

def matchEnds (text : List Char) (pieces : List Piece) : List Bool :=
  pieces.foldr (fun piece after => matchPiece piece text after)
    (text.map (fun _ => false) ++ [true])

def fits (pattern text : String) : Bool :=
  (matchEnds text.toList (pieces pattern)).headD false

end Linkage.Glob
