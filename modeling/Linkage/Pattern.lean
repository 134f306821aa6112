/-!
Text patterns: words, ranges of characters and the two ends of a text, put one after another or side
by side. A pattern is tried at every place of a text, from the left on. Of two patterns side by side
the second is tried where nothing comes of the first.
-/

namespace Linkage

inductive Pattern where
  | word (text : String)
  | range (first last : Char)
  /-- The start of the text. -/
  | start
  /-- The end of the text, or the place before a line feed that ends it. -/
  | finish
  | followed (first second : Pattern)
  | either (first second : Pattern)
  deriving DecidableEq, Repr

namespace Pattern

/-- Any of the words. A list without words stands for the empty word. -/
def oneOf : List String → Pattern
  | [] => word ""
  | [text] => word text
  | text :: others => either (word text) (oneOf others)

/-- Whether the pattern can be read from the front of `rest` so that `goes` takes what is left.
`rest` is the part of `whole` that is still unread. -/
def matchFrom (whole : List Char) : Pattern → (goes : List Char → Bool) → (rest : List Char) → Bool
  | word text, goes, rest =>
    text.toList.isPrefixOf rest && goes (rest.drop text.toList.length)
  | range _ _, _, [] => false
  | range first last, goes, c :: rest => (first ≤ c && c ≤ last) && goes rest
  | start, goes, rest => rest = whole && goes rest
  | finish, goes, rest => (rest = [] || rest = ['\n']) && goes rest
  | followed first second, goes, rest => matchFrom whole first (matchFrom whole second goes) rest
  | either first second, goes, rest =>
    matchFrom whole first goes rest || matchFrom whole second goes rest

def searchFrom (pattern : Pattern) (whole : List Char) : (rest : List Char) → Bool
  | [] => pattern.matchFrom whole (fun _ => true) []
  | c :: rest => pattern.matchFrom whole (fun _ => true) (c :: rest) || searchFrom pattern whole rest

def search (pattern : Pattern) (text : String) : Bool :=
  pattern.searchFrom text.toList text.toList

end Pattern

end Linkage
