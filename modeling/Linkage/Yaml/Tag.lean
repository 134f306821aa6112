import Linkage.Yaml.Form
import Linkage.Yaml.Timestamp
/-!
Tags say what a node stands for. A plain scalar without a tag gets one from its text: a null, a truth
value, a number, a date or time, a merge key, a mark that stands for nothing, or else a text.
-/

namespace Linkage.Yaml

inductive Tag where
  | null | bool | int | float | binary | timestamp | str
  | seq | map | set | omap | pairs
  | merge
  /-- The tag of a scalar that is an equals sign. -/
  | equals
  | other
  deriving DecidableEq, Repr

namespace Tag

def lead : String := "tag:yaml.org,2002:"

def standard : List (String × Tag) :=
  [("null", null), ("bool", bool), ("int", int), ("float", float), ("binary", binary),
    ("timestamp", timestamp), ("str", str), ("seq", seq), ("map", map), ("set", set),
    ("omap", omap), ("pairs", pairs), ("merge", merge), ("value", equals)]

def ofText (text : String) : Tag :=
  ((standard.find? (fun entry => lead ++ entry.1 = text)).map Prod.snd).getD other

def ofPlain (text : String) : Tag :=
  let chars := text.toList
  if Form.isNull chars then null
  else if Form.isBool chars then bool
  else if Form.isFloat chars then float
  else if Form.isInteger chars then int
  else if Timestamp.isPlain chars then timestamp
  else if Form.isWord ["<<"] chars then merge
  else if Form.isWord ["="] chars then equals
  else if Form.isMark chars then other
  else str

end Tag

end Linkage.Yaml
