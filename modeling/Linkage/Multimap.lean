import Linkage.Assoc
/-!
Sets of texts as strictly ascending lists, and maps from texts to such sets, ascending by key. Texts
are ordered by code point. Since both are built by sorted insertion, listing one needs no sorting.
-/

namespace Linkage

namespace TextSet

/-- Adds a text to a strictly ascending list; a text that is present is not repeated. -/
def insert (text : String) : List String → List String
  | [] => [text]
  | t :: rest =>
    if text < t then text :: t :: rest
    else if text = t then t :: rest
    else t :: insert text rest

def ofList (texts : List String) : List String :=
  texts.foldl (fun set text => insert text set) []

end TextSet

abbrev Multimap := List (String × List String)

namespace Multimap

/-- Adds one value to the set under a key, which is created when it is new. -/
def add (key value : String) : Multimap → Multimap
  | [] => [(key, [value])]
  | (k, set) :: rest =>
    if key < k then (key, [value]) :: (k, set) :: rest
    else if key = k then (k, TextSet.insert value set) :: rest
    else (k, set) :: add key value rest

/-- Sets the whole set under a key; unlike `add` it can record an empty one. -/
def set (key : String) (values : List String) : Multimap → Multimap
  | [] => [(key, values)]
  | (k, old) :: rest =>
    if key < k then (key, values) :: (k, old) :: rest
    else if key = k then (k, values) :: rest
    else (k, old) :: set key values rest

def get (map : Multimap) (key : String) : List String := (Assoc.get? key map).getD []

end Multimap

end Linkage
