import Linkage.Settings.Basic
import Linkage.Yaml.Value
/-!
Settings from the value of a settings text. A field of the wrong kind counts as absent, and an empty
list leaves the default.
-/

namespace Linkage.Settings

open Yaml (Value)

def fieldsOf : Option Value → List (String × Value)
  | some (.mapping fields) => fields
  | _ => []

/-- The text of an item of a list: texts and numbers have one, unless it would be too long. -/
def itemText? : Value → Option (Except Yaml.Fault String)
  | .scalar (.text value) => some (.ok value)
  | .scalar (.int value) =>
    match Text.decimal? value with
    | some text => some (.ok text)
    | none => some (.error .unwritable)
  | .scalar (.real value) => some (.ok (Decimal.text value))
  | _ => none

/-- The texts a value lists. A text alone is a list of one. -/
def textsOf : Option Value → Except Yaml.Fault (List String)
  | some (.scalar (.text value)) => .ok [value]
  | some (.list items) => (items.filterMap itemText?).mapM id
  | some (.scalar (.bytes values)) => .ok (values.map toString)
  | _ => .ok []

def textsOr (default : List String) (key : String) (fields : List (String × Value)) :
    Except Yaml.Fault (List String) := do
  match ← textsOf (Assoc.get? key fields) with
  | [] => return default
  | texts => return texts

def withDot (extension : String) : String :=
  if extension.startsWith "." then extension else "." ++ extension

/-- The analyzers to run; a null asks for all of them. -/
def enabledOf (fields : List (String × Value)) : Except Yaml.Fault (Option (List String)) :=
  match Assoc.get? "enabled" fields with
  | none | some (.scalar .null) => .ok none
  | value => (textsOf value).map some

def ofFields (fields : List (String × Value)) : Except Yaml.Fault Settings := do
  let base : Settings := {}
  let resolver := fieldsOf (Assoc.get? "resolver" fields)
  let infrastructure := fieldsOf (Assoc.get? "infrastructure" fields)
  let analyzers := fieldsOf (Assoc.get? "analyzers" fields)
  let extensions ← textsOf (Assoc.get? "extensions" resolver)
  return {
    extensions := if extensions.isEmpty then base.extensions else extensions.map withDot
    entryPoints := ← textsOr base.entryPoints "entry_points" fields
    suffixes := ← textsOr base.suffixes "suffixes" infrastructure
    beginnings := ← textsOr base.beginnings "factory_prefixes" infrastructure
    enabled := ← enabledOf analyzers
    excluded := ← textsOf (Assoc.get? "exclude_paths" analyzers) }

/-- How deep settings are looked into: a section, a list in it and the items of the list. -/
def depth : Nat := 3

/-- The settings a value describes. A null describes the default ones; any other value that is no
mapping describes none. -/
def ofValue? : Value → Option (Except Yaml.Fault Settings)
  | .scalar .null => some (.ok {})
  | .mapping fields => some (ofFields fields)
  | _ => none

end Linkage.Settings
