import Linkage.Json.Basic
import Linkage.RepoMap.Basic
/-!
Repo maps from JSON documents. Only a document of the wrong overall shape is refused: an entry
without a usable name is skipped, and a field of the wrong kind counts as absent.
-/

namespace Linkage

def Json.nonEmpty? (json : Json) : Option String :=
  json.string?.filter (· != "")

def Json.line? : Json → Option Int
  | .int line => some line
  | _ => none

def Export.ofJson? (json : Json) : Option Export := do
  let name ← (← json.field? "name").nonEmpty?
  return {
    name
    kind := (json.field? "kind").bind Json.nonEmpty?
    line := (json.field? "line").bind Json.line? }

/-- Whether a field holds the document `true` and nothing that merely resembles it. -/
def Json.isTrue : Option Json → Bool
  | some (.bool true) => true
  | _ => false

def Declaration.ofJson? (json : Json) : Option Declaration := do
  let name ← (← json.field? "name").nonEmpty?
  return {
    name
    exported := Json.isTrue (json.field? "exported")
    line := (json.field? "line").bind Json.line? }

/-- The strings of an array; any other document lists no names at all. -/
def Json.names? : Json → Option (List String)
  | .array items => some (items.filterMap Json.string?)
  | _ => none

def Import.ofJson? (json : Json) : Option Import := do
  let source ← (← json.field? "source").nonEmpty?
  return {
    source
    kind := (json.field? "kind").bind Json.string?
    names := (json.field? "names").bind Json.names? }

/-- The items of an array field; a field that is absent or no array has none. -/
def Json.itemsOf (key : String) (json : Json) : List Json :=
  ((json.field? key).getD .null).items

def FileRecord.ofJson (json : Json) : FileRecord :=
  let symbols := (json.field? "symbols").getD .null
  { exports := (symbols.itemsOf "exports").filterMap Export.ofJson?
    classes := (symbols.itemsOf "classes").filterMap Declaration.ofJson?
    functions := (symbols.itemsOf "functions").filterMap Declaration.ofJson?
    imports := (json.itemsOf "imports").filterMap Import.ofJson? }

inductive RepoMap.ShapeError where
  | notMapping (found : String)
  | filesNotMapping (found : String)
  deriving DecidableEq, Repr

def RepoMap.ShapeError.message : RepoMap.ShapeError → String
  | .notMapping found => "Repo map must be a mapping, got " ++ found
  | .filesNotMapping found => "Repo map 'files' must be a mapping, got " ++ found

/-- The repo map of a table of files; an empty path is skipped. -/
def RepoMap.ofFields (fields : List (String × Json)) : RepoMap :=
  .ofList ((fields.filter (·.1 != "")).map (fun (path, json) => (path, FileRecord.ofJson json)))

/-- The repo map a document describes. No document, or no table of files, is the empty map. -/
def RepoMap.ofJson : Json → Except RepoMap.ShapeError RepoMap
  | .null => .ok .empty
  | .object fields =>
    match Assoc.get? "files" fields with
    | none | some .null => .ok .empty
    | some (.object files) => .ok (.ofFields files)
    | some other => .error (.filesNotMapping other.kind)
  | other => .error (.notMapping other.kind)

end Linkage
