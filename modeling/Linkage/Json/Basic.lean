import Linkage.Assoc
/-!
JSON documents. Objects keep the order of their fields; a number is an integer when it is written
without fraction and exponent, and any other number is kept as it is written.
-/

namespace Linkage

inductive Json where
  | null
  | bool (value : Bool)
  | int (value : Int)
  | real (literal : String)
  | string (value : String)
  | array (items : List Json)
  | object (fields : List (String × Json))
  deriving Inhabited

namespace Json

def kind : Json → String
  | null => "NoneType"
  | bool _ => "bool"
  | int _ => "int"
  | real _ => "float"
  | string _ => "str"
  | array _ => "list"
  | object _ => "dict"

/-- The fields of an object; any other document has none. -/
def fields : Json → List (String × Json)
  | object fields => fields
  | _ => []

def items : Json → List Json
  | array items => items
  | _ => []

def field? (key : String) (json : Json) : Option Json := Assoc.get? key json.fields

def string? : Json → Option String
  | string value => some value
  | _ => none

def ofStrings (texts : List String) : Json := array (texts.map string)

end Json

end Linkage
