import Linkage.Decimal.Reader
import Linkage.Json.Basic
/-!
Documents without infinite numbers. Only such documents can be sent: the standard has no way to write
a number that is infinite or none.
-/

namespace Linkage.Json

/-- Whether the number that is written so is finite as a double. -/
def isFiniteLiteral (literal : String) : Bool := (Decimal.parse? literal).any Float.isFinite

mutual

def isFinite : Json → Bool
  | .real literal => isFiniteLiteral literal
  | .array items => areFinite items
  | .object fields => haveFinite fields
  | _ => true

def areFinite : List Json → Bool
  | [] => true
  | item :: items => item.isFinite && areFinite items

def haveFinite : List (String × Json) → Bool
  | [] => true
  | (_, value) :: fields => value.isFinite && haveFinite fields

end

end Linkage.Json
