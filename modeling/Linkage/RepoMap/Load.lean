import Linkage.Host
import Linkage.Log.Notes
/-!
Repo maps from files.
-/

namespace Linkage.RepoMap

def fileName : String := "repo-map.json"

def placeOf (location : Location) : Action Place := Action.fileOrIn fileName location

def faultOf (name : String) : Json.Fault → Fault
  | .flaw flaw => .mapSyntax name flaw
  | .excess excess => .excess excess

def parse (limits : Json.Limits) (name text : String) : Except Fault RepoMap := do
  let json ← (Json.parse limits text).mapError (faultOf name)
  (ofJson json).mapError Fault.mapShape

/-- The repo map at a location, a file or a directory that holds one. -/
def load (location : Location) : Action RepoMap := do
  let place ← placeOf location
  if !(← Action.isPresent place) then throw (.mapMissing place.text)
  let text ← Action.readText (.file · place.text) place
  let map ← Action.ofExcept id (parse (← get).limits place.name text)
  Action.log [Log.mapLoaded map place.text]
  return map

end Linkage.RepoMap
