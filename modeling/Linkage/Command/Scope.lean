import Linkage.Command.Invocation
import Linkage.RepoMap.Load
/-!
The places that a run may look at or write to. What stands elsewhere cannot change its outcome.
-/

namespace Linkage.Command

def wayTo (current : Place) (location : Location) : List Place :=
  let start := if location.slashes = 0 then current else []
  ((List.range (location.segments.length + 1)).map (fun depth =>
    start.follow (location.segments.take depth))).flatMap (fun place =>
      (List.range (place.length + 1)).map (fun depth => place.take depth))

/-- The places where a file of the given name may be found through a location: the location, and the
file in it, also where that is a directory again. -/
def filePlaces (current home : Place) (name : String) (location : Location) : List Location :=
  match location.expand? home [] with
  | none => []
  | some location =>
    let place := Location.ofPlace (location.resolve current)
    [location, location.child name, place, place.child name, (place.child name).child name]

def Job.locations (current home : Place) : Job → List Location
  | .serve _ _ => []
  | .query _ map settings output =>
    let maps := map.flatMap (fun path => filePlaces current home RepoMap.fileName (.ofText path))
    let beside := maps.flatMap (fun location =>
      filePlaces current home Fault.settingsName location
        ++ filePlaces current home Fault.settingsName location.parent)
    let given := (settings.getD []).flatMap (fun path =>
      filePlaces current home Fault.settingsName (.ofText path))
    maps ++ beside ++ given ++ (output.map Location.ofText).toList

def Invocation.places (current home : Place) (invocation : Invocation) : List Place :=
  (invocation.job.locations current home
    ++ (invocation.logFile.map Location.ofText).toList).flatMap (wayTo current)

end Linkage.Command
