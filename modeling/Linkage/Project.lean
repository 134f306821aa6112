import Linkage.Analysis
import Linkage.RepoMap.Load
import Linkage.Settings.Load
/-!
Analyses of a repo map on disk, under the settings that lie beside it or elsewhere.
-/

namespace Linkage.Project

/-- The repo map and its settings, which are read first. Without a location they are looked for in
the directory of the map. -/
def load (map : String) (settings : Option String) : Action (RepoMap × Settings) := do
  let place ← RepoMap.placeOf (.ofText map)
  let (_, settings) ← Settings.load ((settings.map Location.ofText).getD (.ofPlace place.parent))
  let map ← RepoMap.load (.ofPlace place)
  Action.log [Log.mapLists map]
  return (map, settings)

def analyze (map : RepoMap) (settings : Settings) : Action Report := do
  let host ← get
  Action.attempt Fault.discovery (Analysis.analyze map settings (.discovered host.plugins))

def report (map : String) (settings : Option String) : Action Report := do
  Action.log [Log.starting map]
  let (map, settings) ← load map settings
  analyze map settings

end Linkage.Project
