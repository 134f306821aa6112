import Linkage.Host
import Linkage.Settings.Decode
/-!
Settings from a file.
-/

namespace Linkage.Settings

/-- A fault of a value is told as such; any other means that the text cannot be read. -/
def faultOf (name : String) : Yaml.Fault → Fault
  | .malformed => .settingsMalformed name
  | fault => .settingsValue fault

/-- The settings of a text. Blank text gives the default ones. -/
def parse (name : String) (text : String) : Except Fault Settings := do
  if (Text.strip text.toList).isEmpty then return {}
  let value ← (Yaml.Value.parse depth text).mapError (faultOf name)
  match ofValue? value with
  | some settings => settings.mapError (faultOf name)
  | none => throw .settingsShape

/-- The settings at a location, a file or a directory that holds one, and their directory. Without a
file there are the default ones. -/
def load (location : Location) : Action (Place × Settings) := do
  let place ← Action.fileOrIn Fault.settingsName location
  if !(← Action.isPresent place) then return (place.parent, {})
  let text ← Action.readText (.settingsUnreadable place.name · place.text) place
  return (place.parent, ← Action.ofExcept id (parse place.name text))

end Linkage.Settings
