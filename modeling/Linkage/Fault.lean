import Linkage.Analyzer.Discovery
import Linkage.FileTree
import Linkage.Json.Reader
import Linkage.RepoMap.Decode
import Linkage.Text.Utf8
import Linkage.Yaml.Fault
/-!
What can go wrong in a run, and what is said about it.
-/

namespace Linkage

inductive Fault where
  | file (obstacle : Obstacle) (path : String)
  /-- A path with a null character. -/
  | nullCharacter
  /-- Something stands in the place of a path and is none. -/
  | notPath
  | homeUnknown
  | encoding (fault : Text.Utf8.Fault)
  | mapMissing (path : String)
  | mapSyntax (name : String) (flaw : Json.Flaw)
  /-- A document goes beyond what can be read. -/
  | excess (excess : Json.Excess)
  | mapShape (fault : RepoMap.ShapeError)
  | settingsUnreadable (name : String) (obstacle : Obstacle) (path : String)
  | settingsMalformed (name : String)
  | settingsShape
  | settingsValue (fault : Yaml.Fault)
  | discovery (fault : Discovery.Fault)
  | conflictingFlags
  deriving DecidableEq, Repr

namespace Fault

def settingsName : String := ".usagegraph.yml"

def fileMessage (obstacle : Obstacle) (path : String) : String :=
  "[Errno " ++ toString obstacle.code ++ "] " ++ obstacle.reason ++ ": " ++ Text.quoted path

def message : Fault → String
  | file obstacle path => fileMessage obstacle path
  | nullCharacter => "embedded null byte"
  | notPath => "expected str, bytes or os.PathLike object, not list"
  | homeUnknown => "Could not determine home directory."
  | encoding fault => fault.message
  | mapMissing path => "Repo map not found at " ++ path
  | mapSyntax name flaw => "Failed to parse " ++ name ++ ": " ++ flaw.message
  | excess found => found.message
  | mapShape fault => fault.message
  | settingsUnreadable name obstacle path =>
    "Failed to read " ++ name ++ ": " ++ fileMessage obstacle path
  | settingsMalformed name => "Failed to parse " ++ name
  | settingsShape => settingsName ++ " must contain a mapping at the root"
  | settingsValue fault => fault.message
  | discovery fault => fault.message
  | conflictingFlags => "verbose and quiet logging are mutually exclusive"

def kind : Fault → Kind
  | file .missing _ => .notFound
  | mapMissing _ => .notFound
  | mapSyntax _ _ => .repoMap
  | mapShape _ => .repoMap
  | settingsUnreadable _ _ _ => .settings
  | settingsMalformed _ => .settings
  | settingsShape => .settings
  | discovery fault => fault.kind
  | _ => .other

end Fault

end Linkage
