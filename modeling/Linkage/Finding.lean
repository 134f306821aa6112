import Linkage.Json.Basic
/-!
Findings: a name of a file that deserves attention, with how certain that is.
-/

namespace Linkage

namespace Certainty

def high : String := "HIGH"

def medium : String := "MEDIUM"

def low : String := "LOW"

/-- The grades every summary lists, the surest first. -/
def levels : List String := [high, medium, low]

end Certainty

structure Finding where
  file : String
  name : String
  line : Option Int := none
  kind : String
  certainty : String
  /-- What part the name plays, for infrastructure. -/
  role : Option String := none
  deriving DecidableEq, Repr

namespace Finding

def toJson (finding : Finding) : Json :=
  .object ([("file", .string finding.file), ("name", .string finding.name),
    ("line", (finding.line.map Json.int).getD .null), ("kind", .string finding.kind),
    ("certainty", .string finding.certainty)]
    ++ (finding.role.map (fun role => ("type", Json.string role))).toList)

def listJson (findings : List Finding) : Json := .array (findings.map toJson)

end Finding

end Linkage
