import Linkage.Json.Encoding
import Linkage.Json.Finite
import Linkage.RepoMap.Decode
/-!
Requests to the service and the documents they carry. All that is wrong with the fields of a document
is found, in the order in which the fields are declared; other fields are ignored.
-/

namespace Linkage.Service

structure Request where
  method : String
  path : String
  body : String := ""
  deriving DecidableEq, Repr

inductive Cause where
  | missing
  | notMapping
  | notText
  | notObject
  /-- The body is no JSON from this position on. -/
  | unreadable (position : Nat)
  deriving DecidableEq, Repr

def Cause.code : Cause → String
  | missing => "missing"
  | notMapping => "dict_type"
  | notText => "string_type"
  | notObject => "model_attributes_type"
  | unreadable _ => "json_invalid"

/-- What is wrong with a field, or with the body as a whole, and the document that it is said of. -/
structure Problem where
  field : Option String
  cause : Cause
  found : Json := .null

def Problem.place (problem : Problem) : List Json :=
  .string "body" :: match problem.field, problem.cause with
    | some field, _ => [.string field]
    | none, .unreadable position => [.int position]
    | none, _ => []

abbrev Checked (α : Type) := Except (List Problem) α

namespace Checked

def both {α β : Type} : Checked α → Checked β → Checked (α × β)
  | .ok a, .ok b => .ok (a, b)
  | .ok _, .error problems => .error problems
  | .error problems, .ok _ => .error problems
  | .error first, .error second => .error (first ++ second)

end Checked

/-- Why a request is refused: its document has problems, or its body cannot be taken in at all. -/
inductive Refusal where
  | problems (problems : List Problem)
  | unusable

/-- The object in the body of a request. A null counts as no body. -/
def Request.document (limits : Json.Limits) (request : Request) : Except Refusal Json :=
  let wrong (cause : Cause) (found : Json) : Except Refusal Json :=
    .error (.problems [⟨none, cause, found⟩])
  if request.body = "" then wrong .missing .null
  else
    match Json.textOfBytes? request.body.toUTF8.toList with
    | none => .error .unusable
    | some text =>
      match Json.parse limits text with
      | .error (.excess _) => .error .unusable
      | .error (.flaw flaw) => wrong (.unreadable flaw.position) .null
      | .ok .null => wrong .missing .null
      | .ok (.object fields) => .ok (.object fields)
      | .ok other => wrong .notObject other

/-! ### Fields -/

def mapping (key : String) (document : Json) : Checked Json :=
  match document.field? key with
  | none => .error [⟨some key, .missing, document⟩]
  | some (.object fields) => .ok (.object fields)
  | some other => .error [⟨some key, .notMapping, other⟩]

def text (key : String) (document : Json) : Checked String :=
  match document.field? key with
  | none => .error [⟨some key, .missing, document⟩]
  | some (.string value) => .ok value
  | some other => .error [⟨some key, .notText, other⟩]

def text? (key : String) (document : Json) : Checked (Option String) :=
  match document.field? key with
  | none | some .null => .ok none
  | some (.string value) => .ok (some value)
  | some other => .error [⟨some key, .notText, other⟩]

end Linkage.Service
