import Linkage.Project
import Linkage.Service.Request
import Linkage.Service.Target
/-!
The endpoints of the service. Faults become responses: something that is not found, a repo map or
settings that are refused, or a failure of the service itself.
-/

namespace Linkage.Service

inductive Endpoint where
  | health | analyze | run | usages
  deriving DecidableEq, Repr

namespace Endpoint

def all : List Endpoint := [health, analyze, run, usages]

def path : Endpoint → String
  | health => "/health"
  | analyze => "/analyze"
  | run => "/run"
  | usages => "/usages"

def method : Endpoint → String
  | health => "GET"
  | _ => "POST"

/-- The endpoint of a path. Slashes at the end are ignored, and so is a line end before them. -/
def ofPath? (path : List Char) : Option Endpoint :=
  let bare := (path.reverse.dropWhile (· = '/')).reverse
  all.find? (fun endpoint =>
    bare = endpoint.path.toList || bare = endpoint.path.toList ++ ['\n'])

end Endpoint

inductive Payload where
  | json (value : Json)
  | text (value : String)
  /-- The problems of a request that is refused. -/
  | problems (problems : List Problem)

structure Response where
  status : Nat
  payload : Payload

namespace Response

def ok (value : Json) : Response := ⟨200, .json value⟩

def detail (status : Nat) (message : String) : Response :=
  ⟨status, .json (.object [("detail", .string message)])⟩

def failed : Response := ⟨500, .text "Internal Server Error"⟩

/-- A refused request is told its problems along with what was found. That fails where the latter
cannot be sent. -/
def ofRefusal : Refusal → Response
  | .unusable => detail 400 "There was an error parsing the body"
  | .problems problems =>
    if problems.all (fun problem => problem.found.isFinite) then ⟨422, .problems problems⟩ else failed

def ofFault (fault : Fault) : Response :=
  match fault.kind with
  | .notFound => detail 404 fault.message
  | .repoMap => detail 422 fault.message
  | .settings => detail 400 fault.message
  | .other | .exit => failed

end Response

/-! ### Endpoints -/

def repoMap (document : Json) : Action RepoMap :=
  Action.ofExcept Fault.mapShape (RepoMap.ofJson document)

def settingsAt : Option String → Action Settings
  | none => return {}
  | some path => return (← Settings.load (.ofText path)).2

def analyze (document : Json) (settings : Option String) : Action Json := do
  let map ← repoMap document
  let settings ← settingsAt settings
  return (← Project.analyze map settings).toJson

/-- Who imports a name of a file, or without a name anything from it. -/
def importers (document : Json) (file : String) (name : Option String) : Action (List String) := do
  let map ← repoMap document
  let settings : Settings := {}
  let index ← Action.logged (Analysis.index map settings.extensions)
  match name.filter (· != "") with
  | some name => return index.usages file name
  | none => return index.dependents file

def usages (document : Json) (file : String) (name : Option String) : Action Json := do
  let importers ← importers document file name
  return .object [("file", .string file), ("symbol", (name.map Json.string).getD .null),
    ("importers", .ofStrings importers)]

def Endpoint.actionOn (document : Json) : Endpoint → Checked (Action Json)
  | health => .ok (return .object [("status", .string "ok")])
  | analyze => do
    let (map, settings) ← (mapping "repo_map" document).both (text? "config_path" document)
    return Service.analyze map settings
  | run => do
    let (path, settings) ← (text "path" document).both (text? "config_path" document)
    return (do return (← Project.report path settings).toJson)
  | usages => do
    let (map, file, name) ← (mapping "repo_map" document).both
      ((text "file" document).both (text? "symbol" document))
    return Service.usages map file name

/-- What an endpoint does with a request. Only the others than the one for health read its body. -/
def Endpoint.action (limits : Json.Limits) (request : Request) (endpoint : Endpoint) :
    Except Refusal (Action Json) := do
  let document ← if endpoint = .health then pure .null else request.document limits
  (endpoint.actionOn document).mapError Refusal.problems

/-! ### Requests -/

/-- The response to a request, before its method is taken into account. -/
def answer (request : Request) (host : Host) : Response × Host :=
  match Endpoint.ofPath? (Target.path request.path) with
  | none => (.detail 404 "Not Found", host)
  | some endpoint =>
    if endpoint.method != request.method.toUpper then (.detail 405 "Method Not Allowed", host)
    else
      match endpoint.action host.limits request with
      | .error refusal => (.ofRefusal refusal, host)
      | .ok action =>
        match action.on host with
        | (.ok value, host) => (.ok value, host)
        | (.error fault, host) => (.ofFault fault, host)

/-- The response to a request. A request for the head alone gets no content. -/
def respond (request : Request) (host : Host) : Response × Host :=
  let (response, host) := answer request host
  if request.method.toUpper = "HEAD" then ({ response with payload := .text "" }, host)
  else (response, host)

def respondAll (requests : List Request) (host : Host) : List Response :=
  match requests with
  | [] => []
  | request :: rest =>
    let (response, host) := respond request host
    response :: respondAll rest host

end Linkage.Service
