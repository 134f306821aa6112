import Linkage.Command.Invocation
import Linkage.Json.Printer
import Linkage.Log.Configure
/-!
Carrying out a command line: what is printed, which files are written and how the run ends.
-/

namespace Linkage.Command

/-- How a run ends: with an exit code, or with a fault that nothing catches. -/
inductive Ending where
  | exit (code : Nat)
  | fault (fault : Fault)
  deriving DecidableEq, Repr

structure Outcome where
  ending : Ending
  /-- What is printed as the result. -/
  output : String := ""
  /-- What is printed beside the log. -/
  complaint : String := ""
  /-- The address to serve at: a host and a port, each of which may be left out. -/
  served : Option (List String × List Int) := none
  deriving DecidableEq, Repr

def programName : String := "usagegraph"

def misuseLine (verb : Option Verb) (fault : Misuse) : String :=
  let lead :=
    match verb with
    | none => programName
    | some verb => programName ++ " " ++ verb.name
  lead ++ ": error: " ++ fault.message ++ "\n"

def complaintOf (verb : Verb) (fault : Fault) : String :=
  let failed := programName ++ " " ++ verb.name ++ " failed: " ++ fault.message ++ "\n"
  match fault.kind with
  | .notFound => fault.message ++ "\n"
  | .repoMap | .settings => failed
  | .other | .exit => failed ++ "Run with --verbose for more details.\n"

/-- A location as seen from the current directory, if it lies in it. -/
def relative (current : Place) (location : Location) : String :=
  let place := location.resolve current
  if current.isPrefixOf place then (Location.mk 0 (place.drop current.length)).text
  else location.text

/-- Writes a result to a file, in a directory that is made if need be. -/
def writeResult (location : Location) (text : String) : Action Unit := do
  if location.parent.hasNull then throw .nullCharacter
  let host ← get
  let tree ← Action.ofExcept (fun (obstacle, directory) => Fault.file obstacle directory.text)
    (host.tree.ensureDirectory host.current location.parent)
  set { host with tree }
  if location.hasNull then throw .nullCharacter
  let tree ← Action.ofExcept (.file · location.text) (tree.write host.current location text)
  set { host with tree }

def deliver (output : Option String) (result : Json) : Action String := do
  match output with
  | none => return result.render ++ "\n"
  | some path =>
    let location := Location.ofText path
    writeResult location (result.render ++ "\n")
    return "Report written to " ++ relative (← get).current location ++ "\n"

/-- Tries an action; its fault becomes a value, unless it is to end the run. -/
def trying {α : Type} (action : Action α) : Action (Except Fault α) :=
  tryCatch (do return .ok (← action)) (fun fault =>
    if fault.kind = .exit then throw fault else return .error fault)

/-- The answer to a query whose repo map and settings are named by words. Where there should be a
word and is none, the run comes as far as it does without it. -/
def answer (query : Query) (map : List String) (settings : Option (List String)) : Action Json := do
  match map, settings with
  | map :: _, none => query.answer map none
  | map :: _, some (settings :: _) => query.answer map (some settings)
  | _, _ =>
    if query = .report then Action.log [Log.starting (map.headD "[]")]
    match map with
    | map :: _ => let _ ← RepoMap.placeOf (.ofText map)
    | [] => pure ()
    throw .notPath

def perform (invocation : Invocation) : Action Outcome := do
  Log.configure invocation.verbosity (invocation.logFile.map Location.ofText)
  match invocation.job with
  | .serve host port => return { ending := .exit 0, served := some (host, port) }
  | .query query map settings output =>
    match ← trying (answer query map settings) with
    | .error fault => return { ending := .exit 1, complaint := complaintOf invocation.verb fault }
    | .ok result => return { ending := .exit 0, output := ← deliver output result }

def run (words : List String) (host : Host) : Outcome × Host :=
  match Invocation.ofWords words with
  | .error .help => ({ ending := .exit 0 }, host)
  | .error (.misuse verb fault) =>
    ({ ending := .exit 2, complaint := misuseLine verb fault }, host)
  | .ok invocation =>
    match (perform invocation).on host with
    | (.ok outcome, host) => (outcome, host)
    | (.error fault, host) => ({ ending := .fault fault }, host)

end Linkage.Command
