import Linkage.Fault
import Linkage.Log.Logger
import Linkage.Text.Newline
/-!
What a run works on: the file tree, the current and the home directory, the plugins and the log.
Actions may fail; what they did before stays done.
-/

namespace Linkage

structure Host where
  tree : FileTree := {}
  current : Place := []
  home : Place := []
  /-- The homes of users by their names. -/
  homes : List (String × Place) := []
  /-- The analyzers on offer beside the built-in ones. -/
  plugins : List Discovery.Offer := []
  logger : Log.Logger := {}
  /-- What the log wrote to the console. -/
  console : String := ""
  /-- What JSON texts may hold. -/
  limits : Json.Limits := {}
  /-- The time that lines of log files start with. -/
  stamp : String := ""

namespace Host

def writeTo (record : Log.Record) (host : Host) : Log.Sink → Host
  | .console => { host with console := host.console ++ record.consoleLine }
  | .file place => { host with tree := host.tree.append place (record.fileLine host.stamp) }

def log (host : Host) (record : Log.Record) : Host :=
  (host.logger.sinks record).foldl (writeTo record) host

end Host

/-- A computation on a host that may fail. -/
abbrev Action (α : Type) := ExceptT Fault (StateM Host) α

namespace Action

def on {α : Type} (action : Action α) (host : Host) : Except Fault α × Host :=
  StateT.run (ExceptT.run action) host

@[simp] theorem on_pure {α : Type} (value : α) (host : Host) :
    (pure value : Action α).on host = (.ok value, host) := rfl

@[simp] theorem on_throw {α : Type} (fault : Fault) (host : Host) :
    (throw fault : Action α).on host = (.error fault, host) := rfl

/-- The second action sees the host as the first one left it; a fault skips it. -/
theorem on_bind {α β : Type} (action : Action α) (next : α → Action β) (host : Host) :
    (action >>= next).on host = match action.on host with
      | (.ok value, after) => (next value).on after
      | (.error fault, after) => (.error fault, after) := by
  unfold on ExceptT.run StateT.run
  simp only [bind, ExceptT.bind, ExceptT.mk, StateT.bind, ExceptT.bindCont]
  cases action host with
  | mk outcome after => cases outcome <;> rfl

def ofExcept {α ε : Type} (wrap : ε → Fault) : Except ε α → Action α
  | .ok value => pure value
  | .error fault => throw (wrap fault)

def log (records : List Log.Record) : Action Unit :=
  modify (fun host => records.foldl Host.log host)

def logged {α : Type} (computation : Logged α) : Action α := do
  log computation.records
  return computation.value

def attempt {α ε : Type} (wrap : ε → Fault) (computation : Run ε α) : Action α := do
  ofExcept wrap (← logged computation.run)

/-- The location with a home directory in place of a tilde. -/
def expand (location : Location) : Action Location := do
  if location.hasNullName then throw .nullCharacter
  let host ← get
  match location.expand? host.home host.homes with
  | some location => return location
  | none => throw .homeUnknown

/-- What stands at a location. Nothing does where the way to it ends early; a path that is too long
is a fault. -/
def entryAt (location : Location) : Action (Option Entry) := do
  let host ← get
  match host.tree.find host.current location with
  | .ok entry => return some entry
  | .error .tooLong => throw (.file .tooLong location.text)
  | .error _ => return none

/-- The place of a file that is given by itself or by its directory, where it has a fixed name. -/
def fileOrIn (name : String) (location : Location) : Action Place := do
  let location ← expand location
  if location.hasNull then throw .nullCharacter
  let entry ← entryAt location
  let location := if entry = some .directory then location.child name else location
  return location.resolve (← get).current

def isPresent (place : Place) : Action Bool := do
  return (← entryAt (.ofPlace place)).isSome

def readText (unreadable : Obstacle → Fault) (place : Place) : Action String := do
  let host ← get
  let content ← ofExcept unreadable (host.tree.read host.current (.ofPlace place))
  let text ←
    match content with
    | .text value => pure value
    | .bytes values => ofExcept Fault.encoding (Text.Utf8.decode values)
  return String.ofList (Text.unixLines text.toList)

end Action

end Linkage
