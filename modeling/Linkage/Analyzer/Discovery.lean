import Linkage.Analyzer.Basic
import Linkage.Fault.Kind
/-!
Finding the analyzers to run: the built-in ones and then the plugins, in order. Names are compared in
lower case, and the first candidate for a name is taken. Every plugin is loaded, also one that is not
asked for.
-/

namespace Linkage.Discovery

/-- What a plugin turns out to be: an analyzer, a type of analyzers, something else that can be
called, or anything else. A call may give any object, also that of a type, and it may raise. -/
inductive Object where
  | analyzer (analyzer : Analyzer)
  | type (call : Except Raised Object)
  | function (call : Except Raised Object)
  | other

/-- A plugin offered under a name, and what loading it yields. -/
structure Offer where
  name : String
  loaded : Except Raised Object

inductive Fault where
  | notLoaded (name text : String)
  | notAnalyzer
  /-- What was made for a name is no analyzer. -/
  | notInstance (name : String)
  /-- What a plugin raised is passed on. -/
  | raised (cause : Raised)
  | unknown (names : List String)
  deriving DecidableEq, Repr

def Fault.message : Fault → String
  | .notLoaded name text => "Failed to load analyzer entry point '" ++ name ++ "': " ++ text
  | .notAnalyzer => "Analyzer entry point must be an Analyzer subclass or factory"
  | .notInstance name => "Analyzer factory for '" ++ name ++ "' did not return an Analyzer instance"
  | .raised cause => cause.text
  | .unknown names => "Unknown analyzers requested: " ++ String.intercalate ", " names

def Fault.kind : Fault → Linkage.Fault.Kind
  | .raised cause => cause.kind
  | _ => .other

/-- What an object makes: an analyzer itself, and a call what it gives. Only what is called without
being a type of analyzers has to give one here. -/
def Object.make : Object → Except Fault Object
  | .analyzer found => .ok (.analyzer found)
  | .type call => call.mapError .raised
  | .function call => do
    match ← call.mapError Fault.raised with
    | .analyzer found => .ok (.analyzer found)
    | _ => .error .notAnalyzer
  | .other => .error .notAnalyzer

/-- Where discovery stands: the names that are still asked for, unless all are, the analyzers taken,
and their names. All names are in lower case. -/
structure State where
  unmet : Option (List String)
  taken : List Analyzer := []
  seen : List String := []

def State.initial (enabled : Option (List String)) : State :=
  { unmet := enabled.map (fun names => TextSet.ofList (names.map Text.lower)) }

def wanted (state : State) (name : String) : Bool :=
  state.unmet.all (·.contains (Text.lower name)) && !state.seen.contains (Text.lower name)

def take (name : String) (analyzer : Analyzer) (state : State) : State :=
  { unmet := state.unmet.map (·.filter (· != Text.lower name))
    taken := state.taken ++ [analyzer]
    seen := state.seen ++ [Text.lower name] }

def add (state : State) (name : String) (make : Except Fault Object) : Except Fault State :=
  if wanted state name then do
    match ← make with
    | .analyzer analyzer => return take name analyzer state
    | _ => throw (.notInstance name)
  else return state

/-- Considers a candidate, which is loaded in any case. -/
def consider (state : State) (offer : Offer) : Except Fault State :=
  match offer.loaded with
  | .error raised =>
    if raised.kind = .exit then throw (.raised raised)
    else throw (.notLoaded offer.name raised.text)
  | .ok object => add state offer.name object.make

def Offer.builtIn (analyzer : Analyzer) : Offer := ⟨analyzer.name, .ok (.analyzer analyzer)⟩

def candidates (settings : Settings) (offers : List Offer) : List Offer :=
  (Analyzer.builtIn settings).map .builtIn ++ offers

/-- The analyzers to run, all of them when no names are given. Names that no candidate has are told in
ascending order. -/
def discover (enabled : Option (List String)) (settings : Settings) (offers : List Offer) :
    Except Fault (List Analyzer) := do
  let state ← (candidates settings offers).foldlM consider (.initial enabled)
  match state.unmet.getD [] with
  | [] => return state.taken
  | names => throw (.unknown names)

end Linkage.Discovery
