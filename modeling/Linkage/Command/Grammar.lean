/-!
The words of the command line: commands, what they expect, and switches with their names.
-/

namespace Linkage.Command

inductive Switch where
  | help | verbose | quiet | logFile | repoMap | settings | output | host | port
  deriving DecidableEq, Repr

namespace Switch

def names : Switch → List String
  | help => ["-h", "--help"]
  | verbose => ["-v", "--verbose"]
  | quiet => ["-q", "--quiet"]
  | logFile => ["--log-file"]
  | repoMap => ["--repo-map"]
  | settings => ["--config"]
  | output => ["--output"]
  | host => ["--host"]
  | port => ["--port"]

def label (switch : Switch) : String := String.intercalate "/" switch.names

def takesValue : Switch → Bool
  | help | verbose | quiet => false
  | _ => true

end Switch

inductive Verb where
  | report | unused | orphans | cycles | graph | usages | dependents | serve
  deriving DecidableEq, Repr

namespace Verb

def all : List Verb := [report, unused, orphans, cycles, graph, usages, dependents, serve]

def name : Verb → String
  | report => "report"
  | unused => "unused"
  | orphans => "orphans"
  | cycles => "cycles"
  | graph => "graph"
  | usages => "usages"
  | dependents => "dependents"
  | serve => "serve"

def ofName? (name : String) : Option Verb := all.find? (fun verb => verb.name = name)

end Verb

/-- A word that is expected by its place. -/
structure Operand where
  name : String
  /-- Whether it takes all words that follow as well. -/
  takesRest : Bool := false
  deriving DecidableEq, Repr

/-- What may be written at one level of the command line. -/
structure Grammar where
  switches : List Switch
  operands : List Operand := []
  deriving DecidableEq, Repr

namespace Grammar

def top : Grammar :=
  { switches := [.help, .verbose, .quiet, .logFile]
    operands := [⟨"command", true⟩] }

/-- The switches of every command that reads a repo map. -/
def common : List Switch := [.help, .verbose, .quiet, .repoMap, .settings]

def ofVerb : Verb → Grammar
  | .report => { switches := common ++ [.output] }
  | .usages => { switches := common, operands := [⟨"file", false⟩, ⟨"symbol", false⟩] }
  | .dependents => { switches := common, operands := [⟨"file", false⟩] }
  | .serve => { switches := [.help, .verbose, .quiet, .host, .port] }
  | .unused | .orphans | .cycles | .graph => { switches := common }

def names (grammar : Grammar) : List (String × Switch) :=
  grammar.switches.flatMap (fun switch => switch.names.map (·, switch))

def switch? (grammar : Grammar) (name : String) : Option Switch :=
  (grammar.names.find? (fun entry => entry.1 = name)).map Prod.snd

end Grammar

end Linkage.Command
