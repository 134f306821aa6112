import Linkage.Command.Words
import Linkage.Log.Logger
import Linkage.Query
/-!
What a command line asks for.
-/

namespace Linkage.Command

inductive Job where
  /-- A question about a repo map, whose answer goes to a file if one is given. The repo map and the
  settings are named by one word; instead of one there can be none. -/
  | query (query : Query) (map : List String) (settings : Option (List String))
      (output : Option String)
  | serve (host : List String) (port : List Int)
  deriving DecidableEq, Repr

structure Invocation where
  verbosity : Log.Verbosity
  logFile : Option String
  verb : Verb
  job : Job
  deriving DecidableEq, Repr

/-- Why there is nothing to do: help is wanted, or the line is misused, at its top or behind a
command. -/
inductive Refusal where
  | help
  | misuse (verb : Option Verb) (fault : Misuse)
  deriving DecidableEq, Repr

def Stop.refusal (verb : Option Verb) : Stop → Refusal
  | .help => .help
  | .misuse fault => .misuse verb fault

/-- The text of an operand: one `--` is dropped. An operand of which nothing is left reads as an
empty list. -/
def operandText (words : List String) : String := (words.erase "--").headD "[]"

def filled (words : Option (List String)) : Option String :=
  (words.bind List.head?).filter (· != "")

def Job.ofParsed (verb : Verb) (parsed : Parsed) : Job :=
  let operand (place : Nat) : String := operandText (parsed.operands.getD place [])
  let ask (query : Query) : Job :=
    .query query ((parsed.words? .repoMap).getD ["."]) (parsed.words? .settings)
      (filled (parsed.words? .output))
  match verb with
  | .report => ask .report
  | .unused => ask (.about .unused)
  | .orphans => ask (.about .orphans)
  | .cycles => ask (.about .cycles)
  | .graph => ask (.about .graph)
  | .usages => ask (.about (.usages (operand 0) (operand 1)))
  | .dependents => ask (.about (.dependents (operand 0)))
  | .serve =>
    .serve ((parsed.words? .host).getD ["127.0.0.1"])
      (((parsed.words? .port).map (List.filterMap Text.integer?)).getD [8000])

namespace Invocation

def verbOf (top : Parsed) : Except Refusal (Verb × List String) :=
  match top.operands with
  | (word :: rest) :: _ =>
    match Verb.ofName? word with
    | some verb => .ok (verb, rest)
    | none => .error (.misuse none (.unknownVerb word))
  | _ => .error (.misuse none (.missingOperands ["command"]))

def ofWords (words : List String) : Except Refusal Invocation := do
  let top ← (Parsed.ofWords .top words).mapError (Stop.refusal none)
  let (verb, rest) ← verbOf top
  let parsed ← (Parsed.ofWords (.ofVerb verb) rest).mapError (Stop.refusal (some verb))
  match top.extra ++ parsed.extra with
  | [] => pure ()
  | extra => throw (.misuse none (.unrecognized extra))
  let verbosity : Log.Verbosity :=
    { verbose := top.has .verbose || parsed.has .verbose
      quiet := top.has .quiet || parsed.has .quiet }
  if verbosity.verbose && verbosity.quiet then throw (.misuse none .verboseAndQuiet)
  return {
    verbosity
    logFile := filled (top.words? .logFile)
    verb
    job := .ofParsed verb parsed }

end Invocation

end Linkage.Command
