import Linkage.FileTree
import Linkage.Log.Record
/-!
Where log records go: to the console, to a file, or nowhere as long as nothing is configured.
-/

namespace Linkage.Log

inductive Sink where
  | console
  | file (place : Place)
  deriving DecidableEq, Repr

structure Handler where
  sink : Sink
  level : Level
  deriving DecidableEq, Repr

/-- The least level that is looked at, whether outer loggers get the records too, and the handlers in
use. A level of zero is not set. -/
structure Logger where
  level : Level := 0
  propagates : Bool := true
  handlers : List Handler := []
  /-- The handlers of earlier set-ups, which are closed and write no more. -/
  closed : List Handler := []
  deriving DecidableEq, Repr

structure Verbosity where
  verbose : Bool := false
  quiet : Bool := false
  deriving DecidableEq, Repr

/-- The level that the flags ask for; both together ask for nothing. -/
def Verbosity.level? (verbosity : Verbosity) : Option Level :=
  match verbosity.verbose, verbosity.quiet with
  | true, true => none
  | true, false => some Level.debug
  | false, true => some Level.warning
  | false, false => some Level.info

def Record.consoleLine (record : Record) : String :=
  "[" ++ record.logger ++ "] " ++ Level.name record.level ++ " " ++ record.message ++ "\n"

def Record.fileLine (stamp : String) (record : Record) : String :=
  stamp ++ " " ++ Level.name record.level ++ " " ++ record.logger ++ ": " ++ record.message ++ "\n"

namespace Logger

def toConsole (level : Level) (logger : Logger) : Logger :=
  { level
    propagates := false
    handlers := [⟨.console, level⟩]
    closed := logger.closed ++ logger.handlers }

def andFile (place : Place) (logger : Logger) : Logger :=
  { logger with
    level := Level.debug
    handlers := logger.handlers ++ [⟨.file place, Level.debug⟩] }

def sinks (logger : Logger) (record : Record) : List Sink :=
  if record.level > 0 && logger.level ≤ record.level then
    (logger.handlers.filter (fun handler => handler.level ≤ record.level)).map Handler.sink
  else []

end Logger

end Linkage.Log
