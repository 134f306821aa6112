/-!
Log records, and computations that leave records behind. A computation that fails keeps the records
it made before.
-/

namespace Linkage.Log

/-- Levels are integers; only five of them have names. -/
abbrev Level := Int

namespace Level

def debug : Level := 10

def info : Level := 20

def warning : Level := 30

def error : Level := 40

def critical : Level := 50

def name (level : Level) : String :=
  if level = debug then "DEBUG"
  else if level = info then "INFO"
  else if level = warning then "WARNING"
  else if level = error then "ERROR"
  else if level = critical then "CRITICAL"
  else "Level " ++ toString level

end Level

def rootName : String := "usagegraph"

/-- The full name of a logger; no name, or an empty one, is the root. -/
def loggerName : Option String → String
  | none => rootName
  | some name => if name = "" then rootName else rootName ++ "." ++ name

structure Record where
  logger : String
  level : Level
  message : String
  deriving DecidableEq, Repr

end Linkage.Log

namespace Linkage

/-- A value with the log records made on the way to it. -/
structure Logged (α : Type) where
  records : List Log.Record
  value : α

namespace Logged

instance : Monad Logged where
  pure value := ⟨[], value⟩
  bind first next :=
    let second := next first.value
    ⟨first.records ++ second.records, second.value⟩

def note (record : Log.Record) : Logged Unit := ⟨[record], ()⟩

def notes (records : List Log.Record) : Logged Unit := ⟨records, ()⟩

@[simp] theorem value_pure {α : Type} (value : α) : (pure value : Logged α).value = value := rfl

@[simp] theorem records_pure {α : Type} (value : α) : (pure value : Logged α).records = [] := rfl

@[simp] theorem value_bind {α β : Type} (first : Logged α) (next : α → Logged β) :
    (first >>= next).value = (next first.value).value := rfl

@[simp] theorem records_bind {α β : Type} (first : Logged α) (next : α → Logged β) :
    (first >>= next).records = first.records ++ (next first.value).records := rfl

end Logged

abbrev Run (ε α : Type) := ExceptT ε Logged α

end Linkage
