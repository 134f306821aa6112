import Linkage.Text.Integer
import Linkage.Text.Quoted
/-!
What can be wrong with a settings text. All faults of form count as one; faults of a value that is
well formed but means nothing are told apart.
-/

namespace Linkage.Yaml

inductive CalendarFault where
  | year (found : Nat)
  | month
  | day
  | hour
  | minute
  | second
  /-- A distance from universal time of a day or more. -/
  | offset (days seconds : Int)
  deriving DecidableEq, Repr

def CalendarFault.message : CalendarFault → String
  | .year found => "year " ++ toString found ++ " is out of range"
  | .month => "month must be in 1..12"
  | .day => "day is out of range for month"
  | .hour => "hour must be in 0..23"
  | .minute => "minute must be in 0..59"
  | .second => "second must be in 0..59"
  | .offset days seconds =>
    "offset must be a timedelta strictly between -timedelta(hours=24) and timedelta(hours=24), not "
      ++ "datetime.timedelta(days=" ++ toString days
      ++ (if seconds = 0 then "" else ", seconds=" ++ toString seconds) ++ ")."

inductive Fault where
  | malformed
  /-- Collections are nested too deep, or without end. -/
  | nesting
  | characterCode
  /-- A character code that is not even a number of 32 bits. -/
  | characterSize
  | emptyNumber
  /-- An integer of too many digits. -/
  | digits (count : Nat)
  /-- An integer that cannot be written in full. -/
  | unwritable
  /-- A weight to the base sixty that is no finite double. -/
  | weight
  | integer (base : Nat) (text : String)
  | float (text : String)
  | boolean (text : String)
  | timestamp
  /-- A mapping stands where the text of a timestamp is looked for. -/
  | notText
  | calendar (fault : CalendarFault)
  deriving DecidableEq, Repr

def Fault.message : Fault → String
  | .malformed => "malformed"
  | .nesting => "maximum recursion depth exceeded"
  | .characterCode => "chr() arg not in range(0x110000)"
  | .characterSize => "Python int too large to convert to C int"
  | .emptyNumber => "string index out of range"
  | .digits count => Text.lengthMessage count
  | .unwritable => Text.sizeMessage
  | .weight => "int too large to convert to float"
  | .integer base text =>
    "invalid literal for int() with base " ++ toString base ++ ": "
      ++ String.ofList ((Text.quoted text).toList.take 200)
  | .float text => "could not convert string to float: " ++ Text.quoted text
  | .boolean text => Text.quoted text
  | .timestamp => "'NoneType' object has no attribute 'groupdict'"
  | .notText => "expected string or bytes-like object, got 'list'"
  | .calendar fault => fault.message

end Linkage.Yaml
