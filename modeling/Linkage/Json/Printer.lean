import Linkage.Text.Quoted
import Linkage.Json.Basic
/-!
Writing JSON text: two blanks of indentation a level, fields in order, and only ASCII characters.
Characters beyond the basic plane are written as a surrogate pair.
-/

namespace Linkage.Json

def unitEscape (code : Nat) : List Char := '\\' :: 'u' :: Text.hex 4 code

def writeChar (c : Char) : List Char :=
  if c = '"' then ['\\', '"']
  else if c = '\\' then ['\\', '\\']
  else if c = '\n' then ['\\', 'n']
  else if c = '\r' then ['\\', 'r']
  else if c = '\t' then ['\\', 't']
  else if c.toNat = 8 then ['\\', 'b']
  else if c.toNat = 12 then ['\\', 'f']
  else if 0x20 ≤ c.toNat && c.toNat < 0x7F then [c]
  else if c.toNat < 0x10000 then unitEscape c.toNat
  else
    unitEscape (0xD800 + (c.toNat - 0x10000) / 1024)
      ++ unitEscape (0xDC00 + (c.toNat - 0x10000) % 1024)

def writeString (text : String) : List Char := '"' :: text.toList.flatMap writeChar ++ ['"']

/-- A line end and the indentation of a level. -/
def newLine (level : Nat) : List Char := '\n' :: List.replicate (2 * level) ' '

mutual

/-- The text of a document whose first line starts at the given level. -/
def write (level : Nat) : Json → List Char
  | .null => "null".toList
  | .bool value => if value then "true".toList else "false".toList
  | .int value => (toString value).toList
  | .real literal => literal.toList
  | .string value => writeString value
  | .array [] => "[]".toList
  | .array (item :: items) =>
    '[' :: newLine (level + 1) ++ write (level + 1) item ++ writeItems (level + 1) items
      ++ newLine level ++ [']']
  | .object [] => ['\x7b', '\x7d']
  | .object ((key, value) :: fields) =>
    '\x7b' :: newLine (level + 1) ++ writeString key ++ ": ".toList ++ write (level + 1) value
      ++ writeFields (level + 1) fields ++ newLine level ++ ['\x7d']

def writeItems (level : Nat) : List Json → List Char
  | [] => []
  | item :: items => ',' :: newLine level ++ write level item ++ writeItems level items

def writeFields (level : Nat) : List (String × Json) → List Char
  | [] => []
  | (key, value) :: fields =>
    ',' :: newLine level ++ writeString key ++ ": ".toList ++ write level value
      ++ writeFields level fields

end

def render (json : Json) : String := String.ofList (write 0 json)

end Linkage.Json
