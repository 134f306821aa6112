import Linkage.Text.Blank
import Linkage.Text.PrintTable
/-!
The quoted form of a text in messages: single quotes, or double ones when that avoids an escape.
Backslashes, the quote itself and characters without a visible form are escaped.
-/

namespace Linkage.Text

/-- The value's hexadecimal digits, filled with zeros to the given width. -/
def hex (width value : Nat) : List Char :=
  let digits := Nat.toDigits 16 value
  List.replicate (width - digits.length) '0' ++ digits

def isPrintable (c : Char) : Bool := !inRanges PrintTable.hidden c.toNat

def singleQuote : Char := Char.ofNat 39

def doubleQuote : Char := Char.ofNat 34

def enclosing (chars : List Char) : Char :=
  if chars.contains singleQuote && !chars.contains doubleQuote then doubleQuote else singleQuote

def escaped (quote c : Char) : List Char :=
  if c = quote || c = '\\' then ['\\', c]
  else if c = '\t' then ['\\', 't']
  else if c = '\n' then ['\\', 'n']
  else if c = '\r' then ['\\', 'r']
  else if isPrintable c then [c]
  else if c.toNat < 0x100 then '\\' :: 'x' :: hex 2 c.toNat
  else if c.toNat < 0x10000 then '\\' :: 'u' :: hex 4 c.toNat
  else '\\' :: 'U' :: hex 8 c.toNat

def quoted (text : String) : String :=
  let quote := enclosing text.toList
  String.ofList (quote :: text.toList.flatMap (escaped quote) ++ [quote])

end Linkage.Text
