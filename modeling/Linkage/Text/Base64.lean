/-!
Bytes written in base 64. Characters outside the alphabet are passed over; the padding must complete
a group of four.
-/

namespace Linkage.Text.Base64

def value? (c : Char) : Option Nat :=
  if 'A' ≤ c && c ≤ 'Z' then some (c.toNat - 65)
  else if 'a' ≤ c && c ≤ 'z' then some (c.toNat - 71)
  else if '0' ≤ c && c ≤ '9' then some (c.toNat + 4)
  else if c = '+' then some 62
  else if c = '/' then some 63
  else none

/-- Decodes on. `place` counts the characters of the current group, `left` holds the bits of the last
one that are not written yet, and `pads` counts padding characters in a row. -/
def decodeFrom (place left pads : Nat) : List Char → Option (List Nat)
  | [] => if place = 0 then some [] else none
  | '=' :: rest =>
    if 2 ≤ place && 4 ≤ place + pads + 1 then some []
    else decodeFrom place left (if 2 ≤ place then pads + 1 else pads) rest
  | c :: rest =>
    match value? c with
    | none => decodeFrom place left pads rest
    | some value =>
      if place = 0 then decodeFrom 1 value 0 rest
      else if place = 1 then
        (decodeFrom 2 (value % 16) 0 rest).map ((left * 4 + value / 16) :: ·)
      else if place = 2 then
        (decodeFrom 3 (value % 4) 0 rest).map ((left * 16 + value / 4) :: ·)
      else (decodeFrom 0 0 0 rest).map ((left * 64 + value) :: ·)

def decode? (text : String) : Option (List Nat) :=
  if text.toList.all (fun c => c.toNat < 128) then decodeFrom 0 0 0 text.toList else none

end Linkage.Text.Base64
