import Linkage.Text.Quoted
/-!
Decoding bytes as UTF-8. A fault names the bytes that cannot be read and why: an octet that starts no
character, a character broken off by a wrong octet, or by the end of the data.
-/

namespace Linkage.Text.Utf8

inductive Reason where
  | startByte | continuationByte | endOfData
  deriving DecidableEq, Repr

/-- What cannot be decoded: the first byte, its position, and how many bytes are affected. -/
structure Fault where
  byte : UInt8
  position : Nat
  length : Nat
  reason : Reason
  deriving DecidableEq, Repr

def Reason.message : Reason → String
  | .startByte => "invalid start byte"
  | .continuationByte => "invalid continuation byte"
  | .endOfData => "unexpected end of data"

def Fault.message (fault : Fault) : String :=
  let place :=
    if fault.length = 1 then
      "byte 0x" ++ String.ofList (hex 2 fault.byte.toNat) ++ " in position "
        ++ toString fault.position
    else
      "bytes in position " ++ toString fault.position ++ "-"
        ++ toString (fault.position + fault.length - 1)
  "'utf-8' codec can't decode " ++ place ++ ": " ++ fault.reason.message

def isTail (b : UInt8) : Bool := 0x80 ≤ b && b ≤ 0xBF

/-- Whether `b` may follow `a` in a character of three or four bytes. Some lead bytes narrow the
second one, so that no character has two encodings and none is a surrogate or out of range. -/
def secondFits (a b : UInt8) : Bool :=
  if a = 0xE0 then 0xA0 ≤ b && b ≤ 0xBF
  else if a = 0xED then 0x80 ≤ b && b ≤ 0x9F
  else if a = 0xF0 then 0x90 ≤ b && b ≤ 0xBF
  else if a = 0xF4 then 0x80 ≤ b && b ≤ 0x8F
  else isTail b

def payload (b : UInt8) : Nat := b.toNat % 64

def decodeFrom (position : Nat) : List UInt8 → Except Fault (List Char)
  | [] => .ok []
  | a :: rest =>
    let fail (length : Nat) (reason : Reason) : Except Fault (List Char) :=
      .error ⟨a, position, length, reason⟩
    if a < 0x80 then
      (decodeFrom (position + 1) rest).map (Char.ofNat a.toNat :: ·)
    else if a < 0xC2 || 0xF5 ≤ a then fail 1 .startByte
    else if a < 0xE0 then
      match rest with
      | [] => fail 1 .endOfData
      | b :: rest =>
        if !isTail b then fail 1 .continuationByte
        else
          (decodeFrom (position + 2) rest).map
            (Char.ofNat ((a.toNat % 32) * 64 + payload b) :: ·)
    else if a < 0xF0 then
      match rest with
      | [] => fail 1 .endOfData
      | [b] => if secondFits a b then fail 2 .endOfData else fail 1 .continuationByte
      | b :: c :: rest =>
        if !secondFits a b then fail 1 .continuationByte
        else if !isTail c then fail 2 .continuationByte
        else
          (decodeFrom (position + 3) rest).map
            (Char.ofNat ((a.toNat % 16) * 4096 + payload b * 64 + payload c) :: ·)
    else
      match rest with
      | [] => fail 1 .endOfData
      | [b] => if secondFits a b then fail 2 .endOfData else fail 1 .continuationByte
      | [b, c] =>
        if !secondFits a b then fail 1 .continuationByte
        else if isTail c then fail 3 .endOfData
        else fail 2 .continuationByte
      | b :: c :: d :: rest =>
        if !secondFits a b then fail 1 .continuationByte
        else if !isTail c then fail 2 .continuationByte
        else if !isTail d then fail 3 .continuationByte
        else
          (decodeFrom (position + 4) rest).map
            (Char.ofNat ((a.toNat % 8) * 262144 + payload b * 4096 + payload c * 64 + payload d) :: ·)

def decode (bytes : List UInt8) : Except Fault String :=
  (decodeFrom 0 bytes).map String.ofList

end Linkage.Text.Utf8
