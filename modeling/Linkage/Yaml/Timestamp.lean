import Linkage.Yaml.Fault
import Linkage.Yaml.Form
/-!
Dates, and dates with a time of day and a distance from universal time. A text of the right form may
still name a day or time that does not exist.
-/

namespace Linkage.Yaml

structure Date where
  year : Nat
  month : Nat
  day : Nat
  deriving DecidableEq, Repr

structure Zone where
  behind : Bool
  hours : Nat
  minutes : Nat
  deriving DecidableEq, Repr

structure Clock where
  hour : Nat
  minute : Nat
  second : Nat
  zone : Option Zone
  deriving DecidableEq, Repr

structure Timestamp where
  date : Date
  clock : Option Clock
  deriving DecidableEq, Repr

namespace Timestamp

/-! ### Reading -/

def digits? (least most : Nat) (chars : List Char) : Option (Nat × List Char) :=
  let taken := (chars.take most).takeWhile Json.isDigit
  if taken.length < least then none
  else some (Json.naturalOfDigits taken, chars.drop taken.length)

def expect? (mark : Char) : List Char → Option (List Char)
  | c :: rest => if c = mark then some rest else none
  | [] => none

def isGap (c : Char) : Bool := c = ' ' || c = '\t'

/-- A date, whose month and day have at least `least` digits. -/
def date? (least : Nat) (chars : List Char) : Option (Date × List Char) := do
  let (year, rest) ← digits? 4 4 chars
  let (month, rest) ← digits? least 2 (← expect? '-' rest)
  let (day, rest) ← digits? least 2 (← expect? '-' rest)
  return (⟨year, month, day⟩, rest)

def separator? (chars : List Char) : Option (List Char) :=
  match chars with
  | c :: rest =>
    if c = 'T' || c = 't' then some rest
    else if isGap c then some (rest.dropWhile isGap)
    else none
  | [] => none

def skipFraction : List Char → List Char
  | '.' :: rest => rest.dropWhile Json.isDigit
  | chars => chars

def zoneBy? (behind : Bool) (chars : List Char) : Option (Zone × List Char) := do
  let (hours, rest) ← digits? 1 2 chars
  match rest with
  | ':' :: more =>
    let (minutes, rest) ← digits? 2 2 more
    return (⟨behind, hours, minutes⟩, rest)
  | _ => return (⟨behind, hours, 0⟩, rest)

/-- Reads a zone up to the end of the text. White space may stand before it. -/
def zone? (chars : List Char) : Option (Option Zone) :=
  if Form.atEnd chars then some none
  else
    match chars.dropWhile isGap with
    | 'Z' :: rest => if Form.atEnd rest then some none else none
    | sign :: rest =>
      if sign = '+' || sign = '-' then
        match zoneBy? (sign = '-') rest with
        | some (zone, rest) => if Form.atEnd rest then some (some zone) else none
        | none => none
      else none
    | [] => none

def clock? (chars : List Char) : Option Clock := do
  let (hour, rest) ← digits? 1 2 (← separator? chars)
  let (minute, rest) ← digits? 2 2 (← expect? ':' rest)
  let (second, rest) ← digits? 2 2 (← expect? ':' rest)
  let zone ← zone? (skipFraction rest)
  return ⟨hour, minute, second, zone⟩

def parse? (chars : List Char) : Option Timestamp := do
  let (date, rest) ← date? 1 chars
  if Form.atEnd rest then return ⟨date, none⟩
  else return ⟨date, some (← clock? rest)⟩

/-- Whether a plain scalar is taken for a timestamp. A date alone needs two digits for the month and
the day. -/
def isPlain (chars : List Char) : Bool :=
  match date? 2 chars with
  | some (_, rest) => Form.atEnd rest || ((parse? chars).map (·.clock.isSome)).getD false
  | none => ((parse? chars).map (·.clock.isSome)).getD false

/-! ### The calendar -/

def isLeap (year : Nat) : Bool := year % 4 = 0 && (year % 100 != 0 || year % 400 = 0)

def daysIn (year month : Nat) : Nat :=
  if month = 2 then if isLeap year then 29 else 28
  else if month = 4 || month = 6 || month = 9 || month = 11 then 30
  else 31

def checkDate (date : Date) : Except CalendarFault Unit :=
  if date.year < 1 || 9999 < date.year then .error (.year date.year)
  else if date.month < 1 || 12 < date.month then .error .month
  else if date.day < 1 || daysIn date.year date.month < date.day then .error .day
  else .ok ()

def daySeconds : Int := 86400

/-- A zone must be less than a day away. -/
def checkZone (zone : Zone) : Except CalendarFault Unit :=
  let distance : Int := zone.hours * 3600 + zone.minutes * 60
  let shift := if zone.behind then -distance else distance
  if distance < daySeconds then .ok ()
  else .error (.offset (shift.fdiv daySeconds) (shift.fmod daySeconds))

def checkClock (clock : Clock) : Except CalendarFault Unit :=
  if 23 < clock.hour then .error .hour
  else if 59 < clock.minute then .error .minute
  else if 59 < clock.second then .error .second
  else .ok ()

/-- Whether the timestamp exists; the zone is looked at first. -/
def check (stamp : Timestamp) : Except CalendarFault Unit := do
  match stamp.clock.bind Clock.zone with
  | some zone => checkZone zone
  | none => pure ()
  checkDate stamp.date
  match stamp.clock with
  | some clock => checkClock clock
  | none => pure ()

end Timestamp

end Linkage.Yaml
