/-!
Decimal text of a double: the fewest digits that read back as the same number, nearest first. From
`10^-4` up to `10^16` it is written positionally, otherwise with an exponent of at least two digits.
-/

namespace Linkage.Decimal

/-- What a double stands for: `mantissa * 2 ^ exponent`, or one of the special values. -/
inductive Double where
  | finite (negative : Bool) (mantissa : Nat) (exponent : Int)
  | infinite (negative : Bool)
  | notANumber

def Double.ofFloat (x : Float) : Double :=
  let bits := x.toBits.toNat
  let negative := bits / Nat.pow 2 63 = 1
  let scale : Nat := bits / Nat.pow 2 52 % 2048
  let fraction := bits % Nat.pow 2 52
  if scale = 2047 then
    if fraction = 0 then .infinite negative else .notANumber
  else if scale = 0 then .finite negative fraction (-1074)
  else .finite negative (fraction + Nat.pow 2 52) ((scale : Int) - 1075)

/-- `d * 10 ^ k` and `a * 2 ^ p` brought to whole numbers by a common factor. -/
def onCommonScale (d : Nat) (k : Int) (a : Nat) (p : Int) : Nat × Nat :=
  (d * Nat.pow 10 k.toNat * Nat.pow 2 (-p).toNat, a * Nat.pow 2 p.toNat * Nat.pow 10 (-k).toNat)

/-- The exponent `e` with `10 ^ e ≤ m * 2 ^ q < 10 ^ (e + 1)`, for a double's `m > 0` and `q`. -/
def leadingExponent (m : Nat) (q : Int) : Int :=
  let scaled := m * Nat.pow 10 400 * Nat.pow 2 q.toNat / Nat.pow 2 (-q).toNat
  ((Nat.toDigits 10 scaled).length : Int) - 401

def distance (a b : Nat) : Nat := (a - b) + (b - a)

/-- The decimal with `count` digits nearest to `m * 2 ^ q` among those that read back as it. -/
def withDigits? (m : Nat) (q : Int) (lead : Int) (count : Nat) : Option (Nat × Int) :=
  let k := lead - (count : Int) + 1
  let p := q - 2
  let below := if m = Nat.pow 2 52 && q > -1074 then 4 * m - 1 else 4 * m - 2
  let fits (d : Nat) : Bool :=
    let (value, low) := onCommonScale d k below p
    let (_, high) := onCommonScale d k (4 * m + 2) p
    if m % 2 = 0 then low ≤ value && value ≤ high else low < value && value < high
  let (unit, exact) := onCommonScale 1 k (4 * m) p
  let floor := exact / unit
  let gap (d : Nat) : Nat := distance (d * unit) exact
  match fits floor, fits (floor + 1) with
  | true, true =>
    if gap floor < gap (floor + 1) then some (floor, k)
    else if gap (floor + 1) < gap floor then some (floor + 1, k)
    else some (if floor % 2 = 0 then floor else floor + 1, k)
  | true, false => some (floor, k)
  | false, true => some (floor + 1, k)
  | false, false => none

/-- The shortest digits and the exponent of the last one. Seventeen digits always suffice. -/
def shortest (m : Nat) (q : Int) : Nat × Int :=
  let lead := leadingExponent m q
  ((List.range 17).findSome? (fun n => withDigits? m q lead (n + 1))).getD (m, q)

def trimZeros (digits : List Char) : List Char := (digits.reverse.dropWhile (· == '0')).reverse

/-- Writes the digits so that the decimal point stands after the first `point` of them. -/
def layout (digits : List Char) (point : Int) : List Char :=
  if -4 < point && point ≤ 16 then
    if point ≤ 0 then ['0', '.'] ++ List.replicate (-point).toNat '0' ++ digits
    else
      let whole := digits.take point.toNat ++ List.replicate (point.toNat - digits.length) '0'
      let rest := digits.drop point.toNat
      whole ++ ['.'] ++ (if rest.isEmpty then ['0'] else rest)
  else
    let power := point - 1
    let size := Nat.toDigits 10 power.natAbs
    digits.take 1 ++ (if digits.length > 1 then '.' :: digits.drop 1 else [])
      ++ ['e', if power < 0 then '-' else '+']
      ++ List.replicate (2 - size.length) '0' ++ size

def Double.text : Double → String
  | .notANumber => "nan"
  | .infinite negative => if negative then "-inf" else "inf"
  | .finite negative m q =>
    let sign := if negative then ['-'] else []
    if m = 0 then String.ofList (sign ++ ['0', '.', '0'])
    else
      let (value, last) := shortest m q
      let numeral := Nat.toDigits 10 value
      String.ofList (sign ++ layout (trimZeros numeral) (numeral.length + last))

def text (x : Float) : String := (Double.ofFloat x).text

/-! ### Nearest doubles -/

/-- The quotient of two naturals rounded to the nearest one; a half goes to the even neighbour. -/
def roundDiv (numerator denominator : Nat) : Nat :=
  let floor := numerator / denominator
  let twice := 2 * (numerator % denominator)
  if denominator < twice || (twice = denominator && floor % 2 = 1) then floor + 1 else floor

/-- The double `mantissa * 2 ^ exponent`, for a mantissa of at most 53 bits, or `2 ^ 53`. It has all
53 bits unless the exponent is the least one, -1074. -/
def compose (mantissa : Nat) (exponent : Int) : Float :=
  let (mantissa, exponent) :=
    if mantissa = Nat.pow 2 53 then (Nat.pow 2 52, exponent + 1) else (mantissa, exponent)
  if mantissa < Nat.pow 2 52 then Float.ofBits (UInt64.ofNat mantissa)
  else
    let scale := (exponent + 1075).toNat
    if 2047 ≤ scale then Float.ofBits (UInt64.ofNat (2047 * Nat.pow 2 52))
    else Float.ofBits (UInt64.ofNat (scale * Nat.pow 2 52 + (mantissa - Nat.pow 2 52)))

def nearestQuotient (numerator denominator : Nat) : Float :=
  let guess : Int := (numerator.log2 : Int) - denominator.log2 - 52
  let scaled (exponent : Int) : Nat × Nat :=
    (numerator * Nat.pow 2 (-exponent).toNat, denominator * Nat.pow 2 exponent.toNat)
  let isSmall (exponent : Int) : Bool :=
    let (above, below) := scaled exponent
    above < below * Nat.pow 2 52
  let exponent := max (-1074) (if isSmall guess then guess - 1 else guess)
  let (above, below) := scaled exponent
  compose (roundDiv above below) exponent

def nearest (mantissa : Nat) (exponent : Int) : Float :=
  let size := ((Nat.toDigits 10 mantissa).length : Int) + exponent
  if mantissa = 0 || size < -330 then 0.0
  else if size > 310 then 1.0 / 0.0
  else nearestQuotient (mantissa * Nat.pow 10 exponent.toNat) (Nat.pow 10 (-exponent).toNat)

end Linkage.Decimal
