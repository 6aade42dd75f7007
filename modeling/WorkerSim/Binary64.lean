/-!
# Double-precision numbers in decimal

A positive finite number in double precision is an integer below 2^53 times a power of two. A
decimal number is rounded to the nearest of them, an exact half to the even one. The other way
round, a number is written with the fewest digits that are rounded back to it and, among those, as
the decimal nearest to it.
-/

set_option autoImplicit false

namespace WorkerSim

/-- The number `mantissa * 2 ^ exponent`. -/
structure Binary64 where
  mantissa : Nat
  exponent : Int
  deriving DecidableEq, Repr

namespace Binary64

/-- A mantissa stays below 2^53. -/
def mantissaBound : Nat := Nat.pow 2 53

/-- From this mantissa on, a number has all of its 53 binary digits. -/
def fullMantissa : Nat := Nat.pow 2 52

def leastExponent : Int := -1074

def greatestExponent : Int := 971

/-- The ratio `n / d` times `base ^ e`, as a numerator and a denominator. -/
def scale (base n d : Nat) (e : Int) : Nat × Nat :=
  if 0 ≤ e then (n * Nat.pow base e.toNat, d) else (n, d * Nat.pow base (-e).toNat)

/-- A ratio rounded to a whole number, a half to the even one. -/
def roundHalfEven (n d : Nat) : Nat :=
  let q := n / d
  let r := n % d
  if 2 * r < d then q
  else if d < 2 * r then q + 1
  else q + q % 2

/-- A ratio divided by a power of two and rounded. -/
def roundAt (n d : Nat) (e : Int) : Nat :=
  let (n, d) := scale 2 n d (-e)
  roundHalfEven n d

/-- The exponent that gives a ratio 53 binary digits, or the least one there is. -/
def exponentOf (n d : Nat) : Int :=
  let e : Int := (n.log2 : Int) - d.log2 - 53
  let (a, b) := scale 2 n d (-e)
  max leastExponent (if a / b < mantissaBound then e else e + 1)

/-- The nearest number to a ratio, unless that is too large. -/
def ofRatio? (n d : Nat) : Option Binary64 :=
  let e := exponentOf n d
  let m := roundAt n d e
  let x : Binary64 := if m < mantissaBound then ⟨m, e⟩ else ⟨fullMantissa, e + 1⟩
  if x.exponent ≤ greatestExponent then some x else none

/-- The nearest number to `mantissa * 10 ^ exponent`, unless that is too large. Decimals far out of
range, by the number of their binary digits, are not multiplied out. -/
def ofDecimal? (mantissa : Nat) (exponent : Int) : Option Binary64 :=
  let digits := mantissa.log2
  if mantissa = 0 ∨ exponent + (digits * 30104 / 100000 : Nat) < -330 then some ⟨0, leastExponent⟩
  else if 310 < exponent + (digits * 30102 / 100000 : Nat) then none
  else
    let (n, d) := scale 10 mantissa 1 exponent
    ofRatio? n d

/-- A decimal `digits * 10 ^ exponent`. -/
structure Decimal where
  digits : Nat
  exponent : Int
  deriving DecidableEq, Repr

/-- The number of decimal digits before the point; for a ratio below one, less the zeros behind it. -/
def decimalSize (n d : Nat) : Int :=
  let guess : Int := ((Nat.toDigits 10 n).length : Int) - (Nat.toDigits 10 d).length
  let (a, b) := scale 10 n d (-guess)
  if a < b then guess else guess + 1

/-- The ratios that are rounded to a number lie between the middles to its neighbours. They are given
as numerators over a common denominator: the lower middle, the number, the upper middle. -/
def neighbourhood (x : Binary64) : Nat × Nat × Nat × Nat :=
  let below := if x.mantissa = fullMantissa ∧ leastExponent < x.exponent then 1 else 2
  let (unit, d) := scale 2 1 1 (x.exponent - 2)
  ((4 * x.mantissa - below) * unit, 4 * x.mantissa * unit, (4 * x.mantissa + 2) * unit, d)

/-- Whether a decimal is rounded to a number. -/
def isNear (x : Binary64) (c : Decimal) : Bool :=
  let (low, _, high, d) := x.neighbourhood
  let (a, b) := scale 10 c.digits 1 c.exponent
  if x.mantissa % 2 = 0 then low * b ≤ a * d && a * d ≤ high * b
  else low * b < a * d && a * d < high * b

/-- The nearest decimal with a digit at the given place and none behind it, if it is rounded to the
number; of two equally near ones, the greater. -/
def nearestAt (x : Binary64) (place : Int) : Option Decimal :=
  let (_, n, _, d) := x.neighbourhood
  let (a, b) := scale 10 n d (-place)
  let q := a / b
  let first := if 2 * (a % b) < b then q else q + 1
  let second := if 2 * (a % b) < b then q + 1 else q
  if x.isNear ⟨first, place⟩ then some ⟨first, place⟩
  else if x.isNear ⟨second, place⟩ then some ⟨second, place⟩
  else none

/-- Tries the power of ten above the number, then one digit, two digits and so on; seventeen always
suffice. -/
def shortestFrom (x : Binary64) (size : Int) : Nat → Nat → Decimal
  | 0, _ => ⟨0, 0⟩
  | tries + 1, count =>
    (x.nearestAt (size - count)).getD (shortestFrom x size tries (count + 1))

def shortest (x : Binary64) : Decimal :=
  let (_, n, _, d) := x.neighbourhood
  x.shortestFrom (decimalSize n d) 18 0

/-- A decimal without exponent, with at least one digit on both sides of the point. -/
def Decimal.plain (c : Decimal) : List Char :=
  let ds := Nat.toDigits 10 c.digits
  if 0 ≤ c.exponent then ds ++ List.replicate c.exponent.toNat '0' ++ ['.', '0']
  else
    let places := (-c.exponent).toNat
    let padded := List.replicate (places + 1 - ds.length) '0' ++ ds
    padded.take (padded.length - places) ++ '.' :: padded.drop (padded.length - places)

def chars (x : Binary64) : List Char :=
  if x.mantissa = 0 then "0.0".toList else x.shortest.plain

end Binary64

end WorkerSim
