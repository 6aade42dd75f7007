import WorkerSim.Binary64

/-!
# Numbers in single precision

A positive number in single precision is an integer of 24 binary digits times a power of two. Whole
numbers, quotients and products are rounded to the nearest of them, an exact half to the even one. The
numbers here are far from where exponents end, so an exponent may be any integer.
-/

set_option autoImplicit false

namespace WorkerSim

/-- The number `mantissa * 2 ^ exponent`. -/
structure Binary32 where
  mantissa : Nat
  exponent : Int
  deriving DecidableEq, Repr

namespace Binary32

/-- A mantissa is at most 2^24. -/
def mantissaBound : Nat := Nat.pow 2 24

/-- The exponent that gives a ratio 24 binary digits. -/
def exponentOf (n d : Nat) : Int :=
  let e : Int := (n.log2 : Int) - d.log2 - 24
  let (a, b) := Binary64.scale 2 n d (-e)
  if a / b < mantissaBound then e else e + 1

/-- The nearest number to a ratio. -/
def ofRatio (n d : Nat) : Binary32 := ⟨Binary64.roundAt n d (exponentOf n d), exponentOf n d⟩

/-- The number as a numerator and a denominator. -/
def ratio (x : Binary32) : Nat × Nat := Binary64.scale 2 x.mantissa 1 x.exponent

def ofNat (n : Nat) : Binary32 := ofRatio n 1

def mul (x y : Binary32) : Binary32 := ofRatio (x.ratio.1 * y.ratio.1) (x.ratio.2 * y.ratio.2)

def div (x y : Binary32) : Binary32 := ofRatio (x.ratio.1 * y.ratio.2) (x.ratio.2 * y.ratio.1)

/-- The number to one decimal place, in tenths. -/
def tenths (x : Binary32) : Nat := Binary64.roundHalfEven (x.ratio.1 * 10) x.ratio.2

end Binary32

end WorkerSim
