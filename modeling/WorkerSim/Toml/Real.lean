import WorkerSim.Toml.Integer

/-!
# Floating-point literals

A decimal number with a fraction, an exponent or both, or one of the names for infinity and for no
number. The number is kept as an integer times a power of ten; an exponent so large that it could
only matter behind tens of thousands of digits is cut short.
-/

set_option autoImplicit false

namespace WorkerSim.Toml

inductive Real
  | nan
  | infinite (negative : Bool)
  | decimal (negative : Bool) (mantissa : Nat) (exponent : Int)
  deriving DecidableEq, Repr

namespace Real

def isDigitOrUnderscore (c : Char) : Bool := c.isDigit || c == '_'

/-- A row of digits and underscores, the underscores left out, and what follows the row. -/
def row (cs : List Char) : List Char × List Char :=
  ((cs.takeWhile isDigitOrUnderscore).filter Char.isDigit, cs.dropWhile isDigitOrUnderscore)

/-- The digits after a point, and the rest; without a point there are none. -/
def fraction? : List Char → Option (List Char × List Char)
  | '.' :: rest => if (row rest).1.isEmpty then none else some (row rest)
  | cs => some ([], cs)

/-- From this exponent on, further digits of an exponent are not read. -/
def exponentLimit : Nat := 65536

/-- The exponent that a row of digits gives. -/
def exponentOf (ds : List Nat) : Nat :=
  ds.foldl (fun n d => if n < exponentLimit then n * 10 + d else n) 0

/-- The power of ten after an exponent mark, up to the end of the literal. -/
def exponent? : List Char → Option Int
  | [] => some 0
  | c :: rest =>
    if c = 'e' ∨ c = 'E' then
      let (negative, rest) := Integer.sign rest
      let (ds, rest) := row rest
      if ds.isEmpty || !rest.isEmpty then none
      else some (Integer.signed negative (exponentOf (Numeral.digitValues ds)))
    else none

/-- A literal after its sign. -/
def decimal? (negative : Bool) (cs : List Char) : Option Real :=
  if Integer.underscoresFit Char.isDigit false cs then do
    let (whole, rest) := row cs
    if whole.isEmpty || (whole.length ≠ 1 && whole.head? == some '0') then none
    let (part, rest) ← fraction? rest
    let exponent ← exponent? rest
    let mantissa := Numeral.denoted 10 (Numeral.digitValues (whole ++ part))
    some (.decimal negative mantissa (exponent - part.length))
  else none

end Real

end WorkerSim.Toml
