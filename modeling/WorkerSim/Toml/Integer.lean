import WorkerSim.Numeral
import WorkerSim.Toml.Literal

/-!
# Integer literals

Decimal integers have an optional sign and no leading zeros; hexadecimal, octal and binary ones
have neither sign nor restriction on zeros. Underscores separate digits. A literal of the right
shape may still denote no number, such as a bare radix mark.
-/

set_option autoImplicit false

namespace WorkerSim.Toml.Integer

/-- Whether each underscore has a digit on both sides; `after` tells if a digit comes before. -/
def underscoresFit (isDigit : Char → Bool) (after : Bool) : List Char → Bool
  | [] => true
  | '_' :: rest =>
    after && (match rest with | c :: _ => isDigit c | [] => false) && underscoresFit isDigit false rest
  | c :: rest => underscoresFit isDigit (isDigit c) rest

def isHexDigit (c : Char) : Bool := (Literal.hexDigit? c).isSome

def digitBelow? (radix : Nat) (c : Char) : Option Nat :=
  match Literal.hexDigit? c with
  | some d => if d < radix then some d else none
  | none => none

/-- The number that a row of digits denotes, underscores left out. -/
def magnitude? (radix : Nat) (cs : List Char) : Option Nat :=
  let ds := cs.filter (· != '_')
  if ds.isEmpty then none
  else (ds.mapM (digitBelow? radix)).map (Numeral.denoted radix)

/-- A sign in front of a number, true for a minus, and what follows it. -/
def sign : List Char → Bool × List Char
  | '+' :: rest => (false, rest)
  | '-' :: rest => (true, rest)
  | cs => (false, cs)

def signed (negative : Bool) (n : Nat) : Int := if negative then -(n : Int) else n

/-- A decimal literal after its sign. It consists of digits up to the first underscore, and only the
neighbours of underscores are looked at behind it. -/
def decimal? (negative : Bool) (cs : List Char) : Option (Option Int) :=
  match cs.dropWhile Char.isDigit with
  | [] => if cs.isEmpty || (cs.length ≠ 1 && cs.head? == some '0') then none else value
  | c :: _ =>
    if c = '_' ∧ cs.head? ≠ some '0' ∧ underscoresFit isHexDigit false cs then value else none
where
  value : Option (Option Int) := some ((magnitude? 10 cs).map (signed negative))

/-- The radix that the letter after a leading zero selects. -/
def radix? : Char → Option Nat
  | 'x' => some 16
  | 'o' => some 8
  | 'b' => some 2
  | _ => none

/-- The digits of a literal in the given radix, after its mark. -/
def inRadix? (radix : Nat) (cs : List Char) : Option (Option Int) :=
  if cs.all (fun c => c == '_' || (digitBelow? radix c).isSome) ∧ underscoresFit isHexDigit false cs then
    some ((magnitude? radix cs).map Int.ofNat)
  else none

end WorkerSim.Toml.Integer
