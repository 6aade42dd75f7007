/-!
# Decimal numerals

Natural numbers are written in decimal without leading zeros, and a row of decimal digits reads
back as the number that it denotes. Reading what was written gives the number again.
-/

set_option autoImplicit false

namespace WorkerSim.Numeral

def digits (n : Nat) : List Char := Nat.toDigits 10 n

/-- The number that a non-empty row of digits denotes, leading zeros allowed. -/
def value? (cs : List Char) : Option Nat :=
  if cs ≠ [] ∧ cs.all Char.isDigit then some (Nat.ofDigitChars 10 cs 0) else none

theorem digits_ne_nil (n : Nat) : digits n ≠ [] := Nat.toDigits_ne_nil

theorem isDigit_of_mem_digits {n : Nat} {c : Char} (h : c ∈ digits n) : c.isDigit = true :=
  Nat.isDigit_of_mem_toDigits (by decide) (by decide) h

/-- A stretch of digits: the number that it denotes, and the power of the radix that it moves what
stands before it by. -/
abbrev Stretch := Nat × Nat

namespace Stretch

def append (p q : Stretch) : Stretch := (p.1 * q.2 + q.1, p.2 * q.2)

theorem append_assoc (p q r : Stretch) : (p.append q).append r = p.append (q.append r) := by
  simp [append, Nat.add_mul, Nat.mul_assoc, Nat.add_assoc]

/-- Short stretches, of a row of digits behind those of a stretch. -/
def ofDigits (radix : Nat) (p : Stretch) : List Nat → List Stretch
  | [] => [p]
  | d :: ds =>
    if p.2 < UInt32.size then ofDigits radix (p.1 * radix + d, p.2 * radix) ds
    else p :: ofDigits radix (d, radix) ds

/-- Every two neighbours put together. -/
def pairs : List Stretch → List Stretch
  | p :: q :: ps => p.append q :: pairs ps
  | ps => ps

/-- The number that stretches denote together. They are put together in so many rounds first, so that
numbers of one size meet. -/
def value : Nat → List Stretch → Nat
  | 0, ps => (ps.foldl append (0, 1)).1
  | rounds + 1, ps => value rounds (pairs ps)

theorem foldl_pairs (p : Stretch) (ps : List Stretch) :
    (pairs ps).foldl append p = ps.foldl append p := by
  fun_induction pairs ps generalizing p with
  | case1 q r ps ih => simp [ih, append_assoc]
  | case2 => rfl

theorem value_eq_foldl (rounds : Nat) (ps : List Stretch) :
    value rounds ps = (ps.foldl append (0, 1)).1 := by
  induction rounds generalizing ps with
  | zero => rfl
  | succ rounds ih => rw [value, ih, foldl_pairs]

theorem foldl_ofDigits (radix : Nat) (p q : Stretch) (ds : List Nat) :
    ((ofDigits radix q ds).foldl append p).1 =
      ds.foldl (fun n d => n * radix + d) (p.append q).1 := by
  induction ds generalizing p q with
  | nil => rfl
  | cons d ds ih =>
    rw [ofDigits, List.foldl_cons]
    split
    · rw [ih]
      simp [append, Nat.add_mul, Nat.mul_assoc, Nat.add_assoc]
    · rw [List.foldl_cons, ih]
      rfl

end Stretch

/-- The number that a row of digits denotes in a radix. -/
def denoted (radix : Nat) (ds : List Nat) : Nat :=
  let ps := Stretch.ofDigits radix (0, 1) ds
  Stretch.value (ps.length.log2 + 1) ps

theorem denoted_eq_foldl (radix : Nat) (ds : List Nat) :
    denoted radix ds = ds.foldl (fun n d => n * radix + d) 0 := by
  rw [denoted, Stretch.value_eq_foldl, Stretch.foldl_ofDigits]
  rfl

/-- The values of decimal digits. -/
def digitValues (cs : List Char) : List Nat := cs.map fun c => c.toNat - '0'.toNat

/-- Why a text is no number of 64 bits. -/
inductive Problem
  | empty
  | badDigit
  | tooLarge
  deriving DecidableEq, Repr

def Problem.message : Problem → String
  | empty => "cannot parse integer from empty string"
  | badDigit => "invalid digit found in string"
  | tooLarge => "number too large to fit in target type"

/-- Reads digits onto a number that is there already. The first character that is no digit, or that
makes the number too large, is the problem. -/
def readOnto (n : Nat) : List Char → Except Problem UInt64
  | [] => .ok (UInt64.ofNat n)
  | c :: cs =>
    if !c.isDigit then .error .badDigit
    else if UInt64.size ≤ n * 10 + (c.toNat - '0'.toNat) then .error .tooLarge
    else readOnto (n * 10 + (c.toNat - '0'.toNat)) cs

/-- Reads a number of 64 bits: digits with perhaps a plus sign in front. -/
def read64 : List Char → Except Problem UInt64
  | [] => .error .empty
  | ['+'] => .error .badDigit
  | '+' :: cs => readOnto 0 cs
  | cs => readOnto 0 cs

end WorkerSim.Numeral
