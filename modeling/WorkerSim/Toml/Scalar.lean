import WorkerSim.Toml.Moment
import WorkerSim.Toml.Real

/-!
# Single values

The TOML values without parts. What is written without quotes is told apart by its first characters:
names, numbers in the four radixes, floating-point numbers, and dates or times.
-/

set_option autoImplicit false

namespace WorkerSim.Toml

/-- An integer without a value is one whose literal denotes no number. -/
inductive Scalar
  | integer (value : Option Int)
  | real (value : Real)
  | boolean (value : Bool)
  | text (value : List Char)
  | moment
  deriving DecidableEq, Repr

namespace Scalar

def isMark (c : Char) : Bool := c == '.' || c == 'e' || c == 'E'

/-- A number after its sign; `raw` is the whole literal, which alone can be a date and only then hold
spaces. -/
def number? (negative : Bool) (raw cs : List Char) : Option Scalar :=
  let rest := cs.dropWhile Char.isDigit
  if rest.head? = some '-' ∨ rest.head? = some ':' then
    if Moment.isMoment raw then some .moment else none
  else if rest.contains ' ' then none
  else if rest.any isMark then (Real.decimal? negative cs).map real
  else (Integer.decimal? negative cs).map integer

/-- What a literal without quotes means, if it means anything. -/
def ofPlain? (raw : List Char) : Option Scalar :=
  if raw = "true".toList then some (boolean true)
  else if raw = "false".toList then some (boolean false)
  else
    let (negative, cs) := Integer.sign raw
    if cs = "inf".toList then some (real (.infinite negative))
    else if cs = "nan".toList then some (real .nan)
    else match raw with
      | '0' :: c :: digits =>
        match Integer.radix? c with
        | some radix => (Integer.inRadix? radix digits).map integer
        | none => number? negative raw cs
      | _ => number? negative raw cs

def isPlainEnd (c : Char) : Bool :=
  isSpace c || c == '\n' || c == '\r' || c == '#' || c == ',' || c == '=' ||
    c == '[' || c == ']' || c == '\x7b' || c == '\x7d'

/-- What a literal without quotes may go on with behind blanks. -/
def isPlainStart (c : Char) : Bool := !isPlainEnd c && c != '.' && c != '"' && c != '\''

theorem length_dropWhile_lt {p : Char → Bool} {cs : List Char} (h : cs.takeWhile p ≠ []) :
    (cs.dropWhile p).length < cs.length := by
  have hlength := congrArg List.length (List.takeWhile_append_dropWhile (p := p) (l := cs))
  have hpos := List.length_pos_iff.mpr h
  rw [List.length_append] at hlength
  omega

/-- A literal without quotes and what follows it. Blanks do not end it if there is more text behind
them: then they are part of it. -/
def plain (cs : List Char) : List Char × List Char :=
  let run := cs.takeWhile (!isPlainEnd ·)
  let rest := cs.dropWhile (!isPlainEnd ·)
  let gap := rest.takeWhile isSpace
  let after := rest.dropWhile isSpace
  if h : gap ≠ [] ∧ after.head?.any isPlainStart then
    have : after.length < cs.length :=
      Nat.lt_of_lt_of_le (length_dropWhile_lt h.1) (List.dropWhile_sublist _).length_le
    (run ++ gap ++ (plain after).1, (plain after).2)
  else (run, rest)
termination_by cs.length

/-- The single value at the start of the text, and what follows it. -/
def read? (cs : List Char) : Option (Scalar × List Char) :=
  match cs with
  | [] => none
  | c :: _ =>
    if c = '"' then (Literal.read? '"' true cs).map fun r => (text r.1, r.2)
    else if c = '\'' then (Literal.read? '\'' false cs).map fun r => (text r.1, r.2)
    else (ofPlain? (plain cs).1).map fun s => (s, (plain cs).2)

end Scalar

end WorkerSim.Toml
