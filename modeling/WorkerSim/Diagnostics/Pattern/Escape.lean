import WorkerSim.Diagnostics.Pattern.Mode
import WorkerSim.Toml.Literal

/-!
# Escapes

What a backslash and the text behind it stand for in a pattern. No text that comes here holds a
closing brace, so a number or a name between braces never ends.
-/

set_option autoImplicit false

namespace WorkerSim.Pattern

/-- What one place of a pattern may be; a literal has a code point, and a kind of character is narrow
if it stays in ASCII whenever words do. -/
inductive Atom
  | literal (code : Nat)
  | kind (narrow : Bool)
  | edge
  | wordEdge
  deriving DecidableEq, Repr

/-- The number that exactly so many hexadecimal digits denote, onto a number that is there already,
and what follows them. -/
def hexOnto (m : Mode) (n : Nat) : Nat → List Char → Option (Nat × List Char)
  | 0, cs => some (n, cs)
  | _ + 1, [] => none
  | count + 1, c :: cs =>
    match Toml.Literal.hexDigit? c with
    | some d => hexOnto m (n * 16 + d) count (m.settle cs)
    | none => none

/-- A character by its number. -/
def numbered? (m : Mode) (count : Nat) (cs : List Char) : Option (Atom × List Char) :=
  match hexOnto m 0 count (m.settle cs) with
  | some (n, rest) => if n.isValidChar then some (.literal n, rest) else none
  | none => none

/-- The letters of the major categories of characters. -/
def categories : List Char := "clmnpszCLMNPSZ".toList

/-- A category by its letter. -/
def category? (m : Mode) (cs : List Char) : Option (Atom × List Char) :=
  match m.settle cs with
  | c :: rest => if m.wide ∧ c ∈ categories then some (.kind false, m.settle rest) else none
  | [] => none

/-- What the text behind a backslash stands for, and what follows. -/
def escape? (m : Mode) : List Char → Option (Atom × List Char)
  | [] => none
  | c :: cs =>
    match c with
    | 'x' => numbered? m 2 cs
    | 'u' => numbered? m 4 cs
    | 'U' => numbered? m 8 cs
    | 'p' | 'P' => category? m cs
    | 'd' | 's' | 'w' => some (.kind true, cs)
    | 'D' | 'S' | 'W' => some (.kind false, cs)
    | 'a' => some (.literal 0x07, cs)
    | 'f' => some (.literal 0x0C, cs)
    | 't' => some (.literal 0x09, cs)
    | 'n' => some (.literal 0x0A, cs)
    | 'r' => some (.literal 0x0D, cs)
    | 'v' => some (.literal 0x0B, cs)
    | 'A' | 'z' => some (.edge, cs)
    | 'b' | 'B' | '<' | '>' => some (.wordEdge, cs)
    | c => if c.toNat < 0x80 ∧ !c.isAlphanum then some (.literal c.toNat, cs) else none

end WorkerSim.Pattern
