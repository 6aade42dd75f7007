import WorkerSim.Text.Blank

/-!
# Modes

How a stretch of a pattern is read. In a wide mode words reach beyond ASCII. In a loose mode blanks
and comments only set the text apart; a comment goes from a number sign to the end of its line.
-/

set_option autoImplicit false

namespace WorkerSim.Pattern

structure Mode where
  wide : Bool := true
  loose : Bool := false
  deriving DecidableEq, Repr

/-- What follows blanks and comments; `within` tells if a comment is open. -/
def afterRemarks (within : Bool) : List Char → List Char
  | [] => []
  | c :: cs =>
    if within then afterRemarks (c != '\n') cs
    else if Text.isBlank c then afterRemarks false cs
    else if c == '#' then afterRemarks true cs
    else c :: cs

namespace Mode

/-- What is next to be read. -/
def settle (m : Mode) (cs : List Char) : List Char := if m.loose then afterRemarks false cs else cs

/-- The character that stands behind blanks. One number sign among them is passed over, but not its
comment. -/
def ahead? (m : Mode) (cs : List Char) : Option Char :=
  if m.loose then
    match cs.dropWhile Text.isBlank with
    | '#' :: cs => (cs.dropWhile Text.isBlank).head?
    | cs => cs.head?
  else cs.head?

end Mode

end WorkerSim.Pattern
