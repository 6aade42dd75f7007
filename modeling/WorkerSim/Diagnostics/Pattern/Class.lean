import WorkerSim.Diagnostics.Pattern.Depth
import WorkerSim.Diagnostics.Pattern.Escape

/-!
# Classes of characters

A class stands between brackets: characters, ranges of them, kinds of character and further classes,
joined by operators. Without wide characters nothing in a class may reach beyond ASCII, so no class
can be negated.
-/

set_option autoImplicit false

namespace WorkerSim.Pattern

/-- One end of a range, or something that stands alone. -/
def member? (m : Mode) : List Char → Option (Atom × List Char)
  | [] => none
  | '\\' :: cs => escape? m cs
  | c :: cs => some (.literal c.toNat, cs)

/-- What may stand in a class. -/
def Atom.fits (wide : Bool) : Atom → Bool
  | literal code => wide || code < 0x80
  | kind narrow => wide || narrow
  | edge | wordEdge => false

/-- What follows the member or range at the start of the text. -/
def afterRange (m : Mode) (cs : List Char) : Option (List Char) :=
  match member? m cs with
  | none => none
  | some (low, rest) =>
    let alone := if low.fits m.wide then some (m.settle rest) else none
    match m.settle rest with
    | '-' :: rest =>
      if m.ahead? rest = some ']' ∨ m.ahead? rest = some '-' then alone
      else match low, member? m (m.settle rest) with
        | .literal a, some (.literal b, rest) =>
          if a ≤ b ∧ (Atom.literal b).fits m.wide then some rest else none
        | _, _ => none
    | _ => alone

/-- The hyphens at the start of the text, counted onto those before; `within` tells if a comment is
open. -/
def hyphens (m : Mode) (within : Bool) (count : Nat) : List Char → Nat × List Char
  | [] => (count, [])
  | c :: cs =>
    if within then hyphens m (c != '\n') count cs
    else if c == '-' then hyphens m false (count + 1) cs
    else if m.loose && Text.isBlank c then hyphens m false count cs
    else if m.loose && c == '#' then hyphens m true count cs
    else (count, c :: cs)

/-- The members that can only stand right behind the opening of a class, hyphens or one closing
bracket, and what follows. -/
def afterOpening (m : Mode) (cs : List Char) : Option (Row × List Char) :=
  let (negated, cs) := match m.settle cs with
    | '^' :: cs => (true, m.settle cs)
    | cs => (false, cs)
  if negated && !m.wide then none
  else match hyphens m false 0 cs with
    | (0, ']' :: rest) => some (⟨1, 0⟩, rest)
    | (count, rest) => some (⟨count, 0⟩, rest)

def classNames : List String :=
  ["alnum", "alpha", "ascii", "blank", "cntrl", "digit", "graph", "lower", "print", "punct", "space",
    "upper", "word", "xdigit"]

/-- A class by its name, after its opening bracket: whether it is negated, and what follows. -/
def named? : List Char → Option (Bool × List Char)
  | ':' :: cs =>
    let (negated, cs) := match cs with
      | '^' :: cs => (true, cs)
      | cs => (false, cs)
    match cs.dropWhile (· != ':') with
    | ':' :: ']' :: rest =>
      if String.ofList (cs.takeWhile (· != ':')) ∈ classNames then some (negated, rest) else none
    | _ => none
  | _ => none

/-- A class that is open: how deep what stands before its last operator is, and the members since. -/
structure OpenClass where
  left? : Option Nat := none
  members : Row := {}
  deriving Repr

namespace OpenClass

def depth (c : OpenClass) : Nat :=
  match c.left? with
  | some left => max left c.members.depth + 1
  | none => c.members.depth

def add (c : OpenClass) (depth : Nat) : OpenClass := { c with members := c.members.add depth }

end OpenClass

def isOperator (c : Char) : Bool := c == '&' || c == '-' || c == '~'

/-- The depth of the outermost open class and what follows it, if no more than so many members and
marks are left. The innermost class comes first. -/
def afterClass (m : Mode) : Nat → OpenClass → List OpenClass → List Char → Option (Nat × List Char)
  | 0, _, _, _ => none
  | most + 1, inner, outer, cs =>
    match m.settle cs with
    | [] => none
    | '[' :: rest =>
      match named? rest with
      | some (negated, rest) =>
        if negated && !m.wide then none else afterClass m most (inner.add 0) outer rest
      | none =>
        match afterOpening m rest with
        | some (members, rest) => afterClass m most { members } (inner :: outer) rest
        | none => none
    | ']' :: rest =>
      match outer with
      | [] => some (inner.depth + 1, rest)
      | next :: outer => afterClass m most (next.add (inner.depth + 1)) outer rest
    | c :: rest =>
      if isOperator c ∧ rest.head? = some c then
        afterClass m most { left? := some inner.depth } outer rest.tail
      else match afterRange m (c :: rest) with
        | some rest => afterClass m most (inner.add 0) outer rest
        | none => none

/-- The depth of a class after its opening bracket, and what follows it. -/
def class? (m : Mode) (cs : List Char) : Option (Nat × List Char) :=
  match afterOpening m cs with
  | some (members, rest) => afterClass m (rest.length + 1) { members } [] rest
  | none => none

end WorkerSim.Pattern
