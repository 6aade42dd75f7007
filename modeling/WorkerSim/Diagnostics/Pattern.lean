import WorkerSim.Diagnostics.Pattern.Class
import WorkerSim.Text.Alphanumeric

/-!
# Patterns for values

A directive may ask for a field's value by a regular expression. Events never have such values to
compare, so all that matters here is whether a text is a regular expression at all. It is read from
left to right with the groups that are open. Its parts may lie 250 deep in one another. Words are
told apart beyond ASCII as long as a group does not turn that off, and then their edges cannot be
looked for.
-/

set_option autoImplicit false

namespace WorkerSim.Pattern

/-! ## Groups -/

/-- The parts of the pattern or of an open group: the branches that are complete, the parts of the
current branch before its last, and the last, which may not be there or not be repeated. -/
structure Level where
  branches : Row := {}
  earlier : Row := {}
  last? : Option Nat := none
  repeatable : Bool := false
  deriving Repr

namespace Level

def parts (l : Level) : Row :=
  match l.last? with
  | some depth => l.earlier.add depth
  | none => l.earlier

def add (l : Level) (depth : Nat) (repeatable : Bool) : Level :=
  { l with earlier := l.parts, last? := some depth, repeatable }

def branch (l : Level) : Level := { branches := l.branches.add l.parts.depth }

def depth (l : Level) : Nat := (l.branches.add l.parts.depth).depth

end Level

/-- What is open at a place: the mode, the level, both of the groups around, and the names given so
far. -/
structure State where
  mode : Mode := {}
  level : Level := {}
  outer : List (Mode × Level) := []
  names : List (List Char) := []
  deriving Repr

def isNameStart (c : Char) : Bool := c == '_' || Text.isAlphabetic c

def isNamePart (c : Char) : Bool :=
  c == '_' || c == '.' || c == '[' || c == ']' || Text.isAlphanumeric c

/-- A group's name up to its closing angle, and what follows. -/
def name? (cs : List Char) : Option (List Char × List Char) :=
  let name := cs.takeWhile (· != '>')
  match name, cs.dropWhile (· != '>') with
  | c :: others, _ :: rest => if isNameStart c && others.all isNamePart then some (name, rest) else none
  | _, _ => none

def flagLetters : List Char := "imsUuRx".toList

/-- Whether a row of letters, perhaps with a hyphen before the last of them, sets flags; each may be
set once. -/
def areFlags (cs : List Char) : Bool :=
  cs.all (fun c => c == '-' || flagLetters.contains c) && decide cs.Nodup && cs.getLast? != some '-'

/-- Whether a flag is set after a row of flags. -/
def flagAfter (letter : Char) (before : Bool) (flags : List Char) : Bool :=
  if letter ∈ flags.takeWhile (· != '-') then true
  else if letter ∈ flags then false
  else before

def Mode.after (m : Mode) (flags : List Char) : Mode :=
  ⟨flagAfter 'u' m.wide flags, flagAfter 'x' m.loose flags⟩

namespace State

def add (s : State) (depth : Nat) : State := { s with level := s.level.add depth true }

def enter (s : State) (mode : Mode) : State :=
  { s with mode, level := {}, outer := (s.mode, s.level) :: s.outer }

def leave? (s : State) : Option State :=
  match s.outer with
  | (mode, level) :: outer => some { s with mode, level := level.add (s.level.depth + 1) true, outer }
  | [] => none

/-- What an opening parenthesis and the text behind it lead to. -/
def group? (s : State) (cs : List Char) : Option (State × List Char) :=
  match s.mode.settle cs with
  | '?' :: '!' :: _ => none
  | '?' :: '<' :: '!' :: _ => none
  | '?' :: 'P' :: '<' :: rest => named rest
  | '?' :: '<' :: rest => named rest
  | '?' :: rest =>
    let flags := rest.takeWhile fun c => c != ':' && c != ')'
    let mode := s.mode.after flags
    if !areFlags flags then none
    else match rest.dropWhile fun c => c != ':' && c != ')' with
      | ':' :: rest => some (s.enter mode, rest)
      | _ :: rest =>
        if flags.isEmpty then none else some ({ s with mode, level := s.level.add 0 false }, rest)
      | [] => none
  | rest => some (s.enter s.mode, rest)
where
  named (cs : List Char) : Option (State × List Char) :=
    match name? cs with
    | some (name, rest) =>
      if name ∈ s.names then none else some ({ s.enter s.mode with names := name :: s.names }, rest)
    | none => none

/-- The last part repeated; a question mark behind the sign of repetition belongs to it. -/
def again? (s : State) (cs : List Char) : Option (State × List Char) :=
  match s.level.last? with
  | some depth =>
    if s.level.repeatable then
      some ({ s with level := { s.level with last? := some (depth + 1) } },
        if cs.head? = some '?' then cs.tail else cs)
    else none
  | none => none

/-- What a character and the text behind it lead to. -/
def step (s : State) (c : Char) (cs : List Char) : Option (State × List Char) :=
  match c with
  | '(' => s.group? cs
  | ')' => s.leave?.map (·, cs)
  | '|' => some ({ s with level := s.level.branch }, cs)
  | '[' => (class? s.mode cs).map fun r => (s.add r.1, r.2)
  | '*' | '+' | '?' => s.again? cs
  | '\x7b' => none
  | '\\' =>
    match escape? s.mode cs with
    | some (.wordEdge, rest) => if s.mode.wide then none else some (s.add 0, rest)
    | some (.edge, rest) => some (s.add 0, rest)
    | some (.kind narrow, rest) => if s.mode.wide || narrow then some (s.add 0, rest) else none
    | some (.literal code, rest) =>
      if s.mode.wide || code < 0x80 || cs.head? != some 'x' then some (s.add 0, rest) else none
    | none => none
  | '.' => if s.mode.wide then some (s.add 0, cs) else none
  | _ => some (s.add 0, cs)

end State

def depthLimit : Nat := 250

/-- Whether the rest of a pattern completes it, if it has no more than so many parts and marks. -/
def completes : Nat → State → List Char → Bool
  | 0, _, _ => false
  | most + 1, s, cs =>
    match s.mode.settle cs with
    | [] => s.outer.isEmpty && s.level.depth ≤ depthLimit
    | c :: rest =>
      match s.step c rest with
      | some (s, rest) => completes most s rest
      | none => false

/-! ## Numbers -/

/-- A plus sign in front is part of a number, not something repeated. -/
def isSignedNumber : List Char → Bool
  | '+' :: cs =>
    let whole := cs.dropWhile Char.isDigit
    let part := match whole with | '.' :: rest => rest.dropWhile Char.isDigit | rest => rest
    let digits := (cs.takeWhile fun c => c.isDigit || c == '.').any Char.isDigit
    let lower := cs.map Char.toLower
    lower = "inf".toList || lower = "infinity".toList || lower = "nan".toList ||
      (digits && (part.isEmpty || isExponent part))
  | _ => false
where
  isExponent : List Char → Bool
    | c :: rest =>
      (c == 'e' || c == 'E') &&
        (match rest with
        | '+' :: ds | '-' :: ds => !ds.isEmpty && ds.all Char.isDigit
        | ds => !ds.isEmpty && ds.all Char.isDigit)
    | [] => false

/-- Whether a text can be asked of a value. -/
def isPattern (cs : List Char) : Bool := isSignedNumber cs || completes (cs.length + 1) {} cs

end WorkerSim.Pattern
