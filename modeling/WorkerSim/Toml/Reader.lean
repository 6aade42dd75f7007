import WorkerSim.Toml.Value

/-!
# Reading values and lines

Values nest at most eighty deep and a path has at most eighty segments, so reading recurses on the
depth that is left. Inside braces and brackets the elements are read one after another up to the
closing mark, with a comma between them and perhaps one after the last. Every line and every element
takes a character, so a document has no more of them than characters.
-/

set_option autoImplicit false

namespace WorkerSim.Toml

def isBareKeyChar (c : Char) : Bool := c.isAlphanum || c == '_' || c == '-'

/-- A key segment, bare or quoted on one line, and what follows it. -/
def key? (cs : List Char) : Option (Key × List Char) :=
  match cs with
  | [] => none
  | c :: _ =>
    if c = '"' ∨ c = '\'' then
      if Literal.isMulti c cs then none
      else (Literal.read? c (c == '"') cs).map fun r => (⟨⟨cs, r.2⟩, r.1⟩, r.2)
    else
      let name := cs.takeWhile isBareKeyChar
      let rest := cs.dropWhile isBareKeyChar
      if name.isEmpty then none else some (⟨⟨cs, rest⟩, name⟩, rest)

/-- A path of at most the given number of segments, and what follows it and the spaces behind. -/
def path? : Nat → List Char → Option (List Key × List Char)
  | 0, _ => none
  | n + 1, cs =>
    match key? (afterSpaces cs) with
    | none => none
    | some (key, rest) =>
      match afterSpaces rest with
      | '.' :: rest => (path? n rest).map fun r => (key :: r.1, r.2)
      | rest => some ([key], rest)

def pathLimit : Nat := 80

def depthLimit : Nat := 80

/-- At most so many elements up to the closing mark, and what follows the mark. -/
def elements {α : Type} (close : Char) (element : List Char → Option (α × List Char)) :
    Nat → List Char → Option (List α × List Char)
  | 0, _ => none
  | most + 1, cs =>
    match afterGap cs with
    | [] => none
    | c :: rest =>
      if c = close then some ([], rest)
      else match element (c :: rest) with
        | none => none
        | some (a, rest) =>
          match afterGap rest with
          | [] => none
          | c :: rest =>
            if c = close then some ([a], rest)
            else if c = ',' then
              (elements close element most rest).map fun r => (a :: r.1, r.2)
            else none

/-- A path, an equals sign and a value, with `gap` passing over what may stand around the sign. -/
def pair? (gap : List Char → List Char) (value : List Char → Option (Item × List Char))
    (cs : List Char) : Option ((List Key × Item) × List Char) :=
  match path? pathLimit cs with
  | none => none
  | some (path, rest) =>
    match gap rest with
    | '=' :: rest => (value (gap rest)).map fun r => ((path, r.1), r.2)
    | _ => none

/-- The value at the start of the text, and what follows it, with at most so many elements in a row
and at most the given number of brackets and braces around one another. -/
def value? (most : Nat) : Nat → List Char → Option (Item × List Char)
  | 0, cs => single cs
  | depth + 1, cs =>
    match cs with
    | '[' :: rest =>
      (elements ']' (value? most depth) most rest).map fun r => (⟨⟨cs, r.2⟩, .list r.1⟩, r.2)
    | '\x7b' :: rest =>
      match elements '\x7d' (pair? afterGap (value? most depth)) most rest with
      | none => none
      | some (pairs, rest) =>
        (Entries.assignAll [] pairs).map fun es => (⟨⟨cs, rest⟩, .table .inline es⟩, rest)
    | _ => single cs
where
  single (cs : List Char) : Option (Item × List Char) :=
    (Scalar.read? cs).map fun r => (⟨⟨cs, r.2⟩, .scalar r.1⟩, r.2)

/-- What a line of a document says. -/
inductive Statement
  | pair (path : List Key) (item : Item)
  | header (path : List Key) (span : Span)
  | element (path : List Key) (span : Span)
  deriving Repr

namespace Statement

/-- A path between single or double brackets. -/
def header? (cs : List Char) : Option (Statement × List Char) :=
  match cs with
  | '[' :: '[' :: rest =>
    match path? pathLimit rest with
    | some (path, ']' :: ']' :: rest) => some (element path ⟨cs, rest⟩, rest)
    | _ => none
  | '[' :: rest =>
    match path? pathLimit rest with
    | some (path, ']' :: rest) => some (header path ⟨cs, rest⟩, rest)
    | _ => none
  | _ => none

/-- What stands on the current line, if anything, and what follows it. -/
def read? (most : Nat) (cs : List Char) : Option (List Statement × List Char) :=
  match afterSpaces cs with
  | [] => some ([], [])
  | c :: rest =>
    if c = '#' ∨ c = '\n' ∨ c = '\r' then some ([], c :: rest)
    else if c = '[' then (header? (c :: rest)).map fun r => ([r.1], r.2)
    else (pair? afterSpaces (value? most depthLimit) (c :: rest)).map fun r => ([pair r.1.1 r.1.2], r.2)

/-- The statements of at most so many lines. -/
def readLines? (most : Nat) : Nat → List Char → Option (List Statement)
  | _, [] => some []
  | 0, _ => none
  | lines + 1, cs =>
    match read? most cs with
    | none => none
    | some (statements, rest) =>
      match afterLine? rest with
      | none => none
      | some rest => (readLines? most lines rest).map (statements ++ ·)

/-- The statements of a document, line by line. -/
def readAll? (cs : List Char) : Option (List Statement) := readLines? cs.length cs.length cs

end Statement

end WorkerSim.Toml
