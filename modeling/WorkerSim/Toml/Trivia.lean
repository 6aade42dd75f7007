/-!
# Blanks, comments and line ends

What a TOML document may hold between its tokens. Inside a line only spaces, tabs and a comment are
passed over; inside brackets and braces line ends are too.
-/

set_option autoImplicit false

namespace WorkerSim.Toml

def isSpace (c : Char) : Bool := c == ' ' || c == '\t'

/-- The characters that comments, and texts on one line, may hold: tabs and everything but controls. -/
def isOrdinary (c : Char) : Bool :=
  c == '\t' || (0x20 ≤ c.toNat && c.toNat != 0x7F)

def afterSpaces (cs : List Char) : List Char := cs.dropWhile isSpace

/-- What follows the line end that the text starts with. -/
def afterNewline? : List Char → Option (List Char)
  | '\n' :: rest => some rest
  | '\r' :: '\n' :: rest => some rest
  | _ => none

def afterComment : List Char → List Char
  | '#' :: rest => rest.dropWhile isOrdinary
  | cs => cs

/-- What follows the current line, if nothing but spaces and a comment is left of it. -/
def afterLine? (cs : List Char) : Option (List Char) :=
  match afterComment (afterSpaces cs) with
  | [] => some []
  | rest => afterNewline? rest

/-- Passes over spaces, line ends and comments. It stops at a character that none of them may hold,
which no token starts with either. -/
def afterTrivia (inComment : Bool) : List Char → List Char
  | [] => []
  | '\r' :: '\n' :: rest => afterTrivia false rest
  | c :: rest =>
    if c == '\n' then afterTrivia false rest
    else if inComment then
      if isOrdinary c then afterTrivia true rest else c :: rest
    else if isSpace c then afterTrivia false rest
    else if c == '#' then afterTrivia true rest
    else c :: rest

def afterGap (cs : List Char) : List Char := afterTrivia false cs

end WorkerSim.Toml
