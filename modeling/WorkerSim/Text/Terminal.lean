import WorkerSim.Text.Utf8

/-!
# What a terminal shows

A text may hold commands to a terminal. The escape character begins one, and what follows it decides
where the command ends. A terminal shows neither commands nor controls other than blanks, and a
blank is shown even in the middle of a command. What is shown of a text can be told for the text as
a whole or, on a stream, for what has come of it so far; the two differ in what a blank does to the
command that it stands in. A text without controls is shown as it is.
-/

set_option autoImplicit false

namespace WorkerSim.Text.Terminal

def bell : Char := '\x07'

def cancel : Char := '\x18'

def substitute : Char := '\x1a'

def escape : Char := '\x1b'

/-- What a place in a text is in the middle of: nothing, or a command that has come so far. -/
inductive Phase
  | plain
  | escape
  | escapeTail
  | control
  | device
  | deviceParameters
  | deviceTail
  | held
  | system
  deriving DecidableEq, Repr

def isLineBlank (c : Char) : Bool := c == '\t' || c == '\n' || c == '\x0c' || c == '\r'

namespace Phase

/-- Whether a character is shown. -/
def shows (p : Phase) (c : Char) : Bool :=
  match p with
  | plain => isLineBlank c || (0x20 ≤ c.toNat && c.toNat != 0x7F)
  | escape | escapeTail | control => isLineBlank c
  | device | deviceParameters | deviceTail | held | system => false

def between (low : Char) (c : Char) (high : Char) : Bool := low ≤ c && c ≤ high

/-- A held text ends at the byte of the string terminator, even inside of a character. -/
def endsHeld (c : Char) : Bool := (Utf8.encode [c]).contains 0x9C

/-- What comes after the escape character. -/
def afterEscape (c : Char) : Phase :=
  if c == 'P' then device
  else if c == '[' then control
  else if c == ']' then system
  else if c == 'X' || c == '^' || c == '_' then held
  else if between ' ' c '/' then escapeTail
  else if between '0' c '~' then plain
  else escape

/-- What comes after a character that is not shown. -/
def next (p : Phase) (c : Char) : Phase :=
  if c == cancel || c == substitute then plain
  else if c == Terminal.escape then escape
  else match p with
    | plain => plain
    | escape => afterEscape c
    | escapeTail => if between '0' c '~' then plain else escapeTail
    | control => if between '@' c '~' then plain else control
    | device =>
      if between ' ' c '/' then deviceTail
      else if c == ':' || between '@' c '~' then held
      else if between '0' c '?' then deviceParameters
      else device
    | deviceParameters =>
      if between ' ' c '/' then deviceTail
      else if c == ':' || between '<' c '~' then held
      else deviceParameters
    | deviceTail => if between '0' c '~' then held else deviceTail
    | held => if endsHeld c then plain else held
    | system => if c == bell then plain else system

end Phase

/-- What is shown of a text from a place on. What is shown ends a command. -/
def shownFrom (p : Phase) : List Char → List Char
  | [] => []
  | c :: cs => if p.shows c then c :: shownFrom .plain cs else shownFrom (p.next c) cs

/-- What is shown of a text. -/
def shown (cs : List Char) : List Char := shownFrom .plain cs

/-- What is shown of a stream from a place on. After a blank in a command, text is shown up to the
next control, and then the command goes on, unless a character beyond ASCII was among the text. -/
def streamedFrom (p : Phase) (showing : Bool) : List Char → List Char
  | [] => []
  | c :: cs =>
    if (if showing then Phase.plain else p).shows c then
      c :: streamedFrom (if c.toNat < 0x80 then p else .plain) true cs
    else streamedFrom (p.next c) false cs

/-- What is shown of a text that is written to a stream. -/
def streamed (cs : List Char) : List Char := streamedFrom .plain false cs

end WorkerSim.Text.Terminal
