import WorkerSim.Text.Blank
import WorkerSim.Text.Utf8

/-!
# Indented texts

A text with blanks in front, read without them. Places are counted in bytes from the first
character that is no blank, but the parts between two places are cut from the text with its blanks,
so each part lies as many bytes too far to the left as the blanks take. Without blanks in front, a
part is what stands between its places.
-/

set_option autoImplicit false

namespace WorkerSim.Text

structure Indented where
  text : List Char
  deriving DecidableEq, Repr

namespace Indented

/-- What is read. -/
def body (s : Indented) : List Char := s.text.dropWhile isBlank

/-- The place where a given end of the body begins. -/
def place (s : Indented) (rest : List Char) : Nat := Utf8.width s.body - Utf8.width rest

/-- The part from one place on, if it does not begin inside a character. -/
def from? (s : Indented) (start : List Char) : Option (List Char) :=
  Utf8.decode? ((Utf8.encode s.text).drop (s.place start))

/-- The part between two places, if neither is inside a character. -/
def cut? (s : Indented) (start stop : List Char) : Option (List Char) :=
  Utf8.decode? (((Utf8.encode s.text).drop (s.place start)).take (s.place stop - s.place start))

end Indented

end WorkerSim.Text
