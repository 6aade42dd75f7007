import WorkerSim.Text.Utf8

/-!
# Environment variables

Variables hold bytes. They are kept as rows of bytes, each a name, an equals sign and a value, and
asking for a name finds the first row that the name and an equals sign begin. So a name may reach
into a value up to an equals sign in it. As a text a variable has a value only if its bytes are one.
-/

set_option autoImplicit false

namespace WorkerSim

open Text (Bytes)

/-- The variables that are set, the most recently set first, each once. -/
abbrev Environment := List (List Char × Bytes)

namespace Environment

def equals : UInt8 := 0x3D

/-- What the row of a variable begins with. -/
def head (name : List Char) : Bytes := Text.Utf8.encode name ++ [equals]

/-- What follows the given bytes in a row that they begin. -/
def after? : Bytes → Bytes → Option Bytes
  | [], row => some row
  | b :: bytes, c :: row => if b = c then after? bytes row else none
  | _ :: _, [] => none

def get? (env : Environment) (name : List Char) : Option Bytes :=
  if name.isEmpty then none else env.findSome? fun e => after? (head name) (head e.1 ++ e.2)

def text? (env : Environment) (name : List Char) : Option (List Char) :=
  (env.get? name).bind Text.Utf8.decode?

/-- Whether a variable is set to something. -/
def isFilled (env : Environment) (name : List Char) : Bool := (env.get? name).any (!·.isEmpty)

def unset (env : Environment) (name : List Char) : Environment := env.filter (·.1 != name)

def set (env : Environment) (name : List Char) (value : Bytes) : Environment :=
  (name, value) :: env.unset name

theorem after?_append (bytes rest : Bytes) : after? bytes (bytes ++ rest) = some rest := by
  induction bytes with
  | nil => rfl
  | cons b bytes ih => simp [after?, ih]

theorem eq_append_of_after? {bytes row rest : Bytes} (h : after? bytes row = some rest) :
    row = bytes ++ rest := by
  fun_induction after? bytes row with
  | case1 row => exact Option.some.inj h
  | case2 b bytes row ih => rw [List.cons_append, ih h]
  | case3 => cases h
  | case4 => cases h

end Environment

end WorkerSim
