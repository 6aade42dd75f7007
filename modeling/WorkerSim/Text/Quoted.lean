import WorkerSim.Text.Hidden

/-!
# Quoted texts

A text between double quotes, as diagnostics show it: quotes, backslashes and the common controls
have short escapes, and every other character without a shape is written by its number in
hexadecimal.
-/

set_option autoImplicit false

namespace WorkerSim.Text

/-- A code point in lower-case hexadecimal, between braces. -/
def numbered (c : Char) : List Char :=
  ['\\', 'u', '{'] ++ Nat.toDigits 16 c.toNat ++ ['}']

def quotedChar (c : Char) : List Char :=
  match c with
  | '\x00' => ['\\', '0']
  | '\t' => ['\\', 't']
  | '\n' => ['\\', 'n']
  | '\r' => ['\\', 'r']
  | '"' => ['\\', '"']
  | '\\' => ['\\', '\\']
  | c =>
    if c.toNat < 0x20 || c.toNat == 0x7F then numbered c
    else if c.toNat < 0x80 then [c]
    else if isHidden c then numbered c else [c]

def quoted (cs : List Char) : List Char :=
  '"' :: (cs.flatMap quotedChar ++ ['"'])

end WorkerSim.Text
