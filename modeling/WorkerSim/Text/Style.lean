/-!
# Styled text

A terminal shows a text in a style if commands around it say so. A style is a row of attributes,
each given by a command of its own, and one command at the end takes them all back.
-/

set_option autoImplicit false

namespace WorkerSim.Text

inductive Attribute
  | bold
  | faint
  | italic
  | underlined
  | red
  | green
  | yellow
  | blue
  | magenta
  deriving DecidableEq, Repr

def Attribute.command : Attribute → String
  | bold => "\x1b[1m"
  | faint => "\x1b[2m"
  | italic => "\x1b[3m"
  | underlined => "\x1b[4m"
  | red => "\x1b[31m"
  | green => "\x1b[32m"
  | yellow => "\x1b[33m"
  | blue => "\x1b[34m"
  | magenta => "\x1b[35m"

abbrev Style := List Attribute

def styled (coloured : Bool) (style : Style) (s : String) : String :=
  if coloured then String.join (style.map Attribute.command) ++ s ++ "\x1b[0m" else s

end WorkerSim.Text
