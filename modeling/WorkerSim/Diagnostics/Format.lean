import WorkerSim.Diagnostics.Event
import WorkerSim.Text.Style

/-!
# Showing events

An event takes one line, either as text, with colours or without, or as a JSON object. In text,
controls that a terminal would act on are written as escapes.
-/

set_option autoImplicit false

namespace WorkerSim

inductive Format
  | text (coloured : Bool)
  | json
  deriving DecidableEq, Repr

namespace Format

def hexDigits (width n : Nat) : String :=
  let ds := Nat.toDigits 16 n
  String.ofList (List.replicate (width - ds.length) '0' ++ ds)

/-- A character of a JSON string. -/
def jsonChar (c : Char) : String :=
  match c with
  | '"' => "\\\""
  | '\\' => "\\\\"
  | '\x08' => "\\b"
  | '\x0c' => "\\f"
  | '\n' => "\\n"
  | '\r' => "\\r"
  | '\t' => "\\t"
  | c => if c.toNat < 0x20 then "\\u" ++ hexDigits 4 c.toNat else c.toString

def jsonString (s : String) : String := "\"" ++ String.join (s.toList.map jsonChar) ++ "\""

def jsonValue : FieldValue → String
  | .number n => toString n
  | .words s => jsonString s

def jsonObject (members : List (String × String)) : String :=
  "\x7b" ++ String.intercalate "," (members.map fun m => jsonString m.1 ++ ":" ++ m.2) ++ "\x7d"

/-- A character of a message, as a terminal may see it. -/
def terminalChar (c : Char) : String :=
  if c = '\x1b' ∨ c = '\x07' ∨ c = '\x08' ∨ c = '\x0c' ∨ c = '\x7f' then "\\x" ++ hexDigits 2 c.toNat
  else if 0x80 ≤ c.toNat ∧ c.toNat ≤ 0x9F then "\\u\x7b" ++ hexDigits 2 c.toNat ++ "\x7d"
  else c.toString

def terminalText (s : String) : String := String.join (s.toList.map terminalChar)

def levelStyle : Level → Text.Style
  | .error => [.red]
  | .warn => [.yellow]
  | .info => [.green]
  | .debug => [.blue]
  | .trace => [.magenta]

def levelText (level : Level) : String :=
  String.ofList (List.replicate (5 - level.name.length) ' ') ++ level.name

def fieldText (coloured : Bool) (field : String × FieldValue) : String :=
  " " ++ Text.styled coloured [.italic] field.1 ++ Text.styled coloured [.faint] "=" ++ field.2.text

/-- The line of an event, with its line end. -/
def line (format : Format) (spell : Figure → String) (e : Event) : String :=
  match format with
  | text coloured =>
    Text.styled coloured [.faint] (spell .timestamp) ++ " " ++
      Text.styled coloured (levelStyle e.level) (levelText e.level) ++ " " ++
      terminalText (e.messageText spell) ++ String.join (e.fields.map (fieldText coloured)) ++ "\n"
  | json =>
    let message := ("message", jsonString (e.messageText spell))
    jsonObject [("timestamp", jsonString (spell .timestamp)), ("level", jsonString e.level.name),
      ("fields", jsonObject (message :: e.fields.map fun f => (f.1, jsonValue f.2)))] ++ "\n"

/-- JSON if asked for; else text, coloured unless a variable forbids it. -/
def choose (noColour? : Option (List Char)) (json : Bool) : Format :=
  if json then .json else .text ((noColour?.map List.isEmpty).getD true)

end Format

end WorkerSim
