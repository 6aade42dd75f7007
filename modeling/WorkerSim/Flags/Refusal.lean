import WorkerSim.Environment
import WorkerSim.Flags.Flag
import WorkerSim.Numeral
import WorkerSim.Text.Terminal

/-!
# Refused command lines

Why a command line is not followed. A request for help is one of the reasons, and the only one that
counts as success. What a reason repeats of the command line is passed on as a terminal shows it,
unless commands to a terminal are wanted.
-/

set_option autoImplicit false

namespace WorkerSim

inductive Refusal
  | help
  | unknownArgument (given : List Char)
  | repeated (flag : Flag)
  | missingValue (parameter : Parameter)
  | badNumber (given : List Char) (parameter : Parameter) (problem : Numeral.Problem)
  | surplusValue (given : List Char) (flag : Flag)
  | notUtf8
  deriving DecidableEq, Repr

namespace Refusal

/-- The line that says what is wrong; for a request for help, the help. Arguments in it are passed
through `shown`. -/
def line (coloured : Bool) (shown : List Char → List Char) (p : Program) (r : Refusal) : String :=
  let error := Text.styled coloured [.bold, .red] "error:" ++ " "
  let wrong (s : String) : String := "'" ++ Text.styled coloured [.yellow] s ++ "'"
  let proper (s : String) : String := "'" ++ Text.styled coloured [.bold] s ++ "'"
  let repeats (given : List Char) : String := wrong (String.ofList (shown given))
  match r with
  | help => p.help coloured
  | unknownArgument given => error ++ "unexpected argument " ++ repeats given ++ " found"
  | repeated flag => error ++ "the argument " ++ wrong flag.shown ++ " cannot be used multiple times"
  | missingValue parameter =>
    error ++ "a value is required for " ++ wrong (Flag.parameter parameter).shown ++
      " but none was supplied"
  | badNumber given parameter problem =>
    error ++ "invalid value " ++ repeats given ++ " for " ++
      proper (Flag.parameter parameter).shown ++ ": " ++ problem.message
  | surplusValue given flag =>
    error ++ "unexpected value " ++ repeats given ++ " for " ++ proper flag.shown ++
      " found; no more were expected"
  | notUtf8 => error ++ "invalid UTF-8 was detected in one or more arguments"

def message (p : Program) (r : Refusal) : String := r.line false Text.Terminal.shown p

/-- The line as it is written to a stream. With colours, nothing is taken out of it. -/
def output (coloured : Bool) (p : Program) (r : Refusal) : String :=
  r.line coloured (if coloured then id else Text.Terminal.streamed) p

/-- Refusals are coloured if a variable asks for it and no other forbids it. -/
def isColoured (env : Environment) : Bool :=
  env.isFilled "CLICOLOR_FORCE".toList && !env.isFilled "NO_COLOR".toList

def exitCode : Refusal → UInt8
  | help => 0
  | _ => 2

end Refusal

end WorkerSim
