import WorkerSim.Settings
import WorkerSim.Text.Style

/-!
# Flags

What can be given on the command line of a program: switches, parameters with a value, and the
request for help. Both programs share the first four; the other parameters are the numbers of the
program's own settings.
-/

set_option autoImplicit false

namespace WorkerSim

inductive Switch
  | verbose
  | logJson
  | monitor
  deriving DecidableEq, Repr

inductive Parameter
  | config
  | workloadSize
  | reportEvery
  | maxIterations
  | heartbeats
  | intervalMs
  deriving DecidableEq, Repr

inductive Flag
  | switch (s : Switch)
  | parameter (p : Parameter)
  | help
  deriving DecidableEq, Repr

namespace Parameter

/-- The name after the dashes. -/
def long : Parameter → String
  | config => "config"
  | workloadSize => "workload-size"
  | reportEvery => "report-every"
  | maxIterations => "max-iterations"
  | heartbeats => "heartbeats"
  | intervalMs => "interval-ms"

/-- What stands for the value: the name in capitals between angle brackets. -/
def valueName (p : Parameter) : String :=
  "<" ++ String.ofList (p.long.toList.map fun c => if c = '-' then '_' else c.toUpper) ++ ">"

end Parameter

namespace Flag

def long : Flag → String
  | switch .verbose => "verbose"
  | switch .logJson => "log-json"
  | switch .monitor => "monitor"
  | parameter p => p.long
  | help => "help"

def short? : Flag → Option Char
  | switch .verbose => some 'v'
  | parameter .config => some 'c'
  | help => some 'h'
  | _ => none

/-- The flag as errors and the help show it. -/
def shown : Flag → String
  | parameter p => "--" ++ p.long ++ " " ++ p.valueName
  | f => "--" ++ f.long

def description : Flag → String
  | switch .verbose => "Enable verbose diagnostics on stderr"
  | switch .logJson => "Emit diagnostics as JSON"
  | switch .monitor => "Log process CPU and memory usage"
  | parameter .config => "Path to TOML configuration file"
  | parameter .workloadSize => "Square roots summed per iteration"
  | parameter .reportEvery => "Emit the failure line every N iterations"
  | parameter .maxIterations => "Stop after N iterations (default: never)"
  | parameter .heartbeats => "Number of heartbeats before exiting"
  | parameter .intervalMs => "Pause after each heartbeat, in milliseconds"
  | help => "Print help"

end Flag

namespace Program

/-- The numbers that a program's settings consist of. -/
def numbers : Program → List Parameter
  | runaway => [.workloadSize, .reportEvery, .maxIterations]
  | recovered => [.heartbeats, .intervalMs]

/-- The flags of a program, in the order of its help. -/
def flags (p : Program) : List Flag :=
  [.parameter .config, .switch .verbose, .switch .logJson, .switch .monitor] ++
    p.numbers.map .parameter ++ [.help]

def description : Program → String
  | runaway => "Simulated runaway worker: burns CPU and never exits"
  | recovered => "Simulated healthy worker: emits heartbeats, then exits"

end Program

namespace Flag

/-- How the help lists a flag; its names are bold if colours are wanted. -/
def listed (coloured : Bool) (f : Flag) : String :=
  let bold := Text.styled coloured [.bold]
  let short := match f.short? with
    | some c => "  " ++ bold ("-" ++ c.toString) ++ ", "
    | none => "      "
  short ++ bold ("--" ++ f.long) ++ match f with
    | parameter p => " " ++ p.valueName
    | _ => ""

end Flag

/-- The help of a program: what it is, how it is called, and its flags in two columns. Columns are as
wide as the text that a terminal shows. -/
def Program.help (coloured : Bool) (p : Program) : String :=
  let bold := Text.styled coloured [.bold]
  let heading := Text.styled coloured [.bold, .underlined]
  let width (f : Flag) : Nat := (f.listed false).length
  let widest := (p.flags.map width).foldl max 0
  let row (f : Flag) : String :=
    f.listed coloured ++ String.ofList (List.replicate (widest + 2 - width f) ' ') ++
      f.description ++ "\n"
  p.description ++ "\n\n" ++ heading "Usage:" ++ " " ++ bold p.name ++ " [OPTIONS]\n\n" ++
    heading "Options:" ++ "\n" ++ String.join (p.flags.map row)

end WorkerSim
