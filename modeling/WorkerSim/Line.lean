import WorkerSim.Numeral

/-!
# Lines of the simulated workers

A worker talks to its reader in four kinds of lines. A line is handed to a writer in parts, each
offered on its own, and the last part is always the newline that ends it.
-/

set_option autoImplicit false

namespace WorkerSim

inductive Line
  | runawayStarted
  | requestFailed
  | healthyRestarted
  | heartbeat (beat : UInt64)
  deriving DecidableEq, Repr

namespace Line

/-- The parts of a line's text, in the order in which they are offered to a writer. -/
def parts : Line → List (List Char)
  | runawayStarted => ["runaway worker started".toList]
  | requestFailed => ["processing request 4242 failed, retrying endlessly".toList]
  | healthyRestarted => ["healthy worker restarted".toList]
  | heartbeat beat =>
    ["heartbeat ".toList, Numeral.digits beat.toNat, ": service healthy".toList]

def chars (line : Line) : List Char := line.parts.flatten

def text (line : Line) : String := String.ofList line.chars

end Line

end WorkerSim
