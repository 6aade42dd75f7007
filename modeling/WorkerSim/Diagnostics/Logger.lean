import WorkerSim.Diagnostics.Filter
import WorkerSim.Diagnostics.Format
import WorkerSim.Environment

/-!
# Loggers

A logger turns the events that its filter allows into lines. What it allows and how it writes them
is up to the settings for diagnostics and to two environment variables.
-/

set_option autoImplicit false

namespace WorkerSim

structure Logger where
  filter : Filter
  format : Format
  deriving DecidableEq, Repr

namespace Logger

def of (env : Environment) (l : Logging) : Logger where
  filter := Filter.choose (env.text? "RUST_LOG".toList) l.verbose
  format := Format.choose (env.text? "NO_COLOR".toList) l.json

/-- The line of an event, if the event is allowed. -/
def line? (logger : Logger) (spell : Figure → String) (e : Event) : Option String :=
  if logger.filter.allows e then some (logger.format.line spell e) else none

end Logger

end WorkerSim
