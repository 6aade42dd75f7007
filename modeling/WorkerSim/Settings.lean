/-!
# Settings

Each worker has its own settings, and a configuration holds both of them together with the
switches for diagnostics. Every field has a default, so a configuration can be given in part.
-/

set_option autoImplicit false

namespace WorkerSim

/-- Settings of the runaway worker; without `maxIterations` it never stops by itself. -/
structure Runaway.Settings where
  workloadSize : UInt64 := 120000
  reportEvery : UInt64 := 200
  maxIterations : Option UInt64 := none
  deriving DecidableEq, Repr

/-- Settings of the recovered worker; `intervalMs` is the pause after each heartbeat. -/
structure Recovered.Settings where
  heartbeats : UInt64 := 199
  intervalMs : UInt64 := 200
  deriving DecidableEq, Repr

structure Logging where
  verbose : Bool := false
  json : Bool := false
  deriving DecidableEq, Repr

structure Monitoring where
  enabled : Bool := false
  deriving DecidableEq, Repr

structure Config where
  runaway : Runaway.Settings := {}
  recovered : Recovered.Settings := {}
  logging : Logging := {}
  monitoring : Monitoring := {}
  deriving DecidableEq, Repr

/-- The two programs: one for each worker. -/
inductive Program
  | runaway
  | recovered
  deriving DecidableEq, Repr

def Program.name : Program → String
  | runaway => "runaway"
  | recovered => "recovered"

end WorkerSim
