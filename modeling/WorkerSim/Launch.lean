import WorkerSim.Check
import WorkerSim.Config
import WorkerSim.Flags.Reader

/-!
# From flags and files to settings

A flag overrides the file, and the file overrides the defaults. A file has to pass its checks as a
whole before anything overrides it; the settings that a program runs with are checked again. The
switches of the command line and of the file add up.
-/

set_option autoImplicit false

namespace WorkerSim

/-- What a program is to do: run its worker with these settings. -/
inductive Job
  | runaway (settings : Runaway.Settings)
  | recovered (settings : Recovered.Settings)
  deriving DecidableEq, Repr

namespace Flags

/-- The configuration that the flags point to, or the default. -/
def load (f : Flags) (env : Environment) (fs : FileSystem) : Except Fault Config :=
  match f.config with
  | none => .ok {}
  | some path => do
    Check.notBlank "config" (String.ofList path)
    let config ← Config.ofFile env fs path
    config.check
    return config

def logging (f : Flags) (c : Config) : Logging :=
  ⟨f.verbose || c.logging.verbose, f.logJson || c.logging.json⟩

def monitored (f : Flags) (c : Config) : Bool := f.monitor || c.monitoring.enabled

def runawaySettings (f : Flags) (c : Config) : Runaway.Settings where
  workloadSize := f.workloadSize.getD c.runaway.workloadSize
  reportEvery := f.reportEvery.getD c.runaway.reportEvery
  maxIterations := f.maxIterations.or c.runaway.maxIterations

def recoveredSettings (f : Flags) (c : Config) : Recovered.Settings where
  heartbeats := f.heartbeats.getD c.recovered.heartbeats
  intervalMs := f.intervalMs.getD c.recovered.intervalMs

/-- The job of a program under a configuration, if its settings pass their checks. -/
def job (f : Flags) (program : Program) (c : Config) : Except Fault Job :=
  match program with
  | .runaway => do
    (f.runawaySettings c).check
    return .runaway (f.runawaySettings c)
  | .recovered => do
    (f.recoveredSettings c).check
    return .recovered (f.recoveredSettings c)

end Flags

/-- What a configuration and flags on top of it come to. -/
structure Launch where
  logging : Logging
  monitored : Bool
  job : Except Fault Job

def Launch.of (program : Program) (f : Flags) (c : Config) : Launch :=
  ⟨f.logging c, f.monitored c, f.job program c⟩

end WorkerSim
