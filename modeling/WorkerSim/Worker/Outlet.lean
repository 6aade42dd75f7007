import WorkerSim.Counter
import WorkerSim.Fault
import WorkerSim.Interval
import WorkerSim.Line
import WorkerSim.Settings

/-!
# What workers do to the world

A worker emits lines, pauses, keeps a core busy, and notes what it does for whoever watches. An
outlet carries all of this out in a monad of its own, so the same worker runs against the real world
and against a model of it. Only an emit can fail.
-/

set_option autoImplicit false

namespace WorkerSim

/-- When the process is looked at. -/
inductive Phase
  | startup
  | iteration (number : UInt64)
  | final
  deriving DecidableEq, Repr

inductive Note
  | loopStarting (settings : Runaway.Settings)
  | failureReported (iteration : UInt64)
  | heartbeatsDone (count : UInt64)
  | sample (phase : Phase)
  deriving DecidableEq, Repr

structure Outlet (m : Type → Type) where
  emit : Line → m (Except Fault Unit)
  pause : Interval → m Unit
  burn : UInt64 → m Unit
  note : Note → m Unit

/-- How far a worker has come: its counter, and how many lines it has emitted, the first included. -/
structure Progress where
  counter : Counter
  lines : UInt64
  deriving DecidableEq, Repr

/-- How far a worker is after its first line. -/
def Progress.start : Progress := ⟨.start, 1⟩

structure Summary where
  iterations : UInt64
  linesEmitted : UInt64
  deriving DecidableEq, Repr

def Progress.summary (p : Progress) : Summary := ⟨p.counter.value, p.lines⟩

/-- How a run ended, unless it is still going on. -/
inductive Outcome
  | finished (summary : Summary)
  | failed (fault : Fault)
  | running
  deriving DecidableEq, Repr

end WorkerSim
