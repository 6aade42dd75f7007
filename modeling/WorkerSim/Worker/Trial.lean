import WorkerSim.Monitor
import WorkerSim.Worker.Trace
import WorkerSim.Writer.Script

/-!
# Trials

A trial runs a job on a scripted writer and keeps everything that can be seen of it.
-/

set_option autoImplicit false

namespace WorkerSim

structure Trial where
  job : Job
  outcome : Outcome
  writer : Script.State
  effects : List Effect

namespace Trial

def run (script : Script) (job : Job) (monitored : Bool) : Trial :=
  let (outcome, traced) := job.trace script.writer.emit monitored {}
  ⟨job, outcome, traced.sink, traced.effects⟩

/-- The lines that came through, each with the time since the start. -/
def lines (t : Trial) : List (Nat × Line) := Effect.acceptedFrom 0 t.effects

def elapsed (t : Trial) : Nat := Effect.totalTime t.effects

/-- The events of notes, each on the monitor that the ones before it left; the process always gives
the same reading. -/
def eventsFrom (reading : Reading) (m : Monitor) : List Note → List Event
  | [] => []
  | n :: ns =>
    (m.report (some reading) n).1.toList ++ eventsFrom reading (m.report (some reading) n).2 ns

def events (reading : Reading) (t : Trial) : List Event :=
  eventsFrom reading (Monitor.watch (some 0) true) (t.effects.filterMap Effect.note?)

end Trial

end WorkerSim
