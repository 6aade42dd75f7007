import WorkerSim.Worker.Job
import WorkerSim.Writer

/-!
# Traces

A run against any sink, with a record of what the worker did. Time passes in the pauses alone, so the
record tells when everything happened.
-/

set_option autoImplicit false

namespace WorkerSim

inductive Effect
  | accepted (line : Line)
  | refused (line : Line) (fault : Fault)
  | paused (time : Interval)
  | burnt (size : UInt64)
  | noted (note : Note)
  deriving DecidableEq, Repr

/-- The state of a sink, and what was done so far, the latest first. -/
structure Traced (σ : Type) where
  sink : σ
  latest : List Effect := []

namespace Traced

variable {σ : Type}

def add (t : Traced σ) (e : Effect) : Traced σ := { t with latest := e :: t.latest }

/-- What was done, in order. -/
def effects (t : Traced σ) : List Effect := t.latest.reverse

def emit (sink : Sink σ) (line : Line) (t : Traced σ) : Except Fault Unit × Traced σ :=
  match sink line t.sink with
  | (.ok (), s) => (.ok (), { t with sink := s }.add (.accepted line))
  | (.error fault, s) => (.error fault, { t with sink := s }.add (.refused line fault))

end Traced

/-- An outlet onto a sink that records everything. -/
def Outlet.traced {σ : Type} (sink : Sink σ) : Outlet (StateM (Traced σ)) where
  emit := Traced.emit sink
  pause time := modify (·.add (.paused time))
  burn size := modify (·.add (.burnt size))
  note n := modify (·.add (.noted n))

/-- The outcome of a job on a sink in the given state, and its trace. -/
def Job.trace {σ : Type} (sink : Sink σ) (job : Job) (monitored : Bool) (s : σ) : Outcome × Traced σ :=
  (job.run (Outlet.traced sink) monitored).run { sink := s }

namespace Effect

/-- The time that passes in an effect, in milliseconds. -/
def duration : Effect → Nat
  | paused time => time.paused.millis.toNat
  | _ => 0

/-- The lines that were accepted among the effects, each with the time since the start. -/
def acceptedFrom (now : Nat) : List Effect → List (Nat × Line)
  | [] => []
  | .accepted line :: es => (now, line) :: acceptedFrom now es
  | e :: es => acceptedFrom (now + e.duration) es

def totalTime : List Effect → Nat
  | [] => 0
  | e :: es => e.duration + totalTime es

def note? : Effect → Option Note
  | noted n => some n
  | _ => none

end Effect

end WorkerSim
