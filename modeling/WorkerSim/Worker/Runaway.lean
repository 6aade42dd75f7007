import WorkerSim.Check
import WorkerSim.Worker.Outlet
import WorkerSim.Workload

/-!
# The runaway worker

It says that it has started, then iterates over its workload, and after every so many iterations
says that a request has failed. With a limit it stops there; without one only a failing emit ends
it. A loop is followed for a number of turns, which bounds it where the settings do not.
-/

set_option autoImplicit false

namespace WorkerSim.Runaway

def Settings.reached (s : Settings) (c : Counter) : Bool :=
  match s.maxIterations with
  | some limit => limit ≤ c.value
  | none => false

variable {m : Type → Type} [Monad m]

@[specialize]
def loop (o : Outlet m) (s : Settings) (monitored : Bool) : Nat → Progress → m Outcome
  | 0, _ => pure .running
  | turns + 1, p =>
    if s.reached p.counter then pure (.finished p.summary)
    else do
      let counter := p.counter.advance
      o.burn s.workloadSize
      if Workload.isReport counter.value s.reportEvery then
        match ← o.emit .requestFailed with
        | .error fault => pure (.failed fault)
        | .ok () =>
          o.note (.failureReported counter.value)
          if monitored then o.note (.sample (.iteration counter.value))
          loop o s monitored turns ⟨counter, p.lines + 1⟩
      else loop o s monitored turns ⟨counter, p.lines⟩

/-- The first so many turns of a run. -/
@[specialize]
def runFor (turns : Nat) (o : Outlet m) (s : Settings) (monitored : Bool) : m Outcome :=
  match s.check with
  | .error fault => pure (.failed fault)
  | .ok () => do
    match ← o.emit .runawayStarted with
    | .error fault => pure (.failed fault)
    | .ok () =>
      o.note (.loopStarting s)
      loop o s monitored turns .start

/-- The turns of a run: the last one of a limited run finds the limit reached, and an unlimited run is
followed for as many as are given. -/
def Settings.turns (s : Settings) (unlimited : Nat) : Nat :=
  match s.maxIterations with
  | some limit => limit.toNat + 1
  | none => unlimited

@[specialize]
def run (unlimited : Nat) (o : Outlet m) (s : Settings) (monitored : Bool) : m Outcome :=
  runFor (s.turns unlimited) o s monitored

end WorkerSim.Runaway
