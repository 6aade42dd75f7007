import WorkerSim.Check
import WorkerSim.Worker.Outlet

/-!
# The recovered worker

It says that it has restarted, then emits its heartbeats, numbered from one, with a pause after each
of them, and is done.
-/

set_option autoImplicit false

namespace WorkerSim.Recovered

def Settings.interval (s : Settings) : Interval := ⟨s.intervalMs⟩

variable {m : Type → Type} [Monad m]

theorem heartbeatsLeft_lt {c : Counter} {heartbeats : UInt64} (h : c.value < heartbeats) :
    heartbeats.toNat - c.advance.value.toNat < heartbeats.toNat - c.value.toNat := by
  have hlt := UInt64.lt_iff_toNat_lt.mp h
  have hmax := heartbeats.toNat_lt
  have : c.advance.value.toNat = c.value.toNat + 1 := by
    simp only [Counter.advance, UInt64.toNat_add, UInt64.toNat_one]
    omega
  omega

@[specialize]
def loop (o : Outlet m) (s : Settings) (p : Progress) : m (Except Fault Progress) :=
  if _h : p.counter.value < s.heartbeats then do
    let counter := p.counter.advance
    match ← o.emit (.heartbeat counter.value) with
    | .error fault => pure (.error fault)
    | .ok () =>
      o.pause s.interval
      loop o s ⟨counter, p.lines + 1⟩
  else pure (.ok p)
termination_by s.heartbeats.toNat - p.counter.value.toNat
decreasing_by exact heartbeatsLeft_lt ‹_›

@[specialize]
def run (o : Outlet m) (s : Settings) (monitored : Bool) : m Outcome :=
  match s.check with
  | .error fault => pure (.failed fault)
  | .ok () => do
    match ← o.emit .healthyRestarted with
    | .error fault => pure (.failed fault)
    | .ok () =>
      if monitored then o.note (.sample .startup)
      match ← loop o s .start with
      | .error fault => pure (.failed fault)
      | .ok p =>
        o.note (.heartbeatsDone p.counter.value)
        if monitored then o.note (.sample .final)
        pure (.finished p.summary)

end WorkerSim.Recovered
