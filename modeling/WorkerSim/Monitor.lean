import WorkerSim.Binary32
import WorkerSim.Diagnostics.Event

/-!
# Monitoring a process

A monitor looks at one process from time to time and remembers the most memory that it has seen. It
has no statistics when it is disabled, and none while the process is not there.
-/

set_option autoImplicit false

namespace WorkerSim

/-- What the system tells of a process at one moment: memory in bytes, the memory of the machine, the
share of a core in tenths of a percent, and how long it has been watched. -/
structure Reading where
  memory : Nat
  machineMemory : Nat
  cpuTenths : Nat
  elapsed : Interval
  deriving DecidableEq, Repr

structure Stats where
  cpuTenths : Nat
  memoryMb : Nat
  shareTenths : Nat
  peakMb : Nat
  elapsed : Interval
  deriving DecidableEq, Repr

structure Monitor where
  enabled : Bool
  processId : Option Nat
  peakMb : Nat
  deriving DecidableEq, Repr

namespace Monitor

/-- A monitor of a process, which may turn out to be unknown. -/
def watch (processId : Option Nat) (enabled : Bool) : Monitor :=
  ⟨enabled && processId.isSome, processId, 0⟩

def megabytes (bytes : Nat) : Nat := bytes / 1024 / 1024

/-- The share of a machine's memory in tenths of a percent, worked out in single precision. -/
def shareTenths (memory machine : Nat) : Nat :=
  if machine = 0 then 0
  else (((Binary32.ofNat memory).div (Binary32.ofNat machine)).mul (Binary32.ofNat 100)).tenths

/-- A fifteenth of a percent is shown as one tenth. -/
example : shareTenths 1 1500 = 1 := by decide

/-- Looks at the process: its statistics if it is there, and the monitor after. -/
def look (m : Monitor) (reading : Option Reading) : Option Stats × Monitor :=
  match m.enabled, reading with
  | true, some r =>
    let memory := megabytes r.memory
    let machine := megabytes r.machineMemory
    let peak := max m.peakMb memory
    (some ⟨r.cpuTenths, memory, shareTenths memory machine, peak, r.elapsed⟩, { m with peakMb := peak })
  | _, _ => (none, m)

end Monitor

namespace Event

def stats (phase : String) (s : Stats) : Event where
  level := .info
  target := partTarget "utils::monitor"
  message := [.words (phase ++ " - CPU: "), .figure (.tenths s.cpuTenths), .words "%, Memory: ",
    .figure (.count s.memoryMb), .words "MB (", .figure (.tenths s.shareTenths), .words "%), Peak: ",
    .figure (.count s.peakMb), .words "MB, Time: ", .figure (.elapsed s.elapsed)]
  fields := []

def finalStats (s : Stats) : Event where
  level := .info
  target := partTarget "utils::monitor"
  message := [.words "Final Stats - Total Time: ", .figure (.elapsed s.elapsed),
    .words ", Peak Memory: ", .figure (.count s.peakMb), .words "MB"]
  fields := []

def ofPhase (s : Stats) : Phase → Event
  | .startup => stats "startup" s
  | .iteration number => stats ("iteration " ++ toString number) s
  | .final => finalStats s

end Event

/-- The event of a note, which needs statistics if the note asks for a look at the process. -/
def Note.event? (stats : Option Stats) : Note → Option Event
  | .loopStarting s => some (.loopStarting s)
  | .failureReported iteration => some (.failureReported iteration)
  | .heartbeatsDone count => some (.heartbeatsDone count)
  | .sample phase => stats.map fun s => .ofPhase s phase

namespace Monitor

/-- What a worker's note becomes, and for a look at the process the monitor after it. -/
def report (m : Monitor) (reading : Option Reading) (n : Note) : Option Event × Monitor :=
  match n with
  | .sample _ => (n.event? (m.look reading).1, (m.look reading).2)
  | _ => (n.event? none, m)

/-- The processes of a system, each with what it tells of itself. -/
abbrev Processes := Nat → Option Reading

inductive Operation
  | watchSelf (enabled : Bool)
  | watch (processId : Nat)
  | isEnabled
  | stats
  | sampleOver (window : Interval)
  | logStats (phase : String)
  | logFinalStats
  deriving DecidableEq, Repr

inductive Answer
  | truth (b : Bool)
  | stats (s : Option Stats)
  | events (es : List Event)
  deriving DecidableEq, Repr

def reading (m : Monitor) (processes : Processes) : Option Reading := m.processId.bind processes

/-- One operation on a monitor, in a system where `self` is the process that it belongs to. -/
def step (processes : Processes) (self : Nat) (m : Monitor) : Operation → Answer × Monitor
  | .watchSelf enabled =>
    let m := watch (some self) enabled
    (.truth m.enabled, m)
  | .watch processId =>
    let m := watch (some processId) true
    (.truth m.enabled, m)
  | .isEnabled => (.truth m.enabled, m)
  | .stats | .sampleOver _ =>
    let (s, m) := m.look (m.reading processes)
    (.stats s, m)
  | .logStats phase =>
    let (s, m) := m.look (m.reading processes)
    (.events (s.map (Event.stats phase)).toList, m)
  | .logFinalStats =>
    let (s, m) := m.look (m.reading processes)
    (.events (s.map Event.finalStats).toList, m)

/-- The answers of a row of operations, each on the monitor that the ones before it left. -/
def answers (processes : Processes) (self : Nat) (m : Monitor) : List Operation → List Answer
  | [] => []
  | op :: ops => (m.step processes self op).1 :: answers processes self (m.step processes self op).2 ops

end Monitor

end WorkerSim
