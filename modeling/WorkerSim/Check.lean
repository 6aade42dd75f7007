import WorkerSim.Fault
import WorkerSim.Settings
import WorkerSim.Text.Blank

/-!
# Checks

Numbers that must not be too small and texts that must not be blank. Settings pass if each of their
numbers is at least one; the first that is not, in the order of the fields, is the fault.
-/

set_option autoImplicit false

namespace WorkerSim

namespace Check

def atLeast (field : String) (value least : UInt64) : Except Fault Unit :=
  if value < least then .error (.value field (toString value) (.below least)) else .ok ()

def optionalAtLeast (field : String) (value : Option UInt64) (least : UInt64) : Except Fault Unit :=
  match value with
  | some value => atLeast field value least
  | none => .ok ()

def notBlank (field value : String) : Except Fault Unit :=
  if (Text.trim value.toList).isEmpty then .error (.value field value .blank) else .ok ()

theorem atLeast_eq_ok_iff (field : String) (value least : UInt64) :
    atLeast field value least = .ok () ↔ least ≤ value := by
  simp only [atLeast]
  split
  · rename_i h
    simp [UInt64.not_le.mpr h]
  · rename_i h
    simp [UInt64.not_lt.mp h]

end Check

open Check

def Runaway.Settings.check (s : Runaway.Settings) : Except Fault Unit := do
  atLeast "runaway.workload_size" s.workloadSize 1
  atLeast "runaway.report_every" s.reportEvery 1
  optionalAtLeast "runaway.max_iterations" s.maxIterations 1

def Recovered.Settings.check (s : Recovered.Settings) : Except Fault Unit := do
  atLeast "recovered.heartbeats" s.heartbeats 1
  atLeast "recovered.interval_ms" s.intervalMs 1

def Config.check (c : Config) : Except Fault Unit := do
  c.runaway.check
  c.recovered.check

end WorkerSim
