/-!
# The workload of an iteration

What keeps a core busy: the square roots of the numbers below a size, added up from zero. And which
iterations end with a line: those whose number is a multiple of the distance between two lines.
-/

set_option autoImplicit false

namespace WorkerSim.Workload

/-- The sum of the square roots, in double precision and in ascending order. -/
def sum (size : UInt64) : Float :=
  size.toNat.fold (fun x _ total => total + (UInt64.ofNat x).toFloat.sqrt) 0.0

/-- Whether an iteration ends with a line; the distance is not zero in settings that pass their
checks. -/
def isReport (iteration every : UInt64) : Bool := iteration % every == 0

/-- The same for any distance: with none there is no answer. -/
def isReport? (iteration every : UInt64) : Option Bool :=
  if every = 0 then none else some (isReport iteration every)

theorem isReport_iff (iteration every : UInt64) (h : every ≠ 0) :
    isReport iteration every = true ↔ every.toNat ∣ iteration.toNat := by
  have hpos : every.toNat ≠ 0 := fun hz => h (UInt64.toNat_inj.mp hz)
  rw [isReport, beq_iff_eq, ← UInt64.toNat_inj, UInt64.toNat_mod, Nat.dvd_iff_mod_eq_zero]
  rfl

end WorkerSim.Workload
