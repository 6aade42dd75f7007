import Mathlib.Data.List.TakeWhile
import WorkerSim.Proofs.Course

/-!
# What the checks find

The checks of a job pass exactly if none of its numbers is zero, and what they find otherwise is
always a fault in a value. A text passes if one of its characters is not blank.
-/

set_option autoImplicit false

namespace WorkerSim

/-- Nothing is left of a text without the blanks at its ends exactly if all of it is blank. -/
theorem Text.trim_eq_nil_iff (cs : List Char) : trim cs = [] ↔ ∀ c ∈ cs, isBlank c = true := by
  rw [trim, List.reverse_eq_nil_iff, List.dropWhile_eq_nil_iff]
  constructor
  · intro h
    rw [← List.dropWhile_eq_nil_iff]
    -- what is left at the front starts with a character that is not blank
    by_contra hSome
    have hFirst := List.head_dropWhile_not isBlank hSome
    rw [h _ (List.mem_reverse.mpr (List.head_mem hSome))] at hFirst
    cases hFirst
  · intro h c hMem
    exact h c ((List.dropWhile_sublist isBlank).subset (List.mem_reverse.mp hMem))

namespace Check

theorem notBlank_eq (field value : String) : notBlank field value =
    if Text.isBlankText value.toList then .error (.value field value .blank) else .ok () := by
  have hSame : (Text.trim value.toList).isEmpty = Text.isBlankText value.toList := by
    rw [Bool.eq_iff_iff, List.isEmpty_iff, Text.trim_eq_nil_iff, Text.isBlankText_iff]
  rw [notBlank, hSame]

theorem atLeast_bind_eq_ok_iff (field : String) (value least : UInt64) (next : Except Fault Unit) :
    (atLeast field value least >>= fun _ => next) = .ok () ↔ least ≤ value ∧ next = .ok () := by
  rw [← atLeast_eq_ok_iff field value least]
  cases atLeast field value least with
  | error fault => exact iff_of_false nofun (fun h => nomatch h.1)
  | ok _ => exact ⟨fun h => ⟨rfl, h⟩, fun h => h.2⟩

theorem ne_zero_of_one_le {n : UInt64} (h : 1 ≤ n) : n ≠ 0 := by
  rintro rfl
  exact absurd h (by decide)

def FindsValues (result : Except Fault Unit) : Prop :=
  ∀ fault, result = .error fault → ∃ field given cause, fault = .value field given cause

theorem findsValues_atLeast (field : String) (value least : UInt64) :
    FindsValues (atLeast field value least) := by
  intro fault h
  rw [atLeast] at h
  split at h
  · exact ⟨_, _, _, (Except.error.inj h).symm⟩
  · cases h

theorem findsValues_optionalAtLeast (field : String) (value : Option UInt64) (least : UInt64) :
    FindsValues (optionalAtLeast field value least) := by
  cases value with
  | none => exact fun _ h => nomatch h
  | some value => exact findsValues_atLeast field value least

theorem FindsValues.bind {first next : Except Fault Unit} (hFirst : FindsValues first)
    (hNext : FindsValues next) : FindsValues (first >>= fun _ => next) := by
  cases first with
  | error fault => exact hFirst
  | ok _ => exact hNext

end Check

open Check

theorem Runaway.Settings.check_eq_ok_iff (s : Runaway.Settings) :
    s.check = .ok () ↔ 1 ≤ s.workloadSize ∧ 1 ≤ s.reportEvery ∧
      ∀ limit, s.maxIterations = some limit → 1 ≤ limit := by
  rw [check, atLeast_bind_eq_ok_iff, atLeast_bind_eq_ok_iff]
  cases s.maxIterations with
  | none => simp [optionalAtLeast]
  | some limit => simp [optionalAtLeast, atLeast_eq_ok_iff]

theorem Recovered.Settings.check_eq_ok_iff (s : Recovered.Settings) :
    s.check = .ok () ↔ 1 ≤ s.heartbeats ∧ 1 ≤ s.intervalMs := by
  rw [check, atLeast_bind_eq_ok_iff, atLeast_eq_ok_iff]

theorem Job.findsValues_check (job : Job) : FindsValues job.check := by
  cases job with
  | runaway s =>
    exact (findsValues_atLeast _ _ _).bind
      ((findsValues_atLeast _ _ _).bind (findsValues_optionalAtLeast _ _ _))
  | recovered s => exact (findsValues_atLeast _ _ _).bind (findsValues_atLeast _ _ _)

end WorkerSim
