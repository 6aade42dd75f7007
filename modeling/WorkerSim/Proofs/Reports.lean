import WorkerSim.Proofs.Check
import WorkerSim.Proofs.Sink

/-!
# When the runaway worker reports

A limited run reports in the iterations whose number is a multiple of the distance between two
reports and in no others, so that their number is a quotient. On any sink, the lines that a run
offers are those of its schedule, up to the first that is refused.
-/

set_option autoImplicit false

namespace WorkerSim

def Effect.turn : Effect → Nat
  | .burnt _ => 1
  | _ => 0

namespace Runaway

open Effect

/-- The lines of a limited run, each with the number of its iteration. The first one stands before
all iterations. -/
def schedule (every limit : Nat) : List (Nat × Line) :=
  (0, .runawayStarted) :: (List.range (limit / every)).map fun n => ((n + 1) * every, .requestFailed)

theorem snd_schedule (every limit : Nat) : (schedule every limit).map Prod.snd =
    .runawayStarted :: List.replicate (limit / every) .requestFailed := by
  simp only [schedule, List.map_cons, List.map_map, Function.comp_def, List.map_const',
    List.length_range]

theorem limit?_eq (s : Settings) {limit : UInt64} (hLimit : s.maxIterations = some limit) :
    Job.limit? (.runaway s) = some limit.toNat := by
  rw [Job.limit?, hLimit]
  rfl

theorem isReport_ofNat (s : Settings) {n : Nat} (h : n < UInt64.size) (hEvery : s.reportEvery ≠ 0) :
    Workload.isReport (.ofNat n) s.reportEvery = decide (s.reportEvery.toNat ∣ n) := by
  rw [Bool.eq_iff_iff, Workload.isReport_iff _ _ hEvery, UInt64.toNat_ofNat_of_lt' h,
    decide_eq_true_iff]

theorem weight_iteration (s : Settings) (monitored : Bool) (number : UInt64) :
    weight turn ((Job.iteration monitored (.runaway s) number).map Action.effect) = 1 := by
  rw [Job.iteration]
  cases Workload.isReport number s.reportEvery <;> cases monitored <;> rfl

theorem offers_iteration (s : Settings) (monitored : Bool) (number : UInt64) (before : Nat) :
    offersFrom turn before ((Job.iteration monitored (.runaway s) number).map Action.effect) =
      if Workload.isReport number s.reportEvery then [(before + 1, .requestFailed)] else [] := by
  rw [Job.iteration]
  cases Workload.isReport number s.reportEvery <;> cases monitored <;> rfl

theorem weight_iterations (s : Settings) (monitored : Bool) (n k : Nat) :
    weight turn ((Job.iterations monitored (.runaway s) n k).map Action.effect) = k := by
  induction k generalizing n with
  | zero => rfl
  | succ k ih =>
    rw [Job.iterations_succ, List.map_append, weight_append, weight_iteration, ih, Nat.add_comm]

theorem offers_iterations (s : Settings) (monitored : Bool) {n : Nat} (h : n < UInt64.size)
    (hEvery : s.reportEvery ≠ 0) :
    offers turn ((Job.iterations monitored (.runaway s) 0 n).map Action.effect) =
      (List.range (n / s.reportEvery.toNat)).map
        fun i => ((i + 1) * s.reportEvery.toNat, .requestFailed) := by
  induction n with
  | zero => rw [Nat.zero_div]; rfl
  | succ n ih =>
    have hSucc : n + 1 < UInt64.size := h
    rw [Job.iterations_concat, List.map_append, offers, offersFrom_append, weight_iterations,
      ← offers, ih (Nat.lt_of_succ_lt h), Nat.zero_add, offers_iteration,
      isReport_ofNat s hSucc hEvery, Nat.succ_div]
    by_cases hDvd : s.reportEvery.toNat ∣ n + 1
    · have hLast : (n / s.reportEvery.toNat + 1) * s.reportEvery.toNat = n + 1 := by
        have hDiv := Nat.div_mul_cancel hDvd
        rwa [Nat.succ_div, if_pos hDvd] at hDiv
      simp [hDvd, List.range_succ, hLast]
    · simp [hDvd]

theorem offers_course (s : Settings) (monitored : Bool) (turns : Nat) {limit : UInt64}
    (hLimit : s.maxIterations = some limit) (hEvery : s.reportEvery ≠ 0) :
    offers turn ((Job.course monitored turns (.runaway s)).map Action.effect) =
      schedule s.reportEvery.toNat limit.toNat := by
  have hSpan : Job.span turns (.runaway s) = limit.toNat := by
    rw [Job.span, limit?_eq s hLimit, Option.getD_some]
  have hOffers := offers_iterations s monitored limit.toNat_lt_size hEvery
  rw [Job.course, Job.closing, List.append_nil, hSpan, schedule, ← hOffers]
  rfl

theorem weight_course (s : Settings) (monitored : Bool) (turns : Nat) :
    weight turn ((Job.course monitored turns (.runaway s)).map Action.effect) =
      Job.span turns (.runaway s) := by
  rw [Job.course, Job.closing, List.append_nil, List.map_append, weight_append, weight_iterations]
  exact Nat.zero_add _

theorem lines_course_eq (s : Settings) (monitored : Bool) (turns : Nat) {limit : UInt64}
    (hLimit : s.maxIterations = some limit) (hEvery : s.reportEvery ≠ 0) :
    Action.lines (Job.course monitored turns (.runaway s)) =
      .runawayStarted :: List.replicate (limit.toNat / s.reportEvery.toNat) .requestFailed := by
  rw [← snd_offersFrom turn 0, ← offers, offers_course s monitored turns hLimit hEvery, snd_schedule]

theorem length_transcript (s : Settings) {limit : UInt64} (hLimit : s.maxIterations = some limit)
    (hEvery : s.reportEvery ≠ 0) :
    (Job.transcript (.runaway s) limit.toNat).length = limit.toNat / s.reportEvery.toNat + 1 := by
  have hLines := Job.lines_course false 0 (.runaway s)
  rw [lines_course_eq s false 0 hLimit hEvery, Job.span, limit?_eq s hLimit, Option.getD_some] at hLines
  rw [← hLines, List.length_cons, List.length_replicate]

theorem target_eq (s : Settings) {limit : UInt64} (hLimit : s.maxIterations = some limit)
    (hEvery : s.reportEvery ≠ 0) :
    Job.target (.runaway s) = .finished ⟨limit, 1 + limit / s.reportEvery⟩ := by
  have hCount : (Job.transcript (.runaway s) limit.toNat).length =
      1 + (limit / s.reportEvery).toNat := by
    rw [length_transcript s hLimit hEvery, UInt64.toNat_div, Nat.add_comm]
  rw [Job.target, limit?_eq s hLimit]
  simp only [Progress.summary, Job.progress, hCount, UInt64.ofNat_toNat, UInt64.ofNat_add]
  rfl

/-- A limited run on any sink. With settings that do not pass their checks nothing is done at all.
Otherwise the lines of the schedule are offered, each in its iteration, until one is refused; the
counts are what they should be, in 64 bits, if none is. -/
theorem trace_limited {σ : Type} (sink : Sink σ) (size every limit : UInt64) (monitored : Bool)
    (a : σ) :
    let s : Settings := ⟨size, every, some limit⟩
    let r := (Job.runaway s).trace sink monitored a
    let lines := .runawayStarted :: List.replicate (limit.toNat / every.toNat) .requestFailed
    match s.check with
    | .error fault =>
      (∃ field given cause, fault = .value field given cause) ∧ r = (.failed fault, { sink := a })
    | .ok () =>
      every ≠ 0 ∧
      ((sink.feed lines a = (.ok (), r.2.sink) ∧ r.1 = .finished ⟨limit, 1 + limit / every⟩ ∧
          offers turn r.2.effects = schedule every.toNat limit.toNat ∧
          weight turn r.2.effects = limit.toNat) ∨
        ∃ (k : Nat) (line : Line) (fault : Fault) (b : σ), lines[k]? = some line ∧
          sink.feed (lines.take k) a = (.ok (), b) ∧ sink line b = (.error fault, r.2.sink) ∧
          r.1 = .failed fault ∧
          offers turn r.2.effects = (schedule every.toNat limit.toNat).take (k + 1)) := by
  intro s r lines
  cases hCheck : s.check with
  | error fault =>
    exact ⟨Job.findsValues_check (.runaway s) fault hCheck, Job.trace_of_error sink _ monitored a hCheck⟩
  | ok _ =>
    have hEvery : every ≠ 0 := Check.ne_zero_of_one_le (s.check_eq_ok_iff.mp hCheck).2.1
    have hLines : Action.lines (Job.course monitored UInt64.size (.runaway s)) = lines :=
      lines_course_eq s monitored UInt64.size rfl hEvery
    refine ⟨hEvery, ?_⟩
    obtain ⟨hFeed, hOutcome, hEffects⟩ | ⟨k, line, fault, b, hLine, hFeed, hRefused, hOutcome, hOffers⟩ :=
      (Job.trace_outturn sink (.runaway s) monitored a hCheck).offers_eq turn
    · refine .inl ⟨hLines ▸ hFeed, hOutcome.trans (target_eq s rfl hEvery), ?_, ?_⟩
      · rw [hEffects, offers_course s monitored _ rfl hEvery]
      · rw [hEffects, weight_course]
        rfl
    · refine .inr ⟨k, line, fault, b, hLines ▸ hLine, hLines ▸ hFeed, hRefused, hOutcome, ?_⟩
      rw [hOffers, offers_course s monitored _ rfl hEvery]

end Runaway

end WorkerSim
