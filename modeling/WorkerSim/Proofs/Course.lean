import WorkerSim.Worker.Job

/-!
# The course of a run

All that a run of either worker does is to carry out a list of actions, up to the first line that is
refused. The list is the course of its job, and the settings alone decide it. What a worker does in
one iteration depends on nothing but the number of the iteration, so that its counters can be read
off the number of iterations before. This holds on every outlet, in every monad.
-/

set_option autoImplicit false

namespace WorkerSim

inductive Action
  | emit (line : Line)
  | pause (time : Interval)
  | burn (size : UInt64)
  | note (n : Note)
  deriving DecidableEq, Repr

namespace Action

def line? : Action → Option Line
  | .emit line => some line
  | _ => none

def lines (as : List Action) : List Line := as.filterMap line?

theorem lines_append (as bs : List Action) : lines (as ++ bs) = lines as ++ lines bs :=
  List.filterMap_append

end Action

namespace Outlet

variable {m : Type → Type} [Monad m]

/-- Carries out actions in order and then goes on, but gives up with the first line refused. -/
def perform (o : Outlet m) : List Action → m Outcome → m Outcome
  | [], next => next
  | .emit line :: as, next => do
    match ← o.emit line with
    | .error fault => pure (.failed fault)
    | .ok () => perform o as next
  | .pause time :: as, next => do
    o.pause time
    perform o as next
  | .burn size :: as, next => do
    o.burn size
    perform o as next
  | .note n :: as, next => do
    o.note n
    perform o as next

theorem perform_append (o : Outlet m) (as bs : List Action) (next : m Outcome) :
    o.perform (as ++ bs) next = o.perform as (o.perform bs next) := by
  induction as with
  | nil => rfl
  | cons a as ih => cases a <;> simp only [List.cons_append, perform, ih]

end Outlet

namespace Job

def check : Job → Except Fault Unit
  | .runaway s => s.check
  | .recovered s => s.check

def firstLine : Job → Line
  | .runaway _ => .runawayStarted
  | .recovered _ => .healthyRestarted

def line? (job : Job) (number : UInt64) : Option Line :=
  match job with
  | .runaway s => if Workload.isReport number s.reportEvery then some .requestFailed else none
  | .recovered _ => some (.heartbeat number)

def limit? : Job → Option Nat
  | .runaway s => s.maxIterations.map UInt64.toNat
  | .recovered s => some s.heartbeats.toNat

/-- The lines of a job up to the end of its `n`-th iteration. -/
def transcript (job : Job) (n : Nat) : List Line :=
  job.firstLine :: (List.range' 1 n).filterMap fun i => job.line? (.ofNat i)

def progress (job : Job) (n : Nat) : Progress :=
  ⟨⟨.ofNat n⟩, .ofNat (job.transcript n).length⟩

def advance (job : Job) (p : Progress) : Progress :=
  ⟨p.counter.advance,
    if (job.line? p.counter.advance.value).isSome then p.lines + 1 else p.lines⟩

def samples (monitored : Bool) (phase : Phase) : List Action :=
  if monitored then [.note (.sample phase)] else []

def opening (monitored : Bool) (job : Job) : List Action :=
  .emit job.firstLine :: match job with
    | .runaway s => [.note (.loopStarting s)]
    | .recovered _ => samples monitored .startup

def iteration (monitored : Bool) (job : Job) (number : UInt64) : List Action :=
  match job with
  | .runaway s =>
    .burn s.workloadSize ::
      if Workload.isReport number s.reportEvery then
        .emit .requestFailed :: .note (.failureReported number) ::
          samples monitored (.iteration number)
      else []
  | .recovered s => [.emit (.heartbeat number), .pause s.interval]

/-- What a worker does in `k` iterations after the first `n`. -/
def iterations (monitored : Bool) (job : Job) (n k : Nat) : List Action :=
  (List.range' (n + 1) k).flatMap fun i => job.iteration monitored (.ofNat i)

def goesOn (job : Job) (c : Counter) : Bool :=
  match job with
  | .runaway s => !s.reached c
  | .recovered s => c.value < s.heartbeats

def closing (monitored : Bool) : Job → List Action
  | .runaway _ => []
  | .recovered s => .note (.heartbeatsDone s.heartbeats) :: samples monitored .final

/-- How many iterations are followed if an unlimited job is followed for so many turns. -/
def span (turns : Nat) (job : Job) : Nat := job.limit?.getD turns

def course (monitored : Bool) (turns : Nat) (job : Job) : List Action :=
  job.opening monitored ++ job.iterations monitored 0 (job.span turns) ++ job.closing monitored

def target (job : Job) : Outcome :=
  match job.limit? with
  | some n => .finished (job.progress n).summary
  | none => .running

theorem transcript_succ (job : Job) (n : Nat) :
    job.transcript (n + 1) = job.transcript n ++ (job.line? (.ofNat (n + 1))).toList := by
  rw [transcript, List.range'_1_concat, List.filterMap_append, Nat.add_comm 1 n]
  generalize h : job.line? (.ofNat (n + 1)) = line
  cases line <;> simp only [transcript, List.filterMap_cons, h, List.filterMap_nil, List.cons_append,
    Option.toList_none, Option.toList_some]

theorem length_transcript_le (job : Job) (n : Nat) : (job.transcript n).length ≤ n + 1 := by
  have hLength := List.length_filterMap_le (fun i => job.line? (.ofNat i)) (List.range' 1 n)
  rw [List.length_range'] at hLength
  exact Nat.succ_le_succ hLength

theorem transcript_prefix (job : Job) {n k : Nat} (h : n ≤ k) :
    job.transcript n <+: job.transcript k := by
  induction h with
  | refl => exact List.prefix_rfl
  | step _ ih => exact transcript_succ job _ ▸ ih.trans (List.prefix_append _ _)

theorem iterations_zero (monitored : Bool) (job : Job) (n : Nat) :
    job.iterations monitored n 0 = [] := rfl

theorem iterations_succ (monitored : Bool) (job : Job) (n k : Nat) :
    job.iterations monitored n (k + 1) =
      job.iteration monitored (.ofNat (n + 1)) ++ job.iterations monitored (n + 1) k := by
  simp only [iterations, List.range'_succ, List.flatMap_cons]

theorem iterations_concat (monitored : Bool) (job : Job) (n k : Nat) :
    job.iterations monitored n (k + 1) =
      job.iterations monitored n k ++ job.iteration monitored (.ofNat (n + k + 1)) := by
  rw [iterations, List.range'_1_concat, List.flatMap_append, List.flatMap_singleton,
    Nat.add_right_comm]
  rfl

theorem iterations_add (monitored : Bool) (job : Job) (n k l : Nat) :
    job.iterations monitored n (k + l) =
      job.iterations monitored n k ++ job.iterations monitored (n + k) l := by
  rw [iterations, iterations, iterations, ← List.flatMap_append, Nat.add_right_comm,
    List.range'_append_1]

theorem course_of_limit {job : Job} {limit : Nat} (h : job.limit? = some limit) (monitored : Bool)
    (turns more : Nat) : job.course monitored turns = job.course monitored more := by
  rw [course, course, span, span, h, Option.getD_some, Option.getD_some]

theorem course_add {job : Job} (h : job.limit? = none) (monitored : Bool) (turns more : Nat) :
    job.course monitored (turns + more) =
      job.course monitored turns ++ job.iterations monitored turns more := by
  cases job with
  | runaway s =>
    rw [course, course, span, span, h, Option.getD_none, Option.getD_none, iterations_add, closing,
      List.append_nil, List.append_nil, Nat.zero_add, List.append_assoc]
  | recovered s => cases h

theorem lines_samples (monitored : Bool) (phase : Phase) :
    Action.lines (samples monitored phase) = [] := by
  cases monitored <;> rfl

theorem lines_iteration (monitored : Bool) (job : Job) (number : UInt64) :
    Action.lines (job.iteration monitored number) = (job.line? number).toList := by
  cases job with
  | runaway s =>
    rw [iteration, line?]
    split
    · exact congrArg (.requestFailed :: ·) (lines_samples monitored _)
    · rfl
  | recovered s => rfl

theorem lines_iterations (monitored : Bool) (job : Job) (n k : Nat) :
    Action.lines (job.iterations monitored n k) =
      (List.range' (n + 1) k).filterMap fun i => job.line? (.ofNat i) := by
  induction k generalizing n with
  | zero => rfl
  | succ k ih =>
    rw [iterations_succ, Action.lines_append, lines_iteration, ih, List.range'_succ,
      List.filterMap_cons]
    cases job.line? (.ofNat (n + 1)) <;> rfl

theorem lines_opening (monitored : Bool) (job : Job) :
    Action.lines (job.opening monitored) = [job.firstLine] := by
  cases job with
  | runaway s => rfl
  | recovered s => exact congrArg (.healthyRestarted :: ·) (lines_samples monitored _)

theorem lines_closing (monitored : Bool) (job : Job) : Action.lines (job.closing monitored) = [] := by
  cases job with
  | runaway s => rfl
  | recovered s => exact lines_samples monitored _

theorem lines_of_iterations (monitored : Bool) (job : Job) (n : Nat) :
    Action.lines (job.opening monitored ++ job.iterations monitored 0 n) = job.transcript n := by
  rw [Action.lines_append, lines_opening, lines_iterations, transcript]
  rfl

/-- The lines of a course do not depend on whether the worker is monitored. -/
theorem lines_course (monitored : Bool) (turns : Nat) (job : Job) :
    Action.lines (job.course monitored turns) = job.transcript (job.span turns) := by
  rw [course, Action.lines_append, lines_of_iterations, lines_closing, List.append_nil]

theorem progress_zero (job : Job) : job.progress 0 = .start := rfl

theorem value_progress (job : Job) (n : Nat) : (job.progress n).counter.value = .ofNat n := rfl

theorem value_advance_progress (job : Job) (n : Nat) :
    (job.progress n).counter.advance.value = .ofNat (n + 1) := by
  rw [Counter.advance, value_progress, UInt64.ofNat_add]
  rfl

theorem progress_succ (job : Job) (n : Nat) : job.progress (n + 1) = job.advance (job.progress n) := by
  rw [advance, value_advance_progress, progress, transcript_succ]
  cases job.line? (.ofNat (n + 1)) <;> simp [progress, Counter.advance, UInt64.ofNat_add]

theorem toNat_value_progress (job : Job) {n : Nat} (h : n < UInt64.size) :
    (job.progress n).counter.value.toNat = n := UInt64.toNat_ofNat_of_lt' h

theorem limit_lt_size {job : Job} {limit : Nat} (h : job.limit? = some limit) :
    limit < UInt64.size := by
  cases job with
  | runaway s =>
    obtain ⟨n, _, rfl⟩ := Option.map_eq_some_iff.mp h
    exact n.toNat_lt
  | recovered s =>
    obtain rfl := Option.some.inj h
    exact s.heartbeats.toNat_lt

theorem goesOn_progress (job : Job) {n : Nat} (h : ∀ limit, job.limit? = some limit → n ≤ limit) :
    job.goesOn (job.progress n).counter = true ↔ ∀ limit, job.limit? = some limit → n < limit := by
  cases job with
  | runaway s =>
    rw [goesOn, Runaway.Settings.reached]
    cases hLimit : s.maxIterations with
    | none => simp [limit?, hLimit]
    | some limit =>
      have hn := h limit.toNat (by rw [limit?, hLimit]; rfl)
      have hSize := limit.toNat_lt_size
      simp only [limit?, hLimit, Option.map_some, Option.some.injEq, forall_eq', Bool.not_eq_true',
        decide_eq_false_iff_not]
      rw [UInt64.le_iff_toNat_le, toNat_value_progress _ (by omega), Nat.not_le]
  | recovered s =>
    have hn := h s.heartbeats.toNat rfl
    have hSize := s.heartbeats.toNat_lt_size
    simp only [goesOn, limit?, Option.some.injEq, forall_eq', decide_eq_true_iff]
    rw [UInt64.lt_iff_toNat_lt, toNat_value_progress _ (by omega)]

end Job

theorem Outlet.perform_samples {m : Type → Type} [Monad m] (o : Outlet m) (monitored : Bool)
    (phase : Phase) (next : m Outcome) :
    o.perform (Job.samples monitored phase) next =
      if monitored then o.note (.sample phase) >>= fun _ => next else next := by
  cases monitored <;> rfl

namespace Job

variable {m : Type → Type} [Monad m]

/-- What is left of a run at the head of its loop. -/
def resume (turns : Nat) (o : Outlet m) (job : Job) (monitored : Bool) (p : Progress) : m Outcome :=
  match job with
  | .runaway s => Runaway.loop o s monitored turns p
  | .recovered s => do
    match ← Recovered.loop o s p with
    | .error fault => pure (.failed fault)
    | .ok p =>
      o.note (.heartbeatsDone p.counter.value)
      if monitored then o.note (.sample .final)
      pure (.finished p.summary)

/-- How many times a run comes to the head of its loop. -/
def turns (unlimited : Nat) (job : Job) : Nat :=
  match job.limit? with
  | some limit => limit + 1
  | none => unlimited

theorem runWithin_of_error {job : Job} {fault : Fault} (h : job.check = .error fault) (turns : Nat)
    (o : Outlet m) (monitored : Bool) :
    job.runWithin turns o monitored = pure (.failed fault) := by
  cases job with
  | runaway s =>
    have hCheck : s.check = .error fault := h
    simp only [runWithin, Runaway.run, Runaway.runFor, hCheck]
  | recovered s =>
    have hCheck : s.check = .error fault := h
    simp only [runWithin, Recovered.run, hCheck]

theorem runWithin_eq_resume {job : Job} (h : job.check = .ok ()) (unlimited : Nat) (o : Outlet m)
    (monitored : Bool) :
    job.runWithin unlimited o monitored =
      o.perform (job.opening monitored)
        (job.resume (job.turns unlimited) o monitored .start) := by
  cases job with
  | runaway s =>
    have hCheck : s.check = .ok () := h
    have hTurns : s.turns unlimited = turns unlimited (.runaway s) := by
      rw [Runaway.Settings.turns, turns, limit?]
      cases s.maxIterations <;> rfl
    simp only [runWithin, Runaway.run, Runaway.runFor, hCheck, hTurns]
    rfl
  | recovered s =>
    have hCheck : s.check = .ok () := h
    simp only [runWithin, Recovered.run, hCheck, opening, Outlet.perform, Outlet.perform_samples]
    rfl

theorem resume_of_goesOn [LawfulMonad m] {job : Job} {p : Progress} (h : job.goesOn p.counter = true)
    (turns : Nat) (o : Outlet m) (monitored : Bool) :
    job.resume (turns + 1) o monitored p =
      o.perform (job.iteration monitored p.counter.advance.value)
        (job.resume turns o monitored (job.advance p)) := by
  cases job with
  | runaway s =>
    have hReached : s.reached p.counter = false := Bool.not_eq_true' _ ▸ h
    rw [resume, Runaway.loop, if_neg (by rw [hReached]; exact Bool.false_ne_true)]
    by_cases hReport : Workload.isReport p.counter.advance.value s.reportEvery = true
    · simp only [hReport, if_true, iteration, Outlet.perform, Outlet.perform_samples, advance, line?,
        Option.isSome_some]
      rfl
    · simp only [hReport, iteration, Outlet.perform, advance, line?]
      rfl
  | recovered s =>
    rw [resume, Recovered.loop, dif_pos (of_decide_eq_true h)]
    simp only [iteration, Outlet.perform, advance, line?, Option.isSome_some, if_true, bind_assoc]
    congr 1
    funext result
    cases result with
    | error fault => rw [pure_bind]
    | ok _ => exact bind_assoc _ _ _

/-- A worker iterates as long as it has turns and does not find its limit reached. -/
theorem resume_eq_perform [LawfulMonad m] (o : Outlet m) (job : Job) (monitored : Bool)
    (k turns n : Nat) (h : ∀ limit, job.limit? = some limit → n + k ≤ limit) :
    job.resume (k + turns) o monitored (job.progress n) =
      o.perform (job.iterations monitored n k)
        (job.resume turns o monitored (job.progress (n + k))) := by
  -- what is known of the counter after `n` iterations carries the induction on those to come
  induction k generalizing n with
  | zero => rw [iterations_zero, Nat.zero_add, Nat.add_zero, Outlet.perform]
  | succ k ih =>
    have hGoesOn : job.goesOn (job.progress n).counter = true :=
      (goesOn_progress _ fun limit hLimit => by have := h limit hLimit; omega).mpr
        fun limit hLimit => by have := h limit hLimit; omega
    rw [Nat.add_right_comm, resume_of_goesOn hGoesOn, ← progress_succ, value_advance_progress,
      iterations_succ, Outlet.perform_append,
      ih (n + 1) (fun limit hLimit => by have := h limit hLimit; omega), Nat.succ_add_eq_add_succ]

theorem resume_limit [LawfulMonad m] {job : Job} {limit : Nat} (h : job.limit? = some limit)
    (turns : Nat) (o : Outlet m) (monitored : Bool) :
    job.resume (turns + 1) o monitored (job.progress limit) =
      o.perform (job.closing monitored) (pure (.finished (job.progress limit).summary)) := by
  have hDone : ¬ job.goesOn (job.progress limit).counter = true := by
    rw [goesOn_progress _ fun limit' hLimit => (Option.some.inj (h.symm.trans hLimit)) ▸ Nat.le_refl _]
    exact fun hLess => Nat.lt_irrefl _ (hLess limit h)
  cases job with
  | runaway s =>
    have hReached : s.reached (progress (.runaway s) limit).counter = true := by
      simpa [goesOn] using hDone
    rw [resume, Runaway.loop, if_pos hReached]
    rfl
  | recovered s =>
    obtain rfl := Option.some.inj h
    rw [resume, Recovered.loop, dif_neg (by simpa [goesOn] using hDone), pure_bind]
    simp only [closing, Outlet.perform, Outlet.perform_samples, value_progress, UInt64.ofNat_toNat]

/-- A run carries out the course of its job, if the settings pass their checks, and nothing else. -/
theorem runWithin_eq_perform [LawfulMonad m] (turns : Nat) (o : Outlet m) (job : Job)
    (monitored : Bool) :
    job.runWithin turns o monitored =
      match job.check with
      | .error fault => pure (.failed fault)
      | .ok () => o.perform (job.course monitored turns) (pure job.target) := by
  cases hCheck : job.check with
  | error fault => exact runWithin_of_error hCheck turns o monitored
  | ok _ =>
    simp only [runWithin_eq_resume hCheck, course, Outlet.perform_append, ← progress_zero job]
    cases hLimit : job.limit? with
    | none =>
      have hLoop := job.resume_eq_perform o monitored turns 0 0 (by simp [hLimit])
      simp only [Job.turns, span, target, hLimit, Option.getD_none]
      rw [← Nat.add_zero turns, hLoop]
      cases job with
      | runaway s => rfl
      | recovered s => cases hLimit
    | some limit =>
      have hLoop := job.resume_eq_perform o monitored limit 1 0 (by simp [hLimit])
      rw [Job.turns, span, target, hLimit]
      simp only [Option.getD_some]
      rw [hLoop, Nat.zero_add, resume_limit hLimit]

end Job

end WorkerSim
