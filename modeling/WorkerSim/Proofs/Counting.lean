import WorkerSim.Proofs.Heartbeats
import WorkerSim.Proofs.Reports

/-!
# Whether the counts fit

A worker counts its iterations and its lines in 64 bits, and nothing keeps the counts from wrapping.
They are right on every sink that refuses a line early enough; on any other sink they are right
exactly if the job is limited and its lines can be counted.
-/

set_option autoImplicit false

namespace WorkerSim

def Sink.accepting : Sink Unit := fun _ s => (.ok (), s)

theorem Sink.feed_accepting (lines : List Line) : accepting.feed lines () = (.ok (), ()) := by
  induction lines with
  | nil => rfl
  | cons line lines ih => exact ih

namespace Job

variable {σ : Type}

/-- The states in which a run comes to the head of its loop: that of the sink and that of the worker. -/
inductive Reaches (sink : Sink σ) (job : Job) (a : σ) : σ → Progress → Prop
  | start {b : σ} : job.check = .ok () → sink job.firstLine a = (.ok (), b) →
      Reaches sink job a b .start
  | next {b c : σ} {p : Progress} : Reaches sink job a b p → job.goesOn p.counter = true →
      sink.feed (job.line? p.counter.advance.value).toList b = (.ok (), c) →
      Reaches sink job a c (job.advance p)

/-- Whether all additions of a run stay below the size of the counts, so that each iteration has a
greater number than the one before and the count that is returned is that of the lines. -/
structure Counts (sink : Sink σ) (job : Job) (a : σ) : Prop where
  counter_fits : ∀ b p, job.Reaches sink a b p → job.goesOn p.counter = true →
    p.counter.value.toNat + 1 < UInt64.size
  lines_fit : ∀ b c p line, job.Reaches sink a b p → job.goesOn p.counter = true →
    job.line? p.counter.advance.value = some line → sink line b = (.ok (), c) →
    p.lines.toNat + 1 < UInt64.size
  counter_increases : ∀ b p, job.Reaches sink a b p → job.goesOn p.counter = true →
    p.counter.value < p.counter.advance.value
  lines_counted : ∀ monitored summary, (job.trace sink monitored a).1 = .finished summary →
    summary.linesEmitted.toNat =
      (Effect.acceptedFrom 0 (job.trace sink monitored a).2.effects).length

def IsCountable : Job → Prop
  | .runaway s => ∃ limit, s.maxIterations = some limit ∧
      limit.toNat / s.reportEvery.toNat + 1 < UInt64.size
  | .recovered s => s.heartbeats.toNat + 1 < UInt64.size

theorem isCountable_iff {job : Job} (h : job.check = .ok ()) :
    job.IsCountable ↔
      ∃ limit, job.limit? = some limit ∧ (job.transcript limit).length < UInt64.size := by
  cases job with
  | runaway s =>
    have hEvery : s.reportEvery ≠ 0 := Check.ne_zero_of_one_le (s.check_eq_ok_iff.mp h).2.1
    constructor
    · rintro ⟨limit, hLimit, hFits⟩
      refine ⟨limit.toNat, Runaway.limit?_eq s hLimit, ?_⟩
      rwa [Runaway.length_transcript s hLimit hEvery]
    · rintro ⟨_, hSome, hFits⟩
      obtain ⟨limit, hLimit, rfl⟩ := Option.map_eq_some_iff.mp hSome
      rw [Runaway.length_transcript s hLimit hEvery] at hFits
      exact ⟨limit, hLimit, hFits⟩
  | recovered s =>
    constructor
    · intro hFits
      refine ⟨s.heartbeats.toNat, rfl, ?_⟩
      rwa [Recovered.length_transcript]
    · rintro ⟨_, hSome, hFits⟩
      obtain rfl := Option.some.inj hSome
      rwa [Recovered.length_transcript] at hFits

theorem feed_transcript_zero (sink : Sink σ) (job : Job) (a : σ) :
    sink.feed (job.transcript 0) a = sink job.firstLine a := sink.feed_singleton job.firstLine a

theorem feed_transcript_succ {sink : Sink σ} {job : Job} {a b c : σ} {n : Nat}
    (h : sink.feed (job.transcript n) a = (.ok (), b)) :
    sink.feed (job.transcript (n + 1)) a = (.ok (), c) ↔
      sink.feed (job.line? (.ofNat (n + 1))).toList b = (.ok (), c) := by
  rw [transcript_succ, Sink.feed_append, h]

theorem reaches_iff {sink : Sink σ} {job : Job} {a b : σ} {p : Progress} :
    job.Reaches sink a b p ↔ job.check = .ok () ∧
      ∃ n, (∀ limit, job.limit? = some limit → n ≤ limit) ∧
        sink.feed (job.transcript n) a = (.ok (), b) ∧ p = job.progress n := by
  constructor
  · intro h
    induction h with
    | start hCheck hFirst =>
      exact ⟨hCheck, 0, fun _ _ => Nat.zero_le _, (feed_transcript_zero sink _ a).trans hFirst, rfl⟩
    | next _ hGoesOn hLine ih =>
      obtain ⟨hCheck, n, hLimit, hFeed, rfl⟩ := ih
      rw [value_advance_progress] at hLine
      exact ⟨hCheck, n + 1, (job.goesOn_progress hLimit).mp hGoesOn,
        (feed_transcript_succ hFeed).mpr hLine, (job.progress_succ n).symm⟩
  · rintro ⟨hCheck, n, hLimit, hFeed, rfl⟩
    induction n generalizing b with
    | zero =>
      exact .start hCheck ((feed_transcript_zero sink job a).symm.trans hFeed)
    | succ n ih =>
      obtain ⟨c, hBefore⟩ := Sink.feed_of_prefix (job.transcript_prefix (Nat.le_succ n)) hFeed
      have hLess : ∀ limit, job.limit? = some limit → n < limit := hLimit
      have hReaches := ih (fun limit hSome => Nat.le_of_lt (hLess limit hSome)) hBefore
      have hGoesOn :=
        (job.goesOn_progress fun limit hSome => Nat.le_of_lt (hLess limit hSome)).mpr hLess
      rw [progress_succ]
      refine hReaches.next hGoesOn ?_
      rw [value_advance_progress]
      exact (feed_transcript_succ hBefore).mp hFeed

/-- The head of the loop is where a run has come to: what is left of it is what the worker does from
there. -/
theorem Reaches.run_eq {α : Type} {o : Outlet (StateM α)} {part : α → σ} {sink : Sink σ} {job : Job}
    {x : α} {b : σ} {p : Progress} (h : job.Reaches sink (part x) b p) (hFeeds : o.Feeds part sink)
    (monitored : Bool) :
    ∃ turns left y, part y = b ∧
      (job.runWithin turns o monitored).run x = (job.resume (left + 1) o monitored p).run y := by
  obtain ⟨hCheck, n, hLimit, hFeed, rfl⟩ := reaches_iff.mp h
  obtain ⟨left, hTurns⟩ : ∃ left, job.turns (n + 1) = n + (left + 1) := by
    rw [turns]
    cases hSome : job.limit? with
    | none => exact ⟨0, rfl⟩
    | some limit =>
      refine ⟨limit - n, ?_⟩
      have hLe := hLimit limit hSome
      simp only
      omega
  have hLines := job.lines_of_iterations monitored n
  obtain ⟨y, hPart, hRun⟩ := hFeeds.run_perform_of_ok (hLines ▸ hFeed)
    (job.resume (left + 1) o monitored (job.progress n))
  have hLoop := job.resume_eq_perform o monitored n (left + 1) 0 (by rwa [Nat.zero_add])
  refine ⟨n + 1, left, y, hPart, ?_⟩
  rw [← hRun, runWithin_eq_resume hCheck, hTurns, ← progress_zero job, hLoop, Outlet.perform_append,
    Nat.zero_add]

/-- From the head of the loop a worker ends its run, or has a line refused, or comes to the head of
the loop again. -/
theorem Reaches.resume_cases {α : Type} {o : Outlet (StateM α)} {part : α → σ} {sink : Sink σ}
    {job : Job} {a : σ} {y : α} {p : Progress} (h : job.Reaches sink a (part y) p)
    (hFeeds : o.Feeds part sink) (left : Nat) (monitored : Bool) :
    let result := (job.resume (left + 1) o monitored p).run y
    (job.goesOn p.counter = false ∧ result.1 = .finished p.summary) ∨
    (job.goesOn p.counter = true ∧ ∃ fault, result.1 = .failed fault) ∨
    (job.goesOn p.counter = true ∧ ∃ z, job.Reaches sink a (part z) (job.advance p) ∧
      result = (job.resume left o monitored (job.advance p)).run z) := by
  intro result
  cases hGoesOn : job.goesOn p.counter with
  | false =>
    obtain ⟨_, n, hLimit, _, rfl⟩ := reaches_iff.mp h
    have hDone := mt (job.goesOn_progress hLimit).mpr (Bool.eq_false_iff.mp hGoesOn)
    simp only [Classical.not_forall, Nat.not_lt] at hDone
    obtain ⟨limit, hSome, hLe⟩ := hDone
    obtain rfl := Nat.le_antisymm hLe (hLimit limit hSome)
    refine .inl ⟨rfl, ?_⟩
    simp only [result]
    rw [resume_limit hSome, (hFeeds.perform _ _ _).1, lines_closing]
    rfl
  | true =>
    have hRun := hFeeds.run_perform (job.iteration monitored p.counter.advance.value)
      (job.resume left o monitored (job.advance p)) y
    rw [← resume_of_goesOn hGoesOn, lines_iteration] at hRun
    cases hFeed : sink.feed (job.line? p.counter.advance.value).toList (part y) with
    | mk fed c =>
      rw [hFeed] at hRun
      cases fed with
      | error fault => exact .inr (.inl ⟨rfl, fault, hRun.1⟩)
      | ok _ =>
        obtain ⟨z, rfl, hResult⟩ := hRun
        exact .inr (.inr ⟨rfl, z, h.next hGoesOn hFeed, hResult⟩)

theorem length_acceptedFrom (now : Nat) (as : List Action) :
    (Effect.acceptedFrom now (as.map Action.effect)).length = (Action.lines as).length := by
  induction as generalizing now with
  | nil => rfl
  | cons a as ih =>
    cases a with
    | emit line => exact congrArg Nat.succ (ih now)
    | pause time => exact ih _
    | burn size => exact ih _
    | note n => exact ih _

theorem trace_of_finished {sink : Sink σ} {job : Job} {monitored : Bool} {a : σ} {summary : Summary}
    (hCheck : job.check = .ok ()) (h : (job.trace sink monitored a).1 = .finished summary) :
    ∃ limit b, job.limit? = some limit ∧ sink.feed (job.transcript limit) a = (.ok (), b) ∧
      summary = (job.progress limit).summary ∧
      (Effect.acceptedFrom 0 (job.trace sink monitored a).2.effects).length =
        (job.transcript limit).length := by
  obtain ⟨hFeed, hOutcome, hEffects⟩ | ⟨_, _, _, _, _, _, _, hFailed, _⟩ :=
    (job.trace_outturn sink monitored a hCheck).offers_eq Effect.turn
  · rw [lines_course] at hFeed
    rw [hOutcome, target] at h
    cases hSome : job.limit? with
    | none =>
      rw [hSome] at h
      cases h
    | some limit =>
      rw [hSome] at h
      rw [span, hSome, Option.getD_some] at hFeed
      refine ⟨limit, _, rfl, hFeed, (Outcome.finished.inj h).symm, ?_⟩
      rw [hEffects, length_acceptedFrom, lines_course, span, hSome, Option.getD_some]
  · rw [hFailed] at h
    cases h

theorem toNat_lines_progress (job : Job) {n : Nat} (h : (job.transcript n).length < UInt64.size) :
    (job.progress n).lines.toNat = (job.transcript n).length := UInt64.toNat_ofNat_of_lt' h

theorem length_transcript_succ {job : Job} {n : Nat} {line : Line}
    (h : job.line? (.ofNat (n + 1)) = some line) :
    (job.transcript (n + 1)).length = (job.transcript n).length + 1 := by
  rw [transcript_succ, h, List.length_append]
  rfl

theorem span_lt_size (job : Job) {turns : Nat} (h : turns < UInt64.size) :
    job.span turns < UInt64.size := by
  rw [span]
  cases hSome : job.limit? with
  | none => exact h
  | some limit => exact limit_lt_size hSome

theorem counts_of_fits {sink : Sink σ} {job : Job} {a : σ} (hCheck : job.check = .ok ())
    (hCounter : ∀ n b, sink.feed (job.transcript n) a = (.ok (), b) →
      (∀ limit, job.limit? = some limit → n < limit) → n + 1 < UInt64.size)
    (hLines : ∀ n b, sink.feed (job.transcript n) a = (.ok (), b) →
      (∀ limit, job.limit? = some limit → n ≤ limit) → (job.transcript n).length < UInt64.size) :
    job.Counts sink a := by
  have hValue (b p) (h : job.Reaches sink a b p) (hGoesOn : job.goesOn p.counter = true) :
      ∃ n, p = job.progress n ∧ p.counter.value.toNat = n ∧ n + 1 < UInt64.size ∧
        (∀ limit, job.limit? = some limit → n < limit) ∧
        sink.feed (job.transcript n) a = (.ok (), b) := by
    obtain ⟨-, n, hLimit, hFeed, rfl⟩ := reaches_iff.mp h
    have hLess := (job.goesOn_progress hLimit).mp hGoesOn
    have hSize := hCounter n b hFeed hLess
    exact ⟨n, rfl, job.toNat_value_progress (Nat.lt_of_succ_lt hSize), hSize, hLess, hFeed⟩
  constructor
  · intro b p h hGoesOn
    obtain ⟨n, -, hn, hSize, -⟩ := hValue b p h hGoesOn
    rwa [hn]
  · intro b c p line h hGoesOn hLine hAccepted
    obtain ⟨n, rfl, -, -, hLess, hFeed⟩ := hValue b p h hGoesOn
    rw [value_advance_progress] at hLine
    have hNext : sink.feed (job.transcript (n + 1)) a = (.ok (), c) := by
      rw [feed_transcript_succ hFeed, hLine, Option.toList_some, Sink.feed, hAccepted]
      rfl
    have hFits := hLines (n + 1) c hNext hLess
    rw [length_transcript_succ hLine] at hFits
    rwa [toNat_lines_progress job (Nat.lt_of_succ_lt hFits)]
  · intro b p h hGoesOn
    obtain ⟨n, rfl, hn, hSize, -⟩ := hValue b p h hGoesOn
    rw [UInt64.lt_iff_toNat_lt, hn, value_advance_progress, UInt64.toNat_ofNat_of_lt' hSize]
    exact Nat.lt_succ_self n
  · intro monitored summary h
    obtain ⟨limit, b, hSome, hFeed, rfl, hCount⟩ := trace_of_finished hCheck h
    have hFits := hLines limit b hFeed fun limit' hSome' =>
      Option.some.inj (hSome.symm.trans hSome') ▸ Nat.le_refl _
    rw [hCount, ← toNat_lines_progress job hFits]
    rfl

/-- Where no line is refused that could still be counted, the counts of a job that is not countable
are full before its run is at its end. -/
theorem not_counts_of_feed {sink : Sink σ} {job : Job} {a b : σ} (hCheck : job.check = .ok ())
    (hCountable : ¬ job.IsCountable)
    (hFeed : sink.feed (job.transcript (job.span (UInt64.size - 1))) a = (.ok (), b)) :
    ¬ job.Counts sink a := by
  intro hCounts
  rw [isCountable_iff hCheck] at hCountable
  cases hSome : job.limit? with
  | none =>
    rw [span, hSome, Option.getD_none] at hFeed
    -- without a limit, the run comes to the last iteration whose number can be counted
    have hReaches : job.Reaches sink a b (job.progress (UInt64.size - 1)) :=
      reaches_iff.mpr ⟨hCheck, _, by simp [hSome], hFeed, rfl⟩
    have hGoesOn := (job.goesOn_progress (by simp [hSome])).mpr
      (by simp [hSome] : ∀ limit, job.limit? = some limit → UInt64.size - 1 < limit)
    have hFits := hCounts.counter_fits _ _ hReaches hGoesOn
    rw [job.toNat_value_progress (by decide)] at hFits
    exact absurd hFits (by decide)
  | some limit =>
    rw [span, hSome, Option.getD_some] at hFeed
    -- there are more lines than can be counted only if each iteration has one, the last one too
    have hFull : UInt64.size ≤ (job.transcript limit).length :=
      Nat.le_of_not_lt fun hFits => hCountable ⟨limit, hSome, hFits⟩
    have hSize := limit_lt_size hSome
    have hLength := job.length_transcript_le limit
    obtain ⟨n, rfl⟩ : ∃ n, limit = n + 1 := ⟨limit - 1, by simp only [UInt64.size] at hFull; omega⟩
    have hLess : ∀ limit, job.limit? = some limit → n < limit := fun limit hSome' =>
      Option.some.inj (hSome.symm.trans hSome') ▸ Nat.lt_succ_self n
    have hLe : ∀ limit, job.limit? = some limit → n ≤ limit := fun limit hSome' =>
      Nat.le_of_lt (hLess limit hSome')
    obtain ⟨c, hBefore⟩ := Sink.feed_of_prefix (job.transcript_prefix (Nat.le_succ n)) hFeed
    have hReaches := reaches_iff.mpr ⟨hCheck, n, hLe, hBefore, rfl⟩
    have hGoesOn := (job.goesOn_progress hLe).mpr hLess
    have hFits : (job.transcript n).length < UInt64.size :=
      Nat.lt_of_le_of_lt (job.length_transcript_le n) hSize
    have hLast := (feed_transcript_succ hBefore).mp hFeed
    cases hLine : job.line? (.ofNat (n + 1)) with
    | none =>
      rw [transcript_succ, hLine, Option.toList_none, List.append_nil] at hFull
      exact Nat.lt_irrefl _ (Nat.lt_of_lt_of_le hFits hFull)
    | some line =>
      rw [length_transcript_succ hLine] at hFull
      rw [hLine, Option.toList_some, Sink.feed_singleton] at hLast
      have hNext := hCounts.lines_fit c b _ line hReaches hGoesOn
        (by rw [value_advance_progress, hLine]) hLast
      rw [toNat_lines_progress job hFits] at hNext
      exact Nat.lt_irrefl _ (Nat.lt_of_lt_of_le hNext hFull)

/-- The counts of a run are right exactly if its lines can be counted, or one of those that can be
counted is refused. -/
theorem counts_iff {sink : Sink σ} {job : Job} {a : σ} (hCheck : job.check = .ok ()) :
    job.Counts sink a ↔ job.IsCountable ∨
      ∃ fault, (sink.feed (job.transcript (job.span (UInt64.size - 1))) a).1 = .error fault := by
  constructor
  · intro hCounts
    by_cases hCountable : job.IsCountable
    · exact .inl hCountable
    · refine .inr ?_
      cases hFeed : sink.feed (job.transcript (job.span (UInt64.size - 1))) a with
      | mk result b =>
        cases result with
        | error fault => exact ⟨fault, rfl⟩
        | ok _ => exact absurd hCounts (not_counts_of_feed hCheck hCountable hFeed)
  · rintro (hCountable | ⟨fault, hRefused⟩)
    · obtain ⟨limit, hSome, hFits⟩ := (isCountable_iff hCheck).mp hCountable
      refine counts_of_fits hCheck ?_ ?_
      · intro n _ _ hLess
        exact Nat.lt_of_le_of_lt (hLess limit hSome) (limit_lt_size hSome)
      · intro n _ _ hLe
        exact Nat.lt_of_le_of_lt (job.transcript_prefix (hLe limit hSome)).length_le hFits
    -- the refused line comes before those that cannot be counted
    · have hBefore {n b} (hFeed : sink.feed (job.transcript n) a = (.ok (), b)) :
          n + 1 < UInt64.size := by
        refine Nat.lt_of_le_of_lt (Nat.succ_le_of_lt ?_) (job.span_lt_size (by decide : UInt64.size - 1 < _))
        refine Nat.lt_of_not_le fun hLe => ?_
        obtain ⟨_, hAccepted⟩ := Sink.feed_of_prefix (job.transcript_prefix hLe) hFeed
        rw [hAccepted] at hRefused
        cases hRefused
      refine counts_of_fits hCheck (fun n _ hFeed _ => hBefore hFeed) ?_
      intro n _ hFeed _
      exact Nat.lt_of_le_of_lt (job.length_transcript_le n) (hBefore hFeed)

theorem counts_default_heartbeats :
    Job.check (.recovered {}) = .ok () ∧ Job.Counts Sink.accepting (.recovered {}) () :=
  ⟨rfl, (counts_iff rfl).mpr (.inl (by decide : 199 + 1 < UInt64.size))⟩

/-- On a sink that accepts everything, the counter of the runaway worker with its default settings
comes back to zero, and so does the count of the lines after as many heartbeats as can be counted. -/
theorem counts_wrap :
    Job.check (.runaway {}) = .ok () ∧ ¬ Job.Counts Sink.accepting (.runaway {}) () ∧
      (∃ p, Job.Reaches Sink.accepting (.runaway {}) () () p ∧
        Job.goesOn (.runaway {}) p.counter = true ∧ p.counter.value.toNat + 1 = UInt64.size ∧
        p.counter.advance.value = 0) ∧
      Job.check (.recovered ⟨18446744073709551615, 1⟩) = .ok () ∧
      ((Job.recovered ⟨18446744073709551615, 1⟩).trace Sink.accepting false ()).1 =
        .finished ⟨18446744073709551615, 0⟩ := by
  have hFeed := Sink.feed_accepting (Job.transcript (.runaway {}) (UInt64.size - 1))
  refine ⟨rfl, ?_, ?_, rfl, ?_⟩
  · exact not_counts_of_feed rfl (fun ⟨_, hLimit, _⟩ => nomatch hLimit) hFeed
  · refine ⟨progress (.runaway {}) (UInt64.size - 1), ?_, rfl, ?_, ?_⟩
    · exact reaches_iff.mpr ⟨rfl, UInt64.size - 1, fun _ hLimit => (nomatch hLimit), hFeed, rfl⟩
    · rw [toNat_value_progress _ (by decide)]
      rfl
    · rw [value_advance_progress]
      rfl
  · have hOutcome :=
      ((Job.recovered ⟨18446744073709551615, 1⟩).trace_of_ok Sink.accepting false () rfl).1
    rw [hOutcome, Sink.feed_accepting, Recovered.target_eq]
    rfl

end Job

end WorkerSim
