import WorkerSim.Proofs.Reports

/-!
# Runs with and without a limit

Without a limit the runaway worker has no end of its own: after any number of iterations it is at the
head of its loop again, unless a line has been refused. A limit only cuts the run short. Up to there
the two runs are in step, with the same lines and the same counter at the head of the loop.
-/

set_option autoImplicit false

namespace WorkerSim

namespace Effect

def isStart : Effect → Bool
  | .noted (.loopStarting _) => true
  | _ => false

def isRefusal : Effect → Bool
  | .refused _ _ => true
  | _ => false

theorem not_isRefusal_of_action (as : List Action) :
    ∀ e ∈ as.map Action.effect, e.isRefusal = false := by
  intro e he
  obtain ⟨a, -, rfl⟩ := List.mem_map.mp he
  cases a <;> rfl

end Effect

namespace Runaway

open Effect

variable {σ : Type} (sink : Sink σ) (s : Settings) (monitored : Bool) (a : σ)

/-- A run on a sink, followed for so many turns, with its record. -/
def follow (turns : Nat) : Outcome × Traced σ :=
  (runFor turns (Outlet.traced sink) s monitored).run { sink := a }

/-- After `n` iterations the run is at the head of its loop, with a counter that says so. -/
structure Loops (n : Nat) (t : Traced σ) (p : Progress) : Prop where
  resumes : ∀ turns, follow sink s monitored a (n + turns) =
    (loop (Outlet.traced sink) s monitored turns p).run t
  counter : p.counter.value = .ofNat n
  iterations : weight turn t.effects = n
  accepted : ∀ e ∈ t.effects, e.isRefusal = false

/-- Within `n` iterations the run has ended with its first line that was refused. -/
structure Stops (n : Nat) (fault : Fault) : Prop where
  outcome : (follow sink s monitored a n).1 = .failed fault
  refusal : ∃ before line, (follow sink s monitored a n).2.effects = before ++ [.refused line fault] ∧
    ∀ e ∈ before, e.isRefusal = false
  ended : ∀ more, follow sink s monitored a (n + more) = follow sink s monitored a n

/-- What a run does up to the end of its `n`-th iteration. -/
def beginning (n : Nat) : List Action :=
  Job.opening monitored (.runaway s) ++ Job.iterations monitored (.runaway s) 0 n

/-- What is on record after `n` iterations. -/
def recorded (n : Nat) : Traced σ :=
  ⟨(sink.feed (Job.transcript (.runaway s) n) a).2, (sink.effects (beginning s monitored n) a).reverse⟩

theorem lines_beginning (n : Nat) :
    Action.lines (beginning s monitored n) = Job.transcript (.runaway s) n :=
  Job.lines_of_iterations monitored (.runaway s) n

theorem weight_beginning (n : Nat) :
    weight turn ((beginning s monitored n).map Action.effect) = n := by
  rw [beginning, List.map_append, weight_append, weight_iterations]
  exact Nat.zero_add n

variable {s}

theorem follow_add (hCheck : s.check = .ok ()) {n : Nat}
    (hLimit : ∀ limit, Job.limit? (.runaway s) = some limit → n ≤ limit) (turns : Nat) :
    follow sink s monitored a (n + turns) =
      match (sink.feed (Job.transcript (.runaway s) n) a).1 with
      | .error fault => (.failed fault, recorded sink s monitored a n)
      | .ok () => (loop (Outlet.traced sink) s monitored turns (Job.progress (.runaway s) n)).run
          (recorded sink s monitored a n) := by
  let o := Outlet.traced sink
  have hLoop : loop o s monitored (n + turns) .start =
      o.perform (Job.iterations monitored (.runaway s) 0 n)
        (loop o s monitored turns (Job.progress (.runaway s) n)) := by
    have hResume := Job.resume_eq_perform o (.runaway s) monitored n turns 0
      (by rwa [Nat.zero_add])
    rwa [Nat.zero_add] at hResume
  have hRun : runFor (n + turns) o s monitored = o.perform (beginning s monitored n)
      (loop o s monitored turns (Job.progress (.runaway s) n)) := by
    rw [beginning, Outlet.perform_append, ← hLoop]
    simp only [runFor, hCheck]
    rfl
  rw [follow, hRun, Traced.run_perform, lines_beginning, List.append_nil]
  rfl

theorem loops_of_feed (hCheck : s.check = .ok ()) {n : Nat}
    (hLimit : ∀ limit, Job.limit? (.runaway s) = some limit → n ≤ limit)
    (hFeed : (sink.feed (Job.transcript (.runaway s) n) a).1 = .ok ()) :
    Loops sink s monitored a n (recorded sink s monitored a n) (Job.progress (.runaway s) n) := by
  have hEffects : (recorded sink s monitored a n).effects =
      (beginning s monitored n).map Action.effect := by
    have hOutturn := sink.outturn_effects (beginning s monitored n) .running a
    rw [lines_beginning, hFeed] at hOutturn
    rw [Traced.effects, recorded, List.reverse_reverse]
    generalize sink.effects (beginning s monitored n) a = es at hOutturn
    cases hOutturn with
    | full _ => rfl
  constructor
  · intro turns
    rw [follow_add sink monitored a hCheck hLimit, hFeed]
  · rfl
  · rw [hEffects, weight_beginning]
  · rw [hEffects]
    exact not_isRefusal_of_action _

theorem stops_of_feed (hCheck : s.check = .ok ()) {n : Nat}
    (hLimit : ∀ limit, Job.limit? (.runaway s) = some limit → n ≤ limit) {fault : Fault}
    (hFeed : (sink.feed (Job.transcript (.runaway s) n) a).1 = .error fault) :
    Stops sink s monitored a n fault := by
  have hFollow (more : Nat) : follow sink s monitored a (n + more) =
      (.failed fault, recorded sink s monitored a n) := by
    rw [follow_add sink monitored a hCheck hLimit, hFeed]
  constructor
  · exact congrArg Prod.fst (hFollow 0)
  · have hOutturn := sink.outturn_effects (beginning s monitored n) .running a
    rw [lines_beginning, hFeed] at hOutturn
    have hNow : follow sink s monitored a n = (.failed fault, recorded sink s monitored a n) :=
      hFollow 0
    rw [hNow, Traced.effects, recorded, List.reverse_reverse]
    generalize sink.effects (beginning s monitored n) a = es at hOutturn
    cases hOutturn with
    | cut _ _ _ => exact ⟨_, _, rfl, not_isRefusal_of_action _⟩
  · intro more
    exact (hFollow more).trans (hFollow 0).symm

theorem check_of_limit {size every limit : UInt64} (h : Settings.check ⟨size, every, none⟩ = .ok ())
    (hLimit : 1 ≤ limit) : Settings.check ⟨size, every, some limit⟩ = .ok () := by
  obtain ⟨hSize, hEvery, -⟩ := (Settings.check_eq_ok_iff _).mp h
  refine (Settings.check_eq_ok_iff _).mpr ⟨hSize, hEvery, fun other hOther => ?_⟩
  obtain rfl := Option.some.inj hOther
  exact hLimit

theorem recorded_limit (size every limit : UInt64) (n : Nat) :
    let t := recorded sink ⟨size, every, none⟩ monitored a n
    let u := recorded sink ⟨size, every, some limit⟩ monitored a n
    u.sink = t.sink ∧ u.effects.filter (!·.isStart) = t.effects.filter (!·.isStart) := by
  intro t u
  refine ⟨rfl, ?_⟩
  have hLines (e : Effect) (hLine : e.line?.isSome = true) : (!e.isStart) = true := by
    cases e <;> first | rfl | cases hLine
  simp only [t, u, Traced.effects, recorded, List.reverse_reverse,
    sink.filter_effects hLines]
  rfl

theorem loop_at_limit {limit : UInt64} (hLimit : s.maxIterations = some limit)
    (hEvery : s.reportEvery ≠ 0) (t : Traced σ) :
    (loop (Outlet.traced sink) s monitored 1 (Job.progress (.runaway s) limit.toNat)).run t =
      (.finished ⟨limit, 1 + limit / s.reportEvery⟩, t) := by
  have hSome := limit?_eq s hLimit
  have hTarget : Outcome.finished (Job.progress (.runaway s) limit.toNat).summary =
      .finished ⟨limit, 1 + limit / s.reportEvery⟩ := by
    rw [← target_eq s hLimit hEvery, Job.target, hSome]
  have hResume := Job.resume_limit hSome 0 (Outlet.traced sink) monitored
  rw [hTarget] at hResume
  exact congrFun hResume t

theorem trace_eq_follow {limit : UInt64} (hLimit : s.maxIterations = some limit) :
    (Job.runaway s).trace sink monitored a = follow sink s monitored a (limit.toNat + 1) := by
  rw [Job.trace, Job.run, Job.runWithin, run, Settings.turns, hLimit]
  rfl

theorem trace_of_limit {size every limit : UInt64}
    (hCheck : Settings.check ⟨size, every, none⟩ = .ok ()) (hLimit : 1 ≤ limit) :
    let whole := (Job.runaway ⟨size, every, some limit⟩).trace sink monitored a
    let cut := follow sink ⟨size, every, none⟩ monitored a limit.toNat
    whole.2.sink = cut.2.sink ∧
    whole.2.effects.filter (!·.isStart) = cut.2.effects.filter (!·.isStart) ∧
    whole.1 = if cut.1 = .running then .finished ⟨limit, 1 + limit / every⟩ else cut.1 := by
  intro whole cut
  have hLimited := check_of_limit hCheck hLimit
  have hEvery : every ≠ 0 := Check.ne_zero_of_one_le ((Settings.check_eq_ok_iff _).mp hCheck).2.1
  obtain ⟨hSink, hEffects⟩ := recorded_limit sink monitored a size every limit limit.toNat
  have hCut := follow_add sink monitored a hCheck (n := limit.toNat) (fun _ hSome => nomatch hSome) 0
  have hWhole := follow_add sink monitored a hLimited (n := limit.toNat)
    (fun other hSome => Nat.le_of_eq (Option.some.inj hSome)) 1
  rw [← trace_eq_follow sink monitored a rfl, loop_at_limit sink monitored rfl hEvery] at hWhole
  -- the lines are the same with and without the limit
  have hLines : Job.transcript (.runaway ⟨size, every, some limit⟩) limit.toNat =
      Job.transcript (.runaway ⟨size, every, none⟩) limit.toNat := rfl
  rw [hLines] at hWhole
  cases hFed : (sink.feed (Job.transcript (.runaway ⟨size, every, none⟩) limit.toNat) a).1 with
  | error fault =>
    rw [hFed] at hCut hWhole
    have hCut : cut = (.failed fault, recorded sink ⟨size, every, none⟩ monitored a limit.toNat) := hCut
    simp only [whole, hCut, hWhole]
    exact ⟨hSink, hEffects, rfl⟩
  | ok _ =>
    rw [hFed] at hCut hWhole
    have hCut : cut = (.running, recorded sink ⟨size, every, none⟩ monitored a limit.toNat) := hCut
    simp only [whole, hCut, hWhole]
    exact ⟨hSink, hEffects, rfl⟩

theorem not_finished_of_endless {size every : UInt64}
    (hCheck : Settings.check ⟨size, every, none⟩ = .ok ()) (n : Nat) (summary : Summary) :
    (follow sink ⟨size, every, none⟩ monitored a n).1 ≠ .finished summary := by
  have hFollow := follow_add sink monitored a hCheck (n := n) (fun _ hSome => nomatch hSome) 0
  rw [Nat.add_zero] at hFollow
  rw [hFollow]
  cases (sink.feed (Job.transcript (.runaway ⟨size, every, none⟩) n) a).1 with
  | error fault =>
    intro hSame
    cases hSame
  | ok _ =>
    intro hSame
    cases hSame

/-- Without a limit the run of the runaway worker never finishes: after any number of iterations it
is at the head of its loop or has stopped with the first line that was refused. With a limit it is in
step with that run, and comes to the same up to there. -/
theorem limit_truncates {size every : UInt64} (hCheck : Settings.check ⟨size, every, none⟩ = .ok ()) :
    let endless : Settings := ⟨size, every, none⟩
    let first := follow sink endless monitored a
    (∀ n, (∀ summary, (first n).1 ≠ .finished summary) ∧
      ((∃ t p, Loops sink endless monitored a n t p) ∨ ∃ fault, Stops sink endless monitored a n fault)) ∧
    ∀ limit : UInt64, 1 ≤ limit →
      let limited : Settings := ⟨size, every, some limit⟩
      let whole := (Job.runaway limited).trace sink monitored a
      let cut := first limit.toNat
      (whole.2.sink = cut.2.sink ∧
        whole.2.effects.filter (!·.isStart) = cut.2.effects.filter (!·.isStart) ∧
        whole.1 = if cut.1 = .running then .finished ⟨limit, 1 + limit / every⟩ else cut.1) ∧
      ∀ n ≤ limit.toNat,
        (∃ t u p, Loops sink endless monitored a n t p ∧ Loops sink limited monitored a n u p ∧
          u.sink = t.sink ∧ u.effects.filter (!·.isStart) = t.effects.filter (!·.isStart)) ∨
        ∃ fault, Stops sink endless monitored a n fault ∧ Stops sink limited monitored a n fault ∧
          whole.1 = .failed fault := by
  intro endless first
  have hEndless (n limit : Nat) (hSome : Job.limit? (.runaway endless) = some limit) : n ≤ limit :=
    nomatch hSome
  refine ⟨fun n => ⟨not_finished_of_endless sink monitored a hCheck n, ?_⟩, fun limit hOne => ?_⟩
  · cases hFed : (sink.feed (Job.transcript (.runaway endless) n) a).1 with
    | ok _ => exact .inl ⟨_, _, loops_of_feed sink monitored a hCheck (hEndless n) hFed⟩
    | error fault => exact .inr ⟨fault, stops_of_feed sink monitored a hCheck (hEndless n) hFed⟩
  · intro limited whole cut
    refine ⟨trace_of_limit sink monitored a hCheck hOne, fun n hLe => ?_⟩
    have hLimited : limited.check = .ok () := check_of_limit hCheck hOne
    have hWithin (other : Nat) (hSome : Job.limit? (.runaway limited) = some other) : n ≤ other :=
      Option.some.inj hSome ▸ hLe
    cases hFed : (sink.feed (Job.transcript (.runaway endless) n) a).1 with
    | ok _ =>
      exact .inl ⟨_, _, _, loops_of_feed sink monitored a hCheck (hEndless n) hFed,
        loops_of_feed sink monitored a hLimited hWithin hFed,
        recorded_limit sink monitored a size every limit n⟩
    | error fault =>
      have hStops := stops_of_feed sink monitored a hLimited hWithin hFed
      refine .inr ⟨fault, stops_of_feed sink monitored a hCheck (hEndless n) hFed, hStops, ?_⟩
      obtain ⟨more, hMore⟩ := Nat.exists_eq_add_of_le (Nat.le_succ_of_le hLe)
      have hWhole : whole = follow sink limited monitored a (limit.toNat + 1) :=
        trace_eq_follow sink monitored a rfl
      rw [hWhole, ← Nat.succ_eq_add_one, hMore, hStops.ended, hStops.outcome]

theorem limit_truncates_default :
    let sink : Sink Unit := fun _ s => (.ok (), s)
    Settings.check ⟨120000, 200, none⟩ = .ok () ∧ (1 : UInt64) ≤ 2 ∧
      (∀ n summary, (follow sink ⟨120000, 200, none⟩ false () n).1 ≠ .finished summary) ∧
      ((Job.runaway ⟨120000, 200, some 2⟩).trace sink false ()).1 = .finished ⟨2, 1⟩ := by
  intro sink
  have hCheck : Settings.check ⟨120000, 200, none⟩ = .ok () := rfl
  obtain ⟨hEndless, hLimit⟩ := limit_truncates sink false () hCheck
  obtain ⟨⟨-, -, hWhole⟩, -⟩ := hLimit 2 (by decide)
  have hCut : (follow sink ⟨120000, 200, none⟩ false () 2).1 = .running := rfl
  refine ⟨hCheck, by decide, fun n => (hEndless n).1, hWhole.trans ?_⟩
  exact if_pos hCut

end Runaway

end WorkerSim
