import WorkerSim.Proofs.Check
import WorkerSim.Proofs.Sink

/-!
# The rhythm of the recovered worker

Lines and pauses alternate: one pause follows every heartbeat, also the last one, and none precedes
the first. A line that is refused ends the run before the pause that would have followed.
-/

set_option autoImplicit false

namespace WorkerSim

namespace Effect

/-- The time that a pause asks for, in milliseconds. -/
def requested : Effect → Nat
  | .paused time => time.millis.toNat
  | _ => 0

def pause : Effect → Nat
  | .paused _ => 1
  | _ => 0

end Effect

namespace Recovered

open Effect

def beats (s : Settings) (n : Nat) : List Effect :=
  (List.range' 1 n).flatMap fun i => [.accepted (.heartbeat (.ofNat i)), .paused s.interval]

def lines (n : Nat) : List Line :=
  .healthyRestarted :: (List.range' 1 n).map fun i => .heartbeat (.ofNat i)

/-- The same lines, each with the time that is spent in pauses before it. -/
def schedule (s : Settings) (n : Nat) : List (Nat × Line) :=
  (0, .healthyRestarted) ::
    (List.range' 1 n).map fun i => ((i - 1) * s.intervalMs.toNat, .heartbeat (.ofNat i))

def looks (monitored : Bool) (phase : Phase) : List Effect :=
  if monitored then [.noted (.sample phase)] else []

theorem beats_succ (s : Settings) (n : Nat) : beats s (n + 1) =
    beats s n ++ [.accepted (.heartbeat (.ofNat (n + 1))), .paused s.interval] := by
  rw [beats, List.range'_1_concat, List.flatMap_append, List.flatMap_singleton, Nat.add_comm 1 n]
  rfl

theorem effects_iterations (s : Settings) (monitored : Bool) (n : Nat) :
    (Job.iterations monitored (.recovered s) 0 n).map Action.effect = beats s n := by
  induction n with
  | zero => rfl
  | succ n ih =>
    rw [Job.iterations_concat, List.map_append, ih, beats_succ, Nat.zero_add]
    rfl

theorem effects_samples (monitored : Bool) (phase : Phase) :
    (Job.samples monitored phase).map Action.effect = looks monitored phase := by
  cases monitored <;> rfl

theorem effects_course (s : Settings) (monitored : Bool) (turns : Nat) :
    (Job.course monitored turns (.recovered s)).map Action.effect =
      .accepted .healthyRestarted :: (looks monitored .startup ++ beats s s.heartbeats.toNat ++
        .noted (.heartbeatsDone s.heartbeats) :: looks monitored .final) := by
  rw [Job.course, List.map_append, List.map_append, Job.span, Job.limit?, Option.getD_some,
    effects_iterations, Job.opening, Job.closing, List.map_cons, List.map_cons, effects_samples,
    effects_samples]
  rfl

theorem transcript_eq (s : Settings) (n : Nat) : Job.transcript (.recovered s) n = lines n :=
  congrArg (List.cons Line.healthyRestarted) (congrFun List.filterMap_eq_map _)

theorem length_transcript (s : Settings) (n : Nat) :
    (Job.transcript (.recovered s) n).length = n + 1 := by
  rw [transcript_eq, lines, List.length_cons, List.length_map, List.length_range']

theorem weight_beats (s : Settings) (n : Nat) : weight pause (beats s n) = n ∧
    weight requested (beats s n) = n * s.intervalMs.toNat := by
  induction n with
  | zero => simp [beats, weight]
  | succ n ih =>
    rw [beats_succ, weight_append, weight_append, ih.1, ih.2, Nat.succ_mul]
    exact ⟨rfl, by simp [weight, requested, Settings.interval]⟩

theorem offers_beats (s : Settings) (n : Nat) : offers requested (beats s n) =
    (List.range' 1 n).map fun i => ((i - 1) * s.intervalMs.toNat, .heartbeat (.ofNat i)) := by
  induction n with
  | zero => rfl
  | succ n ih =>
    rw [beats_succ, offers, offersFrom_append, ← offers, ih, (weight_beats s n).2,
      List.range'_1_concat, List.map_append, Nat.add_comm 1 n, Nat.zero_add]
    rfl

/-- A line in the loop can only be refused between two rounds of a heartbeat and its pause. -/
theorem eq_iterations_of_emit (s : Settings) (monitored : Bool) {closing before after : List Action}
    {line : Line} (hClosing : Action.lines closing = []) (n k : Nat)
    (h : Job.iterations monitored (.recovered s) n k ++ closing = before ++ .emit line :: after) :
    ∃ i < k, before = Job.iterations monitored (.recovered s) n i ∧
      line = .heartbeat (.ofNat (n + i + 1)) := by
  induction k generalizing n before with
  | zero =>
    have hLine := congrArg Action.lines h
    rw [Job.iterations_zero, List.nil_append, hClosing, Action.lines_append] at hLine
    simp [Action.lines, Action.line?] at hLine
  | succ k ih =>
    rw [Job.iterations_succ] at h
    change Action.emit (.heartbeat (.ofNat (n + 1))) :: Action.pause s.interval ::
      (Job.iterations monitored (.recovered s) (n + 1) k ++ closing) = _ at h
    cases before with
    | nil =>
      obtain ⟨hLine, -⟩ := List.cons.inj h
      exact ⟨0, Nat.succ_pos k, rfl, (Action.emit.inj hLine).symm⟩
    | cons first before =>
      obtain ⟨rfl, hTail⟩ := List.cons.inj h
      cases before with
      | nil => cases (List.cons.inj hTail).1
      | cons second before =>
        obtain ⟨rfl, hRest⟩ := List.cons.inj hTail
        obtain ⟨i, hi, rfl, rfl⟩ := ih (n + 1) hRest
        refine ⟨i + 1, Nat.succ_lt_succ hi, ?_, by rw [Nat.add_right_comm n 1 i]; rfl⟩
        rw [Job.iterations_succ]
        rfl

theorem before_of_course (s : Settings) (monitored : Bool) (turns : Nat) {before after : List Action}
    {line : Line} (h : Job.course monitored turns (.recovered s) = before ++ .emit line :: after) :
    (before = [] ∧ line = .healthyRestarted) ∨
      ∃ i < s.heartbeats.toNat,
        before = Job.opening monitored (.recovered s) ++ Job.iterations monitored (.recovered s) 0 i ∧
        line = .heartbeat (.ofNat (i + 1)) := by
  rw [Job.course, List.append_assoc] at h
  have hClosing := Job.lines_closing monitored (.recovered s)
  cases before with
  | nil =>
    obtain ⟨hLine, -⟩ := List.cons.inj h
    exact .inl ⟨rfl, (Action.emit.inj hLine).symm⟩
  | cons first before =>
    obtain ⟨rfl, hTail⟩ := List.cons.inj h
    cases monitored with
    | false =>
      obtain ⟨i, hi, rfl, rfl⟩ := eq_iterations_of_emit s false hClosing 0 _ hTail
      exact .inr ⟨i, hi, rfl, by rw [Nat.zero_add]⟩
    | true =>
      cases before with
      | nil => cases (List.cons.inj hTail).1
      | cons second before =>
        obtain ⟨rfl, hRest⟩ := List.cons.inj hTail
        obtain ⟨i, hi, rfl, rfl⟩ := eq_iterations_of_emit s true hClosing 0 _ hRest
        exact .inr ⟨i, hi, rfl, by rw [Nat.zero_add]⟩

theorem effects_before (s : Settings) (monitored : Bool) (n : Nat) :
    (Job.opening monitored (.recovered s) ++
      Job.iterations monitored (.recovered s) 0 n).map Action.effect =
        .accepted .healthyRestarted :: (looks monitored .startup ++ beats s n) := by
  rw [List.map_append, effects_iterations, Job.opening, List.map_cons, effects_samples]
  rfl

theorem offersFrom_looks (monitored : Bool) (phase : Phase) (before : Nat) :
    offersFrom requested before (looks monitored phase) = [] := by
  cases monitored <;> rfl

theorem weight_looks (weigh : Effect → Nat) (hNoted : ∀ n, weigh (.noted n) = 0) (monitored : Bool)
    (phase : Phase) : weight weigh (looks monitored phase) = 0 := by
  cases monitored
  · rfl
  · exact hNoted _

theorem offers_course (s : Settings) (monitored : Bool) (turns : Nat) :
    offers requested ((Job.course monitored turns (.recovered s)).map Action.effect) =
      schedule s s.heartbeats.toNat := by
  have hBeats := offers_beats s s.heartbeats.toNat
  rw [effects_course, offers, offersFrom, offersFrom_append, offersFrom_append, offersFrom_looks,
    weight_looks requested (fun _ => rfl), offersFrom, offersFrom_looks, schedule, ← hBeats]
  simp [offers, line?, requested]

theorem weight_course (weigh : Effect → Nat) (s : Settings) (monitored : Bool) (turns : Nat)
    (hLine : ∀ line, weigh (.accepted line) = 0) (hNoted : ∀ n, weigh (.noted n) = 0) :
    weight weigh ((Job.course monitored turns (.recovered s)).map Action.effect) =
      weight weigh (beats s s.heartbeats.toNat) := by
  simp only [effects_course, weight, weight_append, weight_looks weigh hNoted, hLine, hNoted,
    Nat.zero_add, Nat.add_zero]

theorem target_eq (s : Settings) :
    Job.target (.recovered s) = .finished ⟨s.heartbeats, 1 + s.heartbeats⟩ := by
  rw [Job.target, Job.limit?]
  simp only [Progress.summary, Job.progress, length_transcript, UInt64.ofNat_toNat, UInt64.ofNat_add]
  rw [UInt64.add_comm]
  rfl

/-- The three exits of a run: at the end, before the first line, or at a heartbeat. -/
theorem exits_of_outturn {σ : Type} {sink : Sink σ} {s : Settings} {monitored : Bool} {turns : Nat}
    {a b : σ} {outcome : Outcome} {es : List Effect}
    (h : sink.Outturn (Job.course monitored turns (.recovered s)) (Job.target (.recovered s)) a
      outcome b es) :
    (sink.feed (lines s.heartbeats.toNat) a = (.ok (), b) ∧
        outcome = .finished ⟨s.heartbeats, 1 + s.heartbeats⟩ ∧
        es = .accepted .healthyRestarted :: (looks monitored .startup ++ beats s s.heartbeats.toNat ++
          .noted (.heartbeatsDone s.heartbeats) :: looks monitored .final) ∧
        offers requested es = schedule s s.heartbeats.toNat ∧
        weight pause es = s.heartbeats.toNat ∧
        weight requested es = s.heartbeats.toNat * s.intervalMs.toNat) ∨
      (∃ fault, sink .healthyRestarted a = (.error fault, b) ∧ outcome = .failed fault ∧
        es = [.refused .healthyRestarted fault]) ∨
      ∃ i < s.heartbeats.toNat, ∃ (fault : Fault) (t : σ), sink.feed (lines i) a = (.ok (), t) ∧
        sink (.heartbeat (.ofNat (i + 1))) t = (.error fault, b) ∧ outcome = .failed fault ∧
        es = .accepted .healthyRestarted :: (looks monitored .startup ++ beats s i ++
          [.refused (.heartbeat (.ofNat (i + 1))) fault]) ∧
        weight pause es = i := by
  cases h with
  | full hFeed =>
    rw [Job.lines_course, transcript_eq] at hFeed
    refine .inl ⟨hFeed, target_eq s, effects_course s monitored turns, offers_course s monitored turns,
      ?_, ?_⟩
    · rw [weight_course pause s monitored turns (fun _ => rfl) (fun _ => rfl), (weight_beats s _).1]
    · rw [weight_course requested s monitored turns (fun _ => rfl) (fun _ => rfl),
        (weight_beats s _).2]
  | cut hCourse hFeed hRefused =>
    obtain ⟨rfl, rfl⟩ | ⟨i, hi, rfl, rfl⟩ := before_of_course s monitored turns hCourse
    · obtain rfl := (Prod.mk.inj hFeed).2
      exact .inr (.inl ⟨_, hRefused, rfl, rfl⟩)
    · rw [Job.lines_of_iterations, transcript_eq] at hFeed
      refine .inr (.inr ⟨i, hi, _, _, hFeed, hRefused, rfl, ?_, ?_⟩)
      · rw [effects_before]
        rfl
      · rw [effects_before, weight_append, weight, weight_append,
          weight_looks pause (fun _ => rfl), (weight_beats s i).1]
        simp [weight, pause]

/-- A run on any sink. With settings that do not pass their checks nothing is done at all. Otherwise
monitoring changes nothing but what is noted, every line is offered when the schedule says, and the
run has one of three exits. -/
theorem trace_rhythm {σ : Type} (sink : Sink σ) (s : Settings) (monitored : Bool) (a : σ) :
    let r := (Job.recovered s).trace sink monitored a
    let quiet := (Job.recovered s).trace sink false a
    let n := s.heartbeats.toNat
    match s.check with
    | .error fault =>
      (∃ field given cause, fault = .value field given cause) ∧ r = (.failed fault, { sink := a })
    | .ok () =>
      r.1 = quiet.1 ∧ r.2.sink = quiet.2.sink ∧
      r.2.effects.filter (!·.isNote) = quiet.2.effects.filter (!·.isNote) ∧
      offers requested r.2.effects <+: schedule s n ∧
      ((sink.feed (lines n) a = (.ok (), r.2.sink) ∧
          r.1 = .finished ⟨s.heartbeats, 1 + s.heartbeats⟩ ∧
          r.2.effects = .accepted .healthyRestarted :: (looks monitored .startup ++ beats s n ++
            .noted (.heartbeatsDone s.heartbeats) :: looks monitored .final) ∧
          offers requested r.2.effects = schedule s n ∧
          weight pause r.2.effects = n ∧ weight requested r.2.effects = n * s.intervalMs.toNat) ∨
        (∃ fault, sink .healthyRestarted a = (.error fault, r.2.sink) ∧ r.1 = .failed fault ∧
          r.2.effects = [.refused .healthyRestarted fault]) ∨
        ∃ i < n, ∃ (fault : Fault) (b : σ), sink.feed (lines i) a = (.ok (), b) ∧
          sink (.heartbeat (.ofNat (i + 1))) b = (.error fault, r.2.sink) ∧ r.1 = .failed fault ∧
          r.2.effects = .accepted .healthyRestarted :: (looks monitored .startup ++ beats s i ++
            [.refused (.heartbeat (.ofNat (i + 1))) fault]) ∧
          weight pause r.2.effects = i) := by
  intro r quiet n
  cases hCheck : s.check with
  | error fault =>
    exact ⟨Job.findsValues_check (.recovered s) fault hCheck,
      Job.trace_of_error sink _ monitored a hCheck⟩
  | ok _ =>
    obtain ⟨hOutcome, hSink, hEffects⟩ := Job.trace_of_ok sink (.recovered s) monitored a hCheck
    obtain ⟨hOutcome', hSink', hEffects'⟩ := Job.trace_of_ok sink (.recovered s) false a hCheck
    have hOutturn := Job.trace_outturn sink (.recovered s) monitored a hCheck
    refine ⟨hOutcome.trans hOutcome'.symm, hSink.trans hSink'.symm, ?_, ?_, ?_⟩
    · rw [hEffects, hEffects', Sink.effects_without_notes, Sink.effects_without_notes,
        Job.course_without_notes monitored]
    · rw [← offers_course s monitored UInt64.size]
      obtain ⟨_, _, hFull⟩ | ⟨k, _, _, _, _, _, _, _, hCut⟩ := hOutturn.offers_eq requested
      · exact hFull ▸ List.prefix_rfl
      · exact hCut ▸ List.take_prefix _ _
    · exact exits_of_outturn hOutturn

end Recovered

end WorkerSim
