import WorkerSim.Proofs.Course
import WorkerSim.Worker.Trace

/-!
# Courses on a sink

A sink is asked for one line after another until it refuses one. The state that a course leaves in it,
and what the run comes to, depend on the lines of the course alone, wherever the outlet keeps the
sink. On an outlet that records everything, a course is either carried out in full or cut right after
the first line that is refused; the record then tells when each line was offered.
-/

set_option autoImplicit false

namespace WorkerSim

def Sink.feed {σ : Type} (sink : Sink σ) : List Line → σ → Except Fault Unit × σ
  | [], s => (.ok (), s)
  | line :: lines, s =>
    match sink line s with
    | (.error fault, s') => (.error fault, s')
    | (.ok (), s') => feed sink lines s'

def Outcome.given (last : Outcome) : Except Fault Unit → Outcome
  | .error fault => .failed fault
  | .ok () => last

def Action.effect : Action → Effect
  | .emit line => .accepted line
  | .pause time => .paused time
  | .burn size => .burnt size
  | .note n => .noted n

namespace Effect

def line? : Effect → Option Line
  | .accepted line => some line
  | .refused line _ => some line
  | _ => none

def isNote : Effect → Bool
  | .noted _ => true
  | _ => false

variable (weigh : Effect → Nat)

def weight : List Effect → Nat
  | [] => 0
  | e :: es => weigh e + weight es

/-- The lines that are offered, each with the weight of what was done before. -/
def offersFrom (before : Nat) : List Effect → List (Nat × Line)
  | [] => []
  | e :: es => (e.line?.map (before, ·)).toList ++ offersFrom (before + weigh e) es

def offers (es : List Effect) : List (Nat × Line) := offersFrom weigh 0 es

theorem weight_append (es fs : List Effect) :
    weight weigh (es ++ fs) = weight weigh es + weight weigh fs := by
  induction es with
  | nil => exact (Nat.zero_add _).symm
  | cons e es ih => rw [List.cons_append, weight, weight, ih, Nat.add_assoc]

theorem offersFrom_append (before : Nat) (es fs : List Effect) :
    offersFrom weigh before (es ++ fs) =
      offersFrom weigh before es ++ offersFrom weigh (before + weight weigh es) fs := by
  induction es generalizing before with
  | nil => rfl
  | cons e es ih =>
    rw [List.cons_append, offersFrom, offersFrom, weight, ih, List.append_assoc, Nat.add_assoc]

theorem snd_offersFrom (before : Nat) (as : List Action) :
    (offersFrom weigh before (as.map Action.effect)).map Prod.snd = Action.lines as := by
  induction as generalizing before with
  | nil => rfl
  | cons a as ih =>
    rw [List.map_cons, offersFrom, List.map_append, ih]
    cases a <;> rfl

end Effect

namespace Sink

variable {σ : Type}

def effects (sink : Sink σ) : List Action → σ → List Effect
  | [], _ => []
  | .emit line :: as, s =>
    match sink line s with
    | (.error fault, _) => [.refused line fault]
    | (.ok (), s') => .accepted line :: effects sink as s'
  | .pause time :: as, s => .paused time :: effects sink as s
  | .burn size :: as, s => .burnt size :: effects sink as s
  | .note n :: as, s => .noted n :: effects sink as s

theorem feed_append (sink : Sink σ) (xs ys : List Line) (s : σ) :
    sink.feed (xs ++ ys) s = match sink.feed xs s with
      | (.error fault, s') => (.error fault, s')
      | (.ok (), s') => sink.feed ys s' := by
  induction xs generalizing s with
  | nil => rfl
  | cons x xs ih =>
    rw [List.cons_append, feed, feed]
    split
    · rfl
    · exact ih _

theorem feed_singleton (sink : Sink σ) (line : Line) (s : σ) : sink.feed [line] s = sink line s := by
  rw [feed]
  generalize sink line s = r
  obtain ⟨result, _⟩ := r
  cases result <;> rfl

theorem feed_of_prefix {sink : Sink σ} {xs ys : List Line} (hPrefix : xs <+: ys) {s t : σ}
    (h : sink.feed ys s = (.ok (), t)) : ∃ u, sink.feed xs s = (.ok (), u) := by
  obtain ⟨zs, rfl⟩ := hPrefix
  rw [feed_append] at h
  generalize sink.feed xs s = r at h ⊢
  obtain ⟨result, u⟩ := r
  cases result with
  | error fault => cases h
  | ok _ => exact ⟨u, rfl⟩

theorem effects_cons (sink : Sink σ) {a : Action} (h : a.line? = none) (as : List Action) (s : σ) :
    sink.effects (a :: as) s = a.effect :: sink.effects as s := by
  cases a <;> first | rfl | cases h

/-- What is kept of a record, if no line is left out, is the record of the actions that are kept. -/
theorem filter_effects (sink : Sink σ) {keep : Effect → Bool}
    (hLines : ∀ e : Effect, e.line?.isSome = true → keep e = true) (as : List Action) (s : σ) :
    (sink.effects as s).filter keep = sink.effects (as.filter (keep ·.effect)) s := by
  induction as generalizing s with
  | nil => rfl
  | cons a as ih =>
    cases hLine : a.line? with
    | some line =>
      obtain rfl : a = .emit line := by cases a <;> cases hLine; rfl
      have hKept : (Action.emit line :: as).filter (keep ·.effect) =
          .emit line :: as.filter (keep ·.effect) := List.filter_cons_of_pos (hLines _ rfl)
      rw [hKept, effects, effects]
      split
      · exact List.filter_cons_of_pos (hLines _ rfl)
      · rw [List.filter_cons_of_pos (hLines _ rfl), ih]
    | none =>
      rw [effects_cons sink hLine, List.filter_cons, List.filter_cons]
      split
      · rw [effects_cons sink hLine, ih]
      · exact ih s

theorem effects_without_notes (sink : Sink σ) (as : List Action) (s : σ) :
    (sink.effects as s).filter (!·.isNote) = sink.effects (as.filter (!·.effect.isNote)) s := by
  refine sink.filter_effects (fun e hLine => ?_) as s
  cases e <;> first | rfl | cases hLine

/-- How a course comes out on a sink: what the run comes to, the state of the sink after it, and
everything that was done. -/
inductive Outturn (sink : Sink σ) (course : List Action) (last : Outcome) (s : σ) :
    Outcome → σ → List Effect → Prop
  | full {s' : σ} : sink.feed (Action.lines course) s = (.ok (), s') →
      Outturn sink course last s last s' (course.map Action.effect)
  | cut {before after : List Action} {line : Line} {fault : Fault} {t s' : σ} :
      course = before ++ .emit line :: after →
      sink.feed (Action.lines before) s = (.ok (), t) → sink line t = (.error fault, s') →
      Outturn sink course last s (.failed fault) s' (before.map Action.effect ++ [.refused line fault])

theorem Outturn.cons {sink : Sink σ} {a : Action} {as : List Action} {last outcome : Outcome}
    {s t s' : σ} {es : List Effect} (hFirst : sink.feed (Action.lines [a]) s = (.ok (), t))
    (h : Outturn sink as last t outcome s' es) :
    Outturn sink (a :: as) last s outcome s' (a.effect :: es) := by
  have hFeed (bs : List Action) :
      sink.feed (Action.lines (a :: bs)) s = sink.feed (Action.lines bs) t := by
    rw [← List.singleton_append, Action.lines_append, feed_append, hFirst]
  cases h with
  | full hAll => exact .full ((hFeed as).trans hAll)
  | cut hCourse hBefore hLine =>
    rw [hCourse, ← List.cons_append, ← List.cons_append, ← List.map_cons]
    exact .cut rfl ((hFeed _).trans hBefore) hLine

theorem outturn_effects (sink : Sink σ) (as : List Action) (last : Outcome) (s : σ) :
    sink.Outturn as last s (last.given (sink.feed (Action.lines as) s).1)
      (sink.feed (Action.lines as) s).2 (sink.effects as s) := by
  induction as generalizing s with
  | nil => exact .full rfl
  | cons a as ih =>
    cases a with
    | emit line =>
      simp only [Action.lines, List.filterMap_cons, Action.line?, feed, effects]
      cases hLine : sink line s with
      | mk result s' =>
        cases result with
        | error fault =>
          have hCut : sink.Outturn (.emit line :: as) last s (.failed fault) s'
              (List.map Action.effect [] ++ [.refused line fault]) := .cut rfl rfl hLine
          exact hCut
        | ok _ =>
          refine (ih s').cons ?_
          simp [Action.lines, Action.line?, feed, hLine]
    | pause time => exact (ih s).cons rfl
    | burn size => exact (ih s).cons rfl
    | note n => exact (ih s).cons rfl

/-- If a line is refused, the lines up to that one are offered as they are in a full course. -/
theorem Outturn.offers_eq {sink : Sink σ} {course : List Action} {last outcome : Outcome} {s s' : σ}
    {es : List Effect} (h : Outturn sink course last s outcome s' es) (weigh : Effect → Nat) :
    let lines := Action.lines course
    let offers := Effect.offers weigh (course.map Action.effect)
    (sink.feed lines s = (.ok (), s') ∧ outcome = last ∧ es = course.map Action.effect) ∨
    ∃ (k : Nat) (line : Line) (fault : Fault) (t : σ), lines[k]? = some line ∧
      sink.feed (lines.take k) s = (.ok (), t) ∧ sink line t = (.error fault, s') ∧
      outcome = .failed fault ∧ Effect.offers weigh es = offers.take (k + 1) := by
  intro lines offers
  cases h with
  | full hAll => exact .inl ⟨hAll, rfl, rfl⟩
  | @cut before after line fault t _ hCourse hBefore hLine =>
    refine .inr ⟨(Action.lines before).length, line, fault, t, ?_, ?_, hLine, rfl, ?_⟩
    · simp only [lines, hCourse, Action.lines_append]
      rw [List.getElem?_append_right (Nat.le_refl _), Nat.sub_self]
      rfl
    · simp only [lines, hCourse, Action.lines_append]
      rw [List.take_left, hBefore]
    · have hCount : (Effect.offers weigh (before.map Action.effect)).length =
          (Action.lines before).length := by
        rw [← Effect.snd_offersFrom weigh 0 before, List.length_map, Effect.offers]
      simp only [offers, hCourse, Effect.offers, List.map_append, Effect.offersFrom_append]
      rw [List.take_append, ← hCount, Effect.offers, List.take_of_length_le (Nat.le_succ _),
        Nat.add_sub_cancel_left]
      rfl

end Sink

theorem Outlet.run_perform_emit {α : Type} (o : Outlet (StateM α)) (line : Line) (as : List Action)
    (next : StateM α Outcome) (a : α) :
    (o.perform (.emit line :: as) next).run a = match (o.emit line).run a with
      | (.error fault, b) => (.failed fault, b)
      | (.ok (), b) => (o.perform as next).run b := by
  change (match (o.emit line).run a with
    | (result, b) => (match result with
      | .error fault => (pure (.failed fault) : StateM α Outcome)
      | .ok () => o.perform as next).run b) = _
  cases (o.emit line).run a with
  | mk result b => cases result <;> rfl

/-- An outlet that puts its lines into a sink, which it keeps in a part of its state. -/
structure Outlet.Feeds {α σ : Type} (o : Outlet (StateM α)) (part : α → σ) (sink : Sink σ) : Prop where
  emit : ∀ line a, ((o.emit line).run a).1 = (sink line (part a)).1 ∧
    part ((o.emit line).run a).2 = (sink line (part a)).2
  pause : ∀ time a, part ((o.pause time).run a).2 = part a
  burn : ∀ size a, part ((o.burn size).run a).2 = part a
  note : ∀ n a, part ((o.note n).run a).2 = part a

/-- If all lines of some actions are accepted, what follows goes on from there; if one is refused,
nothing follows, whatever it would be. -/
theorem Outlet.Feeds.run_perform {α σ : Type} {o : Outlet (StateM α)} {part : α → σ} {sink : Sink σ}
    (h : o.Feeds part sink) (as : List Action) (next : StateM α Outcome) (a : α) :
    let r := (o.perform as next).run a
    match sink.feed (Action.lines as) (part a) with
    | (.error fault, s) =>
      r.1 = .failed fault ∧ part r.2 = s ∧ ∀ other, (o.perform as other).run a = r
    | (.ok (), s) => ∃ b, part b = s ∧ r = next.run b := by
  induction as generalizing a with
  | nil => exact ⟨a, rfl, rfl⟩
  | cons action as ih =>
    cases action with
    | emit line =>
      obtain ⟨hResult, hPart⟩ := h.emit line a
      simp only [Outlet.run_perform_emit, Action.lines, List.filterMap_cons, Action.line?, Sink.feed]
      generalize (o.emit line).run a = r at hResult hPart ⊢
      generalize sink line (part a) = q at hResult hPart ⊢
      obtain ⟨result, b⟩ := r
      obtain ⟨_, s⟩ := q
      obtain rfl := hResult
      obtain rfl := hPart
      cases result with
      | error fault => exact ⟨rfl, rfl, fun _ => rfl⟩
      | ok _ => exact ih b
    | pause time =>
      rw [← h.pause time a]
      exact ih _
    | burn size =>
      rw [← h.burn size a]
      exact ih _
    | note n =>
      rw [← h.note n a]
      exact ih _

theorem Outlet.Feeds.run_perform_of_ok {α σ : Type} {o : Outlet (StateM α)} {part : α → σ}
    {sink : Sink σ} (h : o.Feeds part sink) {as : List Action} {a : α} {s : σ}
    (hFeed : sink.feed (Action.lines as) (part a) = (.ok (), s)) (next : StateM α Outcome) :
    ∃ b, part b = s ∧ (o.perform as next).run a = next.run b := by
  have hRun := h.run_perform as next a
  rwa [hFeed] at hRun

theorem Outlet.Feeds.perform {α σ : Type} {o : Outlet (StateM α)} {part : α → σ} {sink : Sink σ}
    (h : o.Feeds part sink) (as : List Action) (last : Outcome) (a : α) :
    ((o.perform as (pure last)).run a).1 = last.given (sink.feed (Action.lines as) (part a)).1 ∧
      part ((o.perform as (pure last)).run a).2 = (sink.feed (Action.lines as) (part a)).2 := by
  have hRun := h.run_perform as (pure last) a
  simp only at hRun
  generalize (o.perform as (pure last)).run a = r at hRun ⊢
  generalize sink.feed (Action.lines as) (part a) = q at hRun ⊢
  obtain ⟨result, s⟩ := q
  cases result with
  | error fault => exact ⟨hRun.1, hRun.2.1⟩
  | ok _ =>
    obtain ⟨b, hPart, rfl⟩ := hRun
    exact ⟨rfl, hPart⟩

theorem Outlet.Feeds.runWithin {α τ : Type} {o : Outlet (StateM α)} {part : α → τ} {sink : Sink τ}
    (h : o.Feeds part sink) {job : Job} (hCheck : job.check = .ok ()) (turns : Nat) (monitored : Bool)
    (x : α) :
    let r := (job.runWithin turns o monitored).run x
    let fed := sink.feed (job.transcript (job.span turns)) (part x)
    r.1 = job.target.given fed.1 ∧ part r.2 = fed.2 := by
  intro r fed
  have hRun : r = (o.perform (job.course monitored turns) (pure job.target)).run x := by
    simp only [r, Job.runWithin_eq_perform, hCheck]
  have hPerform := h.perform (job.course monitored turns) job.target x
  rwa [Job.lines_course, ← hRun] at hPerform

/-- A run in which a line is refused is not changed by more turns. -/
theorem Job.run_add_of_refused {α τ : Type} {o : Outlet (StateM α)} {part : α → τ} {sink : Sink τ}
    (hFeeds : o.Feeds part sink) {job : Job} (hCheck : job.check = .ok ()) (monitored : Bool)
    {turns : Nat} {x : α} {fault : Fault}
    (h : (sink.feed (job.transcript (job.span turns)) (part x)).1 = .error fault) (more : Nat) :
    (job.runWithin (turns + more) o monitored).run x = (job.runWithin turns o monitored).run x := by
  rw [Job.runWithin_eq_perform, Job.runWithin_eq_perform, hCheck]
  simp only
  cases hSome : job.limit? with
  | some limit => rw [Job.course_of_limit hSome monitored (turns + more) turns]
  | none =>
    have hRun := hFeeds.run_perform (job.course monitored turns) (pure job.target) x
    rw [Job.lines_course] at hRun
    generalize sink.feed (job.transcript (job.span turns)) (part x) = fed at h hRun
    obtain ⟨_, s⟩ := fed
    obtain rfl := h
    rw [Job.course_add hSome, Outlet.perform_append]
    exact hRun.2.2 _

namespace Traced

variable {σ : Type}

theorem feeds_traced (sink : Sink σ) : (Outlet.traced sink).Feeds Traced.sink sink where
  emit line t := by
    change (Traced.emit sink line t).1 = _ ∧ (Traced.emit sink line t).2.sink = _
    rw [Traced.emit]
    split
    · rename_i h
      rw [h]
      exact ⟨rfl, rfl⟩
    · rename_i h
      rw [h]
      exact ⟨rfl, rfl⟩
  pause _ _ := rfl
  burn _ _ := rfl
  note _ _ := rfl

theorem run_perform_cons (sink : Sink σ) {a : Action} (h : a.line? = none) (as : List Action)
    (next : StateM (Traced σ) Outcome) (t : Traced σ) :
    ((Outlet.traced sink).perform (a :: as) next).run t =
      ((Outlet.traced sink).perform as next).run (t.add a.effect) := by
  cases a <;> first | rfl | cases h

/-- What follows some actions goes on from the record of them, unless a line is refused. -/
theorem run_perform (sink : Sink σ) (as : List Action) (next : StateM (Traced σ) Outcome)
    (t : Traced σ) :
    let fed := sink.feed (Action.lines as) t.sink
    let after : Traced σ := ⟨fed.2, (sink.effects as t.sink).reverse ++ t.latest⟩
    ((Outlet.traced sink).perform as next).run t = match fed.1 with
      | .error fault => (.failed fault, after)
      | .ok () => next.run after := by
  induction as generalizing t with
  | nil => rfl
  | cons a as ih =>
    intro fed after
    cases hLine : a.line? with
    | some line =>
      obtain rfl : a = .emit line := by cases a <;> cases hLine; rfl
      have hEmit : ((Outlet.traced sink).emit line).run t = Traced.emit sink line t := rfl
      simp only [fed, after, Outlet.run_perform_emit, hEmit, Traced.emit, Sink.effects, Action.lines,
        List.filterMap_cons, Action.line?, Sink.feed]
      cases sink line t.sink with
      | mk result s =>
        cases result with
        | error fault => rfl
        | ok _ =>
          rw [List.reverse_cons, List.append_assoc]
          exact ih _
    | none =>
      have hLines : Action.lines (a :: as) = Action.lines as := List.filterMap_cons_none hLine
      have hRest := ih (t.add a.effect)
      simp only [fed, after, run_perform_cons sink hLine, hLines, sink.effects_cons hLine,
        List.reverse_cons, List.append_assoc]
      exact hRest

theorem latest_perform (sink : Sink σ) (as : List Action) (last : Outcome) (t : Traced σ) :
    (((Outlet.traced sink).perform as (pure last)).run t).2.latest =
      (sink.effects as t.sink).reverse ++ t.latest := by
  rw [run_perform]
  split <;> rfl

end Traced

namespace Job

variable {σ : Type}

/-- Apart from what is noted, a course does not depend on whether the worker is monitored. -/
theorem course_without_notes (monitored : Bool) (turns : Nat) (job : Job) :
    (job.course monitored turns).filter (!·.effect.isNote) =
      (job.course false turns).filter (!·.effect.isNote) := by
  have hIteration (number : UInt64) : (job.iteration monitored number).filter (!·.effect.isNote) =
      (job.iteration false number).filter (!·.effect.isNote) := by
    cases job with
    | runaway s =>
      rw [iteration, iteration]
      cases Workload.isReport number s.reportEvery <;> cases monitored <;> rfl
    | recovered s => rfl
  have hOpening : (job.opening monitored).filter (!·.effect.isNote) =
      (job.opening false).filter (!·.effect.isNote) := by
    cases job <;> cases monitored <;> rfl
  have hClosing : (job.closing monitored).filter (!·.effect.isNote) =
      (job.closing false).filter (!·.effect.isNote) := by
    cases job <;> cases monitored <;> rfl
  simp only [course, iterations, List.filter_append, List.filter_flatMap, hOpening, hIteration,
    hClosing]

theorem trace_of_error (sink : Sink σ) (job : Job) (monitored : Bool) (s : σ) {fault : Fault}
    (h : job.check = .error fault) :
    job.trace sink monitored s = (.failed fault, { sink := s }) := by
  rw [trace, run, runWithin_eq_perform, h]
  rfl

/-- What a run comes to and where it leaves the sink depend on its lines; only what is noted
depends on whether the worker is monitored. -/
theorem trace_of_ok (sink : Sink σ) (job : Job) (monitored : Bool) (s : σ) (h : job.check = .ok ()) :
    let r := job.trace sink monitored s
    let fed := sink.feed (job.transcript (job.span UInt64.size)) s
    r.1 = job.target.given fed.1 ∧ r.2.sink = fed.2 ∧
      r.2.effects = sink.effects (job.course monitored UInt64.size) s := by
  intro r fed
  have hRun : r = ((Outlet.traced sink).perform (job.course monitored UInt64.size)
      (pure job.target)).run { sink := s } := by
    simp only [r, trace, run, runWithin_eq_perform, h]
  obtain ⟨hOutcome, hSink⟩ :=
    (Traced.feeds_traced sink).runWithin h UInt64.size monitored { sink := s }
  refine ⟨hOutcome, hSink, ?_⟩
  rw [Traced.effects, hRun, Traced.latest_perform, List.append_nil, List.reverse_reverse]

theorem trace_outturn (sink : Sink σ) (job : Job) (monitored : Bool) (s : σ)
    (h : job.check = .ok ()) :
    sink.Outturn (job.course monitored UInt64.size) job.target s (job.trace sink monitored s).1
      (job.trace sink monitored s).2.sink (job.trace sink monitored s).2.effects := by
  obtain ⟨hOutcome, hSink, hEffects⟩ := job.trace_of_ok sink monitored s h
  rw [hOutcome, hSink, hEffects, ← lines_course monitored]
  exact sink.outturn_effects _ _ _

end Job

end WorkerSim
