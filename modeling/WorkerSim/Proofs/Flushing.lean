import WorkerSim.Proofs.Delivery
import WorkerSim.Proofs.Limits

/-!
# Lines and flushes

A run writes its lines one after another and flushes its writer behind each of them. At every point
the accepted bytes are the first of the transcript; the writer is flushed where a line ends, once and
before anything of the next line is offered, and nowhere else; a call that fails is the last. So no
more than a part of one line is ever accepted and not flushed, and a run ends well exactly if all of
its transcript was accepted and each line was flushed.
-/

set_option autoImplicit false

namespace WorkerSim

open Text (Bytes)

namespace Writer

/-- Why a call fails, if it does. -/
def Call.cause? : Call → Option IoCause
  | .write bytes (.accepted n) => if n = 0 ∧ bytes ≠ [] then some .nothingWritten else none
  | .write _ .interrupted => none
  | .write _ (.failed cause) => some cause
  | .flush (.error cause) => some cause
  | .flush (.ok ()) => none

/-- What a writer has taken: for each successful flush what was accepted since the one before, and
what is accepted since the last. -/
structure Receipt where
  flushed : List Bytes := []
  pending : Bytes := []

namespace Receipt

def after (r : Receipt) : Call → Receipt
  | .write bytes answer => ⟨r.flushed, r.pending ++ (Call.write bytes answer).accepted⟩
  | .flush (.ok ()) => ⟨r.flushed ++ [r.pending], []⟩
  | .flush (.error _) => r

def bytes (r : Receipt) : Bytes := r.flushed.flatten ++ r.pending

theorem bytes_after (r : Receipt) (c : Call) : (r.after c).bytes = r.bytes ++ c.accepted := by
  cases c with
  | write bytes answer => simp only [after, Receipt.bytes, List.append_assoc]
  | flush result => cases result <;> simp [after, Receipt.bytes, Call.accepted]

theorem bytes_foldl_after (r : Receipt) (calls : List Call) :
    (calls.foldl after r).bytes = r.bytes ++ delivered calls := by
  induction calls generalizing r with
  | nil => simp [delivered]
  | cons c calls ih =>
    rw [List.foldl_cons, ih, bytes_after, List.append_assoc]
    rfl

/-- The lines before this one are flushed, each by itself, and nothing else is. -/
def At (r : Receipt) (lines : List Line) (line : Line) : Prop :=
  ∃ before after, lines = before ++ line :: after ∧ r.flushed = before.map Line.bytes

/-- Some of the first lines are flushed, each by itself, and a part of the next is accepted. -/
def Within (r : Receipt) (lines : List Line) : Prop :=
  ∃ before after, lines = before ++ after ∧ r.flushed = before.map Line.bytes ∧
    r.pending <+: (after.head?.map Line.bytes).getD []

variable {r : Receipt} {lines : List Line}

theorem within_start (lines : List Line) : Within {} lines := ⟨[], lines, rfl, rfl, List.nil_prefix⟩

theorem Within.isPrefix_flatMap (h : r.Within lines) : r.bytes <+: lines.flatMap Line.bytes := by
  obtain ⟨before, after, rfl, hFlushed, hPending⟩ := h
  rw [Receipt.bytes, hFlushed, ← List.flatMap_def, List.flatMap_append]
  refine (List.prefix_append_right_inj _).mpr (hPending.trans ?_)
  cases after with
  | nil => exact List.nil_prefix
  | cons line after => exact List.prefix_append _ _

theorem Within.exists_line (h : r.Within lines) (hSome : lines ≠ []) :
    ∃ line ∈ lines, r.pending <+: line.bytes := by
  obtain ⟨before, after, rfl, -, hPending⟩ := h
  cases after with
  | cons line after => exact ⟨line, by simp, hPending⟩
  | nil =>
    obtain ⟨line, hMem⟩ := List.exists_mem_of_ne_nil _ hSome
    exact ⟨line, hMem, List.prefix_nil.mp hPending ▸ List.nil_prefix⟩

end Receipt

def receipt (calls : List Call) : Receipt := calls.foldl Receipt.after {}

theorem bytes_receipt (calls : List Call) : (receipt calls).bytes = delivered calls :=
  Receipt.bytes_foldl_after {} calls

/-- A write offers some of what is left of one line, and a flush comes where nothing is left of it. -/
def Call.Fits (lines : List Line) (r : Receipt) (c : Call) : Prop :=
  ∃ line, r.At lines line ∧ match c with
    | .write bytes _ => bytes ≠ [] ∧ r.pending ++ bytes <+: line.bytes
    | .flush _ => r.pending = line.bytes

theorem Call.isPrefix_accepted (bytes : Bytes) (answer : Answer) :
    (Call.write bytes answer).accepted <+: bytes := by
  cases answer with
  | accepted n => exact List.take_prefix n bytes
  | interrupted | failed cause => exact List.nil_prefix

theorem Call.Fits.within {lines : List Line} {r : Receipt} {c : Call} (h : c.Fits lines r) :
    (r.after c).Within lines := by
  obtain ⟨line, ⟨before, after, rfl, hFlushed⟩, hCall⟩ := h
  cases c with
  | write bytes answer =>
    refine ⟨before, line :: after, rfl, hFlushed, List.IsPrefix.trans ?_ hCall.2⟩
    exact (List.prefix_append_right_inj _).mpr (isPrefix_accepted bytes answer)
  | flush result =>
    cases result with
    | error cause => exact ⟨before, line :: after, rfl, hFlushed, hCall ▸ List.prefix_rfl⟩
    | ok _ =>
      refine ⟨before ++ [line], after, by simp, ?_, List.nil_prefix⟩
      rw [Receipt.after, hFlushed, hCall, List.map_append, List.map_singleton]

/-- Calls that fit, one after another, up to the first that fails. -/
inductive Leads (lines : List Line) : Receipt → List Call → Option IoCause → Receipt → Prop
  | done (r : Receipt) : Leads lines r [] none r
  | fail {r : Receipt} {c : Call} {cause : IoCause} : c.Fits lines r → c.cause? = some cause →
      Leads lines r [c] (some cause) (r.after c)
  | next {r s : Receipt} {c : Call} {calls : List Call} {failure : Option IoCause} :
      c.Fits lines r → c.cause? = none → Leads lines (r.after c) calls failure s →
      Leads lines r (c :: calls) failure s

namespace Leads

variable {lines : List Line} {r s t : Receipt} {calls more : List Call} {failure : Option IoCause}

theorem append (h : Leads lines r calls none s) (hMore : Leads lines s more failure t) :
    Leads lines r (calls ++ more) failure t := by
  generalize hNone : (none : Option IoCause) = first at h
  induction h with
  | done => exact hMore
  | fail => cases hNone
  | next hFits hFine _ ih => exact .next hFits hFine (ih hMore hNone)

theorem foldl_after (h : Leads lines r calls failure s) : calls.foldl Receipt.after r = s := by
  induction h with
  | done => rfl
  | fail => rfl
  | next _ _ _ ih => exact ih

/-- Each call fits where it is made, and if it fails it is the last. -/
theorem split (h : Leads lines r calls failure s) {before after : List Call} {c : Call}
    (hCalls : calls = before ++ c :: after) :
    c.Fits lines (before.foldl Receipt.after r) ∧
      ∀ cause, c.cause? = some cause → after = [] ∧ failure = some cause := by
  induction h generalizing before with
  | done => simp at hCalls
  | fail hFits hFails =>
    obtain ⟨rfl, hCalls⟩ | ⟨_, _, hNil⟩ := List.cons_eq_append_iff.mp hCalls
    · obtain ⟨rfl, rfl⟩ := List.cons.inj hCalls
      exact ⟨hFits, fun cause hCause => ⟨rfl, hFails.symm.trans hCause⟩⟩
    · simp at hNil
  | next hFits hFine _ ih =>
    obtain ⟨rfl, hCalls⟩ | ⟨before, rfl, hRest⟩ := List.cons_eq_append_iff.mp hCalls
    · obtain ⟨rfl, -⟩ := List.cons.inj hCalls
      exact ⟨hFits, fun cause hCause => nomatch hFine.symm.trans hCause⟩
    · exact ih hRest

theorem exists_last {cause : IoCause} (h : Leads lines r calls (some cause) s) :
    ∃ before c, calls = before ++ [c] ∧ c.cause? = some cause := by
  generalize hSome : some cause = failure at h
  induction h with
  | done => cases hSome
  | @fail _ c _ _ hFails =>
    obtain rfl := Option.some.inj hSome
    exact ⟨[], c, rfl, hFails⟩
  | @next _ _ c _ _ _ _ _ ih =>
    obtain ⟨before, last, rfl, hLast⟩ := ih hSome
    exact ⟨c :: before, last, rfl, hLast⟩

theorem forall_cause?_iff (h : Leads lines r calls failure s) :
    (∀ c ∈ calls, c.cause? = none) ↔ failure = none := by
  induction h with
  | done => simp
  | fail _ hFails => simp [hFails]
  | next _ hFine _ ih =>
    rw [List.forall_mem_cons, ih]
    exact and_iff_right hFine

/-- Where a call has failed there are lines that are not flushed. -/
theorem flushed_ne {cause : IoCause} (h : Leads lines r calls (some cause) s) :
    s.flushed ≠ lines.map Line.bytes := by
  obtain ⟨before, c, rfl, hFails⟩ := h.exists_last
  obtain ⟨line, ⟨done, rest, rfl, hFlushed⟩, -⟩ := (h.split rfl).1
  rw [← h.foldl_after, List.foldl_append]
  have hSame : ((before.foldl Receipt.after r).after c).flushed = done.map Line.bytes := by
    rw [← hFlushed]
    cases c with
    | write bytes answer => rfl
    | flush result =>
      cases result with
      | error cause => rfl
      | ok _ => cases hFails
  intro hAll
  have hLength := congrArg List.length (hSame.symm.trans hAll)
  simp at hLength

theorem within (h : Leads lines r calls failure s) (hStart : r.Within lines)
    {before after : List Call} (hCalls : calls = before ++ after) :
    (before.foldl Receipt.after r).Within lines := by
  obtain rfl | ⟨first, c, rfl⟩ := List.eq_nil_or_concat before
  · exact hStart
  · rw [List.concat_eq_append] at hCalls ⊢
    rw [List.append_assoc] at hCalls
    rw [List.foldl_append]
    exact (h.split hCalls).1.within

/-- All lines are accepted and flushed exactly if no call fails. -/
theorem whole_iff (h : Leads lines {} calls failure s)
    (hLast : failure = none → s = ⟨lines.map Line.bytes, []⟩) :
    failure = none ↔ delivered calls = lines.flatMap Line.bytes ∧
      (receipt calls).flushed = lines.map Line.bytes := by
  have hReceipt : receipt calls = s := h.foldl_after
  rw [← bytes_receipt, hReceipt]
  constructor
  · intro hNone
    rw [hLast hNone]
    exact ⟨by rw [Receipt.bytes, List.append_nil, List.flatMap_def], rfl⟩
  · rintro ⟨-, hFlushed⟩
    cases failure with
    | none => rfl
    | some cause => exact absurd hFlushed h.flushed_ne

end Leads

variable {σ ε : Type}

def given (wrap : IoCause → ε) : Option IoCause → Except ε Unit
  | none => .ok ()
  | some cause => .error (wrap cause)

/-- What is added to the record leads from one receipt to another, unless a call fails. -/
def Goes (wrap : IoCause → ε) (lines : List Line) (r : Receipt) (s : Logged σ)
    (x : Except ε Unit × Logged σ) (r' : Receipt) : Prop :=
  ∃ calls failure last, x.1 = given wrap failure ∧ x.2.calls = s.calls ++ calls ∧
    Leads lines r calls failure last ∧ (failure = none → last = r')

namespace Goes

variable {wrap : IoCause → ε} {lines : List Line} {r r' r'' : Receipt} {s t : Logged σ}
  {x : Except ε Unit × Logged σ}

theorem done : Goes wrap lines r s (.ok (), s) r :=
  ⟨[], none, r, rfl, (List.append_nil _).symm, .done r, fun _ => rfl⟩

theorem fail {c : Call} {cause : IoCause} (hCalls : t.calls = s.calls ++ [c]) (hFits : c.Fits lines r)
    (hFails : c.cause? = some cause) : Goes wrap lines r s (.error (wrap cause), t) r' :=
  ⟨[c], some cause, _, rfl, hCalls, .fail hFits hFails, nofun⟩

theorem next {c : Call} (hCalls : t.calls = s.calls ++ [c]) (hFits : c.Fits lines r)
    (hFine : c.cause? = none) (h : Goes wrap lines (r.after c) t x r') : Goes wrap lines r s x r' := by
  obtain ⟨calls, failure, last, hResult, hMore, hLeads, hLast⟩ := h
  refine ⟨c :: calls, failure, last, hResult, ?_, .next hFits hFine hLeads, hLast⟩
  rw [hMore, hCalls, List.append_assoc, List.singleton_append]

theorem trans {δ : Type} {wrap' : IoCause → δ} (hFirst : Goes wrap' lines r s (.ok (), t) r')
    (h : Goes wrap lines r' t x r'') : Goes wrap lines r s x r'' := by
  obtain ⟨calls, failure, last, hResult, hCalls, hLeads, hLast⟩ := hFirst
  obtain rfl : failure = none := by
    cases failure with
    | none => rfl
    | some cause => cases hResult
  obtain rfl := hLast rfl
  obtain ⟨more, failure, last', hResult', hMore, hLeads', hLast'⟩ := h
  refine ⟨calls ++ more, failure, last', hResult', ?_, hLeads.append hLeads', hLast'⟩
  rw [hMore, hCalls, List.append_assoc]

theorem rewrap {δ : Type} {wrap' : IoCause → δ} {cause : IoCause}
    (h : Goes wrap lines r s (.error (wrap cause), t) r') (hWrap : wrap.Injective) :
    Goes wrap' lines r s (.error (wrap' cause), t) r'' := by
  obtain ⟨calls, failure, last, hResult, hCalls, hLeads, hLast⟩ := h
  cases failure with
  | none => cases hResult
  | some cause' =>
    obtain rfl := hWrap (Except.error.inj hResult)
    exact ⟨calls, some cause, last, rfl, hCalls, hLeads, nofun⟩

end Goes

section Writing

variable (w : Writer σ) {lines : List Line} {line : Line} {r : Receipt}

theorem goes_writeAll {bytes : Bytes} (s : Logged σ) (hAt : r.At lines line)
    (hBytes : r.pending ++ bytes <+: line.bytes) :
    Goes id lines r s (w.logged.writeAll bytes s) ⟨r.flushed, r.pending ++ bytes⟩ := by
  fun_induction writeAll w.logged bytes s generalizing r with
  | case1 s =>
    rw [List.append_nil]
    exact .done
  | case2 s b bytes t h =>
    exact .fail (calls_of_write h) ⟨line, hAt, List.cons_ne_nil _ _, hBytes⟩ rfl
  | case3 s b bytes n t h ih =>
    have hRest : r.pending ++ (b :: bytes.take n) ++ bytes.drop n = r.pending ++ b :: bytes := by
      rw [List.append_assoc, List.cons_append, List.take_append_drop]
    rw [← hRest] at hBytes ⊢
    apply Goes.next (calls_of_write h) ⟨line, hAt, List.cons_ne_nil _ _, hRest ▸ hBytes⟩ rfl
    exact ih hAt hBytes
  | case4 s b bytes t h _ ih =>
    apply Goes.next (calls_of_write h) ⟨line, hAt, List.cons_ne_nil _ _, hBytes⟩ rfl
    have hSame : r.after (.write (b :: bytes) .interrupted) = r := by
      simp [Receipt.after, Call.accepted]
    rw [hSame]
    exact ih hAt hBytes
  | case5 s b bytes cause t h =>
    exact .fail (calls_of_write h) ⟨line, hAt, List.cons_ne_nil _ _, hBytes⟩ rfl

theorem goes_writeParts {parts : List Bytes} (s : Logged σ) (hAt : r.At lines line)
    (hParts : r.pending ++ parts.flatten <+: line.bytes) :
    Goes id lines r s (w.logged.writeParts parts s) ⟨r.flushed, r.pending ++ parts.flatten⟩ := by
  induction parts generalizing r s with
  | nil =>
    rw [List.flatten_nil, List.append_nil]
    exact .done
  | cons part parts ih =>
    rw [List.flatten_cons, ← List.append_assoc] at hParts ⊢
    have hPart := w.goes_writeAll s hAt ((List.prefix_append _ _).trans hParts)
    rw [writeParts]
    generalize w.logged.writeAll part s = x at hPart
    obtain ⟨result, t⟩ := x
    cases result with
    | error cause => exact hPart.rewrap Function.injective_id
    | ok _ => exact hPart.trans (ih t hAt hParts)

theorem goes_flush (s : Logged σ) (hAt : r.At lines line) (hWhole : r.pending = line.bytes) :
    Goes id lines r s (w.logged.flush s) ⟨r.flushed ++ [line.bytes], []⟩ := by
  have hFits (result : Except IoCause Unit) : (Call.flush result).Fits lines r :=
    ⟨line, hAt, hWhole⟩
  have hCalls : (w.logged.flush s).2.calls = s.calls ++ [.flush (w.flush s.state).1] := rfl
  have hResult : (w.logged.flush s).1 = (w.flush s.state).1 := rfl
  generalize w.logged.flush s = x at hCalls hResult
  obtain ⟨result, t⟩ := x
  obtain rfl := hResult
  cases hFlush : (w.flush s.state).1 with
  | error cause => exact .fail (hFlush ▸ hCalls) (hFits _) rfl
  | ok _ =>
    apply Goes.next (hFlush ▸ hCalls) (hFits _) rfl
    rw [Receipt.after, hWhole]
    exact .done

theorem goes_emit (s : Logged σ) (hAt : r.At lines line) (hEmpty : r.pending = []) :
    Goes Fault.io lines r s (w.logged.emit line s) ⟨r.flushed ++ [line.bytes], []⟩ := by
  have hOffered : r.pending ++ (offered line).flatten <+: line.bytes := by
    rw [hEmpty]
    exact List.prefix_rfl
  have hParts := w.goes_writeParts s hAt hOffered
  rw [hEmpty, List.nil_append] at hParts
  rw [emit]
  generalize w.logged.writeParts (offered line) s = x at hParts
  obtain ⟨result, t⟩ := x
  cases result with
  | error cause => exact hParts.rewrap Function.injective_id
  | ok _ =>
    have hFlush := w.goes_flush (r := ⟨r.flushed, line.bytes⟩) t hAt rfl
    apply hParts.trans
    simp only
    generalize w.logged.flush t = y at hFlush
    obtain ⟨result, u⟩ := y
    cases result with
    | error cause => exact hFlush.rewrap Function.injective_id
    | ok _ => exact hFlush.trans .done

theorem goes_feed {before rest : List Line} (hLines : lines = before ++ rest) (s : Logged σ) :
    Goes Fault.io lines ⟨before.map Line.bytes, []⟩ s (w.logged.emit.feed rest s)
      ⟨lines.map Line.bytes, []⟩ := by
  induction rest generalizing before s with
  | nil =>
    rw [hLines, List.append_nil]
    exact .done
  | cons line rest ih =>
    have hLine := w.goes_emit (r := ⟨before.map Line.bytes, []⟩) s ⟨before, rest, hLines, rfl⟩ rfl
    rw [Sink.feed]
    generalize w.logged.emit line s = x at hLine
    obtain ⟨result, t⟩ := x
    cases result with
    | error fault =>
      obtain ⟨calls, failure, last, hResult, hCalls, hLeads, hLast⟩ := hLine
      cases failure with
      | none => cases hResult
      | some cause =>
        exact ⟨calls, some cause, last, hResult, hCalls, hLeads, fun hNone => absurd hNone (Option.some_ne_none cause)⟩
    | ok _ =>
      apply hLine.trans
      have hNext : lines = (before ++ [line]) ++ rest := by simp [hLines]
      have hRest := ih hNext t
      rwa [List.map_append, List.map_singleton] at hRest

end Writing

theorem feed_logged (w : Writer σ) (lines : List Line) (s : Logged σ) :
    w.emit.feed lines s.state =
      ((w.logged.emit.feed lines s).1, (w.logged.emit.feed lines s).2.state) := by
  induction lines generalizing s with
  | nil => rfl
  | cons line lines ih =>
    rw [Sink.feed, Sink.feed, emit_logged]
    generalize w.logged.emit line s = x
    obtain ⟨result, t⟩ := x
    cases result with
    | error fault => rfl
    | ok _ => exact ih t

/-- How calls to a writer keep to the lines that are to be written. -/
structure LineByLine (lines : List Line) (calls : List Call) : Prop where
  accepted : ∀ before after, calls = before ++ after → delivered before <+: lines.flatMap Line.bytes
  unflushed : ∀ before after, calls = before ++ after →
    ∃ line ∈ lines, (receipt before).pending <+: line.bytes
  offered : ∀ before bytes answer after, calls = before ++ .write bytes answer :: after →
    ∃ done line rest, lines = done ++ line :: rest ∧
      (receipt before).flushed = done.map Line.bytes ∧
      bytes ≠ [] ∧ (receipt before).pending ++ bytes <+: line.bytes
  flushed : ∀ before result after, calls = before ++ .flush result :: after →
    ∃ done line rest, lines = done ++ line :: rest ∧
      (receipt before).flushed = done.map Line.bytes ∧
      delivered before = (done ++ [line]).flatMap Line.bytes
  last : ∀ before c after cause, calls = before ++ c :: after → c.cause? = some cause → after = []

theorem Leads.lineByLine {lines : List Line} {calls : List Call} {failure : Option IoCause}
    {r : Receipt} (h : Leads lines {} calls failure r) (hSome : lines ≠ []) :
    LineByLine lines calls where
  accepted before after hCalls := by
    rw [← bytes_receipt]
    exact (h.within (Receipt.within_start lines) hCalls).isPrefix_flatMap
  unflushed before after hCalls :=
    (h.within (Receipt.within_start lines) hCalls).exists_line hSome
  offered before bytes answer after hCalls := by
    obtain ⟨line, ⟨done, rest, hLines, hFlushed⟩, hBytes, hPending⟩ := (h.split hCalls).1
    exact ⟨done, line, rest, hLines, hFlushed, hBytes, hPending⟩
  flushed before result after hCalls := by
    obtain ⟨line, ⟨done, rest, hLines, hFlushed⟩, hPending⟩ := (h.split hCalls).1
    change (receipt before).flushed = done.map Line.bytes at hFlushed
    refine ⟨done, line, rest, hLines, hFlushed, ?_⟩
    have hBytes : delivered before = (receipt before).flushed.flatten ++ (receipt before).pending :=
      (bytes_receipt before).symm
    have hLast : (receipt before).pending = line.bytes := hPending
    rw [hBytes, hFlushed, hLast, List.flatMap_append, List.flatMap_singleton, List.flatMap_def]
  last before c after cause hCalls hFails := ((h.split hCalls).2 cause hFails).1

end Writer

namespace Job

open Writer (Leads LineByLine Logged delivered receipt)

variable {σ : Type}

/-- The run of a worker on a sink, followed for so many turns if nothing limits it. -/
def traceWithin (turns : Nat) (sink : Sink σ) (job : Job) (monitored : Bool) (s : σ) :
    Outcome × Traced σ :=
  (job.runWithin turns (Outlet.traced sink) monitored).run { sink := s }

theorem traceWithin_eq_feed {job : Job} (hCheck : job.check = .ok ()) (turns : Nat) (sink : Sink σ)
    (monitored : Bool) (s : σ) :
    let fed := sink.feed (job.transcript (job.span turns)) s
    (job.traceWithin turns sink monitored s).1 = job.target.given fed.1 ∧
      (job.traceWithin turns sink monitored s).2.sink = fed.2 :=
  (Traced.feeds_traced sink).runWithin hCheck turns monitored { sink := s }

theorem traceWithin_logged {job : Job} (hCheck : job.check = .ok ()) (w : Writer σ) (monitored : Bool)
    (s : σ) (turns : Nat) :
    let run := job.traceWithin turns w.logged.emit monitored ⟨s, []⟩
    (job.traceWithin turns w.emit monitored s).1 = run.1 ∧
      (job.traceWithin turns w.emit monitored s).2.sink = run.2.sink.state := by
  intro run
  obtain ⟨hPlain, hState⟩ := traceWithin_eq_feed hCheck turns w.emit monitored s
  obtain ⟨hLogged, hSink⟩ := traceWithin_eq_feed hCheck turns w.logged.emit monitored ⟨s, []⟩
  have hFed := w.feed_logged (job.transcript (job.span turns)) ⟨s, []⟩
  rw [hFed] at hPlain hState
  exact ⟨hPlain.trans hLogged.symm, hState.trans (congrArg Logged.state hSink.symm)⟩

theorem exists_leads {job : Job} (hCheck : job.check = .ok ()) (w : Writer σ) (monitored : Bool) (s : σ)
    (turns : Nat) :
    let run := job.traceWithin turns w.logged.emit monitored ⟨s, []⟩
    ∃ failure r, Leads (job.transcript (job.span turns)) {} run.2.sink.calls failure r ∧
      run.1 = (failure.map fun cause => Outcome.failed (.io cause)).getD job.target ∧
      (failure = none → r = ⟨(job.transcript (job.span turns)).map Line.bytes, []⟩) := by
  intro run
  obtain ⟨hOutcome, hSink⟩ := traceWithin_eq_feed hCheck turns w.logged.emit monitored ⟨s, []⟩
  obtain ⟨calls, failure, r, hResult, hCalls, hLeads, hLast⟩ :=
    w.goes_feed (List.nil_append _).symm (⟨s, []⟩ : Logged σ)
  rw [List.nil_append, ← hSink] at hCalls
  rw [hResult] at hOutcome
  refine ⟨failure, r, hCalls ▸ hLeads, ?_, hLast⟩
  cases failure <;> exact hOutcome

/-- A run ends where a call fails, or else at its limit. -/
theorem outcome_iff {job : Job} {failure : Option IoCause} {a : Outcome}
    (h : a = (failure.map fun cause => Outcome.failed (.io cause)).getD job.target) :
    (∀ fault, a = .failed fault ↔ ∃ cause, failure = some cause ∧ fault = .io cause) ∧
      ((∃ summary, a = .finished summary) ↔ failure = none ∧ ∃ limit, job.limit? = some limit) ∧
      (a = .running ↔ failure = none ∧ job.limit? = none) := by
  subst h
  rw [target]
  cases failure <;> cases job.limit? <;> simp [eq_comm]

theorem outcome_of_ending {script : Script} {job : Job} (hCheck : job.check = .ok ())
    (hChunk : script.chunk ≠ some 0) (monitored : Bool) (turns : Nat) {failure : Option IoCause}
    {flushed : List Bytes} {pending : Bytes}
    (h : script.Ending (job.transcript (job.span turns)) failure flushed pending) :
    (job.traceWithin turns script.writer.emit monitored {}).1 =
      failure.elim job.target fun cause => .failed (.io cause) := by
  obtain ⟨t, hFeed, -⟩ := h.feed hChunk
  obtain ⟨hOutcome, -⟩ := traceWithin_eq_feed hCheck turns script.writer.emit monitored {}
  rw [hOutcome, hFeed]
  cases failure <;> rfl

/-- Whatever a writer does, a run writes to it line by line. Only a run without a limit goes on, and
it ends well exactly if all lines up to the limit were accepted and flushed, as they are if no call
fails. -/
theorem writes_line_by_line {job : Job} (hCheck : job.check = .ok ()) (w : Writer σ) (monitored : Bool)
    (s : σ) (turns : Nat) :
    let lines := job.transcript (job.span turns)
    let run := job.traceWithin turns w.logged.emit monitored ⟨s, []⟩
    let calls := run.2.sink.calls
    ((job.traceWithin turns w.emit monitored s).1 = run.1 ∧
      (job.traceWithin turns w.emit monitored s).2.sink = run.2.sink.state) ∧
    LineByLine lines calls ∧
    (∀ fault, run.1 = .failed fault ↔ ∃ before c cause, calls = before ++ [c] ∧
      c.cause? = some cause ∧ fault = .io cause) ∧
    ((∃ summary, run.1 = .finished summary) ↔ ∃ limit, job.limit? = some limit ∧
      delivered calls = job.bytes limit ∧
      (receipt calls).flushed = (job.transcript limit).map Line.bytes) ∧
    (run.1 = .running ↔ job.limit? = none ∧ ∀ c ∈ calls, c.cause? = none) ∧
    ((∀ c ∈ calls, c.cause? = none) ↔ delivered calls = lines.flatMap Line.bytes ∧
      (receipt calls).flushed = lines.map Line.bytes) := by
  intro lines run calls
  obtain ⟨failure, r, hLeads, hOutcome, hLast⟩ := exists_leads hCheck w monitored s turns
  obtain ⟨hFailed, hFinished, hRunning⟩ := outcome_iff hOutcome
  have hFine : (∀ c ∈ calls, c.cause? = none) ↔ failure = none := hLeads.forall_cause?_iff
  have hWhole := hLeads.whole_iff hLast
  refine ⟨traceWithin_logged hCheck w monitored s turns, hLeads.lineByLine (List.cons_ne_nil _ _),
    fun fault => (hFailed fault).trans ?_, hFinished.trans ?_, hRunning.trans ?_, hFine.trans hWhole⟩
  · constructor
    · rintro ⟨cause, rfl, rfl⟩
      obtain ⟨before, c, hCalls, hFails⟩ := hLeads.exists_last
      exact ⟨before, c, cause, hCalls, hFails, rfl⟩
    · rintro ⟨before, c, cause, hCalls, hFails, rfl⟩
      exact ⟨cause, ((hLeads.split hCalls).2 cause hFails).2, rfl⟩
  · have hLines {limit : Nat} (hLimit : job.limit? = some limit) : lines = job.transcript limit := by
      simp only [lines, span, hLimit, Option.getD_some]
    constructor
    · rintro ⟨hNone, limit, hLimit⟩
      refine ⟨limit, hLimit, ?_⟩
      rw [bytes, ← hLines hLimit]
      exact hWhole.mp hNone
    · rintro ⟨limit, hLimit, hAll⟩
      rw [bytes, ← hLines hLimit] at hAll
      exact ⟨hWhole.mpr hAll, limit, hLimit⟩
  · rw [hFine, and_comm]

/-- A writer takes seven bytes at most and is interrupted at every third call. If its second flush
fails, that stops a worker with two heartbeats; a worker with a limit of two iterations ends before
its fourth. -/
theorem writes_to_failing_flush :
    let script (flush : Nat) : Script :=
      { chunk := some 7, interruptEvery := some 3, flushFailsAt := some flush }
    let recovered := Job.recovered ⟨2, 1⟩
    let runaway := Job.runaway ⟨5, 1, some 2⟩
    let stopped := recovered.traceWithin 0 (script 2).writer.logged.emit true ⟨{}, []⟩
    let ended := runaway.traceWithin 0 (script 4).writer.logged.emit false ⟨{}, []⟩
    (recovered.check = .ok () ∧ LineByLine (recovered.transcript 2) stopped.2.sink.calls ∧
      ∃ before c, stopped.2.sink.calls = before ++ [c] ∧ c.cause? = some (.kind .brokenPipe)) ∧
    (runaway.check = .ok () ∧ LineByLine (runaway.transcript 2) ended.2.sink.calls ∧
      ended.1 ≠ .running ∧ delivered ended.2.sink.calls = runaway.bytes 2) := by
  intro script recovered runaway stopped ended
  constructor
  · have hCheck : recovered.check = .ok () := rfl
    obtain ⟨⟨hPlain, -⟩, hLines, hFails, -⟩ :=
      writes_line_by_line hCheck (script 2).writer true {} 0
    have hTranscript : recovered.transcript 2 = [.healthyRestarted] ++ .heartbeat 1 :: [.heartbeat 2] :=
      rfl
    have hFirst : (script 2).Passes [.healthyRestarted] := by
      constructor
      · rintro capacity ⟨⟩
      · rintro n ⟨⟩
        decide
    have hEnding : (script 2).Ending (recovered.transcript 2) (some (.kind .brokenPipe))
        [Line.healthyRestarted.bytes] (Line.heartbeat 1).bytes := by
      rw [hTranscript]
      exact .flush hFirst (by rintro capacity ⟨⟩) rfl
    have hStopped := outcome_of_ending hCheck (by decide) true 0 hEnding
    obtain ⟨before, c, cause, hCalls, hCause, hFault⟩ := (hFails _).mp (hPlain.symm.trans hStopped)
    exact ⟨hCheck, hLines, before, c, hCalls, Fault.io.inj hFault ▸ hCause⟩
  · have hCheck : runaway.check = .ok () := rfl
    obtain ⟨⟨hPlain, -⟩, hLines, -, hFinished, hRunning, -⟩ :=
      writes_line_by_line hCheck (script 4).writer false {} 0
    have hPasses : (script 4).Passes (runaway.transcript 2) := by
      constructor
      · rintro capacity ⟨⟩
      · rintro n ⟨⟩
        decide
    have hEnded := outcome_of_ending hCheck (by decide) false 0 (Script.Ending.done hPasses)
    obtain ⟨limit, hLimit, hDelivered, -⟩ := hFinished.mp ⟨_, hPlain.symm.trans hEnded⟩
    obtain rfl : 2 = limit := Option.some.inj hLimit
    refine ⟨hCheck, hLines, ?_, hDelivered⟩
    intro hGoesOn
    cases (hRunning.mp hGoesOn).1

end Job

end WorkerSim
