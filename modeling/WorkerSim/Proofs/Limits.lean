import Mathlib.Data.List.Induction
import WorkerSim.Proofs.Sink
import WorkerSim.Worker.Trial

/-!
# Limits of a writer

A scripted writer accepts so many bytes in all and fails one of its flushes. How many bytes it accepts
at a time, and which of its calls are interrupted, is nowhere to be seen once a line is written: these
two limits alone decide where a run ends, and with what.
-/

set_option autoImplicit false

namespace WorkerSim

open Text (Bytes)

namespace Script

variable {script : Script} {s : State} {bytes : Bytes}

/-- How many of so many bytes a writer accepts in all, however often they are offered. -/
def room (script : Script) (s : State) (n : Nat) : Nat :=
  match script.capacity with
  | some capacity => min n (capacity - s.written)
  | none => n

/-- Why a full writer fails. -/
def refusal (script : Script) : IoCause :=
  if script.fullAcceptsNothing then .nothingWritten else script.cause

/-- The state after so many calls, with more bytes accepted. -/
def State.accepting (s : State) (calls : Nat) (bytes : Bytes) : State :=
  { s with calls := calls, written := s.written + bytes.length, pending := s.pending ++ bytes }

theorem State.accepting_accepting (s : State) (calls later : Nat) (bytes more : Bytes) :
    (s.accepting calls bytes).accepting later more = s.accepting later (bytes ++ more) := by
  simp only [accepting, List.length_append, List.append_assoc, Nat.add_assoc]

theorem State.accepting_nil (s : State) : s.accepting s.calls [] = s := by
  simp only [accepting, List.length_nil, Nat.add_zero, List.append_nil]

theorem room_le (script : Script) (s : State) (n : Nat) : script.room s n ≤ n := by
  rw [room]
  cases script.capacity with
  | none => exact Nat.le_refl n
  | some capacity => exact Nat.min_le_left _ _

/-- What is accepted now takes room from what is offered later. -/
theorem room_accepting (calls : Nat) {k n : Nat} (hRoom : k ≤ script.room s n)
    (hLength : bytes.length = k) :
    k + script.room (s.accepting calls bytes) (n - k) = script.room s n := by
  simp only [room, State.accepting] at hRoom ⊢
  cases hCapacity : script.capacity with
  | none =>
    simp only [hCapacity] at hRoom ⊢
    omega
  | some capacity =>
    simp only [hCapacity] at hRoom ⊢
    omega

/-- What comes of offering bytes that are not none. -/
inductive Offered (script : Script) (bytes : Bytes) (s : State) : Writer.Answer × State → Prop
  | interrupted : Offered script bytes s (.interrupted, s.accepting (s.calls + 1) [])
  | full (hFull : script.room s bytes.length = 0) (hNothing : script.fullAcceptsNothing = true) :
      Offered script bytes s (.accepted 0, s.accepting (s.calls + 1) [])
  | failed (hFull : script.room s bytes.length = 0) (hNothing : script.fullAcceptsNothing = false) :
      Offered script bytes s (.failed script.cause, s.accepting (s.calls + 1) [])
  | accepted {n : Nat} (hRoom : n + 1 ≤ script.room s bytes.length) :
      Offered script bytes s (.accepted (n + 1), s.accepting (s.calls + 1) (bytes.take (n + 1)))

theorem room_of_isFull (hFull : script.isFull s = true) (n : Nat) : script.room s n = 0 := by
  rw [isFull] at hFull
  rw [room]
  cases hCapacity : script.capacity with
  | none =>
    rw [hCapacity] at hFull
    cases hFull
  | some capacity =>
    rw [hCapacity] at hFull
    simp only [Nat.sub_eq_zero_of_le (of_decide_eq_true hFull), Nat.min_zero]

theorem fitting_le_room (script : Script) (s : State) (n : Nat) : script.fitting s n ≤ script.room s n := by
  rw [fitting, room]
  cases script.capacity <;> cases script.chunk <;> simp only <;> omega

theorem fitting_pos (hFull : script.isFull s = false) (hChunk : script.chunk ≠ some 0) {n : Nat}
    (hSome : 0 < n) : 0 < script.fitting s n := by
  rw [isFull] at hFull
  have hAtOnce : 0 < (match script.chunk with | some chunk => min n chunk | none => n) := by
    cases hValue : script.chunk with
    | none => exact hSome
    | some chunk =>
      have hPositive : chunk ≠ 0 := fun hZero => hChunk (hZero ▸ hValue)
      exact Nat.lt_min.mpr ⟨hSome, Nat.pos_of_ne_zero hPositive⟩
  rw [fitting]
  cases hCapacity : script.capacity with
  | none => exact hAtOnce
  | some capacity =>
    rw [hCapacity] at hFull
    exact Nat.lt_min.mpr ⟨hAtOnce, Nat.sub_pos_of_lt (Nat.not_le.mp (of_decide_eq_false hFull))⟩

theorem offered_write (hChunk : script.chunk ≠ some 0) (hBytes : bytes ≠ []) (s : State) :
    Offered script bytes s (script.write bytes s) := by
  have hCalled : ({ s with calls := s.calls + 1 } : State) = s.accepting (s.calls + 1) [] := by
    simp only [State.accepting, List.length_nil, Nat.add_zero, List.append_nil]
  have hSome : bytes.isEmpty = false := List.isEmpty_eq_false_iff.mpr hBytes
  rw [write]
  simp only [hSome, Bool.not_false, Bool.and_true]
  split
  · rw [hCalled]
    exact .interrupted
  · split
    · rename_i hFull
      have hRoom : script.room s bytes.length = 0 := room_of_isFull hFull _
      rw [hCalled]
      split
      · rename_i hNothing
        exact .full hRoom hNothing
      · rename_i hNothing
        exact .failed hRoom (Bool.eq_false_iff.mpr hNothing)
    · rename_i hFull
      have hFull : script.isFull s = false := Bool.eq_false_iff.mpr hFull
      have hPositive := fitting_pos hFull hChunk (List.length_pos_iff.mpr hBytes)
      have hRoom := script.fitting_le_room s bytes.length
      have hFitting : script.fitting { s with calls := s.calls + 1 } bytes.length =
          script.fitting s bytes.length := rfl
      rw [hFitting]
      obtain ⟨n, hCount⟩ := Nat.exists_eq_add_one_of_ne_zero (Nat.ne_of_gt hPositive)
      rw [hCount] at hRoom ⊢
      have hTake : (bytes.take (n + 1)).length = n + 1 :=
        List.length_take_of_le (Nat.le_trans hRoom (script.room_le s _))
      have hAccepted : Offered script bytes s _ := .accepted hRoom
      rw [State.accepting, hTake] at hAccepted
      exact hAccepted

/-- Bytes get through as far as there is room for them, in however many calls. -/
def Through (script : Script) (s : State) (bytes : Bytes) (r : Except IoCause Unit × State) : Prop :=
  ∃ calls, r = (if script.room s bytes.length = bytes.length then .ok () else .error script.refusal,
    s.accepting calls (bytes.take (script.room s bytes.length)))

namespace Through

variable {r : Except IoCause Unit × State}

theorem nil (script : Script) (s : State) : script.Through s [] (.ok (), s) := by
  have hRoom : script.room s ([] : Bytes).length = ([] : Bytes).length := Nat.le_zero.mp (script.room_le s 0)
  exact ⟨s.calls, by rw [if_pos hRoom, List.take_nil, State.accepting_nil]⟩

theorem next {k calls : Nat} (h : script.Through (s.accepting calls (bytes.take k)) (bytes.drop k) r)
    (hRoom : k ≤ script.room s bytes.length) : script.Through s bytes r := by
  obtain ⟨later, rfl⟩ := h
  have hLength : (bytes.take k).length = k := List.length_take_of_le (Nat.le_trans hRoom (script.room_le s _))
  have hRest := room_accepting calls hRoom hLength
  refine ⟨later, ?_⟩
  rw [State.accepting_accepting, List.length_drop, ← hRest, List.take_add]
  congr 1
  have hLess := Nat.le_trans hRoom (script.room_le s _)
  congr 1
  rw [eq_iff_iff]
  omega

theorem full (hFull : script.room s bytes.length = 0) (hBytes : bytes ≠ []) {calls : Nat} {cause : IoCause}
    (hCause : script.refusal = cause) : script.Through s bytes (.error cause, s.accepting calls []) := by
  have hSome : 0 ≠ bytes.length := Nat.ne_of_lt (List.length_pos_iff.mpr hBytes)
  exact ⟨calls, by rw [hFull, if_neg hSome, List.take_zero, hCause]⟩

end Through

theorem through_writeAll (hChunk : script.chunk ≠ some 0) (bytes : Bytes) (s : State) :
    script.Through s bytes (script.writer.writeAll bytes s) := by
  have hOffered (b : UInt8) (bytes : Bytes) (s : State) := offered_write hChunk (List.cons_ne_nil b bytes) s
  -- each call takes its part of the room, so that what is left is the room for what is left
  fun_induction Writer.writeAll script.writer bytes s with
  | case1 s => exact Through.nil script s
  | case2 s b bytes t h =>
    have hCall := hOffered b bytes s
    rw [show script.write (b :: bytes) s = _ from h] at hCall
    cases hCall with
    | full hFull hNothing => exact .full hFull (List.cons_ne_nil b bytes) (if_pos hNothing)
  | case3 s b bytes n t h ih =>
    have hCall := hOffered b bytes s
    rw [show script.write (b :: bytes) s = _ from h] at hCall
    cases hCall with
    | accepted hRoom => exact ih.next hRoom
  | case4 s b bytes t h _ ih =>
    have hCall := hOffered b bytes s
    rw [show script.write (b :: bytes) s = _ from h] at hCall
    cases hCall with
    | interrupted => exact .next (k := 0) ih (Nat.zero_le _)
  | case5 s b bytes cause t h =>
    have hCall := hOffered b bytes s
    rw [show script.write (b :: bytes) s = _ from h] at hCall
    cases hCall with
    | failed hFull hNothing =>
      refine .full hFull (List.cons_ne_nil b bytes) (if_neg ?_)
      rw [hNothing]
      exact Bool.false_ne_true

theorem le_room_add {m : Nat} (h : script.room s m = m) (n : Nat) : m ≤ script.room s (m + n) := by
  rw [room] at h ⊢
  cases hCapacity : script.capacity with
  | none => exact Nat.le_add_right m n
  | some capacity =>
    simp only [hCapacity] at h ⊢
    omega

theorem room_add {m : Nat} (h : script.room s m ≠ m) (n : Nat) :
    script.room s (m + n) = script.room s m := by
  rw [room] at h ⊢
  rw [room]
  cases hCapacity : script.capacity with
  | none =>
    rw [hCapacity] at h
    exact absurd rfl h
  | some capacity =>
    simp only [hCapacity] at h ⊢
    omega

theorem Through.append {part rest : Bytes} {r : Except IoCause Unit × State} {calls : Nat}
    (hPart : script.room s part.length = part.length)
    (h : script.Through (s.accepting calls part) rest r) : script.Through s (part ++ rest) r := by
  have hRoom : part.length ≤ script.room s (part ++ rest).length := by
    rw [List.length_append]
    exact le_room_add hPart rest.length
  have hRest : script.Through (s.accepting calls ((part ++ rest).take part.length))
      ((part ++ rest).drop part.length) r := by
    rwa [List.take_left, List.drop_left]
  exact hRest.next hRoom

theorem Through.cut {part : Bytes} {calls : Nat} (hPart : script.room s part.length ≠ part.length)
    (rest : Bytes) : script.Through s (part ++ rest)
      (.error script.refusal, s.accepting calls (part.take (script.room s part.length))) := by
  have hRoom : script.room s (part ++ rest).length = script.room s part.length := by
    rw [List.length_append, room_add hPart]
  have hLess := script.room_le s part.length
  refine ⟨calls, ?_⟩
  rw [hRoom, if_neg, List.take_append_of_le_length hLess]
  rw [List.length_append]
  omega

theorem through_writeParts (hChunk : script.chunk ≠ some 0) (parts : List Bytes) (s : State) :
    script.Through s parts.flatten (script.writer.writeParts parts s) := by
  induction parts generalizing s with
  | nil => exact Through.nil script s
  | cons part parts ih =>
    obtain ⟨calls, hPart⟩ := through_writeAll hChunk part s
    rw [Writer.writeParts, hPart, List.flatten_cons]
    by_cases hRoom : script.room s part.length = part.length
    · rw [if_pos hRoom, hRoom, List.take_length]
      exact (ih (s.accepting calls part)).append hRoom
    · rw [if_neg hRoom]
      exact .cut hRoom parts.flatten

/-! ### Lines -/

/-- The state after so many calls in which these lines were written and flushed. -/
def State.past (calls : Nat) (lines : List Line) : State where
  calls := calls
  flushes := lines.length
  written := (lines.flatMap Line.bytes).length
  taken := (lines.map Line.bytes).reverse

/-- There is room for these lines. -/
def Fits (script : Script) (lines : List Line) : Prop :=
  ∀ capacity, script.capacity = some capacity → (lines.flatMap Line.bytes).length ≤ capacity

/-- Neither limit is reached in these lines. -/
structure Passes (script : Script) (lines : List Line) : Prop where
  fits : script.Fits lines
  flushes : ∀ n, script.flushFailsAt = some n → lines.length < n

/-- Where lines end on a writer: why, what its flushes took, and what was accepted since. -/
inductive Ending (script : Script) : List Line → Option IoCause → List Bytes → Bytes → Prop
  | flush {before after : List Line} {line : Line} (hBefore : script.Passes before)
      (hFits : script.Fits (before ++ [line])) (hFlush : script.flushFailsAt = some (before.length + 1)) :
      Ending script (before ++ line :: after) (some script.cause) (before.map Line.bytes) line.bytes
  | full {before after : List Line} {line : Line} {capacity : Nat} (hBefore : script.Passes before)
      (hCapacity : script.capacity = some capacity)
      (hFull : capacity < ((before ++ [line]).flatMap Line.bytes).length) :
      Ending script (before ++ line :: after) (some script.refusal) (before.map Line.bytes)
        (line.bytes.take (capacity - (before.flatMap Line.bytes).length))
  | done {lines : List Line} (hLines : script.Passes lines) :
      Ending script lines none (lines.map Line.bytes) []

variable {before after lines : List Line} {line : Line}

theorem room_past (script : Script) (calls : Nat) (hBefore : script.Fits before) :
    script.Fits (before ++ [line]) ↔
      script.room (State.past calls before) line.bytes.length = line.bytes.length := by
  rw [Fits] at hBefore
  rw [Fits, room]
  cases hCapacity : script.capacity with
  | none => exact iff_of_true (fun _ hSome => nomatch hSome) rfl
  | some capacity =>
    have hLess := hBefore capacity hCapacity
    simp only [Option.some.injEq, forall_eq', List.flatMap_append, List.flatMap_singleton, List.length_append,
      State.past]
    omega

theorem emit_past (hChunk : script.chunk ≠ some 0) (calls : Nat) (before : List Line) (line : Line) :
    ∃ later, script.writer.emit line (State.past calls before) =
      if script.room (State.past calls before) line.bytes.length = line.bytes.length then
        if script.flushFailsAt = some (before.length + 1) then
          (.error (.io script.cause),
            { (State.past calls before).accepting later line.bytes with flushes := before.length + 1 })
        else (.ok (), State.past later (before ++ [line]))
      else (.error (.io script.refusal), (State.past calls before).accepting later
        (line.bytes.take (script.room (State.past calls before) line.bytes.length))) := by
  obtain ⟨later, hParts⟩ := through_writeParts hChunk (Writer.offered line) (State.past calls before)
  rw [← Line.bytes] at hParts
  refine ⟨later, ?_⟩
  rw [Writer.emit, hParts]
  by_cases hRoom : script.room (State.past calls before) line.bytes.length = line.bytes.length
  · rw [if_pos hRoom, if_pos hRoom, hRoom, List.take_length]
    have hFlush : script.writer.flush ((State.past calls before).accepting later line.bytes) =
        if script.flushFailsAt = some (before.length + 1) then (.error script.cause,
          { (State.past calls before).accepting later line.bytes with flushes := before.length + 1 })
        else (.ok (), State.past later (before ++ [line])) := by
      have hPast : State.past later (before ++ [line]) =
          { (State.past calls before).accepting later line.bytes with
            flushes := before.length + 1
            pending := []
            taken := line.bytes :: (before.map Line.bytes).reverse } := by
        simp only [State.past, State.accepting, List.length_append, List.length_singleton,
          List.flatMap_append, List.flatMap_singleton, List.map_append, List.map_singleton,
          List.reverse_append, List.reverse_singleton, List.singleton_append]
      rw [hPast]
      rfl
    by_cases hFails : script.flushFailsAt = some (before.length + 1)
    · rw [if_pos hFails] at hFlush ⊢
      simp only [hFlush]
    · rw [if_neg hFails] at hFlush ⊢
      simp only [hFlush]
  · rw [if_neg hRoom, if_neg hRoom]

theorem Passes.of_append (h : script.Passes (before ++ after)) : script.Passes before := by
  refine ⟨fun capacity hCapacity => ?_, fun n hFlush => ?_⟩
  · have hFits := h.fits capacity hCapacity
    rw [List.flatMap_append, List.length_append] at hFits
    omega
  · have hLess := h.flushes n hFlush
    rw [List.length_append] at hLess
    omega

theorem Passes.emit (hChunk : script.chunk ≠ some 0) (h : script.Passes (before ++ [line])) (calls : Nat) :
    ∃ later, script.writer.emit line (State.past calls before) =
      (.ok (), State.past later (before ++ [line])) := by
  obtain ⟨later, hEmit⟩ := emit_past hChunk calls before line
  have hRoom := (room_past script calls h.of_append.fits).mp h.fits
  have hFlush : script.flushFailsAt ≠ some (before.length + 1) := by
    intro hSome
    have hLess := h.flushes _ hSome
    rw [List.length_append, List.length_singleton] at hLess
    exact Nat.lt_irrefl _ hLess
  rw [if_pos hRoom, if_neg hFlush] at hEmit
  exact ⟨later, hEmit⟩

theorem Passes.feed (hChunk : script.chunk ≠ some 0) (h : script.Passes lines) :
    ∃ calls, script.writer.emit.feed lines {} = (.ok (), State.past calls lines) := by
  -- on the last line, as the room for a line depends on those before it
  induction lines using List.reverseRecOn with
  | nil => exact ⟨0, rfl⟩
  | append_singleton before line ih =>
    obtain ⟨calls, hBefore⟩ := ih h.of_append
    obtain ⟨later, hEmit⟩ := h.emit hChunk calls
    refine ⟨later, ?_⟩
    rw [Sink.feed_append, hBefore]
    exact (script.writer.emit.feed_singleton line _).trans hEmit

/-- A line that is refused is the last one. -/
theorem Passes.feed_of_error (hChunk : script.chunk ≠ some 0) (hBefore : script.Passes before)
    {fault : Fault} {P : State → Prop} (hLine : ∀ calls, ∃ t,
      script.writer.emit line (State.past calls before) = (.error fault, t) ∧ P t) (after : List Line) :
    ∃ t, script.writer.emit.feed (before ++ line :: after) {} = (.error fault, t) ∧ P t := by
  obtain ⟨calls, hFeed⟩ := hBefore.feed hChunk
  obtain ⟨t, hEmit, hState⟩ := hLine calls
  exact ⟨t, by rw [Sink.feed_append, hFeed]; simp only [Sink.feed, hEmit], hState⟩

theorem Ending.feed (hChunk : script.chunk ≠ some 0) {failure : Option IoCause} {flushed : List Bytes}
    {pending : Bytes} (h : script.Ending lines failure flushed pending) :
    ∃ t, script.writer.emit.feed lines {} = (failure.elim (.ok ()) fun cause => .error (.io cause), t) ∧
      t.flushed = flushed ∧ t.pending = pending := by
  cases h with
  | @flush before after line hBefore hFits hFlush =>
    refine hBefore.feed_of_error hChunk (fun calls => ?_) after
    obtain ⟨later, hEmit⟩ := emit_past hChunk calls before line
    rw [if_pos ((room_past script calls hBefore.fits).mp hFits), if_pos hFlush] at hEmit
    exact ⟨_, hEmit, List.reverse_reverse _, List.nil_append _⟩
  | @full before after line capacity hBefore hCapacity hFull =>
    refine hBefore.feed_of_error hChunk (fun calls => ?_) after
    obtain ⟨later, hEmit⟩ := emit_past hChunk calls before line
    have hRoom : script.room (State.past calls before) line.bytes.length ≠ line.bytes.length := by
      intro hRoom
      exact Nat.not_le.mpr hFull ((room_past script calls hBefore.fits).mpr hRoom capacity hCapacity)
    have hLess : script.room (State.past calls before) line.bytes.length =
        capacity - (before.flatMap Line.bytes).length := by
      rw [room] at hRoom ⊢
      simp only [hCapacity, State.past] at hRoom ⊢
      omega
    rw [if_neg hRoom, hLess] at hEmit
    exact ⟨_, hEmit, List.reverse_reverse _, List.nil_append _⟩
  | done hLines =>
    obtain ⟨calls, hFeed⟩ := hLines.feed hChunk
    exact ⟨_, hFeed, List.reverse_reverse _, rfl⟩

/-- Every row of lines has an ending. -/
theorem exists_ending (hBefore : script.Passes before) (rest : List Line) :
    ∃ failure flushed pending, script.Ending (before ++ rest) failure flushed pending := by
  -- the first line that meets a limit is where it ends; the room is asked before the flush
  induction rest generalizing before with
  | nil =>
    rw [List.append_nil]
    exact ⟨_, _, _, .done hBefore⟩
  | cons line after ih =>
    by_cases hFits : script.Fits (before ++ [line])
    · by_cases hFlush : script.flushFailsAt = some (before.length + 1)
      · exact ⟨_, _, _, .flush hBefore hFits hFlush⟩
      · rw [List.append_cons]
        refine ih ⟨hFits, fun n hSome => ?_⟩
        have hLess := hBefore.flushes n hSome
        rw [List.length_append, List.length_singleton]
        have hNe : n ≠ before.length + 1 := by
          rintro rfl
          exact hFlush hSome
        omega
    · simp only [Fits, not_forall, Nat.not_le] at hFits
      obtain ⟨capacity, hCapacity, hFull⟩ := hFits
      exact ⟨_, _, _, .full hBefore hCapacity hFull⟩

/-- The writer with the same limits that takes as much as it can at a time and is never interrupted. -/
def plain (script : Script) : Script := { script with chunk := none, interruptEvery := none }

theorem Passes.plain (h : script.Passes lines) : script.plain.Passes lines := ⟨h.fits, h.flushes⟩

theorem Ending.plain {failure : Option IoCause} {flushed : List Bytes} {pending : Bytes}
    (h : script.Ending lines failure flushed pending) :
    script.plain.Ending lines failure flushed pending := by
  cases h with
  | flush hBefore hFits hFlush => exact .flush hBefore.plain hFits hFlush
  | full hBefore hCapacity hFull => exact .full hBefore.plain hCapacity hFull
  | done hLines => exact .done hLines.plain

end Script

namespace Trial

variable {script : Script} {job : Job} {limit : Nat} {failure : Option IoCause} {flushed : List Bytes}
  {pending : Bytes}

/-- The outcome of a trial and what is left in its writer. -/
def Ends (t : Trial) (failure : Option IoCause) (flushed : List Bytes) (pending : Bytes) : Prop :=
  t.outcome = failure.elim t.job.target (fun cause => .failed (.io cause)) ∧ t.writer.flushed = flushed ∧
    t.writer.pending = pending

theorem ends_of_ending (hCheck : job.check = .ok ()) (hLimit : job.limit? = some limit)
    (hChunk : script.chunk ≠ some 0) (monitored : Bool)
    (h : script.Ending (job.transcript limit) failure flushed pending) :
    (run script job monitored).Ends failure flushed pending := by
  obtain ⟨s, hFeed, hFlushed, hPending⟩ := h.feed hChunk
  have hSpan : job.span UInt64.size = limit := by rw [Job.span, hLimit, Option.getD_some]
  obtain ⟨hOutcome, hSink, -⟩ := job.trace_of_ok script.writer.emit monitored {} hCheck
  rw [hSpan, hFeed] at hOutcome hSink
  refine ⟨?_, ?_, ?_⟩
  · have hRun : (run script job monitored).outcome = (job.trace script.writer.emit monitored {}).1 := rfl
    rw [hRun, hOutcome]
    cases failure <;> rfl
  · rw [← hFlushed]
    exact congrArg Script.State.flushed hSink
  · rw [← hPending]
    exact congrArg Script.State.pending hSink

theorem Ends.unique {t : Trial} (hLimit : t.job.limit? = some limit) {failure' : Option IoCause}
    {flushed' : List Bytes} {pending' : Bytes} (h : t.Ends failure flushed pending)
    (h' : t.Ends failure' flushed' pending') :
    failure' = failure ∧ flushed' = flushed ∧ pending' = pending := by
  refine ⟨?_, h'.2.1.symm.trans h.2.1, h'.2.2.symm.trans h.2.2⟩
  have hSame := h'.1.symm.trans h.1
  have hTarget : t.job.target = .finished (t.job.progress limit).summary := by rw [Job.target, hLimit]
  rw [hTarget] at hSame
  cases failure with
  | none =>
    cases failure' with
    | none => rfl
    | some cause' => cases hSame
  | some cause =>
    cases failure' with
    | none => cases hSame
    | some cause' =>
      obtain rfl := Fault.io.inj (Outcome.failed.inj hSame)
      rfl

/-- How a writer takes its bytes cannot be seen: where a run ends, why, what is flushed then and what
is not are as its two limits say, and so the same without chunks and interruptions. -/
theorem run_of_limits {script : Script} {job : Job} {limit : Nat} (hCheck : job.check = .ok ())
    (hLimit : job.limit? = some limit) (hChunk : script.chunk ≠ some 0)
    (hFlush : script.flushFailsAt ≠ some 0) (monitored : Bool) :
    let t := run script job monitored
    let plain := run script.plain job monitored
    (t.outcome = plain.outcome ∧ t.writer.flushed = plain.writer.flushed ∧
      t.writer.pending = plain.writer.pending) ∧
    ∀ failure flushed pending, t.Ends failure flushed pending ↔
      script.Ending (job.transcript limit) failure flushed pending := by
  intro t plain
  have hPasses : script.Passes [] := by
    refine ⟨fun _ _ => Nat.zero_le _, fun n hSome => Nat.pos_of_ne_zero ?_⟩
    rintro rfl
    exact hFlush hSome
  obtain ⟨failure, flushed, pending, hEnding⟩ := Script.exists_ending hPasses (job.transcript limit)
  have hEnds := ends_of_ending hCheck hLimit hChunk monitored hEnding
  have hPlainChunk : script.plain.chunk ≠ some 0 := by
    intro hSome
    cases hSome
  have hPlain := ends_of_ending hCheck hLimit hPlainChunk monitored hEnding.plain
  constructor
  · exact ⟨hEnds.1.trans hPlain.1.symm, hEnds.2.1.trans hPlain.2.1.symm, hEnds.2.2.trans hPlain.2.2.symm⟩
  · intro failure' flushed' pending'
    constructor
    · intro h
      obtain ⟨rfl, rfl, rfl⟩ := hEnds.unique hLimit h
      exact hEnding
    · exact ends_of_ending hCheck hLimit hChunk monitored

/-- Five bytes at a time, every third call interrupted, and room for one byte of the second line. -/
theorem run_of_twenty_six_bytes :
    let script : Script :=
      { capacity := some 26, fullAcceptsNothing := true, chunk := some 5, interruptEvery := some 3,
        flushFailsAt := some 2 }
    let job : Job := .recovered { heartbeats := 2 }
    (run script job false).Ends (some .nothingWritten) [Line.healthyRestarted.bytes]
      (Text.Utf8.encode ['h']) := by
  intro script job
  have hTranscript : job.transcript 2 = [.healthyRestarted] ++ .heartbeat 1 :: [.heartbeat 2] := rfl
  have hTake : (Line.heartbeat 1).bytes.take (26 - ([Line.healthyRestarted].flatMap Line.bytes).length) =
      Text.Utf8.encode ['h'] := by decide
  have hPasses : script.Passes [.healthyRestarted] := by
    constructor
    · rintro capacity ⟨⟩
      decide
    · rintro n ⟨⟩
      decide
  have hEnding : script.Ending (job.transcript 2) (some .nothingWritten) [Line.healthyRestarted.bytes]
      (Text.Utf8.encode ['h']) := by
    rw [hTranscript, ← hTake]
    exact .full hPasses rfl (by decide)
  exact ((run_of_limits rfl rfl (by decide) (by decide) false).2 _ _ _).mpr hEnding

end Trial

end WorkerSim
