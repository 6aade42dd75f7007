import WorkerSim.Proofs.Sink

/-!
# What a writer is given

A writer that keeps a record of its calls answers as it does without one. The record tells which bytes
were accepted and whether a call failed. Whatever is written through it, the accepted bytes are those
that were to be written if no call fails, and otherwise some of the first of them; a call that fails
is the last one.
-/

set_option autoImplicit false

namespace WorkerSim

open Text (Bytes)

namespace Writer

inductive Call
  | write (bytes : Bytes) (answer : Answer)
  | flush (result : Except IoCause Unit)

namespace Call

def accepted : Call → Bytes
  | .write bytes (.accepted n) => bytes.take n
  | _ => []

/-- A write that accepts none of the bytes on offer has failed, too. -/
def Fails : Call → Prop
  | .write bytes (.accepted n) => n = 0 ∧ bytes ≠ []
  | .write _ .interrupted => False
  | .write _ (.failed _) => True
  | .flush (.error _) => True
  | .flush (.ok ()) => False

end Call

def delivered (calls : List Call) : Bytes := calls.flatMap Call.accepted

theorem delivered_append (calls more : List Call) :
    delivered (calls ++ more) = delivered calls ++ delivered more := List.flatMap_append

/-- Whether the last of the calls fails and no other. -/
def Breaks (calls : List Call) : Prop :=
  ∃ before last, calls = before ++ [last] ∧ (∀ c ∈ before, ¬ c.Fails) ∧ last.Fails

/-- What calls that are to deliver some bytes come to. -/
def Delivers {ε : Type} (bytes : Bytes) (calls : List Call) : Except ε Unit → Prop
  | .ok () => delivered calls = bytes ∧ ∀ c ∈ calls, ¬ c.Fails
  | .error _ => delivered calls <+: bytes ∧ Breaks calls

theorem Delivers.nil {ε : Type} : Delivers (ε := ε) [] [] (.ok ()) := ⟨rfl, nofun⟩

theorem Delivers.append {ε δ : Type} {xs ys : Bytes} {calls more : List Call} {result : Except ε Unit}
    (h : Delivers (ε := δ) xs calls (.ok ())) (hMore : Delivers ys more result) :
    Delivers (xs ++ ys) (calls ++ more) result := by
  obtain ⟨rfl, hCalls⟩ := h
  cases result with
  | error _ =>
    obtain ⟨hPrefix, before, last, rfl, hBefore, hLast⟩ := hMore
    refine ⟨?_, calls ++ before, last, (List.append_assoc _ _ _).symm, ?_, hLast⟩
    · rw [delivered_append]
      exact (List.prefix_append_right_inj _).mpr hPrefix
    · intro c hc
      obtain hc | hc := List.mem_append.mp hc
      · exact hCalls c hc
      · exact hBefore c hc
  | ok _ =>
    obtain ⟨rfl, hMore⟩ := hMore
    refine ⟨delivered_append _ _, ?_⟩
    intro c hc
    obtain hc | hc := List.mem_append.mp hc
    · exact hCalls c hc
    · exact hMore c hc

theorem Delivers.of_error {ε δ : Type} {xs : Bytes} {calls : List Call} {cause : ε} {fault : δ}
    (h : Delivers xs calls (.error cause)) (ys : Bytes) : Delivers (xs ++ ys) calls (.error fault) :=
  ⟨h.1.trans (List.prefix_append _ _), h.2⟩

theorem Delivers.isPrefix {ε : Type} {bytes : Bytes} {calls : List Call} {result : Except ε Unit}
    (h : Delivers bytes calls result) : delivered calls <+: bytes := by
  cases result with
  | error _ => exact h.1
  | ok _ => exact h.1 ▸ List.prefix_rfl

variable {σ : Type}

structure Logged (σ : Type) where
  state : σ
  calls : List Call := []

def logged (w : Writer σ) : Writer (Logged σ) where
  write bytes s :=
    let (answer, state) := w.write bytes s.state
    (answer, ⟨state, s.calls ++ [.write bytes answer]⟩)
  flush s :=
    let (result, state) := w.flush s.state
    (result, ⟨state, s.calls ++ [.flush result]⟩)
  patience s := w.patience s.state
  patience_lt bytes s s' h := by
    obtain ⟨hAnswer, rfl⟩ := Prod.mk.inj h
    exact w.patience_lt bytes s.state _ (Prod.ext hAnswer rfl)

theorem writeAll_cons {w : Writer σ} {b : UInt8} {bytes : Bytes} {s t : σ} {answer : Answer}
    (h : w.write (b :: bytes) s = (answer, t)) : w.writeAll (b :: bytes) s = match answer with
      | .accepted 0 => (.error .nothingWritten, t)
      | .accepted (n + 1) => w.writeAll (bytes.drop n) t
      | .interrupted => w.writeAll (b :: bytes) t
      | .failed cause => (.error cause, t) := by
  rw [writeAll]
  split <;> (rename_i h'; obtain ⟨rfl, rfl⟩ := Prod.mk.inj (h.symm.trans h'); rfl)

theorem write_of_logged {w : Writer σ} {bytes : Bytes} {s t : Logged σ} {answer : Answer}
    (h : w.logged.write bytes s = (answer, t)) : w.write bytes s.state = (answer, t.state) := by
  obtain ⟨rfl, rfl⟩ := Prod.mk.inj h
  rfl

/-- What a writer does does not depend on whether a record is kept. -/
theorem writeAll_logged (w : Writer σ) (bytes : Bytes) (s : Logged σ) :
    w.writeAll bytes s.state =
      ((w.logged.writeAll bytes s).1, (w.logged.writeAll bytes s).2.state) := by
  fun_induction writeAll w.logged bytes s with
  | case1 s => rw [writeAll]
  | case2 s b bytes t h => rw [writeAll_cons (write_of_logged h)]
  | case3 s b bytes n t h ih => exact (writeAll_cons (write_of_logged h)).trans ih
  | case4 s b bytes t h _ ih => exact (writeAll_cons (write_of_logged h)).trans ih
  | case5 s b bytes cause t h => rw [writeAll_cons (write_of_logged h)]

theorem writeParts_logged (w : Writer σ) (parts : List Bytes) (s : Logged σ) :
    w.writeParts parts s.state =
      ((w.logged.writeParts parts s).1, (w.logged.writeParts parts s).2.state) := by
  induction parts generalizing s with
  | nil => rfl
  | cons part parts ih =>
    rw [writeParts, writeParts, writeAll_logged]
    generalize w.logged.writeAll part s = r
    obtain ⟨result, t⟩ := r
    cases result with
    | error cause => rfl
    | ok _ => exact ih t

theorem emit_logged (w : Writer σ) (line : Line) (s : Logged σ) :
    w.emit line s.state = ((w.logged.emit line s).1, (w.logged.emit line s).2.state) := by
  rw [emit, emit, writeParts_logged]
  generalize w.logged.writeParts (offered line) s = r
  obtain ⟨result, t⟩ := r
  cases result with
  | error cause => rfl
  | ok _ =>
    have hFlush : w.flush t.state = ((w.logged.flush t).1, (w.logged.flush t).2.state) := rfl
    simp only [hFlush]
    generalize w.logged.flush t = q
    obtain ⟨result, u⟩ := q
    cases result <;> rfl

/-- What is added to the record when something is written through it. -/
def Adds {ε : Type} (bytes : Bytes) (s : Logged σ) (r : Except ε Unit × Logged σ) : Prop :=
  ∃ calls, r.2.calls = s.calls ++ calls ∧ Delivers bytes calls r.1

theorem Adds.after {ε δ : Type} {xs ys : Bytes} {s t : Logged σ} {calls : List Call}
    {r : Except ε Unit × Logged σ} (hCalls : t.calls = s.calls ++ calls)
    (hFirst : Delivers (ε := δ) xs calls (.ok ())) (h : Adds ys t r) : Adds (xs ++ ys) s r := by
  obtain ⟨more, hMore, hDelivers⟩ := h
  exact ⟨calls ++ more, by rw [hMore, hCalls, List.append_assoc], hFirst.append hDelivers⟩

theorem breaks_singleton {c : Call} (h : c.Fails) : Breaks [c] := ⟨[], c, rfl, nofun, h⟩

theorem calls_of_write {w : Writer σ} {bytes : Bytes} {s t : Logged σ} {answer : Answer}
    (h : w.logged.write bytes s = (answer, t)) : t.calls = s.calls ++ [.write bytes answer] := by
  obtain ⟨rfl, rfl⟩ := Prod.mk.inj h
  rfl

theorem adds_flush (w : Writer σ) (s : Logged σ) : Adds [] s (w.logged.flush s) := by
  refine ⟨[.flush (w.flush s.state).1], rfl, ?_⟩
  change Delivers [] _ (w.flush s.state).1
  cases (w.flush s.state).1 with
  | error cause => exact ⟨List.nil_prefix, breaks_singleton trivial⟩
  | ok _ => exact ⟨rfl, fun c hc => List.mem_singleton.mp hc ▸ id⟩

theorem adds_writeAll (w : Writer σ) (bytes : Bytes) (s : Logged σ) :
    Adds bytes s (w.logged.writeAll bytes s) := by
  fun_induction writeAll w.logged bytes s with
  | case1 s => exact ⟨[], (List.append_nil _).symm, .nil⟩
  | case2 s b bytes t h =>
    refine ⟨_, calls_of_write h, List.nil_prefix, breaks_singleton ⟨rfl, List.cons_ne_nil _ _⟩⟩
  | case3 s b bytes n t h ih =>
    have hFirst : Delivers (ε := IoCause) ((b :: bytes).take (n + 1))
        [.write (b :: bytes) (.accepted (n + 1))] (.ok ()) :=
      ⟨List.append_nil _, fun c hc => List.mem_singleton.mp hc ▸ fun hFails => nomatch hFails.1⟩
    have hAdds := ih.after (calls_of_write h) hFirst
    rwa [List.take_succ_cons, List.cons_append, List.take_append_drop] at hAdds
  | case4 s b bytes t h _ ih =>
    have hFirst : Delivers (ε := IoCause) [] [.write (b :: bytes) .interrupted] (.ok ()) :=
      ⟨rfl, fun c hc => List.mem_singleton.mp hc ▸ id⟩
    exact ih.after (calls_of_write h) hFirst
  | case5 s b bytes cause t h =>
    exact ⟨_, calls_of_write h, List.nil_prefix, breaks_singleton trivial⟩

theorem adds_writeParts (w : Writer σ) (parts : List Bytes) (s : Logged σ) :
    Adds parts.flatten s (w.logged.writeParts parts s) := by
  induction parts generalizing s with
  | nil => exact ⟨[], (List.append_nil _).symm, .nil⟩
  | cons part parts ih =>
    have hPart := w.adds_writeAll part s
    rw [writeParts, List.flatten_cons]
    generalize w.logged.writeAll part s = r at hPart
    obtain ⟨result, t⟩ := r
    obtain ⟨calls, hCalls, hDelivers⟩ := hPart
    cases result with
    | error cause => exact ⟨calls, hCalls, hDelivers.of_error _⟩
    | ok _ => exact (ih t).after hCalls hDelivers

theorem adds_emit (w : Writer σ) (line : Line) (s : Logged σ) :
    Adds line.bytes s (w.logged.emit line s) := by
  have hParts := w.adds_writeParts (offered line) s
  rw [emit, Line.bytes]
  generalize w.logged.writeParts (offered line) s = r at hParts
  obtain ⟨result, t⟩ := r
  obtain ⟨calls, hCalls, hDelivers⟩ := hParts
  cases result with
  | error cause =>
    rw [← List.append_nil (offered line).flatten]
    exact ⟨calls, hCalls, hDelivers.of_error []⟩
  | ok _ =>
    rw [← List.append_nil (offered line).flatten]
    refine Adds.after hCalls hDelivers ?_
    have hFlush := w.adds_flush t
    simp only
    generalize w.logged.flush t = q at hFlush
    obtain ⟨result, u⟩ := q
    obtain ⟨more, hMore, hNothing⟩ := hFlush
    cases result with
    | error cause => exact ⟨more, hMore, hNothing.of_error []⟩
    | ok _ => exact ⟨more, hMore, hNothing⟩

theorem adds_feed (w : Writer σ) (lines : List Line) (s : Logged σ) :
    Adds (lines.flatMap Line.bytes) s (w.logged.emit.feed lines s) := by
  induction lines generalizing s with
  | nil => exact ⟨[], (List.append_nil _).symm, .nil⟩
  | cons line lines ih =>
    have hLine := w.adds_emit line s
    rw [Sink.feed, List.flatMap_cons]
    generalize w.logged.emit line s = r at hLine
    obtain ⟨result, t⟩ := r
    obtain ⟨calls, hCalls, hDelivers⟩ := hLine
    cases result with
    | error fault => exact ⟨calls, hCalls, hDelivers.of_error _⟩
    | ok _ => exact (ih t).after hCalls hDelivers

theorem io_of_emit {w : Writer σ} {line : Line} {s t : σ} {fault : Fault}
    (h : w.emit line s = (.error fault, t)) : ∃ cause, fault = .io cause := by
  rw [emit] at h
  split at h
  · exact ⟨_, (Except.error.inj (Prod.mk.inj h).1).symm⟩
  · split at h
    · exact ⟨_, (Except.error.inj (Prod.mk.inj h).1).symm⟩
    · cases h

theorem io_of_feed {w : Writer σ} {lines : List Line} {s : σ} {fault : Fault}
    (h : (w.emit.feed lines s).1 = .error fault) : ∃ cause, fault = .io cause := by
  induction lines generalizing s with
  | nil => cases h
  | cons line lines ih =>
    rw [Sink.feed] at h
    split at h
    · rename_i hLine
      obtain rfl := Except.error.inj h
      exact io_of_emit hLine
    · exact ih h

end Writer

/-- The bytes of the lines of a job up to the end of its `n`-th iteration. -/
def Job.bytes (job : Job) (n : Nat) : Text.Bytes := (job.transcript n).flatMap Line.bytes

theorem Line.bytes_ne_nil (line : Line) : line.bytes ≠ [] := by
  rw [bytes_eq, Text.Utf8.encode_append]
  exact List.append_ne_nil_of_right_ne_nil _ (by decide)

end WorkerSim
