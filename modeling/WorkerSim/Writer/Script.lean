import WorkerSim.Writer

/-!
# Scripted writers

A writer with limits: how many bytes it accepts at all and at a time, which of its calls are
interrupted, and which flush fails. It remembers what it was given and what each flush took.
-/

set_option autoImplicit false

namespace WorkerSim

open Text (Bytes)

/-- A limit that is not given does not bind. A full writer either fails or accepts nothing. Writes
are interrupted at every `interruptEvery`-th call, if that is not every call. -/
structure Script where
  capacity : Option Nat := none
  fullAcceptsNothing : Bool := false
  chunk : Option Nat := none
  interruptEvery : Option Nat := none
  flushFailsAt : Option Nat := none
  cause : IoCause := .kind .brokenPipe
  deriving DecidableEq, Repr

namespace Script

/-- What has happened so far; `taken` holds what each successful flush took, the latest first. -/
structure State where
  calls : Nat := 0
  flushes : Nat := 0
  written : Nat := 0
  pending : Bytes := []
  taken : List Bytes := []
  deriving DecidableEq, Repr

def isInterrupted (script : Script) (call : Nat) : Bool :=
  match script.interruptEvery with
  | some n => 2 ≤ n && call % n == 0
  | none => false

/-- How many of the bytes on offer fit into one call. -/
def fitting (script : Script) (s : State) (offered : Nat) : Nat :=
  let atOnce := match script.chunk with | some chunk => min offered chunk | none => offered
  match script.capacity with
  | some capacity => min atOnce (capacity - s.written)
  | none => atOnce

def isFull (script : Script) (s : State) : Bool :=
  match script.capacity with
  | some capacity => capacity ≤ s.written
  | none => false

def write (script : Script) (bytes : Bytes) (s : State) : Writer.Answer × State :=
  let s := { s with calls := s.calls + 1 }
  if script.isInterrupted s.calls then (.interrupted, s)
  else if script.isFull s && !bytes.isEmpty then
    (if script.fullAcceptsNothing then .accepted 0 else .failed script.cause, s)
  else
    let count := script.fitting s bytes.length
    (.accepted count,
      { s with written := s.written + count, pending := s.pending ++ bytes.take count })

def flush (script : Script) (s : State) : Except IoCause Unit × State :=
  let s := { s with flushes := s.flushes + 1 }
  if script.flushFailsAt = some s.flushes then (.error script.cause, s)
  else (.ok (), { s with pending := [], taken := s.pending :: s.taken })

/-- One if the next write will be interrupted. -/
def patience (script : Script) (s : State) : Nat := (script.isInterrupted (s.calls + 1)).toNat

theorem isInterrupted_succ (script : Script) (call : Nat) (h : script.isInterrupted call = true) :
    script.isInterrupted (call + 1) = false := by
  unfold isInterrupted at h ⊢
  cases hn : script.interruptEvery with
  | none => rfl
  | some n =>
    rw [hn] at h
    simp only [Bool.and_eq_true, decide_eq_true_eq, beq_iff_eq] at h
    obtain ⟨h2, h0⟩ := h
    have : (call + 1) % n = 1 := by
      rw [Nat.add_mod, h0, Nat.zero_add, Nat.mod_mod, Nat.mod_eq_of_lt h2]
    simp [this]

theorem patience_lt (script : Script) (bytes : Bytes) (s s' : State)
    (h : script.write bytes s = (.interrupted, s')) : script.patience s' < script.patience s := by
  simp only [write] at h
  split at h
  · rename_i hi
    obtain rfl : { s with calls := s.calls + 1 } = s' := (Prod.mk.inj h).2
    simp [patience, hi, script.isInterrupted_succ _ hi]
  · split at h
    · split at h <;> exact Writer.Answer.noConfusion (Prod.mk.inj h).1
    · exact Writer.Answer.noConfusion (Prod.mk.inj h).1

def writer (script : Script) : Writer State where
  write := script.write
  flush := script.flush
  patience := script.patience
  patience_lt := script.patience_lt

/-- What the flushes took, in order. -/
def State.flushed (s : State) : List Bytes := s.taken.reverse

/-- What came of writing one line: the result, what was flushed meanwhile, and the state after. -/
structure Step where
  result : Except Fault Unit
  flushed : List Bytes
  state : State

/-- Writes lines one after another, also past failures. -/
def emitEach (script : Script) : List Line → State → List Step
  | [], _ => []
  | line :: lines, s =>
    let (result, s') := script.writer.emit line s
    ⟨result, s'.flushed.drop s.taken.length, s'⟩ :: emitEach script lines s'

end Script

end WorkerSim
