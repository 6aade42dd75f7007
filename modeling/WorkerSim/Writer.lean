import WorkerSim.Fault
import WorkerSim.Line

/-!
# Writers

A writer takes bytes as it likes: all of them, some, none, or it fails; it may also be interrupted,
though not forever in a row. A line is written part by part, each part until all of it is accepted,
and then flushed. The first failure ends the line.
-/

set_option autoImplicit false

namespace WorkerSim

open Text (Bytes)

/-- What comes of offering bytes to a writer. -/
inductive Writer.Answer
  | accepted (count : Nat)
  | interrupted
  | failed (cause : IoCause)
  deriving DecidableEq, Repr

/-- A writer as a state machine. Its patience tells how many interruptions in a row are left. -/
structure Writer (σ : Type) where
  write : Bytes → σ → Writer.Answer × σ
  flush : σ → Except IoCause Unit × σ
  patience : σ → Nat
  patience_lt : ∀ bytes s s', write bytes s = (.interrupted, s') → patience s' < patience s

/-- Where lines go. -/
abbrev Sink (σ : Type) := Line → σ → Except Fault Unit × σ

namespace Writer

variable {σ : Type}

/-- Offers bytes until all of them are accepted. A writer that accepts none has failed. -/
def writeAll (w : Writer σ) (bytes : Bytes) (s : σ) : Except IoCause Unit × σ :=
  match bytes with
  | [] => (.ok (), s)
  | b :: bytes =>
    match h : w.write (b :: bytes) s with
    | (.accepted 0, s') => (.error .nothingWritten, s')
    | (.accepted (n + 1), s') => writeAll w (bytes.drop n) s'
    | (.interrupted, s') =>
      have := w.patience_lt _ _ _ h
      writeAll w (b :: bytes) s'
    | (.failed cause, s') => (.error cause, s')
termination_by (bytes.length, w.patience s)
decreasing_by
  · apply Prod.Lex.left
    simp only [List.length_drop, List.length_cons]
    omega
  · exact Prod.Lex.right _ this

/-- Writes parts one after another. -/
def writeParts (w : Writer σ) : List Bytes → σ → Except IoCause Unit × σ
  | [], s => (.ok (), s)
  | part :: parts, s =>
    match w.writeAll part s with
    | (.ok (), s') => writeParts w parts s'
    | (.error cause, s') => (.error cause, s')

/-- The parts of a line as bytes, and its line end. -/
def offered (line : Line) : List Bytes := line.parts.map Text.Utf8.encode ++ [Text.Utf8.encode ['\n']]

/-- Writes a line and flushes it. -/
def emit (w : Writer σ) : Sink σ := fun line s =>
  match w.writeParts (offered line) s with
  | (.error cause, s') => (.error (.io cause), s')
  | (.ok (), s') =>
    match w.flush s' with
    | (.error cause, s'') => (.error (.io cause), s'')
    | (.ok (), s'') => (.ok (), s'')

end Writer

/-- The bytes of a line on a writer. -/
def Line.bytes (line : Line) : Bytes := (Writer.offered line).flatten

theorem Line.bytes_eq (line : Line) : line.bytes = Text.Utf8.encode (line.chars ++ ['\n']) := by
  simp only [bytes, Writer.offered, Line.chars, Text.Utf8.encode, List.flatten_append,
    List.flatMap_append, List.flatten_cons, List.flatten_nil, List.append_nil]
  congr 1
  induction line.parts with
  | nil => rfl
  | cons p ps ih => simp [ih, Text.Utf8.encode]

end WorkerSim
