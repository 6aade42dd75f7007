import WorkerSim.Proofs.Delivery
import WorkerSim.Proofs.Words
import WorkerSim.Writer.Script

/-!
# Reading lines back

The text of a line tells which line it is, with the number of a heartbeat, and holds no line end. So the
lines can be read back from the bytes that a writer has accepted: there is one piece for each line, and
bytes that are cut off somewhere still hold the first lines and no other.
-/

set_option autoImplicit false

namespace WorkerSim

open Text (Bytes)

/-! ### Texts -/

namespace Text.Utf8

theorem le_of_mem_encodeChar {c : Char} (hLong : 128 ≤ c.toNat) :
    ∀ b ∈ String.utf8EncodeChar c, 128 ≤ b.toNat := by
  have hShort : ¬ c.val.toNat ≤ 127 := Nat.not_le.mpr hLong
  simp only [String.utf8EncodeChar, if_neg hShort]
  split
  · simp
    omega
  · split
    · simp
      omega
    · simp
      omega

/-- A line end takes one byte, and this byte is in no other character. -/
theorem mem_of_mem_encode {cs : List Char} (h : 0x0A ∈ encode cs) : '\n' ∈ cs := by
  obtain ⟨c, hMem, hByte⟩ := List.mem_flatMap.mp h
  have hLow : c.toNat < 128 := by
    refine Nat.not_le.mp fun hLong => ?_
    exact absurd (le_of_mem_encodeChar hLong _ hByte) (by decide)
  have hOne : c.utf8Size = 1 := Char.utf8Size_eq_one_iff.mpr (Nat.le_of_lt_succ hLow)
  rw [String.utf8EncodeChar_eq_singleton hOne, List.mem_singleton] at hByte
  have hValue := congrArg UInt8.toNat hByte
  have hSmall : c.val.toNat % 2 ^ 8 = c.toNat := Nat.mod_eq_of_lt (Nat.lt_trans hLow (by decide))
  rw [UInt32.toNat_toUInt8, hSmall] at hValue
  have hSame : c = '\n' := Char.toNat_inj.mp hValue.symm
  exact hSame ▸ hMem

end Text.Utf8

namespace Line

def newline : UInt8 := 0x0A

/-- The lines whose text is always the same. -/
def fixed : List Line := [runawayStarted, requestFailed, healthyRestarted]

def beatMark : List Char := "heartbeat ".toList

def beat? : Line → Option UInt64
  | heartbeat n => some n
  | _ => none

/-- The number that a text has behind the mark of a heartbeat. -/
def readBeat (cs : List Char) : Option UInt64 :=
  (Numeral.read64 ((cs.drop beatMark.length).takeWhile Char.isDigit)).toOption

def candidates (cs : List Char) : List Line := fixed ++ ((readBeat cs).map heartbeat).toList

/-- The line that has a text. -/
def ofChars? (cs : List Char) : Option Line := (candidates cs).find? fun line => line.chars = cs

/-- The bytes of a line without its line end. -/
def piece (line : Line) : Bytes := Text.Utf8.encode line.chars

def ofBytes? (bytes : Bytes) : Option Line := (Text.Utf8.decode? bytes).bind ofChars?

/-- The pieces of a stream that have ended. -/
def complete (stream : Bytes) : List Bytes := (stream.splitOn newline).dropLast

theorem mem_fixed_of_beat? {line : Line} (h : line.beat? = none) : line ∈ fixed := by
  cases line with
  | heartbeat n => cases h
  | runawayStarted | requestFailed | healthyRestarted => decide

theorem eq_heartbeat_of_beat? {line : Line} {n : UInt64} (h : line.beat? = some n) : line = heartbeat n := by
  cases line with
  | heartbeat m => exact congrArg heartbeat (Option.some.inj h)
  | runawayStarted | requestFailed | healthyRestarted => cases h

theorem fixed_injective : ∀ a ∈ fixed, ∀ b ∈ fixed, a.chars = b.chars → a = b := by decide

theorem chars_heartbeat (n : UInt64) : (heartbeat n).chars =
    beatMark ++ (Numeral.digits n.toNat ++ ": service healthy".toList) := by
  simp only [chars, parts, List.flatten_cons, List.flatten_nil, List.append_nil]
  rfl

theorem readBeat_chars (line : Line) : readBeat line.chars = line.beat? := by
  cases line with
  -- These have no digit at the place where a heartbeat has its number.
  | runawayStarted | requestFailed | healthyRestarted => decide
  | heartbeat n =>
    have hDigits : ∀ c ∈ Numeral.digits n.toNat, c.isDigit = true :=
      fun c hMem => Numeral.isDigit_of_mem_digits hMem
    have hEnd : ": service healthy".toList.takeWhile Char.isDigit = [] := by decide
    rw [readBeat, chars_heartbeat, List.drop_left, List.takeWhile_append_of_pos hDigits, hEnd,
      List.append_nil, Numeral.read64_digits]
    rfl

theorem chars_injective {a b : Line} (h : a.chars = b.chars) : a = b := by
  have hBeat : a.beat? = b.beat? := by rw [← readBeat_chars, ← readBeat_chars, h]
  cases hNumber : b.beat? with
  | none =>
    have hFixed : a ∈ fixed := mem_fixed_of_beat? (hBeat.trans hNumber)
    exact fixed_injective a hFixed b (mem_fixed_of_beat? hNumber) h
  | some n =>
    have hHeartbeat : a = heartbeat n := eq_heartbeat_of_beat? (hBeat.trans hNumber)
    exact hHeartbeat.trans (eq_heartbeat_of_beat? hNumber).symm

theorem mem_candidates (line : Line) : line ∈ candidates line.chars := by
  rw [candidates, readBeat_chars, List.mem_append]
  cases hNumber : line.beat? with
  | none => exact .inl (mem_fixed_of_beat? hNumber)
  | some n => exact .inr (List.mem_singleton.mpr (eq_heartbeat_of_beat? hNumber))

theorem chars_of_ofChars? {cs : List Char} {line : Line} (h : ofChars? cs = some line) :
    line.chars = cs := by
  rw [ofChars?] at h
  simpa using List.find?_some h

theorem ofChars?_chars (line : Line) : ofChars? line.chars = some line := by
  have hFound : (ofChars? line.chars).isSome = true :=
    List.find?_isSome.mpr ⟨line, mem_candidates line, decide_eq_true rfl⟩
  -- The candidate that is found may be another one, but it has the same text.
  obtain ⟨other, hOther⟩ := Option.isSome_iff_exists.mp hFound
  rw [hOther, chars_injective (chars_of_ofChars? hOther)]

theorem ofBytes?_eq_some_iff {bytes : Bytes} {line : Line} :
    ofBytes? bytes = some line ↔ bytes = line.piece := by
  constructor
  · intro h
    obtain ⟨cs, hText, hLine⟩ := Option.bind_eq_some_iff.mp h
    rw [piece, chars_of_ofChars? hLine]
    exact Text.Utf8.eq_encode_of_decode? hText
  · rintro rfl
    rw [ofBytes?, piece, Text.Utf8.decode?_encode]
    exact ofChars?_chars line

example : ofChars? "heartbeat 012: service healthy".toList = none := by decide

/-! ### Pieces -/

theorem newline_not_mem_chars (line : Line) : '\n' ∉ line.chars := by
  cases line with
  | runawayStarted | requestFailed | healthyRestarted => decide
  | heartbeat n =>
    intro hMem
    rw [chars_heartbeat, List.mem_append, List.mem_append] at hMem
    obtain hMem | hMem | hMem := hMem
    · exact absurd hMem (by decide)
    · exact absurd (Numeral.isDigit_of_mem_digits hMem) (by decide)
    · exact absurd hMem (by decide)

theorem newline_not_mem_piece (line : Line) : newline ∉ line.piece :=
  fun hMem => line.newline_not_mem_chars (Text.Utf8.mem_of_mem_encode hMem)

theorem bytes_eq_piece (line : Line) : line.bytes = line.piece ++ [newline] := by
  rw [bytes_eq, Text.Utf8.encode_append]
  rfl

theorem splitOn_bytes (lines : List Line) {rest : Bytes} (hRest : newline ∉ rest) :
    (lines.flatMap bytes ++ rest).splitOn newline = lines.map piece ++ [rest] := by
  induction lines with
  | nil => exact List.splitOn_eq_singleton hRest
  | cons line lines ih =>
    rw [List.flatMap_cons, bytes_eq_piece, List.append_assoc, List.append_assoc, List.singleton_append,
      List.splitOn_append_cons_self_of_not_mem line.newline_not_mem_piece, ih]
    rfl

/-- Wherever the bytes of lines are cut off, there are whole lines and less than a line. -/
theorem exists_rest_of_prefix {lines : List Line} {cut : Bytes} (h : cut <+: lines.flatMap bytes) :
    ∃ first rest, first <+: lines ∧ newline ∉ rest ∧ cut = first.flatMap bytes ++ rest := by
  induction lines generalizing cut with
  | nil =>
    obtain rfl := List.prefix_nil.mp h
    exact ⟨[], [], List.nil_prefix, List.not_mem_nil, rfl⟩
  | cons line lines ih =>
    rw [List.flatMap_cons] at h
    by_cases hWhole : line.bytes <+: cut
    · obtain ⟨more, rfl⟩ := hWhole
      obtain ⟨first, rest, hFirst, hRest, rfl⟩ := ih ((List.prefix_append_right_inj _).mp h)
      refine ⟨line :: first, rest, (List.prefix_cons_inj line).mpr hFirst, hRest, ?_⟩
      rw [List.flatMap_cons, List.append_assoc]
    · -- The cut does not reach the end of the line, so it lies in the line's piece.
      have hShort := (List.prefix_or_prefix_of_prefix h (List.prefix_append _ _)).resolve_right hWhole
      rw [bytes_eq_piece] at hShort hWhole
      obtain rfl | hPiece := List.prefix_concat_iff.mp hShort
      · exact absurd List.prefix_rfl hWhole
      · refine ⟨[], cut, List.nil_prefix, fun hMem => ?_, rfl⟩
        exact line.newline_not_mem_piece (hPiece.subset hMem)

theorem ofBytes?_piece (line : Line) : ofBytes? line.piece = some line := ofBytes?_eq_some_iff.mpr rfl

theorem complete_of_prefix {lines : List Line} {cut : Bytes} (h : cut <+: lines.flatMap bytes) :
    ∃ first, first <+: lines ∧ (complete cut).map ofBytes? = first.map some := by
  obtain ⟨first, rest, hFirst, hRest, rfl⟩ := exists_rest_of_prefix h
  refine ⟨first, hFirst, ?_⟩
  rw [complete, splitOn_bytes first hRest, List.dropLast_concat, List.map_map]
  exact List.map_congr_left fun line _ => line.ofBytes?_piece

theorem piece_injective {a b : Line} (h : a.piece = b.piece) : a = b := by
  have hRead := ofBytes?_piece a
  rw [h, ofBytes?_piece] at hRead
  exact (Option.some.inj hRead).symm

theorem flatMap_bytes_injective {lines others : List Line}
    (h : lines.flatMap bytes = others.flatMap bytes) : lines = others := by
  have hSplit := congrArg (List.splitOn newline) h
  rw [← List.append_nil (lines.flatMap bytes), ← List.append_nil (others.flatMap bytes),
    splitOn_bytes lines List.not_mem_nil, splitOn_bytes others List.not_mem_nil] at hSplit
  have hPieces : lines.map piece = others.map piece := List.append_cancel_right hSplit
  exact (List.map_inj_right fun _ _ => piece_injective).mp hPieces

end Line

/-! ### Writers that accept everything -/

namespace Writer

variable {σ : Type} {w : Writer σ}

/-- No call of the writer fails. It may take bytes one by one, and may be interrupted. -/
structure Reliable (w : Writer σ) : Prop where
  write : ∀ bytes s, ¬ (Call.write bytes (w.write bytes s).1).Fails
  flush : ∀ s, ¬ (Call.flush (w.flush s).1).Fails

/-- The bytes that a writer accepts while lines are fed to it. -/
def received (w : Writer σ) (lines : List Line) (s : σ) : Bytes :=
  delivered (w.logged.emit.feed lines ⟨s, []⟩).2.calls

theorem Reliable.logged (h : w.Reliable) : w.logged.Reliable :=
  ⟨fun bytes s => h.write bytes s.state, fun s => h.flush s.state⟩

theorem Reliable.writeAll (h : w.Reliable) (bytes : Bytes) (s : σ) : (w.writeAll bytes s).1 = .ok () := by
  fun_induction Writer.writeAll w bytes s with
  | case1 s => rfl
  | case2 s b bytes t hWrite =>
    have hFails := h.write (b :: bytes) s
    rw [hWrite] at hFails
    exact absurd ⟨rfl, List.cons_ne_nil b bytes⟩ hFails
  | case3 s b bytes n t hWrite ih => exact ih
  | case4 s b bytes t hWrite _ ih => exact ih
  | case5 s b bytes cause t hWrite =>
    have hFails := h.write (b :: bytes) s
    rw [hWrite] at hFails
    exact absurd trivial hFails

theorem Reliable.writeParts (h : w.Reliable) (parts : List Bytes) (s : σ) :
    (w.writeParts parts s).1 = .ok () := by
  induction parts generalizing s with
  | nil => rfl
  | cons part parts ih =>
    have hPart := h.writeAll part s
    rw [Writer.writeParts]
    generalize w.writeAll part s = r at hPart
    obtain ⟨result, t⟩ := r
    obtain rfl : result = .ok () := hPart
    exact ih t

theorem Reliable.emit (h : w.Reliable) (line : Line) (s : σ) : (w.emit line s).1 = .ok () := by
  have hParts := h.writeParts (offered line) s
  rw [Writer.emit]
  generalize w.writeParts (offered line) s = r at hParts
  obtain ⟨result, t⟩ := r
  obtain rfl : result = .ok () := hParts
  have hFlush := h.flush t
  simp only
  generalize w.flush t = q at hFlush
  obtain ⟨result, u⟩ := q
  cases result with
  | error cause => exact absurd trivial hFlush
  | ok _ => rfl

theorem Reliable.feed (h : w.Reliable) (lines : List Line) (s : σ) :
    (w.emit.feed lines s).1 = .ok () := by
  induction lines generalizing s with
  | nil => rfl
  | cons line lines ih =>
    have hLine := h.emit line s
    rw [Sink.feed]
    generalize w.emit line s = r at hLine
    obtain ⟨result, t⟩ := r
    obtain rfl : result = .ok () := hLine
    exact ih t

theorem Reliable.received (h : w.Reliable) (lines : List Line) (s : σ) :
    w.received lines s = lines.flatMap Line.bytes := by
  have hFeed := h.logged.feed lines ⟨s, []⟩
  obtain ⟨calls, hCalls, hDelivers⟩ := w.adds_feed lines ⟨s, []⟩
  rw [hFeed] at hDelivers
  rw [Writer.received, hCalls]
  exact hDelivers.1

/-- Whatever a writer fails at, the lines that it has accepted are the first ones. -/
theorem complete_received (w : Writer σ) (lines : List Line) (s : σ) {cut : Bytes}
    (h : cut <+: w.received lines s) :
    ∃ first, first <+: lines ∧ (Line.complete cut).map Line.ofBytes? = first.map some := by
  obtain ⟨calls, hCalls, hDelivers⟩ := w.adds_feed lines ⟨s, []⟩
  have hReceived : w.received lines s = delivered calls := congrArg delivered hCalls
  exact Line.complete_of_prefix (h.trans (hReceived ▸ hDelivers.isPrefix))

/-- A scripted writer without a limit to its whole, which takes something in each call and flushes. -/
theorem reliable_script {script : Script} (hCapacity : script.capacity = none)
    (hChunk : script.chunk ≠ some 0) (hFlush : script.flushFailsAt = none) : script.writer.Reliable := by
  constructor
  · intro bytes s
    change ¬ (Call.write bytes (script.write bytes s).1).Fails
    have hRoom (t : Script.State) : script.isFull t = false := by rw [Script.isFull, hCapacity]
    simp only [Script.write, hRoom, Bool.false_and, Bool.false_eq_true, if_false]
    split
    · exact id
    · rintro ⟨hNothing, hSome⟩
      have hLength := List.length_pos_iff.mpr hSome
      simp only [Script.fitting, hCapacity] at hNothing
      cases hSize : script.chunk with
      | none =>
        rw [hSize] at hNothing
        exact absurd hNothing (Nat.ne_of_gt hLength)
      | some chunk =>
        have hPositive : 0 < chunk := Nat.pos_of_ne_zero fun hZero => hChunk (hZero ▸ hSize)
        rw [hSize] at hNothing
        exact absurd hNothing (Nat.ne_of_gt (Nat.lt_min.mpr ⟨hLength, hPositive⟩))
  · intro s
    change ¬ (Call.flush (script.flush s).1).Fails
    simp only [Script.flush, hFlush, reduceCtorEq, if_false]
    exact id

/-- Lines can be told from what a writer that accepts everything has been given: no other lines give the
same bytes, each piece up to a line end is one line and tells which, and so it is for whatever has come
of the bytes when they are cut off. -/
theorem lines_decodable (h : w.Reliable) (lines : List Line) (s : σ) :
    (w.emit.feed lines s).1 = .ok () ∧
    (∀ others t, w.received others t = w.received lines s → others = lines) ∧
    (w.received lines s).splitOn Line.newline = lines.map Line.piece ++ [[]] ∧
    (∀ bytes line, Line.ofBytes? bytes = some line ↔ bytes = Line.piece line) ∧
    ∀ n, ∃ first, first <+: lines ∧
      (Line.complete ((w.received lines s).take n)).map Line.ofBytes? = first.map some := by
  refine ⟨h.feed lines s, ?_, ?_, fun bytes line => Line.ofBytes?_eq_some_iff, fun n => ?_⟩
  · intro others t hSame
    rw [h.received, h.received] at hSame
    exact Line.flatMap_bytes_injective hSame
  · have hSplit := Line.splitOn_bytes lines List.not_mem_nil
    rwa [List.append_nil, ← h.received lines s] at hSplit
  · exact w.complete_received lines s (List.take_prefix n _)

theorem lines_decodable_in_chunks :
    let script : Script := { chunk := some 3, interruptEvery := some 2 }
    let lines := [Line.heartbeat 1, .heartbeat 12]
    let stream := script.writer.received lines {}
    script.writer.Reliable ∧ (script.writer.emit.feed lines {}).1 = .ok () ∧
    (∀ others t, script.writer.received others t = stream → others = lines) ∧
    stream.splitOn Line.newline = lines.map Line.piece ++ [[]] ∧
    (∀ bytes line, Line.ofBytes? bytes = some line ↔ bytes = Line.piece line) ∧
    ∀ n, ∃ first, first <+: lines ∧
      (Line.complete (stream.take n)).map Line.ofBytes? = first.map some := by
  intro script lines stream
  have hReliable : script.writer.Reliable := reliable_script rfl (by decide) rfl
  exact ⟨hReliable, lines_decodable hReliable lines {}⟩

end Writer

end WorkerSim
