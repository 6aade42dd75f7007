import Mathlib.Data.List.TakeWhile
import WorkerSim.Proofs.OwnFlags

/-!
# Command lines word by word

What a word does depends on the flags that have been given before it, and not on how they were given.
A parameter may have its value in its own word or in the next one.
-/

set_option autoImplicit false

namespace WorkerSim

open Text (Bytes)

namespace Numeral

theorem le_ofDigitChars (cs : List Char) (n : Nat) : n ≤ Nat.ofDigitChars 10 cs n := by
  induction cs generalizing n with
  | nil => exact Nat.le_refl n
  | cons c cs ih =>
    rw [Nat.ofDigitChars_cons]
    have hRest := ih (10 * n + (c.toNat - '0'.toNat))
    omega

theorem readOnto_eq {cs : List Char} (hDigits : ∀ c ∈ cs, c.isDigit = true) {n : Nat}
    (hSmall : Nat.ofDigitChars 10 cs n < UInt64.size) :
    readOnto n cs = .ok (UInt64.ofNat (Nat.ofDigitChars 10 cs n)) := by
  induction cs generalizing n with
  | nil => rfl
  | cons c cs ih =>
    obtain ⟨hDigit, hRest⟩ := List.forall_mem_cons.mp hDigits
    rw [Nat.ofDigitChars_cons, Nat.mul_comm] at hSmall ⊢
    -- what is read up to here is not larger than the whole
    have hFits : ¬ UInt64.size ≤ n * 10 + (c.toNat - '0'.toNat) :=
      Nat.not_le.mpr (Nat.lt_of_le_of_lt (le_ofDigitChars cs _) hSmall)
    rw [readOnto, hDigit, if_neg hFits]
    exact ih hRest hSmall

theorem read64_digits (n : UInt64) : read64 (digits n.toNat) = .ok n := by
  have hDigits : ∀ c ∈ digits n.toNat, c.isDigit = true := fun c hMem => isDigit_of_mem_digits hMem
  have hValue : Nat.ofDigitChars 10 (digits n.toNat) 0 = n.toNat :=
    Nat.ofDigitChars_toDigits (by decide) (by decide)
  have hSmall : Nat.ofDigitChars 10 (digits n.toNat) 0 < UInt64.size := by
    rw [hValue]
    exact n.toNat_lt
  have hRead := readOnto_eq hDigits hSmall
  rw [hValue, UInt64.ofNat_toNat] at hRead
  obtain ⟨c, cs, hCons⟩ := List.exists_cons_of_ne_nil (digits_ne_nil n.toNat)
  rw [hCons] at hDigits hRead ⊢
  have hSign : c ≠ '+' := by
    rintro rfl
    cases hDigits '+' List.mem_cons_self
  rw [read64]
  · exact hRead
  · exact nofun
  · exact fun hSame => hSign (List.cons.inj hSame).1
  · exact fun _ hSame => hSign (List.cons.inj hSame).1

end Numeral

namespace Flags

variable {program : Program} {s : State} {f f' : Flags} {p : Parameter} {given : List Char}

theorem takeFlag_of_settle (h : settle s = .ok f) (flag : Flag) :
    takeFlag s flag = takeFlag { flags := f } flag := by
  cases flag <;> simp only [takeFlag, h] <;> rfl

theorem readLong_of_settle (h : settle s = .ok f) (rest : Bytes) :
    readLong program rest s = readLong program rest { flags := f } := by
  have hSettled : settle { flags := f } = .ok f := rfl
  simp only [readLong, takeFlag_of_settle h, h, hSettled]

theorem readShort_of_settle (h : settle s = .ok f) {b : UInt8} {rest : Bytes} :
    readShort program s (b :: rest) = readShort program { flags := f } (b :: rest) := by
  have hSettled : settle { flags := f } = .ok f := rfl
  simp only [readShort, takeFlag_of_settle h, h, hSettled]

theorem readValue_of_settle (h : settle s = .ok f) (arg : Bytes) :
    readValue arg s = readValue arg { flags := f } := by
  obtain ⟨flags, pending⟩ := s
  match pending with
  | none => rfl
  | some ⟨p, some value⟩ => rfl
  | some ⟨p, none⟩ => cases h

theorem readArgument_of_settle (h : settle s = .ok f) (arg : Bytes) :
    readArgument program arg s = readArgument program arg { flags := f } := by
  unfold readArgument
  split
  · rw [readLong_of_settle h, readShort_of_settle h, readValue_of_settle h]
  · rw [readValue_of_settle h]

/-- Reading goes on from the flags that have been given. -/
theorem readFrom_of_settle (h : settle s = .ok f) (args : List Bytes) :
    readFrom program args s = readFrom program args { flags := f } := by
  cases args with
  | nil => exact h
  | cons arg args =>
    simp only [readFrom, readArgument_of_settle h]
    cases args with
    | nil =>
      have hSettled : settle { flags := f } = .ok f := rfl
      simp only [h, hSettled]
    | cons next args => rfl

/-! ### Parameters -/

def long (p : Parameter) : List Char := '-' :: '-' :: p.long.toList

def attached (p : Parameter) (given : List Char) : Bytes :=
  Text.Utf8.encode (long p ++ '=' :: given)

def apart (p : Parameter) (given : List Char) : List Bytes :=
  [Text.Utf8.encode (long p), Text.Utf8.encode given]

theorem find?_long {flag : Flag} (h : flag ∈ program.flags) :
    program.flags.find? (fun g => Text.Utf8.encode g.long.toList = Text.Utf8.encode flag.long.toList) =
      some flag := by
  revert flag
  cases program <;> decide

theorem find?_parameter (hOwn : .parameter p ∈ program.flags) :
    program.flags.find? (fun g => Text.Utf8.encode g.long.toList = Text.Utf8.encode p.long.toList) =
      some (.parameter p) := by
  have hFind := find?_long hOwn
  exact hFind

theorem takeValue_encode (hNew : f.isGiven p = false) (hGive : f.give p given = .ok f') :
    f.takeValue p (Text.Utf8.encode given) = .ok f' := by
  rw [takeValue, hNew, Text.Utf8.decode?_encode]
  simp only [hGive]
  rfl

theorem readFrom_cons {arg : Bytes} (hFlags : arg ≠ [dash, dash]) {s s' : State}
    (h : readArgument program arg s = .ok s') (args : List Bytes) :
    readFrom program (arg :: args) s = readFrom program args s' := by
  simp only [readFrom, if_neg hFlags, h]

theorem long_ne_equals (p : Parameter) : ∀ b ∈ Text.Utf8.encode p.long.toList, decide (b ≠ equals) = true := by
  apply List.all_eq_true.mp
  cases p <;> rfl

theorem readLong_attached (hOwn : .parameter p ∈ program.flags) {value : Bytes}
    (hTake : f.takeValue p value = .ok f') :
    readLong program (Text.Utf8.encode p.long.toList ++ equals :: value) { flags := f } =
      .ok { flags := f' } := by
  have hName : (Text.Utf8.encode p.long.toList ++ equals :: value).takeWhile (· ≠ equals) =
      Text.Utf8.encode p.long.toList := by
    rw [List.takeWhile_append_of_pos (long_ne_equals p)]
    exact List.append_nil _
  have hAttached : (Text.Utf8.encode p.long.toList ++ equals :: value).dropWhile (· ≠ equals) =
      equals :: value := by
    rw [List.dropWhile_append_of_pos (long_ne_equals p)]
    rfl
  simp only [readLong, hName, hAttached, find?_parameter hOwn, settle, bind, Except.bind, hTake]
  rfl

theorem readLong_apart (hOwn : .parameter p ∈ program.flags) :
    readLong program (Text.Utf8.encode p.long.toList) { flags := f } =
      .ok { flags := f, pending := some ⟨p, none⟩ } := by
  have hName : (Text.Utf8.encode p.long.toList).takeWhile (· ≠ equals) =
      Text.Utf8.encode p.long.toList := List.takeWhile_eq_self_iff.mpr (long_ne_equals p)
  have hAttached : (Text.Utf8.encode p.long.toList).dropWhile (· ≠ equals) = [] :=
    List.dropWhile_eq_nil_iff.mpr (long_ne_equals p)
  simp only [readLong, hName, hAttached, find?_parameter hOwn]
  rfl

theorem readFrom_long (hOwn : .parameter p ∈ program.flags) (args : List Bytes) :
    readFrom program (Text.Utf8.encode (long p) :: args) { flags := f } =
      readFrom program args { flags := f, pending := some ⟨p, none⟩ } := by
  have hWord : readArgument program (Text.Utf8.encode (long p)) { flags := f } =
      .ok { flags := f, pending := some ⟨p, none⟩ } := readLong_apart hOwn
  have hFlags : Text.Utf8.encode (long p) ≠ [dash, dash] := by cases p <;> decide
  exact readFrom_cons hFlags hWord args

theorem readFrom_value (hOwn : .parameter p ∈ program.flags) {value : Bytes}
    (hTake : f.takeValue p value = .ok f') (args : List Bytes) :
    readFrom program ((Text.Utf8.encode (long p) ++ equals :: value) :: args) { flags := f } =
      readFrom program args { flags := f' } := by
  have hWord : readArgument program (Text.Utf8.encode (long p) ++ equals :: value) { flags := f } =
      .ok { flags := f' } := readLong_attached hOwn hTake
  apply readFrom_cons
  · intro hSame
    have hMem : equals ∈ [dash, dash] := hSame ▸ List.mem_append_right _ List.mem_cons_self
    exact absurd hMem (by decide)
  · exact hWord

/-- Whether a word can be a value in a word of its own. -/
def IsValue (word : Bytes) : Prop := ∀ rest, word = dash :: rest → rest = []

theorem readArgument_of_isValue {word : Bytes} (h : IsValue word) (s : State) :
    readArgument program word s = readValue word s := by
  unfold readArgument
  split
  · rename_i a b rest
    exact if_neg fun hDash => nomatch h (b :: rest) (by rw [hDash])
  · rfl

theorem readFrom_of_waits {word : Bytes} (hValue : IsValue word)
    (hTake : f.takeValue p word = .ok f') (words : List Bytes) :
    readFrom program (word :: words) { flags := f, pending := some ⟨p, none⟩ } =
      readFrom program words { flags := f' } := by
  have hFlags : word ≠ [dash, dash] := fun hSame => nomatch hValue _ hSame
  have hWord : readArgument program word { flags := f, pending := some ⟨p, none⟩ } =
      .ok { flags := f, pending := some ⟨p, some word⟩ } := readArgument_of_isValue hValue _
  have hSettle : settle { flags := f, pending := some ⟨p, some word⟩ } = .ok f' := hTake
  rw [readFrom_cons hFlags hWord]
  exact readFrom_of_settle hSettle words

variable (hOwn : .parameter p ∈ program.flags) (hNew : f.isGiven p = false)
  (hGive : f.give p given = .ok f')

include hOwn hNew hGive

theorem readFrom_attached (args : List Bytes) :
    readFrom program (attached p given :: args) { flags := f } =
      readFrom program args { flags := f' } := by
  rw [attached, Text.Utf8.encode_append]
  exact readFrom_value hOwn (takeValue_encode hNew hGive) args

theorem readFrom_apart (hPlain : (Text.Utf8.encode given).head? ≠ some dash) (args : List Bytes) :
    readFrom program (apart p given ++ args) { flags := f } =
      readFrom program args { flags := f' } := by
  have hValue : IsValue (Text.Utf8.encode given) :=
    fun _ hSame => absurd (congrArg List.head? hSame) hPlain
  rw [apart, List.cons_append, List.singleton_append, readFrom_long hOwn]
  exact readFrom_of_waits hValue (takeValue_encode hNew hGive) args

end Flags

end WorkerSim
