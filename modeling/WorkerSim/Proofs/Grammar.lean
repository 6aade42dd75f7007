import Mathlib.Data.List.Nodup
import WorkerSim.Proofs.Switches

/-!
# The grammar of command lines

A command line is accepted if it is a row of occurrences of flags, perhaps with two dashes behind it, and
gives no flag twice. What it gives is what the occurrences give, and nothing else.
-/

set_option autoImplicit false

namespace WorkerSim

open Text (Bytes)

/-! ### Numbers -/

namespace Numeral

/-- A text stands for a number: digits, perhaps behind a plus sign. -/
def Denotes (cs : List Char) (n : UInt64) : Prop :=
  ∃ ds, (cs = ds ∨ cs = '+' :: ds) ∧ value? ds = some n.toNat

theorem value?_eq_some_iff {cs : List Char} {n : Nat} : value? cs = some n ↔
    (cs ≠ [] ∧ ∀ c ∈ cs, c.isDigit = true) ∧ Nat.ofDigitChars 10 cs 0 = n := by
  simp only [value?, List.all_eq_true]
  split
  · rename_i hDigits
    rw [Option.some_inj, and_iff_right hDigits]
  · rename_i hDigits
    constructor
    · intro h
      cases h
    · exact fun h => absurd h.1 hDigits

theorem digits_of_readOnto {cs : List Char} {n : Nat} (hStart : n < UInt64.size) {m : UInt64}
    (h : readOnto n cs = .ok m) :
    (∀ c ∈ cs, c.isDigit = true) ∧ Nat.ofDigitChars 10 cs n = m.toNat := by
  induction cs generalizing n with
  | nil =>
    obtain rfl := Except.ok.inj h
    exact ⟨nofun, (UInt64.toNat_ofNat_of_lt' hStart).symm⟩
  | cons c cs ih =>
    rw [readOnto] at h
    split at h
    · cases h
    · rename_i hDigit
      split at h
      · cases h
      · rename_i hFits
        obtain ⟨hDigits, hValue⟩ := ih (Nat.not_le.mp hFits) h
        rw [Nat.mul_comm] at hValue
        refine ⟨List.forall_mem_cons.mpr ⟨by simpa using hDigit, hDigits⟩, ?_⟩
        rw [Nat.ofDigitChars_cons, hValue]

theorem readOnto_eq_ok_iff {cs : List Char} (hSome : cs ≠ []) {n : UInt64} :
    readOnto 0 cs = .ok n ↔ value? cs = some n.toNat := by
  rw [value?_eq_some_iff]
  constructor
  · intro h
    obtain ⟨hDigits, hValue⟩ := digits_of_readOnto (by decide) h
    exact ⟨⟨hSome, hDigits⟩, hValue⟩
  · rintro ⟨⟨-, hDigits⟩, hValue⟩
    have hSmall : Nat.ofDigitChars 10 cs 0 < UInt64.size := by
      rw [hValue]
      exact n.toNat_lt
    rw [readOnto_eq hDigits hSmall, hValue, UInt64.ofNat_toNat]

theorem denotes_plus_iff {cs : List Char} {n : UInt64} :
    Denotes ('+' :: cs) n ↔ value? cs = some n.toNat := by
  constructor
  · rintro ⟨ds, rfl | hSame, hValue⟩
    · have hSign := (value?_eq_some_iff.mp hValue).1.2 '+' List.mem_cons_self
      cases hSign
    · rwa [(List.cons.inj hSame).2]
  · exact fun hValue => ⟨cs, .inr rfl, hValue⟩

theorem denotes_iff {c : Char} (hSign : c ≠ '+') {cs : List Char} {n : UInt64} :
    Denotes (c :: cs) n ↔ value? (c :: cs) = some n.toNat := by
  constructor
  · rintro ⟨ds, rfl | hSame, hValue⟩
    · exact hValue
    · exact absurd (List.cons.inj hSame).1 hSign
  · exact fun hValue => ⟨_, .inl rfl, hValue⟩

theorem read64_eq_ok_iff {cs : List Char} {n : UInt64} : read64 cs = .ok n ↔ Denotes cs n := by
  cases cs with
  | nil =>
    constructor
    · intro h
      cases h
    · rintro ⟨ds, rfl | hSame, hValue⟩
      · cases hValue
      · cases hSame
  | cons c cs =>
    by_cases hSign : c = '+'
    · subst hSign
      rw [denotes_plus_iff]
      cases cs with
      | nil => constructor <;> (intro h; cases h)
      | cons d cs => exact readOnto_eq_ok_iff (List.cons_ne_nil d cs)
    · rw [denotes_iff hSign, ← readOnto_eq_ok_iff (List.cons_ne_nil c cs), read64]
      · intro hSame
        cases hSame
      · exact fun hSame => hSign (List.cons.inj hSame).1
      · exact fun _ hSame => hSign (List.cons.inj hSame).1

end Numeral

/-! ### Occurrences -/

def Parameter.Value : Parameter → Type
  | .config => List Char
  | _ => UInt64

/-- A text stands for a value: a path for itself. -/
def Parameter.Denotes : (p : Parameter) → List Char → p.Value → Prop
  | .config, given, path => given = path
  | .workloadSize, given, n => Numeral.Denotes given n
  | .reportEvery, given, n => Numeral.Denotes given n
  | .maxIterations, given, n => Numeral.Denotes given n
  | .heartbeats, given, n => Numeral.Denotes given n
  | .intervalMs, given, n => Numeral.Denotes given n

namespace Flags

inductive Given
  | switch (sw : Switch)
  | value (p : Parameter) (v : p.Value)

def Given.flag : Given → Flag
  | switch sw => .switch sw
  | value p _ => .parameter p

/-- A word with the short flag for the path and what is attached to it, perhaps behind a switch. -/
def shortPath (isVerbose : Bool) (attached : Bytes) : Bytes :=
  dash :: ((if isVerbose then [verboseLetter] else []) ++ configLetter :: attached)

/-- What is attached to a short flag, without an equals sign in front. -/
def afterEquals : Bytes → Bytes
  | [] => []
  | b :: rest => if b = equals then rest else b :: rest

def withPath (isVerbose : Bool) (path : List Char) : List Given :=
  (if isVerbose then [.switch .verbose] else []) ++ [.value .config path]

/-- The words of one occurrence, or of a switch and a path in one word. -/
inductive Occurs (program : Program) : List Bytes → List Given → Prop
  | switch {sw : Switch} {word : Bytes} : word ∈ wordsOf (.switch sw) → Occurs program [word] [.switch sw]
  | attached {p : Parameter} {given : List Char} {v : p.Value} : .parameter p ∈ program.flags →
      p.Denotes given v → Occurs program [attached p given] [.value p v]
  | apart {p : Parameter} {given : List Char} {v : p.Value} : .parameter p ∈ program.flags →
      p.Denotes given v → IsValue (Text.Utf8.encode given) → Occurs program (apart p given) [.value p v]
  | path (isVerbose : Bool) {rest : Bytes} {path : List Char} : rest ≠ [] →
      afterEquals rest = Text.Utf8.encode path →
      Occurs program [shortPath isVerbose rest] (withPath isVerbose path)
  | pathApart (isVerbose : Bool) {path : List Char} : IsValue (Text.Utf8.encode path) →
      Occurs program [shortPath isVerbose [], Text.Utf8.encode path] (withPath isVerbose path)

/-- The command lines that are rows of occurrences. -/
inductive Spells (program : Program) : List Bytes → List Given → Prop
  | nothing : Spells program [] []
  | ended : Spells program [[dash, dash]] []
  | next {words args : List Bytes} {gs more : List Given} : Occurs program words gs →
      Spells program args more → Spells program (words ++ args) (gs ++ more)

def value? (f : Flags) : (p : Parameter) → Option p.Value
  | .config => f.config
  | .workloadSize => f.workloadSize
  | .reportEvery => f.reportEvery
  | .maxIterations => f.maxIterations
  | .heartbeats => f.heartbeats
  | .intervalMs => f.intervalMs

/-- The flags hold what is given and nothing else. -/
structure Holds (f : Flags) (gs : List Given) : Prop where
  switch : ∀ sw, f.isOn sw = true ↔ .switch sw ∈ gs
  value : ∀ p v, f.value? p = some v ↔ .value p v ∈ gs

/-! ### What occurrences give -/

def setValue (f : Flags) : (p : Parameter) → p.Value → Flags
  | .config, path => { f with config := some path }
  | .workloadSize, n => { f with workloadSize := some n }
  | .reportEvery, n => { f with reportEvery := some n }
  | .maxIterations, n => { f with maxIterations := some n }
  | .heartbeats, n => { f with heartbeats := some n }
  | .intervalMs, n => { f with intervalMs := some n }

def put (f : Flags) : Given → Flags
  | .switch sw => f.turnOn sw
  | .value p v => f.setValue p v

def has (f : Flags) : Flag → Bool
  | .switch sw => f.isOn sw
  | .parameter p => f.isGiven p
  | .help => false

/-- No flag is given twice, and none that has been given before. -/
structure Fresh (f : Flags) (gs : List Given) : Prop where
  nodup : (gs.map Given.flag).Nodup
  new : ∀ g ∈ gs, f.has g.flag = false

variable {program : Program} {f f' : Flags} {g : Given} {gs more : List Given} {p : Parameter}

theorem isGiven_eq (f : Flags) (p : Parameter) : f.isGiven p = (f.value? p).isSome := by
  cases p <;> rfl

theorem isOn_turnOn (f : Flags) (sw sw' : Switch) :
    (f.turnOn sw).isOn sw' = (f.isOn sw' || decide (sw' = sw)) := by
  cases sw <;> cases sw' <;> simp [turnOn, isOn]

theorem isOn_setValue (f : Flags) (v : p.Value) (sw : Switch) : (f.setValue p v).isOn sw = f.isOn sw := by
  cases p <;> rfl

theorem value?_turnOn (f : Flags) (sw : Switch) (p : Parameter) : (f.turnOn sw).value? p = f.value? p := by
  cases sw <;> rfl

theorem value?_setValue (f : Flags) (v : p.Value) : (f.setValue p v).value? p = some v := by
  cases p <;> rfl

theorem value?_setValue_of_ne {q : Parameter} (h : q ≠ p) (f : Flags) (v : p.Value) :
    (f.setValue p v).value? q = f.value? q := by
  cases p <;> cases q <;> first | rfl | exact absurd rfl h

theorem isOn_put (f : Flags) (g : Given) (sw : Switch) :
    (f.put g).isOn sw = true ↔ f.isOn sw = true ∨ .switch sw = g := by
  cases g with
  | switch sw' => simp [put, isOn_turnOn]
  | value p v => simp [put, isOn_setValue]

theorem value?_put (hNew : f.has g.flag = false) (v : p.Value) :
    (f.put g).value? p = some v ↔ f.value? p = some v ∨ .value p v = g := by
  cases g with
  | switch sw => simp [put, value?_turnOn]
  | value q w =>
    by_cases hSame : p = q
    · subst hSame
      rw [Given.flag, has, isGiven_eq, Option.isSome_eq_false_iff, Option.isNone_iff_eq_none] at hNew
      simp [put, value?_setValue, hNew, eq_comm]
    · simp [put, value?_setValue_of_ne hSame, hSame]

theorem has_put (f : Flags) (g : Given) (flag : Flag) :
    (f.put g).has flag = (f.has flag || decide (flag = g.flag)) := by
  cases flag with
  | help => cases g <;> rfl
  | switch sw => cases g <;> simp [put, has, isOn_turnOn, isOn_setValue, Given.flag]
  | parameter q =>
    cases g with
    | switch sw => simp [put, has, isGiven_eq, value?_turnOn, Given.flag]
    | value p v =>
      by_cases hSame : q = p
      · subst hSame
        simp [put, has, isGiven_eq, value?_setValue, Given.flag]
      · simp [put, has, isGiven_eq, value?_setValue_of_ne hSame, Given.flag, hSame]

theorem fresh_nil (f : Flags) : f.Fresh [] := ⟨List.nodup_nil, nofun⟩

theorem fresh_cons : f.Fresh (g :: gs) ↔ f.has g.flag = false ∧ (f.put g).Fresh gs := by
  constructor
  · rintro ⟨hNodup, hNew⟩
    obtain ⟨hNotMem, hNodup⟩ := List.nodup_cons.mp hNodup
    obtain ⟨hFirst, hNew⟩ := List.forall_mem_cons.mp hNew
    refine ⟨hFirst, hNodup, fun g' hMem => ?_⟩
    -- Putting `g` down gives its own flag only, which no later occurrence has.
    have hOther : g'.flag ≠ g.flag := fun hSame => hNotMem (hSame ▸ List.mem_map_of_mem hMem)
    rw [has_put, hNew g' hMem, decide_eq_false hOther]
    rfl
  · rintro ⟨hFirst, hNodup, hNew⟩
    simp only [has_put, Bool.or_eq_false_iff, decide_eq_false_iff_not] at hNew
    refine ⟨List.nodup_cons.mpr ⟨fun hMem => ?_, hNodup⟩, List.forall_mem_cons.mpr ⟨hFirst, ?_⟩⟩
    · obtain ⟨g', hMem, hSame⟩ := List.mem_map.mp hMem
      exact (hNew g' hMem).2 hSame
    · exact fun g' hMem => (hNew g' hMem).1

theorem fresh_append : f.Fresh (gs ++ more) ↔ f.Fresh gs ∧ (gs.foldl put f).Fresh more := by
  induction gs generalizing f with
  | nil => simp [fresh_nil]
  | cons g gs ih => rw [List.cons_append, fresh_cons, fresh_cons, ih, List.foldl_cons, and_assoc]

theorem isOn_foldl (f : Flags) (gs : List Given) (sw : Switch) :
    (gs.foldl put f).isOn sw = true ↔ f.isOn sw = true ∨ .switch sw ∈ gs := by
  induction gs generalizing f with
  | nil => simp
  | cons g gs ih => rw [List.foldl_cons, ih, isOn_put, List.mem_cons, or_assoc]

theorem value?_foldl (h : f.Fresh gs) (v : p.Value) :
    (gs.foldl put f).value? p = some v ↔ f.value? p = some v ∨ .value p v ∈ gs := by
  induction gs generalizing f with
  | nil => simp
  | cons g gs ih =>
    obtain ⟨hFirst, hRest⟩ := fresh_cons.mp h
    rw [List.foldl_cons, ih hRest, value?_put hFirst, List.mem_cons, or_assoc]

theorem fresh_iff_nodup : Fresh {} gs ↔ (gs.map Given.flag).Nodup := by
  refine ⟨Fresh.nodup, fun hNodup => ⟨hNodup, fun g _ => ?_⟩⟩
  obtain ⟨sw⟩ | ⟨p, v⟩ := g
  · cases sw <;> rfl
  · cases p <;> rfl

theorem holds_foldl (h : (gs.map Given.flag).Nodup) : (gs.foldl put {}).Holds gs := by
  constructor
  · intro sw
    have hNone : isOn {} sw = false := by cases sw <;> rfl
    simp [isOn_foldl, hNone]
  · intro p v
    have hNone : value? {} p = none := by cases p <;> rfl
    simp [value?_foldl (fresh_iff_nodup.mpr h), hNone]

theorem Holds.eq (h : f.Holds gs) (h' : f'.Holds gs) : f = f' := by
  have hOn (sw : Switch) : f.isOn sw = f'.isOn sw :=
    Bool.eq_iff_iff.mpr ((h.switch sw).trans (h'.switch sw).symm)
  have hValue (p : Parameter) : f.value? p = f'.value? p :=
    Option.ext fun v => (h.value p v).trans (h'.value p v).symm
  -- The nine fields are what the two views show, so the flags are the same by their constructor.
  change (⟨f.isOn .verbose, f.isOn .logJson, f.isOn .monitor, f.value? .config, f.value? .workloadSize,
    f.value? .reportEvery, f.value? .maxIterations, f.value? .heartbeats, f.value? .intervalMs⟩ : Flags) = f'
  simp only [hOn, hValue]
  rfl

/-! ### Words that are read -/

theorem give_eq_ok_iff {given : List Char} :
    f.give p given = .ok f' ↔ ∃ v, p.Denotes given v ∧ f' = f.setValue p v := by
  have hNumber (set : UInt64 → Flags) : (Numeral.read64 given).map set = .ok f' ↔
      ∃ n, Numeral.Denotes given n ∧ f' = set n := by
    simp only [← Numeral.read64_eq_ok_iff]
    cases Numeral.read64 given with
    | error problem => simp [Except.map]
    | ok n => simp [Except.map, eq_comm]
  cases p with
  | config =>
    constructor
    · exact fun h => ⟨given, rfl, (Except.ok.inj h).symm⟩
    · rintro ⟨path, rfl, rfl⟩
      rfl
  | _ => exact hNumber _

theorem takeValue_iff {value : Bytes} : f.takeValue p value = .ok f' ↔ f.isGiven p = false ∧
    ∃ given v, value = Text.Utf8.encode given ∧ p.Denotes given v ∧ f' = f.setValue p v := by
  rw [takeValue_eq_ok_iff]
  apply and_congr_right
  intro _
  constructor
  · rintro ⟨given, hText, hGive⟩
    obtain ⟨v, hDenotes, hValue⟩ := give_eq_ok_iff.mp hGive
    exact ⟨given, v, Text.Utf8.eq_encode_of_decode? hText, hDenotes, hValue⟩
  · rintro ⟨given, v, rfl, hDenotes, hValue⟩
    exact ⟨given, Text.Utf8.decode?_encode given, give_eq_ok_iff.mpr ⟨v, hDenotes, hValue⟩⟩

theorem readShort_verbose (f : Flags) (rest : Bytes) :
    readShort program { flags := f } (verboseLetter :: rest) =
      if f.isOn .verbose then .error (.repeated (.switch .verbose))
      else readShort program { flags := f.turnOn .verbose } rest := by
  have hFind : program.flags.find? (fun g => g.short?.map (fun c => Text.Utf8.encode [c]) =
      some [verboseLetter]) = some (.switch .verbose) := by
    cases program <;> decide
  simp only [readShort, hFind, takeFlag_switch_eq]
  by_cases hOn : f.isOn .verbose = true
  · rw [if_pos hOn, if_pos hOn]
  · rw [if_neg hOn, if_neg hOn]

theorem readArgument_switch {sw : Switch} {word : Bytes} (h : word ∈ wordsOf (.switch sw)) :
    readArgument program word { flags := f } =
      if f.isOn sw then .error (.repeated (.switch sw)) else .ok { flags := f.turnOn sw } := by
  obtain rfl | hShort := List.mem_cons.mp h
  · rw [← takeFlag_switch_eq]
    cases program <;> cases sw <;> rfl
  · cases sw with
    | verbose =>
      obtain rfl := List.mem_singleton.mp hShort
      exact readShort_verbose f []
    | logJson | monitor => cases hShort

theorem readArgument_behind {b : UInt8} (hFlag : b ≠ dash) (rest : Bytes) :
    readArgument program (dash :: verboseLetter :: b :: rest) { flags := f } =
      if f.isOn .verbose then .error (.repeated (.switch .verbose))
      else readArgument program (dash :: b :: rest) { flags := f.turnOn .verbose } := by
  have hShort : readArgument program (dash :: b :: rest) { flags := f.turnOn .verbose } =
      readShort program { flags := f.turnOn .verbose } (b :: rest) := by
    rw [readArgument, if_pos rfl, if_neg hFlag]
  rw [hShort]
  exact readShort_verbose f (b :: rest)

theorem wordsOf_ne_end {sw : Switch} : ∀ word ∈ wordsOf (.switch sw), word ≠ [dash, dash] := by
  cases sw <;> decide

theorem shortPath_ne_end (isVerbose : Bool) (rest : Bytes) : shortPath isVerbose rest ≠ [dash, dash] := by
  intro hSame
  cases isVerbose with
  | false => exact absurd (List.cons.inj (List.cons.inj hSame).2).1 (by decide)
  | true => exact absurd (List.cons.inj (List.cons.inj hSame).2).1 (by decide)

theorem foldl_withPath (f : Flags) (isVerbose : Bool) (path : List Char) :
    (withPath isVerbose path).foldl put f =
      (if isVerbose then f.turnOn .verbose else f).setValue .config path := by
  cases isVerbose <;> rfl

theorem fresh_withPath {isVerbose : Bool} {path : List Char} : f.Fresh (withPath isVerbose path) ↔
    (isVerbose = true → f.isOn .verbose = false) ∧
      (if isVerbose then f.turnOn .verbose else f).isGiven .config = false := by
  cases isVerbose with
  | false => simp [withPath, fresh_cons, fresh_nil, has, Given.flag]
  | true => simp [withPath, fresh_cons, fresh_nil, has, Given.flag, put]

theorem givesPath_value {rest : Bytes} (hSome : rest ≠ [])
    (h : f.takeValue .config (afterEquals rest) = .ok f') :
    GivesPath f (configLetter :: rest) { flags := f' } := by
  cases rest with
  | nil => exact absurd rfl hSome
  | cons b rest => exact .value h

theorem readArgument_shortPath {isVerbose : Bool} (hOff : isVerbose = true → f.isOn .verbose = false)
    {rest : Bytes} {s : State}
    (h : GivesPath (if isVerbose then f.turnOn .verbose else f) (configLetter :: rest) s) :
    readArgument program (shortPath isVerbose rest) { flags := f } = .ok s := by
  cases isVerbose with
  | false => exact readArgument_of_path program h
  | true =>
    have hFlag : configLetter ≠ dash := by decide
    change readArgument program (dash :: verboseLetter :: configLetter :: rest) _ = _
    rw [readArgument_behind hFlag, hOff rfl]
    exact readArgument_of_path program h

theorem readFrom_occurs {words : List Bytes} (h : Occurs program words gs) (hFresh : f.Fresh gs)
    (args : List Bytes) : readFrom program (words ++ args) { flags := f } =
      readFrom program args { flags := gs.foldl put f } := by
  cases h with
  | @switch sw word hWord =>
    obtain ⟨hOff, -⟩ := fresh_cons.mp hFresh
    apply readFrom_cons (wordsOf_ne_end word hWord)
    rw [readArgument_switch hWord]
    exact if_neg (Bool.not_eq_true _ ▸ hOff)
  | @attached p given v hOwn hDenotes =>
    obtain ⟨hNew, -⟩ := fresh_cons.mp hFresh
    exact readFrom_attached hOwn hNew (give_eq_ok_iff.mpr ⟨v, hDenotes, rfl⟩) args
  | @apart p given v hOwn hDenotes hValue =>
    obtain ⟨hNew, -⟩ := fresh_cons.mp hFresh
    have hTake : f.takeValue p (Text.Utf8.encode given) = .ok (f.setValue p v) :=
      takeValue_iff.mpr ⟨hNew, given, v, rfl, hDenotes, rfl⟩
    rw [Flags.apart, List.cons_append, List.singleton_append, readFrom_long hOwn]
    exact readFrom_of_waits hValue hTake args
  | @path isVerbose rest path hSome hPath =>
    obtain ⟨hOff, hNew⟩ := fresh_withPath.mp hFresh
    rw [foldl_withPath]
    apply readFrom_cons (shortPath_ne_end isVerbose rest)
    apply readArgument_shortPath hOff
    exact givesPath_value hSome (takeValue_iff.mpr ⟨hNew, path, path, hPath, rfl, rfl⟩)
  | @pathApart isVerbose path hValue =>
    obtain ⟨hOff, hNew⟩ := fresh_withPath.mp hFresh
    rw [foldl_withPath, List.cons_append, List.singleton_append,
      readFrom_cons (shortPath_ne_end isVerbose []) (readArgument_shortPath hOff .waits)]
    exact readFrom_of_waits hValue (takeValue_iff.mpr ⟨hNew, path, path, rfl, rfl, rfl⟩) args

theorem readFrom_spells {args : List Bytes} (h : Spells program args gs) (hFresh : f.Fresh gs) :
    readFrom program args { flags := f } = .ok (gs.foldl put f) := by
  induction h generalizing f with
  | nothing => rfl
  | ended => rfl
  | next hOccurs _ ih =>
    obtain ⟨hFirst, hRest⟩ := fresh_append.mp hFresh
    rw [readFrom_occurs hOccurs hFirst, ih hRest, List.foldl_append]

/-- The words begin with an occurrence, behind which the reader goes on. -/
def Begins (program : Program) (f f' : Flags) (words : List Bytes) : Prop :=
  ∃ first rest gs, words = first ++ rest ∧ first ≠ [] ∧ Occurs program first gs ∧ f.Fresh gs ∧
    readFrom program rest { flags := gs.foldl put f } = .ok f'

theorem exists_value_of_waits {args : List Bytes}
    (h : readFrom program args { flags := f, pending := some ⟨p, none⟩ } = .ok f') :
    ∃ given v rest, args = Text.Utf8.encode given :: rest ∧ IsValue (Text.Utf8.encode given) ∧
      f.isGiven p = false ∧ p.Denotes given v ∧
      readFrom program rest { flags := f.setValue p v } = .ok f' := by
  cases args with
  | nil => cases h
  | cons word rest =>
    obtain ⟨hValue, f₁, hTake, hRest⟩ := readFrom_waits h
    obtain ⟨hNew, given, v, rfl, hDenotes, rfl⟩ := takeValue_iff.mp hTake
    exact ⟨given, v, rest, rfl, hValue, hNew, hDenotes, hRest⟩

theorem begins_path (isVerbose : Bool) (hOff : isVerbose = true → f.isOn .verbose = false)
    {letters : Bytes} {s : State}
    (hPath : GivesPath (if isVerbose then f.turnOn .verbose else f) letters s) {args : List Bytes}
    (h : readFrom program args s = .ok f') :
    Begins program f f' ((dash :: ((if isVerbose then [verboseLetter] else []) ++ letters)) :: args) := by
  cases hPath with
  | waits =>
    obtain ⟨given, v, rest, rfl, hValue, hNew, rfl, hRest⟩ := exists_value_of_waits h
    refine ⟨_, rest, _, rfl, List.cons_ne_nil _ _, .pathApart isVerbose hValue,
      fresh_withPath.mpr ⟨hOff, hNew⟩, ?_⟩
    rw [foldl_withPath]
    exact hRest
  | @value b letters f₁ hTake =>
    obtain ⟨hNew, given, v, hGiven, rfl, rfl⟩ := takeValue_iff.mp hTake
    refine ⟨_, args, _, rfl, List.cons_ne_nil _ _, .path isVerbose (List.cons_ne_nil b letters) hGiven,
      fresh_withPath.mpr ⟨hOff, hNew⟩, ?_⟩
    rw [foldl_withPath]
    exact h

theorem begins_of_readFrom {word : Bytes} {args : List Bytes} (hEnd : word ≠ [dash, dash])
    (h : readFrom program (word :: args) { flags := f } = .ok f') : Begins program f f' (word :: args) := by
  unfold readFrom at h
  rw [if_neg hEnd] at h
  split at h
  · rename_i s hWord
    cases takes_of_readArgument hWord with
    | @switch sw _ hMem =>
      rw [readArgument_switch hMem] at hWord
      split at hWord
      · cases hWord
      · rename_i hOff
        have hFresh : f.Fresh [.switch sw] := fresh_cons.mpr ⟨Bool.eq_false_iff.mpr hOff, fresh_nil _⟩
        exact ⟨[word], args, _, rfl, List.cons_ne_nil _ _, .switch hMem, hFresh, h⟩
    | @waits p hOwn =>
      obtain ⟨given, v, rest, rfl, hValue, hNew, hDenotes, hRest⟩ := exists_value_of_waits h
      have hFresh : f.Fresh [.value p v] := fresh_cons.mpr ⟨hNew, fresh_nil _⟩
      exact ⟨apart p given, rest, _, rfl, List.cons_ne_nil _ _, .apart hOwn hDenotes hValue, hFresh, hRest⟩
    | @value p value f₁ hOwn hTake =>
      obtain ⟨hNew, given, v, rfl, hDenotes, rfl⟩ := takeValue_iff.mp hTake
      have hFresh : f.Fresh [.value p v] := fresh_cons.mpr ⟨hNew, fresh_nil _⟩
      refine ⟨[attached p given], args, _, ?_, List.cons_ne_nil _ _, .attached hOwn hDenotes, hFresh, h⟩
      rw [attached, Text.Utf8.encode_append]
      rfl
    | @path letters _ hPath => exact begins_path false (fun hVerbose => absurd hVerbose (by decide)) hPath h
    | @behind letters _ hPath =>
      -- Both occurrences stand in this word, so they are taken together.
      obtain ⟨tail, rfl⟩ := hPath.exists_cons
      have hFlag : configLetter ≠ dash := by decide
      rw [readArgument_behind hFlag] at hWord
      split at hWord
      · cases hWord
      · rename_i hOff
        exact begins_path true (fun _ => Bool.eq_false_iff.mpr hOff) hPath h
  · cases h

theorem exists_spells (args : List Bytes) (f : Flags)
    (h : readFrom program args { flags := f } = .ok f') :
    ∃ gs, Spells program args gs ∧ f.Fresh gs ∧ f' = gs.foldl put f := by
  cases args with
  | nil =>
    obtain rfl := Except.ok.inj h
    exact ⟨[], .nothing, fresh_nil f, rfl⟩
  | cons word args =>
    by_cases hEnd : word = [dash, dash]
    · subst hEnd
      cases args with
      | nil =>
        obtain rfl := Except.ok.inj h
        exact ⟨[], .ended, fresh_nil f, rfl⟩
      | cons next args => cases h
    · obtain ⟨words, rest, gs, hWords, hSome, hOccurs, hFresh, hRest⟩ := begins_of_readFrom hEnd h
      -- An occurrence takes one word or two, so the recursion is on what is left and not on the tail.
      have hShorter : rest.length < (word :: args).length := by
        have hPositive := List.length_pos_of_ne_nil hSome
        rw [hWords, List.length_append]
        omega
      obtain ⟨more, hSpells, hMore, rfl⟩ := exists_spells rest (gs.foldl put f) hRest
      refine ⟨gs ++ more, hWords ▸ .next hOccurs hSpells, fresh_append.mpr ⟨hFresh, hMore⟩, ?_⟩
      rw [List.foldl_append]
termination_by args.length

/-- A command line is accepted and gives these flags exactly if it is a row of occurrences, perhaps with
two dashes behind it, that gives no flag twice and gives what the flags hold. -/
theorem read_eq_ok_iff (program : Program) (args : List Bytes) (f : Flags) :
    read program args = .ok f ↔
      ∃ gs, Spells program args gs ∧ (gs.map Given.flag).Nodup ∧ f.Holds gs := by
  constructor
  · intro h
    obtain ⟨gs, hSpells, hFresh, rfl⟩ := exists_spells args {} h
    exact ⟨gs, hSpells, hFresh.nodup, holds_foldl hFresh.nodup⟩
  · rintro ⟨gs, hSpells, hNodup, hHolds⟩
    rw [hHolds.eq (holds_foldl hNodup)]
    exact readFrom_spells hSpells (fresh_iff_nodup.mpr hNodup)

end Flags

end WorkerSim
