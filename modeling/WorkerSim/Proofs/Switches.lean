import WorkerSim.Proofs.Words

/-!
# Command lines without their switches

Leave the switches out of a command line, and let every size of the workload that is not zero count as
one. If the command line is accepted, so is what is left of it, and it gives what is left of the flags.
-/

set_option autoImplicit false

namespace WorkerSim

open Text (Bytes)

namespace Flags

def verboseLetter : UInt8 := 0x76

def configLetter : UInt8 := 0x63

/-- The words that give a flag without a value. -/
def wordsOf (flag : Flag) : List Bytes :=
  Text.Utf8.encode ('-' :: '-' :: flag.long.toList) ::
    (flag.short?.map fun c => Text.Utf8.encode ['-', c]).toList

def switchWords : List Bytes := [Switch.verbose, .logJson, .monitor].flatMap fun sw => wordsOf (.switch sw)

def sizeWord : Bytes := Text.Utf8.encode (long .workloadSize)

/-- A number that is not zero counts as one. -/
def muteValue (value : Bytes) : Bytes :=
  match (Text.Utf8.decode? value).map Numeral.read64 with
  | some (.ok n) => if n = 0 then value else Text.Utf8.encode ['1']
  | _ => value

/-- What is left of a word: a switch is left out, also one in front of another short flag. -/
def muteWord (word : Bytes) : Option Bytes :=
  if word ∈ switchWords then none
  else match Environment.after? (sizeWord ++ [equals]) word with
    | some value => some (sizeWord ++ equals :: muteValue value)
    | none =>
      match word with
      | a :: b :: rest => if a = dash ∧ b = verboseLetter then some (dash :: rest) else some word
      | _ => some word

/-- What is left of words, the first of which may be the size that another word has asked for. -/
def muteFrom : Bool → List Bytes → List Bytes
  | _, [] => []
  | true, word :: words => muteValue word :: muteFrom false words
  | false, word :: words => (muteWord word).toList ++ muteFrom (word = sizeWord) words

def muteArgs (args : List Bytes) : List Bytes := muteFrom false args

def muteSize (n : UInt64) : UInt64 := if n = 0 then 0 else 1

/-- Flags without switches, and with a size that is one if it is not zero. -/
def mute (f : Flags) : Flags :=
  { f with
    verbose := false, logJson := false, monitor := false,
    workloadSize := f.workloadSize.map muteSize }

/-! ### What a word does -/

/-- A short flag for the path, perhaps with the path. -/
inductive GivesPath (f : Flags) : Bytes → State → Prop
  | waits : GivesPath f [configLetter] { flags := f, pending := some ⟨.config, none⟩ }
  | value {b : UInt8} {rest : Bytes} {f' : Flags} :
      f.takeValue .config (if b = equals then rest else b :: rest) = .ok f' →
      GivesPath f (configLetter :: b :: rest) { flags := f' }

/-- All that a word with a dash can do to flags. -/
inductive Takes (program : Program) (f : Flags) : Bytes → State → Prop
  | switch {sw : Switch} {word : Bytes} : word ∈ wordsOf (.switch sw) →
      Takes program f word { flags := f.turnOn sw }
  | waits {p : Parameter} : .parameter p ∈ program.flags →
      Takes program f (Text.Utf8.encode (long p)) { flags := f, pending := some ⟨p, none⟩ }
  | value {p : Parameter} {value : Bytes} {f' : Flags} : .parameter p ∈ program.flags →
      f.takeValue p value = .ok f' →
      Takes program f (Text.Utf8.encode (long p) ++ equals :: value) { flags := f' }
  | path {rest : Bytes} {s : State} : GivesPath f rest s → Takes program f (dash :: rest) s
  | behind {rest : Bytes} {s : State} : GivesPath (f.turnOn .verbose) rest s →
      Takes program f (dash :: verboseLetter :: rest) s

variable {program : Program} {f f' : Flags} {s : State}

theorem takeFlag_switch_eq (f : Flags) (sw : Switch) : takeFlag { flags := f } (.switch sw) =
    if f.isOn sw then .error (.repeated (.switch sw)) else .ok { flags := f.turnOn sw } := by
  change (takeSwitch f sw).bind _ = _
  rw [takeSwitch]
  split <;> rfl

theorem takeFlag_switch {sw : Switch} (h : takeFlag { flags := f } (.switch sw) = .ok s) :
    f.isOn sw = false ∧ s = { flags := f.turnOn sw } := by
  rw [takeFlag_switch_eq] at h
  split at h
  · cases h
  · rename_i hOff
    exact ⟨Bool.not_eq_true _ ▸ hOff, (Except.ok.inj h).symm⟩

theorem takeFlag_parameter {p : Parameter} (h : takeFlag { flags := f } (.parameter p) = .ok s) :
    s = { flags := f, pending := some ⟨p, none⟩ } := by
  obtain ⟨_, hSettle, hDone⟩ := ok_of_bind h
  obtain rfl := Except.ok.inj hSettle
  exact (Except.ok.inj hDone).symm

theorem takes_of_readLong {rest : Bytes} (h : readLong program rest { flags := f } = .ok s) :
    Takes program f (dash :: dash :: rest) s := by
  have hWord : rest.takeWhile (· ≠ equals) ++ rest.dropWhile (· ≠ equals) = rest :=
    List.takeWhile_append_dropWhile
  have hName {flag : Flag} (hFind : program.flags.find? (fun g => Text.Utf8.encode g.long.toList =
      rest.takeWhile (· ≠ equals)) = some flag) :
      Text.Utf8.encode flag.long.toList = rest.takeWhile (· ≠ equals) := by
    simpa using List.find?_some hFind
  simp only [readLong] at h
  split at h
  · cases h
  · rename_i flag hFind hAttached
    rw [hAttached, List.append_nil, ← hName hFind] at hWord
    subst hWord
    cases flag with
    | help =>
      obtain ⟨_, _, hHelp⟩ := ok_of_bind h
      cases hHelp
    | switch sw =>
      obtain ⟨-, rfl⟩ := takeFlag_switch h
      exact .switch List.mem_cons_self
    | parameter p =>
      obtain rfl := takeFlag_parameter h
      exact .waits (List.mem_of_find?_eq_some hFind)
  · rename_i p b value hFind hAttached
    have hSome : rest.dropWhile (· ≠ equals) ≠ [] := hAttached ▸ List.cons_ne_nil _ _
    have hEquals : b = equals := by
      have hHead := List.head_dropWhile_not (· ≠ equals) hSome
      simp only [hAttached, List.head_cons] at hHead
      simpa using hHead
    rw [hAttached, ← hName hFind, hEquals] at hWord
    subst hWord
    obtain ⟨_, hSettle, hRest⟩ := ok_of_bind h
    obtain ⟨f', hTake, hDone⟩ := ok_of_bind hRest
    obtain rfl := Except.ok.inj hSettle
    obtain rfl := Except.ok.inj hDone
    exact .value (List.mem_of_find?_eq_some hFind) hTake
  · cases h

/-- The short flags by their letters. -/
theorem eq_of_find?_short {b : UInt8} {flag : Flag}
    (h : program.flags.find? (fun g => g.short?.map (fun c => Text.Utf8.encode [c]) = some [b]) =
      some flag) :
    (flag = .switch .verbose ∧ b = verboseLetter) ∨ (flag = .parameter .config ∧ b = configLetter) ∨
      flag = .help := by
  have hShort : flag.short?.map (fun c => Text.Utf8.encode [c]) = some [b] := by
    simpa using List.find?_some h
  cases flag with
  | help => exact .inr (.inr rfl)
  | switch sw =>
    cases sw with
    | verbose => exact .inl ⟨rfl, (List.cons.inj (Option.some.inj hShort)).1.symm⟩
    | logJson | monitor => cases hShort
  | parameter p =>
    cases p with
    | config => exact .inr (.inl ⟨rfl, (List.cons.inj (Option.some.inj hShort)).1.symm⟩)
    | _ => cases hShort

theorem readShort_cases {b : UInt8} {rest : Bytes}
    (h : readShort program { flags := f } (b :: rest) = .ok s) :
    GivesPath f (b :: rest) s ∨ (b = verboseLetter ∧ f.verbose = false ∧
      readShort program { flags := f.turnOn .verbose } rest = .ok s) := by
  rw [readShort] at h
  split at h
  · cases h
  · rename_i p hFind
    obtain ⟨hFlag, -⟩ | ⟨hFlag, rfl⟩ | hFlag := eq_of_find?_short hFind
    · cases hFlag
    · cases hFlag
      split at h
      · obtain rfl := takeFlag_parameter h
        exact .inl .waits
      · obtain ⟨_, hSettle, hRest⟩ := ok_of_bind h
        obtain ⟨f', hTake, hDone⟩ := ok_of_bind hRest
        obtain rfl := Except.ok.inj hSettle
        obtain rfl := Except.ok.inj hDone
        exact .inl (.value hTake)
    · cases hFlag
  · rename_i flag hParameter hFind
    split at h
    · rename_i s' hTake
      obtain ⟨rfl, rfl⟩ | ⟨rfl, -⟩ | rfl := eq_of_find?_short hFind
      · obtain ⟨hOff, rfl⟩ := takeFlag_switch hTake
        exact .inr ⟨rfl, hOff, h⟩
      · exact absurd rfl (hParameter .config)
      · obtain ⟨_, _, hHelp⟩ := ok_of_bind hTake
        cases hHelp
    · cases h

theorem takes_of_readShort {b : UInt8} {rest : Bytes}
    (h : readShort program { flags := f } (b :: rest) = .ok s) :
    Takes program f (dash :: b :: rest) s := by
  obtain hPath | ⟨rfl, -, hRest⟩ := readShort_cases h
  · exact .path hPath
  · cases rest with
    | nil =>
      obtain rfl := Except.ok.inj hRest
      have hWord : [dash, verboseLetter] ∈ wordsOf (.switch .verbose) := by decide
      exact .switch hWord
    | cons c rest =>
      obtain hPath | ⟨-, hOff, -⟩ := readShort_cases hRest
      · exact .behind hPath
      · cases hOff

theorem takes_of_readArgument {word : Bytes} (h : readArgument program word { flags := f } = .ok s) :
    Takes program f word s := by
  unfold readArgument at h
  split at h
  · split at h
    · rename_i hFirst
      subst hFirst
      split at h
      · rename_i hSecond
        subst hSecond
        exact takes_of_readLong h
      · exact takes_of_readShort h
    · cases h
  · cases h

/-! ### What is left of it -/

theorem isGiven_mute (f : Flags) (p : Parameter) : f.mute.isGiven p = f.isGiven p := by
  cases p with
  | workloadSize => exact Option.isSome_map
  | _ => rfl

theorem takeValue_eq_ok_iff {p : Parameter} {value : Bytes} : f.takeValue p value = .ok f' ↔
    f.isGiven p = false ∧ ∃ given, Text.Utf8.decode? value = some given ∧ f.give p given = .ok f' := by
  rw [takeValue]
  cases hGiven : f.isGiven p with
  | true => simp
  | false =>
    simp only [Bool.false_eq_true, if_false, true_and]
    cases Text.Utf8.decode? value with
    | none => simp
    | some given => cases hGive : f.give p given <;> simp [hGive]

theorem takeValue_mute {p : Parameter} {value : Bytes} (hOther : p ≠ .workloadSize)
    (h : f.takeValue p value = .ok f') : f.mute.takeValue p value = .ok f'.mute := by
  obtain ⟨hNew, given, hText, hGive⟩ := takeValue_eq_ok_iff.mp h
  refine takeValue_eq_ok_iff.mpr ⟨(isGiven_mute f p).trans hNew, given, hText, ?_⟩
  cases p with
  | workloadSize => exact absurd rfl hOther
  | config =>
    obtain rfl := Except.ok.inj hGive
    rfl
  | reportEvery | maxIterations | heartbeats | intervalMs =>
    rw [give] at hGive ⊢
    cases hRead : Numeral.read64 given with
    | error problem =>
      rw [hRead] at hGive
      cases hGive
    | ok n =>
      rw [hRead] at hGive
      obtain rfl := Except.ok.inj hGive
      rfl

theorem takeValue_muteValue {value : Bytes} (h : f.takeValue .workloadSize value = .ok f') :
    f.mute.takeValue .workloadSize (muteValue value) = .ok f'.mute := by
  obtain ⟨hNew, given, hText, hGive⟩ := takeValue_eq_ok_iff.mp h
  have hNew' : f.mute.isGiven .workloadSize = false := (isGiven_mute f .workloadSize).trans hNew
  rw [give] at hGive
  cases hRead : Numeral.read64 given with
  | error problem =>
    rw [hRead] at hGive
    cases hGive
  | ok n =>
    rw [hRead] at hGive
    obtain rfl := Except.ok.inj hGive
    simp only [muteValue, hText, Option.map_some, hRead]
    split
    · rename_i hZero
      subst hZero
      exact takeValue_eq_ok_iff.mpr ⟨hNew', given, hText, by rw [give, hRead]; rfl⟩
    · rename_i hSome
      have hOne : f.mute.give .workloadSize ['1'] = .ok (mute { f with workloadSize := some n }) := by
        simp only [mute, Option.map_some, muteSize, if_neg hSome]
        rfl
      exact takeValue_encode hNew' hOne

def muteGiven (p : Parameter) (value : Bytes) : Bytes :=
  if p = .workloadSize then muteValue value else value

theorem takeValue_muteGiven {p : Parameter} {value : Bytes} (h : f.takeValue p value = .ok f') :
    f.mute.takeValue p (muteGiven p value) = .ok f'.mute := by
  rw [muteGiven]
  split
  · rename_i hSize
    subst hSize
    exact takeValue_muteValue h
  · rename_i hOther
    exact takeValue_mute hOther h

/-- How far a reader is that has got only what is left, and whether it waits for a size. -/
inductive Follows : Bool → State → State → Prop
  | settled (f : Flags) : Follows false { flags := f } { flags := f.mute }
  | waits (f : Flags) (p : Parameter) : Follows (p = .workloadSize)
      { flags := f, pending := some ⟨p, none⟩ } { flags := f.mute, pending := some ⟨p, none⟩ }

theorem second_of_mem_switchWords :
    ∀ word ∈ switchWords, word = [dash, verboseLetter] ∨ word[1]? = some dash := by
  decide

theorem not_mem_switchWords {b : UInt8} {rest : Bytes} (hFlag : b ≠ dash)
    (hOther : b :: rest ≠ [verboseLetter]) : dash :: b :: rest ∉ switchWords := by
  intro hMem
  obtain hSame | hSecond := second_of_mem_switchWords _ hMem
  · exact hOther (List.cons.inj hSame).2
  · exact hFlag (Option.some.inj hSecond)

theorem after?_sizeWord {b : UInt8} (hFlag : b ≠ dash) (rest : Bytes) :
    Environment.after? (sizeWord ++ [equals]) (dash :: b :: rest) = none := by
  have hWord : sizeWord = dash :: dash :: Text.Utf8.encode Parameter.workloadSize.long.toList := rfl
  rw [hWord]
  simp [Environment.after?, hFlag.symm]

theorem muteWord_short {b : UInt8} {rest : Bytes} (hFlag : b ≠ dash)
    (hOther : b :: rest ≠ [verboseLetter]) :
    muteWord (dash :: b :: rest) = some (dash :: if b = verboseLetter then rest else b :: rest) := by
  rw [muteWord, if_neg (not_mem_switchWords hFlag hOther), after?_sizeWord hFlag]
  by_cases hLetter : b = verboseLetter <;> simp [hLetter]

theorem find?_configLetter :
    program.flags.find? (fun g => g.short?.map (fun c => Text.Utf8.encode [c]) = some [configLetter]) =
      some (.parameter .config) := by
  cases program <;> decide

theorem GivesPath.exists_cons {rest : Bytes} (h : GivesPath f rest s) :
    ∃ tail, rest = configLetter :: tail := by
  cases h with
  | waits => exact ⟨[], rfl⟩
  | value _ => exact ⟨_, rfl⟩

theorem readArgument_of_path (program : Program) {rest : Bytes} (h : GivesPath f rest s) :
    readArgument program (dash :: rest) { flags := f } = .ok s := by
  cases h with
  | waits =>
    change readShort program _ _ = _
    simp only [readShort, find?_configLetter]
    rfl
  | value hTake =>
    change readShort program _ _ = _
    have hSettled : settle { flags := f } = .ok f := rfl
    simp only [readShort, find?_configLetter, hSettled, bind, Except.bind, hTake]
    rfl

theorem GivesPath.mute {rest : Bytes} (h : GivesPath f rest s) :
    ∃ s', Follows false s s' ∧ GivesPath f.mute rest s' := by
  cases h with
  | waits => exact ⟨_, .waits f .config, .waits⟩
  | @value b rest f' hTake => exact ⟨_, .settled f', .value (takeValue_mute (by decide) hTake)⟩

theorem readFrom_of_path (program : Program) {rest : Bytes} (h : GivesPath f rest s) : ∃ s', Follows false s s' ∧
    ∀ args, readFrom program ((dash :: rest) :: args) { flags := f.mute } = readFrom program args s' := by
  obtain ⟨s', hFollows, hPath⟩ := h.mute
  obtain ⟨tail, rfl⟩ := h.exists_cons
  have hFlags : dash :: configLetter :: tail ≠ [dash, dash] :=
    fun hSame => absurd (List.cons.inj (List.cons.inj hSame).2).1 (by decide)
  exact ⟨s', hFollows, readFrom_cons hFlags (readArgument_of_path program hPath)⟩

theorem equals_not_mem : ∀ word ∈ sizeWord :: switchWords, equals ∉ word := by decide

theorem muteWord_long (p : Parameter) :
    muteWord (Text.Utf8.encode (long p)) = some (Text.Utf8.encode (long p)) := by
  cases p <;> decide

theorem muteWord_value (p : Parameter) (value : Bytes) :
    muteWord (Text.Utf8.encode (long p) ++ equals :: value) =
      some (Text.Utf8.encode (long p) ++ equals :: muteGiven p value) := by
  have hSwitch : Text.Utf8.encode (long p) ++ equals :: value ∉ switchWords := fun hMem =>
    equals_not_mem _ (List.mem_cons_of_mem _ hMem) (List.mem_append_right _ List.mem_cons_self)
  unfold muteWord
  rw [if_neg hSwitch]
  cases p with
  | workloadSize =>
    have hAfter := Environment.after?_append (sizeWord ++ [equals]) value
    rw [List.append_assoc, List.singleton_append] at hAfter
    rw [← sizeWord, hAfter]
    rfl
  | _ => rfl

theorem turnOn_mute (f : Flags) (sw : Switch) : (f.turnOn sw).mute = f.mute := by
  cases sw <;> rfl

/-- What is left of a word does to what is left of flags what the word does to them. -/
theorem readFrom_muteWord {word : Bytes} (h : Takes program f word s) :
    ∃ s', Follows (word = sizeWord) s s' ∧ ∀ args,
      readFrom program ((muteWord word).toList ++ args) { flags := f.mute } =
        readFrom program args s' := by
  cases h with
  | @switch sw _ hWord =>
    have hMem : word ∈ switchWords := List.mem_flatMap.mpr ⟨sw, by cases sw <;> decide, hWord⟩
    have hOther : decide (word = sizeWord) = false := by
      have hAll : ∀ word ∈ switchWords, decide (word = sizeWord) = false := by decide
      exact hAll word hMem
    rw [hOther]
    refine ⟨_, Follows.settled (f.turnOn sw), fun args => ?_⟩
    unfold muteWord
    rw [if_pos hMem, turnOn_mute]
    rfl
  | @waits p hOwn =>
    have hSize : decide (Text.Utf8.encode (long p) = sizeWord) = decide (p = .workloadSize) := by
      cases p <;> decide
    rw [hSize]
    refine ⟨_, Follows.waits f p, fun args => ?_⟩
    rw [muteWord_long]
    exact readFrom_long hOwn args
  | @value p value f' hOwn hTake =>
    have hOther : Text.Utf8.encode (long p) ++ equals :: value ≠ sizeWord := fun hSame =>
      equals_not_mem _ List.mem_cons_self (hSame ▸ List.mem_append_right _ List.mem_cons_self)
    rw [decide_eq_false hOther]
    refine ⟨_, Follows.settled f', fun args => ?_⟩
    rw [muteWord_value]
    exact readFrom_value hOwn (takeValue_muteGiven hTake) args
  | @path rest _ hPath =>
    obtain ⟨s', hFollows, hRead⟩ := readFrom_of_path program hPath
    obtain ⟨tail, rfl⟩ := hPath.exists_cons
    have hMute : muteWord (dash :: configLetter :: tail) = some (dash :: configLetter :: tail) :=
      muteWord_short (by decide) fun hSame => absurd (List.cons.inj hSame).1 (by decide)
    refine ⟨s', hFollows, fun args => ?_⟩
    rw [hMute]
    exact hRead args
  | @behind rest _ hPath =>
    obtain ⟨s', hFollows, hRead⟩ := readFrom_of_path program hPath
    obtain ⟨tail, rfl⟩ := hPath.exists_cons
    have hMute : muteWord (dash :: verboseLetter :: configLetter :: tail) =
        some (dash :: configLetter :: tail) :=
      muteWord_short (by decide) fun hSame => nomatch (List.cons.inj hSame).2
    rw [turnOn_mute] at hRead
    refine ⟨s', hFollows, fun args => ?_⟩
    rw [hMute]
    exact hRead args

/-! ### What is left of a command line -/

theorem settle_of_takeFlag {s' : State} {flag : Flag} (h : takeFlag s flag = .ok s') :
    ∃ f, settle s = .ok f := by
  cases flag with
  | help | switch _ | parameter _ =>
    obtain ⟨f, hSettle, -⟩ := ok_of_bind h
    exact ⟨f, hSettle⟩

theorem settle_of_readLong {s' : State} {rest : Bytes} (h : readLong program rest s = .ok s') :
    ∃ f, settle s = .ok f := by
  simp only [readLong] at h
  split at h
  · cases h
  · exact settle_of_takeFlag h
  · obtain ⟨f, hSettle, -⟩ := ok_of_bind h
    exact ⟨f, hSettle⟩
  · cases h

theorem settle_of_readShort {s' : State} {b : UInt8} {rest : Bytes}
    (h : readShort program s (b :: rest) = .ok s') : ∃ f, settle s = .ok f := by
  rw [readShort] at h
  split at h
  · cases h
  · split at h
    · exact settle_of_takeFlag h
    · obtain ⟨f, hSettle, -⟩ := ok_of_bind h
      exact ⟨f, hSettle⟩
  · split at h
    · rename_i hTake
      exact settle_of_takeFlag hTake
    · cases h

/-- Only a value is taken without anything being settled. -/
theorem readArgument_cases {s' : State} {word : Bytes} (h : readArgument program word s = .ok s') :
    (∃ f, settle s = .ok f) ∨ (IsValue word ∧ readValue word s = .ok s') := by
  by_cases hValue : IsValue word
  · exact .inr ⟨hValue, readArgument_of_isValue hValue s ▸ h⟩
  · left
    unfold readArgument at h
    split at h
    · rename_i a b rest
      split at h
      · split at h
        · exact settle_of_readLong h
        · exact settle_of_readShort h
      · rename_i hDash
        exact absurd (fun tail hSame => absurd (List.cons.inj hSame).1 hDash) hValue
    · rename_i hShort
      refine absurd (fun tail hSame => ?_) hValue
      cases tail with
      | nil => rfl
      | cons b rest => exact absurd hSame (hShort dash b rest)

theorem settle_of_readFrom {p : Parameter} {value : Bytes} {words : List Bytes}
    (h : readFrom program words { flags := f, pending := some ⟨p, some value⟩ } = .ok f') :
    ∃ f', f.takeValue p value = .ok f' := by
  cases words with
  | nil => exact ⟨f', h⟩
  | cons word words =>
    unfold readFrom at h
    split at h
    · split at h
      · exact ⟨f', h⟩
      · cases h
    · split at h
      · rename_i hWord
        obtain hSettle | ⟨-, hValue⟩ := readArgument_cases hWord
        · exact hSettle
        · cases hValue
      · cases h

theorem readFrom_waits {p : Parameter} {word : Bytes} {words : List Bytes}
    (h : readFrom program (word :: words) { flags := f, pending := some ⟨p, none⟩ } = .ok f') :
    IsValue word ∧ ∃ f₁, f.takeValue p word = .ok f₁ ∧
      readFrom program words { flags := f₁ } = .ok f' := by
  have hWaits : ¬ ∃ f₁, settle { flags := f, pending := some ⟨p, none⟩ } = .ok f₁ := nofun
  have hStart := h
  unfold readFrom at h
  split at h
  · split at h
    · cases h
    · cases h
  · split at h
    · rename_i s' hWord
      obtain hSettle | ⟨hValue, hTaken⟩ := readArgument_cases hWord
      · exact absurd hSettle hWaits
      · obtain rfl := Except.ok.inj hTaken
        obtain ⟨f₁, hTake⟩ := settle_of_readFrom h
        exact ⟨hValue, f₁, hTake, readFrom_of_waits hValue hTake words ▸ hStart⟩
    · cases h

theorem not_isValue : ∀ word ∈ sizeWord :: switchWords, ∀ rest, ¬ IsValue (word ++ rest) := by
  intro word hMem rest hValue
  have hLong : ∀ word ∈ sizeWord :: switchWords, word.head? = some dash ∧ word.tail ≠ [] := by decide
  obtain ⟨hHead, hTail⟩ := hLong word hMem
  obtain ⟨tail, rfl⟩ := List.head?_eq_some_iff.mp hHead
  exact hTail (List.append_eq_nil_iff.mp (hValue (tail ++ rest) rfl)).1

theorem muteWord_of_isValue {word : Bytes} (h : IsValue word) :
    muteWord word = some word ∧ word ≠ sizeWord := by
  have hOther : word ∉ sizeWord :: switchWords := fun hMem =>
    not_isValue word hMem [] (by rwa [List.append_nil])
  have hSize : word ≠ sizeWord := List.ne_of_not_mem_cons hOther
  have hSwitch : word ∉ switchWords := List.not_mem_of_not_mem_cons hOther
  have hNone : Environment.after? (sizeWord ++ [equals]) word = none := by
    cases hAfter : Environment.after? (sizeWord ++ [equals]) word with
    | none => rfl
    | some value =>
      rw [Environment.eq_append_of_after? hAfter, List.append_assoc] at h
      exact absurd h (not_isValue sizeWord List.mem_cons_self _)
  refine ⟨?_, hSize⟩
  unfold muteWord
  rw [if_neg hSwitch, hNone]
  simp only
  split
  · rename_i a b rest
    exact if_neg fun hLetters => nomatch h (b :: rest) (by rw [hLetters.1])
  · rfl

theorem isValue_muteGiven {word : Bytes} (h : IsValue word) (p : Parameter) :
    IsValue (muteGiven p word) := by
  rw [muteGiven, muteValue]
  split
  · split
    · split
      · exact h
      · exact fun _ hSame => nomatch hSame
    · exact h
  · exact h

theorem muteFrom_of_isValue {word : Bytes} (h : IsValue word) (p : Parameter) (words : List Bytes) :
    muteFrom (p = .workloadSize) (word :: words) = muteGiven p word :: muteFrom false words := by
  obtain ⟨hLeft, hOther⟩ := muteWord_of_isValue h
  by_cases hSize : p = .workloadSize
  · rw [decide_eq_true hSize, muteFrom, muteGiven, if_pos hSize]
  · rw [decide_eq_false hSize, muteFrom, muteGiven, if_neg hSize, hLeft, decide_eq_false hOther]
    rfl

theorem readFrom_muteFrom {b : Bool} {s t : State} (hFollows : Follows b s t) {words : List Bytes}
    (h : readFrom program words s = .ok f) :
    readFrom program (muteFrom b words) t = .ok f.mute := by
  -- along the words, with the reader of what is left in the state that follows
  induction words generalizing b s t with
  | nil =>
    cases hFollows with
    | settled f₀ =>
      obtain rfl := Except.ok.inj h
      rfl
    | waits f₀ p => cases h
  | cons word words ih =>
    cases hFollows with
    | settled f₀ =>
      unfold readFrom at h
      rw [muteFrom]
      split at h
      · rename_i hEnd
        subst hEnd
        split at h
        · obtain rfl := Except.ok.inj h
          rfl
        · cases h
      · split at h
        · rename_i s' hWord
          obtain ⟨t', hNext, hLeft⟩ := readFrom_muteWord (takes_of_readArgument hWord)
          rw [hLeft]
          exact ih hNext h
        · cases h
    | waits f₀ p =>
      obtain ⟨hValue, f₁, hTake, hRest⟩ := readFrom_waits h
      rw [muteFrom_of_isValue hValue,
        readFrom_of_waits (isValue_muteGiven hValue p) (takeValue_muteGiven hTake)]
      exact ih (.settled f₁) hRest

theorem read_muteArgs {args : List Bytes} (h : read program args = .ok f) :
    read program (muteArgs args) = .ok f.mute :=
  readFrom_muteFrom (.settled {}) h

example :
    let bytes (text : String) : Bytes := Text.Utf8.encode text.toList
    muteArgs (["--monitor", "-vca", "--workload-size", "007"].map bytes) =
      ["-ca", "--workload-size", "1"].map bytes := by decide

end Flags

end WorkerSim
