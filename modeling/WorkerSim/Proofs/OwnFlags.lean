import WorkerSim.Flags.Reader

/-!
# Flags belong to their program

A program recognises no flags but its own, so a command line that it accepts gives no number of the
other program.
-/

set_option autoImplicit false

namespace WorkerSim.Flags

open Text (Bytes)

theorem ok_of_bind {ε α β : Type} {x : Except ε α} {next : α → Except ε β} {b : β}
    (h : (x >>= next) = .ok b) : ∃ a, x = .ok a ∧ next a = .ok b := by
  cases x with
  | error e => cases h
  | ok a => exact ⟨a, rfl, h⟩

/-- Whether only parameters of a program are given. -/
def Fits (program : Program) (f : Flags) : Prop :=
  ∀ p, f.isGiven p = true → .parameter p ∈ program.flags

structure State.Fits (program : Program) (s : State) : Prop where
  flags : s.flags.Fits program
  pending : ∀ p value, s.pending = some ⟨p, value⟩ → .parameter p ∈ program.flags

variable {program : Program}

theorem Fits.not_isGiven {f : Flags} (h : f.Fits program) {p : Parameter}
    (hp : Flag.parameter p ∉ program.flags) : ¬ f.isGiven p = true :=
  fun hGiven => hp (h p hGiven)

theorem isGiven_of_give {f f' : Flags} {p q : Parameter} {given : List Char}
    (h : f.give p given = .ok f') (hq : f'.isGiven q = true) : q = p ∨ f.isGiven q = true := by
  cases p with
  | config =>
    obtain rfl := Except.ok.inj h
    cases q <;> first | exact .inl rfl | exact .inr hq
  | workloadSize | reportEvery | maxIterations | heartbeats | intervalMs =>
    rw [give] at h
    cases hRead : Numeral.read64 given with
    | error problem =>
      rw [hRead] at h
      cases h
    | ok n =>
      rw [hRead] at h
      obtain rfl := Except.ok.inj h
      cases q <;> first | exact .inl rfl | exact .inr hq

theorem Fits.takeSwitch {f f' : Flags} {s : Switch} (hFits : f.Fits program)
    (h : f.takeSwitch s = .ok f') : f'.Fits program := by
  rw [Flags.takeSwitch] at h
  split at h
  · cases h
  · obtain rfl := Except.ok.inj h
    intro p hp
    refine hFits p ?_
    cases s <;> cases p <;> exact hp

theorem Fits.takeValue {f f' : Flags} {p : Parameter} {value : Bytes} (hFits : f.Fits program)
    (hp : .parameter p ∈ program.flags) (h : f.takeValue p value = .ok f') : f'.Fits program := by
  rw [Flags.takeValue] at h
  split at h
  · cases h
  · split at h
    · cases h
    · split at h
      · rename_i hGive
        obtain rfl := Except.ok.inj h
        intro q hq
        obtain rfl | hGiven := isGiven_of_give hGive hq
        · exact hp
        · exact hFits q hGiven
      · cases h

theorem State.Fits.settle {s : State} {f : Flags} (hFits : s.Fits program)
    (h : Flags.settle s = .ok f) : f.Fits program := by
  rw [Flags.settle] at h
  split at h
  · obtain rfl := Except.ok.inj h
    exact hFits.flags
  · cases h
  · rename_i hPending
    exact hFits.flags.takeValue (hFits.pending _ _ hPending) h

theorem Fits.settled {f : Flags} (h : f.Fits program) : State.Fits program { flags := f } :=
  ⟨h, nofun⟩

theorem State.Fits.takeFlag {s s' : State} {f : Flag} (hFits : s.Fits program)
    (hf : f ∈ program.flags) (h : Flags.takeFlag s f = .ok s') : s'.Fits program := by
  cases f with
  | help =>
    obtain ⟨_, _, hHelp⟩ := ok_of_bind h
    cases hHelp
  | switch sw =>
    obtain ⟨flags, hSettle, hRest⟩ := ok_of_bind h
    obtain ⟨flags', hSwitch, hDone⟩ := ok_of_bind hRest
    obtain rfl := Except.ok.inj hDone
    exact ((hFits.settle hSettle).takeSwitch hSwitch).settled
  | parameter p =>
    obtain ⟨flags, hSettle, hDone⟩ := ok_of_bind h
    obtain rfl := Except.ok.inj hDone
    refine ⟨hFits.settle hSettle, fun q value hPending => ?_⟩
    obtain rfl := congrArg Pending.parameter (Option.some.inj hPending)
    exact hf

theorem State.Fits.attached {s s' : State} {p : Parameter} {value : Bytes} (hFits : s.Fits program)
    (hp : .parameter p ∈ program.flags)
    (h : (do let flags ← Flags.settle s; return { flags := ← flags.takeValue p value : State }) =
      Except.ok s') : s'.Fits program := by
  obtain ⟨flags, hSettle, hRest⟩ := ok_of_bind h
  obtain ⟨flags', hValue, hDone⟩ := ok_of_bind hRest
  obtain rfl := Except.ok.inj hDone
  exact ((hFits.settle hSettle).takeValue hp hValue).settled

theorem State.Fits.readLong {s s' : State} {rest : Bytes} (hFits : s.Fits program)
    (h : Flags.readLong program rest s = .ok s') : s'.Fits program := by
  simp only [Flags.readLong] at h
  split at h
  · cases h
  · rename_i hFind _
    exact hFits.takeFlag (List.mem_of_find?_eq_some hFind) h
  · rename_i hFind _
    exact hFits.attached (List.mem_of_find?_eq_some hFind) h
  · cases h

theorem State.Fits.readShort {rest : Bytes} {s s' : State} (hFits : s.Fits program)
    (h : Flags.readShort program s rest = .ok s') : s'.Fits program := by
  induction rest generalizing s with
  | nil =>
    obtain rfl := Except.ok.inj h
    exact hFits
  | cons b rest ih =>
    rw [Flags.readShort] at h
    split at h
    · cases h
    · rename_i hFind
      have hp := List.mem_of_find?_eq_some hFind
      split at h
      · exact hFits.takeFlag hp h
      · exact hFits.attached hp h
    · rename_i hFind
      split at h
      · rename_i hTake
        exact ih (hFits.takeFlag (List.mem_of_find?_eq_some hFind) hTake) h
      · cases h

theorem State.Fits.readValue {s s' : State} {arg : Bytes} (hFits : s.Fits program)
    (h : Flags.readValue arg s = .ok s') : s'.Fits program := by
  rw [Flags.readValue] at h
  split at h
  · rename_i p hPending
    obtain rfl := Except.ok.inj h
    refine ⟨hFits.flags, fun q value hSome => ?_⟩
    obtain rfl := congrArg Pending.parameter (Option.some.inj hSome)
    exact hFits.pending _ _ hPending
  · cases h

theorem State.Fits.readArgument {s s' : State} {arg : Bytes} (hFits : s.Fits program)
    (h : Flags.readArgument program arg s = .ok s') : s'.Fits program := by
  unfold Flags.readArgument at h
  split at h
  · split at h
    · split at h
      · exact hFits.readLong h
      · exact hFits.readShort h
    · exact hFits.readValue h
  · exact hFits.readValue h

theorem State.Fits.readFrom {args : List Bytes} {s : State} {f : Flags} (hFits : s.Fits program)
    (h : Flags.readFrom program args s = .ok f) : f.Fits program := by
  induction args generalizing s with
  | nil => exact hFits.settle h
  | cons arg args ih =>
    unfold Flags.readFrom at h
    split at h
    · split at h
      · exact hFits.settle h
      · cases h
    · split at h
      · rename_i hRead
        exact ih (hFits.readArgument hRead) h
      · cases h

theorem fits_of_read {args : List Bytes} {f : Flags} (h : read program args = .ok f) :
    f.Fits program := by
  refine State.Fits.readFrom (s := {}) ⟨fun p hp => ?_, nofun⟩ h
  cases p <;> cases hp

end WorkerSim.Flags
