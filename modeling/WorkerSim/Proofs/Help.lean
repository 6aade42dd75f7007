import Mathlib.Data.List.Chain
import WorkerSim.Flags.Refusal
import WorkerSim.Writer

/-!
# The help and the lines of workers

Every line of a worker ends in one of two letters, and no line of a help does. So no line of a worker
stands anywhere in a help, with colours or without.
-/

set_option autoImplicit false

namespace WorkerSim.Help

open Text (Bytes)

def bytes (s : String) : Bytes := Text.Utf8.encode s.toList

theorem bytes_append (s t : String) : bytes (s ++ t) = bytes s ++ bytes t := by
  rw [bytes, String.toList_append, Text.Utf8.encode_append]
  rfl

theorem bytes_join (ss : List String) : bytes (String.join ss) = ss.flatMap bytes := by
  rw [bytes, String.toList_join, Text.Utf8.encode, List.flatMap_assoc]
  rfl

/-- Whether two bytes can follow each other where no line ends in `d` or `y`. -/
def Apart (a b : UInt8) : Prop := b = 10 → a ≠ 100 ∧ a ≠ 121

instance (a b : UInt8) : Decidable (Apart a b) := inferInstanceAs (Decidable (_ → _))

/-- Whether no line in a text ends in `d` or `y`, whatever follows the text. -/
def Foreign (text : Bytes) : Prop :=
  text.IsChain Apart ∧ text.getLast? ≠ some 100 ∧ text.getLast? ≠ some 121

instance (text : Bytes) : Decidable (Foreign text) := inferInstanceAs (Decidable (_ ∧ _ ∧ _))

theorem Foreign.append {xs ys : Bytes} (hx : Foreign xs) (hy : Foreign ys) : Foreign (xs ++ ys) := by
  obtain ⟨hxChain, hxLast⟩ := hx
  obtain ⟨hyChain, hyLast⟩ := hy
  constructor
  · refine List.isChain_append.mpr ⟨hxChain, hyChain, fun a ha b _ _ => ⟨?_, ?_⟩⟩
    · rintro rfl
      exact hxLast.1 ha
    · rintro rfl
      exact hxLast.2 ha
  · rw [List.getLast?_append]
    generalize ys.getLast? = last at hyLast
    cases last with
    | none => exact hxLast
    | some b => exact hyLast

theorem Foreign.flatMap {α : Type} {f : α → Bytes} {as : List α} (h : ∀ a ∈ as, Foreign (f a)) :
    Foreign (as.flatMap f) := by
  induction as with
  | nil => exact ⟨.nil, nofun, nofun⟩
  | cons a as ih =>
    rw [List.flatMap_cons]
    exact (h a List.mem_cons_self).append (ih fun b hb => h b (List.mem_cons_of_mem a hb))

theorem isChain_of_unbroken {text : Bytes} (h : 10 ∉ text) : text.IsChain Apart := by
  induction text with
  | nil => exact .nil
  | cons a text ih =>
    rw [List.isChain_cons]
    refine ⟨fun b hb hBreak => ?_, ih fun hMem => h (List.mem_cons_of_mem a hMem)⟩
    exact absurd (List.mem_cons_of_mem a (List.mem_of_mem_head? (hBreak ▸ hb))) h

/-- What stands before the end of a line does not matter. -/
theorem Foreign.after {xs ys : Bytes} (hx : 10 ∉ xs) (hy : Foreign ys) (hSome : ys ≠ [])
    (hHead : ys.head? ≠ some 10) : Foreign (xs ++ ys) := by
  obtain ⟨hyChain, hyLast⟩ := hy
  constructor
  · refine List.isChain_append.mpr ⟨isChain_of_unbroken hx, hyChain, fun _ _ b hb hBreak => ?_⟩
    obtain rfl := hBreak
    exact absurd hb hHead
  · rwa [List.getLast?_append_of_ne_nil _ hSome]

theorem unbroken_append {s t : String} (hs : 10 ∉ bytes s) (ht : 10 ∉ bytes t) :
    10 ∉ bytes (s ++ t) := by
  rw [bytes_append, List.mem_append]
  exact fun h => h.elim hs ht

theorem unbroken_styled {s : String} (h : 10 ∉ bytes s) (coloured : Bool) (style : Text.Style) :
    10 ∉ bytes (Text.styled coloured style s) := by
  cases coloured with
  | false => exact h
  | true =>
    refine unbroken_append (unbroken_append ?_ h) (by decide)
    rw [bytes_join, List.mem_flatMap]
    rintro ⟨command, hCommand, hMem⟩
    obtain ⟨a, -, rfl⟩ := List.mem_map.mp hCommand
    cases a <;> exact absurd hMem (by decide)

theorem unbroken_long (f : Flag) : 10 ∉ bytes f.long := by
  cases f with
  | switch s => cases s <;> decide
  | parameter p => cases p <;> decide
  | help => decide

theorem unbroken_short {f : Flag} {c : Char} (h : f.short? = some c) : 10 ∉ bytes c.toString := by
  rw [bytes, Char.toString_eq_singleton, String.toList_singleton]
  unfold Flag.short? at h
  split at h
  · exact Option.some.inj h ▸ by decide
  · exact Option.some.inj h ▸ by decide
  · exact Option.some.inj h ▸ by decide
  · cases h

theorem unbroken_valueName (p : Parameter) : 10 ∉ bytes p.valueName := by
  refine unbroken_append (unbroken_append (by decide) ?_) (by decide)
  rw [bytes, String.toList_ofList]
  cases p <;> decide

theorem unbroken_listed (coloured : Bool) (f : Flag) : 10 ∉ bytes (f.listed coloured) := by
  have hLong := unbroken_append (by decide : 10 ∉ bytes "--") (unbroken_long f)
  refine unbroken_append (unbroken_append ?_ (unbroken_styled hLong _ _)) ?_
  · cases hShort : f.short? with
    | none => exact (by decide : 10 ∉ bytes "      ")
    | some c =>
      have hDash := unbroken_append (by decide : 10 ∉ bytes "-") (unbroken_short hShort)
      exact unbroken_append (unbroken_append (by decide) (unbroken_styled hDash _ _)) (by decide)
  · split
    · exact unbroken_append (by decide) (unbroken_valueName _)
    · decide

theorem foreign_description (f : Flag) : Foreign (bytes f.description) ∧
    bytes f.description ≠ [] ∧ (bytes f.description).head? ≠ some 10 := by
  cases f with
  | switch s => cases s <;> exact ⟨by decide, by decide, by decide⟩
  | parameter p => cases p <;> exact ⟨by decide, by decide, by decide⟩
  | help => exact ⟨by decide, by decide, by decide⟩

theorem unbroken_spaces (n : Nat) : 10 ∉ bytes (String.ofList (List.replicate n ' ')) := by
  rw [bytes, String.toList_ofList, Text.Utf8.encode, List.mem_flatMap]
  rintro ⟨c, hc, hMem⟩
  obtain rfl := List.eq_of_mem_replicate hc
  exact absurd hMem (by decide)

theorem foreign_styled {s : String} (h : Foreign (bytes s)) (coloured : Bool) (style : Text.Style) :
    Foreign (bytes (Text.styled coloured style s)) := by
  cases coloured with
  | false => exact h
  | true =>
    have hCommand (a : Text.Attribute) : Foreign (bytes a.command) := by cases a <;> decide
    have hStyle : Foreign (bytes (String.join (style.map Text.Attribute.command))) := by
      rw [bytes_join, List.flatMap_map]
      exact .flatMap fun a _ => hCommand a
    rw [Text.styled, if_pos rfl, bytes_append, bytes_append]
    exact (hStyle.append h).append (by decide)

theorem foreign_help (coloured : Bool) (p : Program) : Foreign (bytes (p.help coloured)) := by
  have hDescription : Foreign (bytes p.description) := by cases p <;> decide
  have hName : 10 ∉ bytes p.name := by cases p <;> decide
  have hBreak : Foreign (bytes "\n") := by decide
  have hCall : Foreign (bytes (Text.styled coloured [.bold] p.name) ++ bytes " [OPTIONS]\n\n") :=
    .after (unbroken_styled hName _ _) (by decide) (by decide) (by decide)
  have hRow (f : Flag) (n : Nat) : Foreign (bytes (f.listed coloured) ++
      (bytes (String.ofList (List.replicate n ' ')) ++ (bytes f.description ++ bytes "\n"))) := by
    obtain ⟨hForeign, hSome, hHead⟩ := foreign_description f
    have hColumns : 10 ∉ bytes (f.listed coloured) ++ bytes (String.ofList (List.replicate n ' ')) := by
      rw [List.mem_append]
      exact fun h => h.elim (unbroken_listed coloured f) (unbroken_spaces n)
    rw [← List.append_assoc, ← List.append_assoc]
    exact (Foreign.after hColumns hForeign hSome hHead).append hBreak
  simp only [Program.help, bytes_append, bytes_join, List.flatMap_map, List.append_assoc]
  refine hDescription.append (.append (by decide) ?_)
  refine (foreign_styled (by decide) _ _).append (.append (by decide) ?_)
  rw [← List.append_assoc]
  refine hCall.append ((foreign_styled (by decide) _ _).append (hBreak.append ?_))
  exact .flatMap fun f _ => hRow f _

theorem end_of_line (line : Line) : ∃ before, ∃ c ∈ ['d', 'y'], line.chars = before ++ [c] := by
  cases line with
  | runawayStarted => exact ⟨"runaway worker starte".toList, 'd', by decide, by decide⟩
  | requestFailed =>
    exact ⟨"processing request 4242 failed, retrying endlessl".toList, 'y', by decide, by decide⟩
  | healthyRestarted => exact ⟨"healthy worker restarte".toList, 'd', by decide, by decide⟩
  | heartbeat beat =>
    refine ⟨"heartbeat ".toList ++ Numeral.digits beat.toNat ++ ": service health".toList, 'y',
      by decide, ?_⟩
    simp [Line.chars, Line.parts]

theorem not_infix_help (coloured : Bool) (p : Program) (line : Line) :
    ¬ line.bytes <:+: bytes (p.help coloured) := by
  intro h
  obtain ⟨before, c, hc, hChars⟩ := end_of_line line
  have hEnd : Text.Utf8.encode [c, '\n'] <:+ line.bytes := by
    rw [Line.bytes_eq, hChars, List.append_assoc, Text.Utf8.encode_append]
    exact List.suffix_append _ _
  obtain ⟨xs, ys, hText⟩ := hEnd.isInfix.trans h
  have hChain := (foreign_help coloured p).1
  rw [← hText] at hChain
  have hApart := hChain.left_of_append.right_of_append
  obtain rfl | rfl : c = 'd' ∨ c = 'y' := by simpa using hc
  · exact absurd hApart (by decide)
  · exact absurd hApart (by decide)

end WorkerSim.Help
