/-!
# Placeholders

A placeholder is a dollar sign, a name between braces, and stands for the value of the name. A name
is a non-empty row of characters other than the closing brace. A text is cut into placeholders and
single other characters from left to right, and its pieces put together are the text again.
-/

set_option autoImplicit false

namespace WorkerSim.Placeholder

inductive Piece
  | plain (c : Char)
  | hole (name : List Char)
  deriving DecidableEq, Repr

def Piece.source : Piece → List Char
  | plain c => [c]
  | hole name => '$' :: '\x7b' :: (name ++ ['\x7d'])

/-- The name of the placeholder that the text starts with, and what follows it. -/
def hole? : List Char → Option (List Char × List Char)
  | '$' :: '\x7b' :: rest =>
    match rest.dropWhile (· != '\x7d') with
    | _ :: after =>
      if (rest.takeWhile (· != '\x7d')).isEmpty then none
      else some (rest.takeWhile (· != '\x7d'), after)
    | [] => none
  | _ => none

theorem length_of_hole? {cs name rest : List Char} (h : hole? cs = some (name, rest)) :
    rest.length < cs.length := by
  unfold hole? at h
  split at h
  · rename_i tail
    split at h
    · rename_i hd
      split at h
      · cases h
      · cases h
        have := (List.dropWhile_sublist (l := tail) (· != '\x7d')).length_le
        rw [hd] at this
        simp only [List.length_cons] at this ⊢
        omega
    · cases h
  · cases h

def pieces (cs : List Char) : List Piece :=
  match cs with
  | [] => []
  | c :: rest =>
    match h : hole? (c :: rest) with
    | some (name, after) =>
      have := length_of_hole? h
      .hole name :: pieces after
    | none => .plain c :: pieces rest
termination_by cs.length
decreasing_by
  · assumption
  · simp

/-- What a piece becomes: a name without a value leaves its placeholder as it is. -/
def Piece.expand (value? : List Char → Option (List Char)) : Piece → List Char
  | plain c => [c]
  | hole name => (value? name).getD (hole name).source

/-- Puts values in the place of all placeholders, once and from left to right. -/
def substitute (value? : List Char → Option (List Char)) (cs : List Char) : List Char :=
  (pieces cs).flatMap (Piece.expand value?)

/-- The names that a text asks for. -/
def names (cs : List Char) : List (List Char) :=
  (pieces cs).filterMap fun
    | .hole name => some name
    | .plain _ => none

theorem source_of_hole? {cs name rest : List Char} (h : hole? cs = some (name, rest)) :
    (Piece.hole name).source ++ rest = cs := by
  unfold hole? at h
  split at h
  · rename_i tail
    split at h
    · rename_i b after hd
      split at h
      · cases h
      · cases h
        have hb : b = '\x7d' := by
          have hne : tail.dropWhile (· != '\x7d') ≠ [] := by rw [hd]; exact List.cons_ne_nil _ _
          have hn := List.head_dropWhile_not (· != '\x7d') hne
          simp only [hd, List.head_cons, bne_eq_false_iff_eq] at hn
          exact hn
        have := List.takeWhile_append_dropWhile (p := (· != '\x7d')) (l := tail)
        rw [hd, hb] at this
        simp only [Piece.source, List.cons_append, List.append_assoc, List.nil_append]
        rw [this]
    · cases h
  · cases h

theorem flatMap_source_pieces (cs : List Char) : (pieces cs).flatMap Piece.source = cs := by
  fun_induction pieces cs with
  | case1 => rfl
  | case2 c rest name after h _ ih =>
    rw [List.flatMap_cons, ih]
    exact source_of_hole? h
  | case3 c rest _ ih => simp [Piece.source, ih]

/-- Only the values of the names that a text asks for matter. -/
theorem substitute_congr {value? other? : List Char → Option (List Char)} {cs : List Char}
    (h : ∀ name ∈ names cs, value? name = other? name) : substitute value? cs = substitute other? cs := by
  rw [substitute, substitute, List.flatMap_def, List.flatMap_def]
  apply congrArg List.flatten
  apply List.map_congr_left
  intro piece hMem
  cases piece with
  | plain c => rfl
  | hole name =>
    have hName : name ∈ names cs := List.mem_filterMap.mpr ⟨.hole name, hMem, rfl⟩
    rw [Piece.expand, Piece.expand, h name hName]

/-- A text that asks only for names without a value is left as it is. -/
theorem substitute_eq_self_of_names {value? : List Char → Option (List Char)} {cs : List Char}
    (h : ∀ name ∈ names cs, value? name = none) : substitute value? cs = cs := by
  calc
    substitute value? cs = substitute (fun _ => none) cs := substitute_congr h
    _ = (pieces cs).flatMap Piece.source := rfl
    _ = cs := flatMap_source_pieces cs

theorem hole?_eq_none {c : Char} (h : c ≠ '$') (cs : List Char) : hole? (c :: cs) = none := by
  rw [hole?]
  exact fun _ hSame => h (List.cons.inj hSame).1

theorem pieces_of_plain {c : Char} {cs : List Char} (h : hole? (c :: cs) = none) :
    pieces (c :: cs) = .plain c :: pieces cs := by
  rw [pieces]
  split
  · rename_i hSome
    rw [h] at hSome
    cases hSome
  · rfl

/-- Nothing is put in the place of a text without dollar signs, whatever follows it. -/
theorem substitute_append (value? : List Char → Option (List Char)) {cs : List Char} (h : '$' ∉ cs)
    (rest : List Char) : substitute value? (cs ++ rest) = cs ++ substitute value? rest := by
  induction cs with
  | nil => rfl
  | cons c cs ih =>
    have hHead : c ≠ '$' := fun hSame => h (hSame ▸ List.mem_cons_self)
    have hTail : '$' ∉ cs := fun hMem => h (List.mem_cons_of_mem c hMem)
    rw [List.cons_append, substitute, pieces_of_plain (hole?_eq_none hHead _), List.flatMap_cons,
      ← substitute, ih hTail]
    rfl

/-- A text without dollar signs has no placeholders. -/
theorem substitute_eq_self (value? : List Char → Option (List Char)) {cs : List Char} (h : '$' ∉ cs) :
    substitute value? cs = cs := by
  have hNil : substitute value? [] = [] := by
    rw [substitute, pieces]
    rfl
  have hAll := substitute_append value? h []
  rwa [hNil, List.append_nil] at hAll

end WorkerSim.Placeholder
