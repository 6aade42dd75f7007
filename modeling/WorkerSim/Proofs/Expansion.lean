import WorkerSim.Proofs.Openings

/-!
# Expanded texts

A value that is not empty and holds neither a dollar sign nor an opening brace is no part of the
beginning of a placeholder. So if all values that a text asks for are such values, no placeholder is
made where they meet their neighbours: the placeholders of the expanded text are the ones that have no
value, and expanding it again changes nothing.
-/

set_option autoImplicit false

namespace WorkerSim.Placeholder

structure Benign (value : List Char) : Prop where
  ne_nil : value ≠ []
  dollar : '$' ∉ value
  brace : '\x7b' ∉ value

def AsksBenign (env : Environment) (cs : List Char) : Prop :=
  ∀ name ∈ names cs, ∀ value, env.text? name = some value → Benign value

/-- The pieces that a piece has become: a placeholder without a value stays one, all else is plain. -/
def Piece.settled (value? : List Char → Option (List Char)) : Piece → List Piece
  | plain c => [plain c]
  | hole name => ((value? name).map (List.map plain)).getD [hole name]

variable {env : Environment} {c : Char} {cs rest : List Char} {n : Name}

/-! ### One piece at a time -/

theorem substitute_nil : substitute env.text? [] = [] := substitute_eq_self env.text? List.not_mem_nil

theorem substitute_cons (h : ¬ Starts (c :: cs)) :
    substitute env.text? (c :: cs) = c :: substitute env.text? cs := by
  rw [substitute, pieces_cons h]
  rfl

theorem names_cons (h : ¬ Starts (c :: cs)) : names (c :: cs) = names cs := by
  rw [names, pieces_cons h]
  rfl

theorem names_source_append (n : Name) (rest : List Char) :
    names (n.source ++ rest) = n.chars :: names rest := by
  have hPieces : pieces (n.source ++ rest) = .hole n.chars :: pieces rest := pieces_hole n rest
  rw [names, hPieces]
  rfl

namespace AsksBenign

theorem tail (h : AsksBenign env (c :: cs)) (hStarts : ¬ Starts (c :: cs)) : AsksBenign env cs := by
  rwa [AsksBenign, names_cons hStarts] at h

theorem after (h : AsksBenign env (n.source ++ rest)) : AsksBenign env rest := by
  rw [AsksBenign, names_source_append] at h
  exact fun name hMem => h name (List.mem_cons_of_mem _ hMem)

theorem first (h : AsksBenign env (n.source ++ rest)) {value : List Char}
    (hValue : env.text? n.chars = some value) : Benign value := by
  rw [AsksBenign, names_source_append] at h
  exact h n.chars List.mem_cons_self value hValue

end AsksBenign

/-! ### Where values meet their neighbours -/

/-- An opening brace begins an expanded text only if it began the text. -/
theorem exists_of_substitute_eq_brace (hBenign : AsksBenign env cs)
    (h : substitute env.text? cs = '\x7b' :: rest) :
    ∃ tail, cs = '\x7b' :: tail ∧ substitute env.text? tail = rest := by
  by_cases hStarts : Starts cs
  · obtain ⟨n, after, rfl⟩ := hStarts
    rw [substitute_source_append, n.replaced_eq] at h
    cases hValue : env.text? n.chars with
    | none =>
      rw [hValue] at h
      cases h
    | some value =>
      have hValueBenign := hBenign.first hValue
      obtain ⟨b, bs, rfl⟩ := List.exists_cons_of_ne_nil hValueBenign.ne_nil
      rw [hValue, Option.getD_some, List.cons_append, List.cons.injEq] at h
      exact absurd (h.1 ▸ List.mem_cons_self) hValueBenign.brace
  · cases cs with
    | nil =>
      rw [substitute_nil] at h
      cases h
    | cons c tail =>
      rw [substitute_cons hStarts] at h
      obtain ⟨rfl, hTail⟩ := List.cons.inj h
      exact ⟨tail, rfl, hTail⟩

/-- No character begins a placeholder because of what the text behind it becomes. -/
theorem starts_of_starts_substitute (hBenign : AsksBenign env cs)
    (h : Starts (c :: substitute env.text? cs)) : Starts (c :: cs) := by
  rw [starts_cons_iff] at h ⊢
  obtain ⟨rfl, chars, hBrace, hMem, hHead⟩ := h
  obtain ⟨tail, rfl, rfl⟩ := exists_of_substitute_eq_brace hBenign hBrace
  refine ⟨rfl, tail, rfl, ?_, ?_⟩
  · -- a closing brace in a value is too late: a brace had to come for the value to be put in
    by_contra hOpen
    rw [substitute_of_not_mem env hOpen] at hMem
    exact hOpen hMem
  · intro hFirst
    obtain ⟨more, rfl⟩ := List.head?_eq_some_iff.mp hFirst
    apply hHead
    rw [substitute_cons (by simp [starts_cons_iff])]
    rfl

theorem pieces_append_of_benign {value : List Char} (h : Benign value) (rest : List Char) :
    pieces (value ++ rest) = value.map .plain ++ pieces rest := by
  apply pieces_gap
  rintro ds hSuffix hSome hStarts
  obtain ⟨d, ds, rfl⟩ := List.exists_cons_of_ne_nil hSome
  obtain ⟨rfl, -⟩ := starts_cons_iff.mp hStarts
  exact h.dollar (hSuffix.subset List.mem_cons_self)

theorem pieces_substitute (hBenign : AsksBenign env cs) :
    pieces (substitute env.text? cs) = (pieces cs).flatMap (Piece.settled env.text?) := by
  fun_induction pieces cs with
  | case1 =>
    rw [substitute_nil, pieces]
    rfl
  | case2 c tail name after hHole _ ih =>
    obtain ⟨n, rfl⟩ := exists_name_of_hole? hHole
    have hSource : n.source ++ after = c :: tail := source_of_hole? hHole
    rw [← hSource] at hBenign ⊢
    rw [substitute_source_append, n.replaced_eq, List.flatMap_cons, ← ih hBenign.after, Piece.settled]
    cases hValue : env.text? n.chars with
    | none => exact pieces_hole n _
    | some value => exact pieces_append_of_benign (hBenign.first hValue) _
  | case3 c tail hNone ih =>
    have hStarts := hole?_eq_none_iff.mp hNone
    have hRest := hBenign.tail hStarts
    have hNew : ¬ Starts (c :: substitute env.text? tail) := fun hNew =>
      hStarts (starts_of_starts_substitute hRest hNew)
    rw [substitute_cons hStarts, pieces_cons hNew, ih hRest]
    rfl

/-- A value that is empty or a part of the beginning of a placeholder makes a new one between its
neighbours, which is expanded only the next time. -/
theorem exists_substitute_ne {before value after : List Char} (hDollar : '$' ∉ n.chars)
    (hValue : env.text? n.chars = some value) (hParts : before ++ (value ++ after) = ['$', '\x7b'])
    (hBefore : '\x7b' ∉ before) (hAfter : '$' ∉ after) :
    ∃ cs, substitute env.text? (substitute env.text? cs) ≠ substitute env.text? cs := by
  have hClosed : ¬ Opens before := by
    rintro ⟨r, hSuffix, -⟩
    exact hBefore (hSuffix.subset (by simp))
  have hPlain : '\x7d' ∉ before := by
    intro hMem
    have hPart : '\x7d' ∈ ['$', '\x7b'] := hParts ▸ List.mem_append_left _ hMem
    exact absurd hPart (by decide)
  have hRest : '$' ∉ after ++ (n.chars ++ ['\x7d']) := by simp [hAfter, hDollar]
  have hReplaced : n.replaced env = value := by rw [n.replaced_eq, hValue, Option.getD_some]
  let cs := before ++ (n.source ++ (after ++ (n.chars ++ ['\x7d'])))
  have hOnce : substitute env.text? cs = n.source := by
    rw [substitute_around_of_closed hClosed, substitute_of_not_mem env hPlain,
      substitute_eq_self env.text? hRest, hReplaced, ← List.append_assoc value, ← List.append_assoc, hParts]
    rfl
  have hTwice : substitute env.text? n.source = value := by
    have hAll := substitute_source_append n env []
    rwa [substitute_nil, List.append_nil, List.append_nil, hReplaced] at hAll
  refine ⟨cs, ?_⟩
  rw [hOnce, hTwice]
  intro hSame
  have hShort := congrArg List.length hParts
  have hLong := congrArg List.length hSame
  simp only [Name.source, List.length_append, List.length_cons, List.length_nil] at hShort hLong
  omega

/-! ### Expanding again -/

theorem names_substitute (hBenign : AsksBenign env cs) :
    names (substitute env.text? cs) = (names cs).filter fun name => (env.text? name).isNone := by
  rw [names, pieces_substitute hBenign, names]
  generalize pieces cs = ps
  induction ps with
  | nil => rfl
  | cons p ps ih =>
    cases p with
    | plain c => simpa [Piece.settled] using ih
    | hole name => cases hValue : env.text? name <;> simp [Piece.settled, hValue, ih, List.filterMap_map]

/-- A text whose values are benign is expanded once and for all, and the placeholders that are left in
it are those without a value. -/
theorem substitute_substitute
    (hBenign : ∀ name ∈ names cs, ∀ value, env.text? name = some value → Benign value) :
    substitute env.text? (substitute env.text? cs) = substitute env.text? cs ∧
      names (substitute env.text? cs) = (names cs).filter (fun name => (env.text? name).isNone) ∧
      Config.ofText env (substitute env.text? cs) = Config.ofText env cs := by
  have hNames := names_substitute hBenign
  have hTwice : substitute env.text? (substitute env.text? cs) = substitute env.text? cs := by
    apply substitute_eq_self_of_names
    intro name hMem
    rw [hNames, List.mem_filter] at hMem
    exact Option.isNone_iff_eq_none.mp hMem.2
  refine ⟨hTwice, hNames, ?_⟩
  rw [Config.ofText, hTwice, Config.ofText]

/-- A dollar sign before a value and an opening brace behind it do not come together, and a closing brace
in a value closes nothing. -/
theorem substitute_substitute_between_braces :
    let env : Environment := [("A".toList, Text.Utf8.encode "\x7dx".toList)]
    let cs : List Char := "$$\x7bA\x7d\x7b$\x7bB\x7d".toList
    (∀ name ∈ names cs, ∀ value, env.text? name = some value → Benign value) ∧
      substitute env.text? cs = "$\x7dx\x7b$\x7bB\x7d".toList ∧
      substitute env.text? (substitute env.text? cs) = substitute env.text? cs := by
  have hNames : names "$$\x7bA\x7d\x7b$\x7bB\x7d".toList = ["A".toList, "B".toList] := by decide +kernel
  have hOnce : substitute (Environment.text? [("A".toList, Text.Utf8.encode "\x7dx".toList)])
      "$$\x7bA\x7d\x7b$\x7bB\x7d".toList = "$\x7dx\x7b$\x7bB\x7d".toList := by decide +kernel
  intro env cs
  have hSet : env.text? "A".toList = some "\x7dx".toList := by decide
  have hUnset : env.text? "B".toList = none := by decide
  have hBenign : ∀ name ∈ names cs, ∀ value, env.text? name = some value → Benign value := by
    intro name hMem value hValue
    rw [hNames, List.mem_pair] at hMem
    obtain rfl | rfl := hMem
    · obtain rfl := Option.some.inj (hSet.symm.trans hValue)
      exact ⟨by decide, by decide, by decide⟩
    · cases hUnset.symm.trans hValue
  exact ⟨hBenign, hOnce, (substitute_substitute hBenign).1⟩

end WorkerSim.Placeholder
