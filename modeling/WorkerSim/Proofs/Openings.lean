import WorkerSim.Proofs.Segments

/-!
# Open placeholders

A dollar sign and an opening brace behind which no closing brace has come leave a placeholder open. The
next closing brace ends it, whatever stands between: behind an open placeholder, the placeholder of a
variable is a part of a longer name. Behind a text that leaves none open, it is replaced.
-/

set_option autoImplicit false

namespace WorkerSim.Placeholder

/-- Whether a text leaves a placeholder open. -/
def Opens (cs : List Char) : Prop := ∃ r, '$' :: '\x7b' :: r <:+ cs ∧ '\x7d' ∉ r

variable {value? : List Char → Option (List Char)} {cs ds rest : List Char}

theorem Opens.of_suffix (h : Opens cs) (hSuffix : cs <:+ ds) : Opens ds := by
  obtain ⟨r, hOpen, hName⟩ := h
  exact ⟨r, hOpen.trans hSuffix, hName⟩

/-- A placeholder that reaches beyond a text is one that the text leaves open. -/
theorem starts_or_opens (hSome : cs ≠ []) (hRest : rest.head? ≠ some '\x7b') (h : Starts (cs ++ rest)) :
    Starts cs ∨ Opens cs := by
  obtain ⟨c, cs, rfl⟩ := List.exists_cons_of_ne_nil hSome
  obtain ⟨rfl, chars, hBrace, -, hHead⟩ := starts_cons_iff.mp h
  cases cs with
  | nil => exact absurd (congrArg List.head? hBrace) hRest
  | cons d cs =>
    obtain ⟨rfl, rfl⟩ := List.cons.inj hBrace
    by_cases hClosed : '\x7d' ∈ cs
    · left
      refine starts_cons_iff.mpr ⟨rfl, cs, rfl, hClosed, fun hFirst => hHead ?_⟩
      rw [List.append_eq, List.head?_append, hFirst]
      rfl
    · exact .inr ⟨cs, List.suffix_rfl, hClosed⟩

theorem pieces_append (hClosed : ¬ Opens cs) (hRest : rest.head? ≠ some '\x7b') :
    pieces (cs ++ rest) = pieces cs ++ pieces rest := by
  -- nothing that begins in the text reaches beyond it, so the pieces are those of the two texts
  fun_induction pieces cs with
  | case1 => rfl
  | case2 c tail name after hHole _ ih =>
    obtain ⟨n, rfl⟩ := exists_name_of_hole? hHole
    have hSource := source_of_hole? hHole
    rw [← hSource] at hClosed ⊢
    rw [List.append_assoc, pieces_hole, ih fun hOpen => hClosed (hOpen.of_suffix (List.suffix_append _ _))]
    rfl
  | case3 c tail hNone ih =>
    have hStarts : ¬ Starts (c :: tail ++ rest) := fun hStarts =>
      (starts_or_opens (List.cons_ne_nil c tail) hRest hStarts).elim (hole?_eq_none_iff.mp hNone) hClosed
    rw [List.cons_append] at hStarts ⊢
    rw [pieces_cons hStarts, ih fun hOpen => hClosed (hOpen.of_suffix (List.suffix_cons c tail))]
    rfl

theorem substitute_append_of_closed (hClosed : ¬ Opens cs) (hRest : rest.head? ≠ some '\x7b') :
    substitute value? (cs ++ rest) = substitute value? cs ++ substitute value? rest := by
  rw [substitute, pieces_append hClosed hRest, List.flatMap_append]
  rfl

/-- There are no placeholders in a text without closing braces. -/
theorem substitute_of_not_mem (env : Environment) (h : '\x7d' ∉ cs) : substitute env.text? cs = cs := by
  have hLeft : (Segments.last cs).Leftmost := by
    rintro ds hSuffix ⟨n, rest, rfl⟩
    apply h
    apply hSuffix.subset
    simp [Name.source]
  exact Segments.substitute_source hLeft env

/-- The first of the placeholders that a text leaves open. -/
theorem exists_first_opening (cs : List Char) (h : Opens cs) :
    ∃ before r, cs = before ++ '$' :: '\x7b' :: r ∧ '\x7d' ∉ r ∧ ¬ Opens before := by
  obtain ⟨r, ⟨before, rfl⟩, hName⟩ := h
  by_cases hBefore : Opens before
  · obtain ⟨first, name, hFirst, hOpen, hClosed⟩ := exists_first_opening before hBefore
    refine ⟨first, name ++ '$' :: '\x7b' :: r, ?_, ?_, hClosed⟩
    · rw [hFirst, List.append_assoc]
      rfl
    · simp [hOpen, hName]
  · exact ⟨before, r, rfl, hName, hBefore⟩
termination_by cs.length
decreasing_by
  subst_vars
  simp only [List.length_append, List.length_cons]
  omega

theorem substitute_source_append (n : Name) (env : Environment) (rest : List Char) :
    substitute env.text? (n.source ++ rest) = n.replaced env ++ substitute env.text? rest := by
  rw [← n.expand_eq]
  exact becomes_hole n rest

theorem substitute_around_of_closed {a : List Char} (hClosed : ¬ Opens a) (n : Name) (env : Environment)
    (b : List Char) : substitute env.text? (a ++ (n.source ++ b)) =
      substitute env.text? a ++ (n.replaced env ++ substitute env.text? b) := by
  have hHead : (n.source ++ b).head? ≠ some '\x7b' := by simp [Name.source]
  rw [substitute_append_of_closed hClosed hHead, substitute_source_append]

/-- The name that an open placeholder gets when another one follows. -/
def Name.behind (r : List Char) (hOpen : '\x7d' ∉ r) (n : Name) : Name where
  chars := r ++ '$' :: '\x7b' :: n.chars
  ne_nil := by simp
  not_mem := by simp [hOpen, n.not_mem]

section Open

variable {before r : List Char} (hOpen : '\x7d' ∉ r) (hClosed : ¬ Opens before) (n : Name) (env : Environment)

include hOpen hClosed

theorem substitute_opening : substitute env.text? (before ++ '$' :: '\x7b' :: r) =
    substitute env.text? before ++ '$' :: '\x7b' :: r := by
  have hRest : '\x7d' ∉ '$' :: '\x7b' :: r := by simp [hOpen]
  rw [substitute_append_of_closed hClosed (by simp), substitute_of_not_mem env hRest]

theorem substitute_behind (b : List Char) :
    substitute env.text? (before ++ '$' :: '\x7b' :: r ++ (n.source ++ b)) =
      substitute env.text? before ++ ((n.behind r hOpen).replaced env ++ substitute env.text? b) := by
  have hSource : '$' :: '\x7b' :: r ++ (n.source ++ b) = (n.behind r hOpen).source ++ b := by
    simp [Name.source, Name.behind]
  rw [List.append_assoc, hSource, substitute_around_of_closed hClosed]

end Open

variable {env : Environment} {n : Name} {value : List Char}

/-- The placeholder of a variable is replaced where no earlier one is open. Where one is, it takes the
variable's placeholder into its name, and the result is the same only if that name stands for it. -/
theorem substitute_around (h : env.get? n.chars = some (Text.Utf8.encode value)) (a b : List Char) :
    (¬ Opens a → substitute env.text? (a ++ n.source ++ b) =
      substitute env.text? a ++ value ++ substitute env.text? b) ∧
    (Opens a → ∃ (before r : List Char) (m : Name), a = before ++ '$' :: '\x7b' :: r ∧ ¬ Opens before ∧
      m.chars = r ++ '$' :: '\x7b' :: n.chars ∧
      substitute env.text? (a ++ n.source ++ b) =
        substitute env.text? before ++ m.replaced env ++ substitute env.text? b ∧
      (substitute env.text? (a ++ n.source ++ b) =
        substitute env.text? a ++ value ++ substitute env.text? b ↔
          m.replaced env = '$' :: '\x7b' :: r ++ value)) := by
  simp only [List.append_assoc]
  constructor
  · intro hClosed
    rw [substitute_around_of_closed hClosed, Name.replaced_of_set h]
  · intro hOpens
    obtain ⟨before, r, rfl, hOpen, hClosed⟩ := exists_first_opening a hOpens
    have hBehind := substitute_behind hOpen hClosed n env b
    refine ⟨before, r, n.behind r hOpen, rfl, hClosed, rfl, hBehind, ?_⟩
    rw [hBehind, substitute_opening hOpen hClosed, List.append_assoc, List.append_cancel_left_eq,
      ← List.append_assoc, List.append_cancel_right_eq]

/-- In the remark a placeholder stays open, up to the one in the next line. -/
theorem substitute_around_remark :
    let n : Name := ⟨"N".toList, by decide, by decide⟩
    let env : Environment := [(n.chars, Text.Utf8.encode "3".toList)]
    let a : List Char := "# $\x7b\nheartbeats = ".toList
    env.get? n.chars = some (Text.Utf8.encode "3".toList) ∧ Opens a ∧
      substitute env.text? (a ++ n.source ++ []) = a ++ n.source := by
  intro n env a
  have hSet : env.get? n.chars = some (Text.Utf8.encode "3".toList) := rfl
  have hOpens : Opens a := ⟨"\nheartbeats = ".toList, ⟨"# ".toList, rfl⟩, by decide⟩
  refine ⟨hSet, hOpens, ?_⟩
  obtain ⟨before, r, m, hCut, -, hName, hAround, -⟩ := (substitute_around hSet a []).2 hOpens
  have hText : a = "# ".toList ++ '$' :: '\x7b' :: "\nheartbeats = ".toList := rfl
  rw [hText, List.append_cons_inj_of_notMem (by decide) (by decide)] at hCut
  obtain ⟨rfl, -, hRest⟩ := hCut
  obtain rfl := (List.cons.inj hRest).2
  obtain rfl : m = n.behind _ (by decide) := Name.eq_of_chars hName
  rw [hAround, substitute_of_not_mem env (by decide), substitute_of_not_mem env (by decide)]
  rfl

/-- A placeholder is not replaced wherever it stands, even if its name has neither dollar signs nor
braces. -/
theorem not_replaced_everywhere :
    ¬ ∀ (env : Environment) (n : Name) (value : List Char), '$' ∉ n.chars → '\x7b' ∉ n.chars →
      env.get? n.chars = some (Text.Utf8.encode value) → ∀ a b : List Char,
        substitute env.text? (a ++ n.source ++ b) =
          substitute env.text? a ++ value ++ substitute env.text? b := by
  intro hAll
  let n : Name := ⟨"N".toList, by decide, by decide⟩
  let env : Environment := [(n.chars, Text.Utf8.encode "3".toList)]
  have hClosed : ¬ Opens "# ".toList := by
    rintro ⟨r, hSuffix, -⟩
    exact absurd (hSuffix.subset List.mem_cons_self) (by decide)
  have hOpen : '\x7d' ∉ "\nheartbeats = ".toList := by decide
  have hSame := hAll env n "3".toList (by decide) (by decide) rfl
    ("# ".toList ++ '$' :: '\x7b' :: "\nheartbeats = ".toList) []
  -- the longer name is not set
  have hUnset : (n.behind _ hOpen).replaced env = "$\x7b\nheartbeats = $\x7bN\x7d".toList := rfl
  rw [List.append_assoc, substitute_behind hOpen hClosed, substitute_opening hOpen hClosed, hUnset,
    substitute_of_not_mem env (by decide), substitute_of_not_mem env (by decide)] at hSame
  exact absurd hSame (by decide)

end WorkerSim.Placeholder
