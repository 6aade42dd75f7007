import Mathlib.Data.List.TakeWhile
import WorkerSim.Toml.Scalar

/-!
# Decimal literals

A number in decimal digits is a literal for itself: it has no leading zero, and no sign, mark or
separator that could make it anything else.
-/

set_option autoImplicit false

namespace WorkerSim

namespace Numeral

theorem head?_digits {n : Nat} (h : n ≠ 0) : (digits n).head? ≠ some '0' := by
  have hSmall : ∀ d < 10, d ≠ 0 → Nat.digitChar d ≠ '0' := by decide
  -- digits are added at the end, so the first one is that of the tenth part
  induction n using Nat.strongRecOn with
  | ind n ih =>
    rw [digits, Nat.toDigits_eq_if (by decide)]
    split
    · rename_i hLt
      rw [List.head?_cons]
      exact fun hSame => hSmall n hLt h (Option.some.inj hSame)
    · rename_i hLarge
      have hHead : (Nat.toDigits 10 (n / 10) ++ [(n % 10).digitChar]).head? = (digits (n / 10)).head? := by
        obtain ⟨c, cs, hDigits⟩ := List.exists_cons_of_ne_nil (digits_ne_nil (n / 10))
        rw [← digits, hDigits]
        rfl
      rw [hHead]
      exact ih (n / 10) (by omega) (by omega)

end Numeral

namespace Toml

theorem digitBelow?_of_isDigit {c : Char} (h : c.isDigit = true) :
    Integer.digitBelow? 10 c = some (c.toNat - '0'.toNat) := by
  simp only [Char.isDigit, ge_iff_le, Bool.and_eq_true, decide_eq_true_eq] at h
  have hDigit : '0' ≤ c ∧ c ≤ '9' := h
  have hBelow : c.toNat - '0'.toNat < 10 := by
    have hNine : c.toNat ≤ 57 := h.2
    have hZero : '0'.toNat = 48 := rfl
    omega
  rw [Integer.digitBelow?, Literal.hexDigit?, if_pos hDigit]
  simp only [if_pos hBelow]

theorem magnitude?_of_isDigit {cs : List Char} (hNe : cs ≠ []) (h : ∀ c ∈ cs, c.isDigit = true) :
    Integer.magnitude? 10 cs = some (Nat.ofDigitChars 10 cs 0) := by
  have hFilter : cs.filter (· != '_') = cs := by
    rw [List.filter_eq_self]
    intro c hMem
    have hDigit := h c hMem
    rw [bne_iff_ne]
    rintro rfl
    cases hDigit
  have hDigits : ∀ ds : List Char, (∀ c ∈ ds, c.isDigit = true) →
      ds.mapM (Integer.digitBelow? 10) = some (Numeral.digitValues ds) := by
    intro ds hAll
    induction ds with
    | nil => rfl
    | cons c ds ih =>
      obtain ⟨hDigit, hRest⟩ := List.forall_mem_cons.mp hAll
      rw [List.mapM_cons, digitBelow?_of_isDigit hDigit, ih hRest]
      rfl
  have hEmpty : cs.isEmpty = false := by rwa [List.isEmpty_eq_false_iff]
  have hValue : Numeral.denoted 10 (Numeral.digitValues cs) = Nat.ofDigitChars 10 cs 0 := by
    rw [Numeral.denoted_eq_foldl, Numeral.digitValues, List.foldl_map, Nat.ofDigitChars]
    simp only [Nat.mul_comm]
  simp only [Integer.magnitude?, hFilter, hEmpty, hDigits cs h, Option.map_some, hValue]
  rfl

theorem decimal?_digits (n : Nat) :
    Integer.decimal? false (Numeral.digits n) = some (some (n : Int)) := by
  have hAll : ∀ c ∈ Numeral.digits n, c.isDigit = true := fun c hMem => Numeral.isDigit_of_mem_digits hMem
  have hDrop : (Numeral.digits n).dropWhile Char.isDigit = [] := List.dropWhile_eq_nil_iff.mpr hAll
  have hValue : Integer.decimal?.value false (Numeral.digits n) = some (some (n : Int)) := by
    rw [Integer.decimal?.value, magnitude?_of_isDigit (Numeral.digits_ne_nil n) hAll, Numeral.digits,
      Nat.ofDigitChars_toDigits (by decide) (by decide)]
    rfl
  rw [Integer.decimal?, hDrop]
  simp only [hValue]
  rw [if_neg]
  -- a leading zero is the only digit
  intro hShape
  simp only [Bool.or_eq_true, List.isEmpty_iff, Numeral.digits_ne_nil, false_or, Bool.and_eq_true,
    decide_eq_true_eq, beq_iff_eq] at hShape
  by_cases hZero : n = 0
  · subst hZero
    exact hShape.1 rfl
  · exact Numeral.head?_digits hZero hShape.2

theorem number?_digits (n : Nat) :
    Scalar.number? false (Numeral.digits n) (Numeral.digits n) = some (.integer (some (n : Int))) := by
  have hDrop : (Numeral.digits n).dropWhile Char.isDigit = [] :=
    List.dropWhile_eq_nil_iff.mpr fun c hMem => Numeral.isDigit_of_mem_digits hMem
  simp only [Scalar.number?, hDrop, decimal?_digits]
  rfl

/-- A number in decimal digits is an integer literal that denotes it. -/
theorem ofPlain?_digits (n : Nat) :
    Scalar.ofPlain? (Numeral.digits n) = some (.integer (some (n : Int))) := by
  have hNe (text : List Char) (h : ∃ c ∈ text, c.isDigit = false) : Numeral.digits n ≠ text := by
    rintro rfl
    obtain ⟨c, hMem, hDigit⟩ := h
    rw [Numeral.isDigit_of_mem_digits hMem] at hDigit
    cases hDigit
  obtain ⟨c, cs, hDigits⟩ := List.exists_cons_of_ne_nil (Numeral.digits_ne_nil n)
  have hSign : Integer.sign (Numeral.digits n) = (false, Numeral.digits n) := by
    rw [hDigits, Integer.sign]
    · rintro rest hSame
      exact hNe _ ⟨'+', List.mem_cons_self, rfl⟩ (hDigits.trans hSame)
    · rintro rest hSame
      exact hNe _ ⟨'-', List.mem_cons_self, rfl⟩ (hDigits.trans hSame)
  have hInf : Numeral.digits n ≠ "inf".toList := hNe _ ⟨'i', by decide, rfl⟩
  have hNan : Numeral.digits n ≠ "nan".toList := hNe _ ⟨'n', by decide, rfl⟩
  rw [Scalar.ofPlain?, if_neg (hNe _ ⟨'t', by decide, rfl⟩), if_neg (hNe _ ⟨'f', by decide, rfl⟩), hSign]
  simp only [if_neg hInf, if_neg hNan, number?_digits]
  split
  · rename_i d ds hSame
    by_cases hZero : n = 0
    · subst hZero
      cases hSame
    · have hHead := Numeral.head?_digits hZero
      rw [hSame] at hHead
      exact absurd rfl hHead
  · rfl

end Toml

end WorkerSim
