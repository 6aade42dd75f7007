import Mathlib.Data.Nat.Digits.Defs
import WorkerSim.Proofs.Literals
import WorkerSim.Toml.Reader

/-!
# Integer literals of every radix

The integers of TOML as its grammar has them: a decimal without leading zeros and with a sign if it
likes, or digits in base sixteen, eight or two behind a mark; single underscores may stand between
digits. Of any length, such a literal is read as the number that its digits denote.
-/

set_option autoImplicit false

namespace WorkerSim.Toml.Integer

/-- A digit of a radix up to sixteen, in lower or upper case. -/
inductive Digit (radix : Nat) : Char → Nat → Prop
  | lower {d : Nat} (h : d < radix) : Digit radix d.digitChar d
  | upper {d : Nat} (h : d < radix) : Digit radix d.digitChar.toUpper d

/-- Digits with single underscores between them, and their values. -/
inductive Row (radix : Nat) : List Char → List Nat → Prop
  | last {c : Char} {d : Nat} : Digit radix c d → Row radix [c] [d]
  | next {c : Char} {d : Nat} {cs : List Char} {ds : List Nat} :
      Digit radix c d → Row radix cs ds → Row radix (c :: cs) (d :: ds)
  | apart {c : Char} {d : Nat} {cs : List Char} {ds : List Nat} :
      Digit radix c d → Row radix cs ds → Row radix (c :: '_' :: cs) (d :: ds)

/-- A row of digits that denotes a number, the first digit the highest. -/
def Magnitude (radix : Nat) (cs : List Char) (n : Nat) : Prop :=
  ∃ ds, Row radix cs ds ∧ n = Nat.ofDigits radix ds.reverse

/-- Decimal digits without a leading zero. -/
structure Decimal (cs : List Char) (n : Nat) : Prop where
  magnitude : Magnitude 10 cs n
  leading : cs.head? = some '0' → cs = ['0']

/-- An integer literal and the number that it denotes. -/
inductive Denotes : List Char → Int → Prop
  | decimal {cs : List Char} {n : Nat} : Decimal cs n → Denotes cs n
  | plus {cs : List Char} {n : Nat} : Decimal cs n → Denotes ('+' :: cs) n
  | minus {cs : List Char} {n : Nat} : Decimal cs n → Denotes ('-' :: cs) (-n)
  | hexadecimal {cs : List Char} {n : Nat} : Magnitude 16 cs n → Denotes ('0' :: 'x' :: cs) n
  | octal {cs : List Char} {n : Nat} : Magnitude 8 cs n → Denotes ('0' :: 'o' :: cs) n
  | binary {cs : List Char} {n : Nat} : Magnitude 2 cs n → Denotes ('0' :: 'b' :: cs) n

variable {radix n d : Nat} {c : Char} {cs : List Char} {ds : List Nat}

/-! ### Digits -/

namespace Digit

theorem lt (h : Digit radix c d) : d < radix := by
  cases h with
  | lower h => exact h
  | upper h => exact h

theorem hexDigit? (hRadix : radix ≤ 16) (h : Digit radix c d) : Literal.hexDigit? c = some d := by
  have hAll : ∀ d < 16, Literal.hexDigit? d.digitChar = some d ∧
      Literal.hexDigit? d.digitChar.toUpper = some d := by decide
  cases h with
  | lower h => exact (hAll d (h.trans_le hRadix)).1
  | upper h => exact (hAll d (h.trans_le hRadix)).2

theorem digitBelow? (hRadix : radix ≤ 16) (h : Digit radix c d) :
    Integer.digitBelow? radix c = some d := by
  simp only [Integer.digitBelow?, h.hexDigit? hRadix, if_pos h.lt]

theorem isHexDigit (hRadix : radix ≤ 16) (h : Digit radix c d) : isHexDigit c = true := by
  rw [Integer.isHexDigit, h.hexDigit? hRadix]
  rfl

theorem isBareKeyChar (hRadix : radix ≤ 16) (h : Digit radix c d) : isBareKeyChar c = true := by
  have hAll : ∀ d < 16, Toml.isBareKeyChar d.digitChar = true ∧
      Toml.isBareKeyChar d.digitChar.toUpper = true := by decide
  cases h with
  | lower h => exact (hAll d (h.trans_le hRadix)).1
  | upper h => exact (hAll d (h.trans_le hRadix)).2

theorem isDigit (h : Digit 10 c d) : c.isDigit = true := by
  have hAll : ∀ d < 10, d.digitChar.isDigit = true ∧ d.digitChar.toUpper.isDigit = true := by decide
  cases h with
  | lower h => exact (hAll d h).1
  | upper h => exact (hAll d h).2

theorem ne_underscore (hRadix : radix ≤ 16) (h : Digit radix c d) : c ≠ '_' := by
  rintro rfl
  cases h.hexDigit? hRadix

theorem filter_cons (hRadix : radix ≤ 16) (h : Digit radix c d) (cs : List Char) :
    (c :: cs).filter (· != '_') = c :: cs.filter (· != '_') := by
  have hKeep : (c != '_') = true := bne_iff_ne.mpr (h.ne_underscore hRadix)
  rw [List.filter_cons, if_pos hKeep]

end Digit

/-! ### Rows -/

theorem foldl_eq_ofDigits (radix : Nat) (ds : List Nat) :
    ds.foldl (fun n d => n * radix + d) 0 = Nat.ofDigits radix ds.reverse := by
  rw [Nat.ofDigits_eq_foldr, List.foldr_reverse]
  congr 1
  funext n d
  rw [Nat.mul_comm, Nat.add_comm]
  rfl

namespace Row

theorem exists_cons (h : Row radix cs ds) : ∃ c d rest, cs = c :: rest ∧ Digit radix c d := by
  cases h with
  | last hDigit => exact ⟨_, _, _, rfl, hDigit⟩
  | next hDigit _ => exact ⟨_, _, _, rfl, hDigit⟩
  | apart hDigit _ => exact ⟨_, _, _, rfl, hDigit⟩

theorem eq_or_digit (h : Row radix cs ds) : ∀ c ∈ cs, c = '_' ∨ ∃ d, Digit radix c d := by
  induction h with
  | last hDigit => exact List.forall_mem_singleton.mpr (.inr ⟨_, hDigit⟩)
  | next hDigit _ ih => exact List.forall_mem_cons.mpr ⟨.inr ⟨_, hDigit⟩, ih⟩
  | apart hDigit _ ih =>
    exact List.forall_mem_cons.mpr ⟨.inr ⟨_, hDigit⟩, List.forall_mem_cons.mpr ⟨.inl rfl, ih⟩⟩

theorem mapM_digits (hRadix : radix ≤ 16) (h : Row radix cs ds) :
    (cs.filter (· != '_')).mapM (digitBelow? radix) = some ds := by
  induction h with
  | last hDigit =>
    rw [hDigit.filter_cons hRadix, List.filter_nil,
      List.mapM_cons, hDigit.digitBelow? hRadix]
    rfl
  | next hDigit _ ih =>
    rw [hDigit.filter_cons hRadix, List.mapM_cons,
      hDigit.digitBelow? hRadix, ih]
    rfl
  | apart hDigit _ ih =>
    rw [hDigit.filter_cons hRadix,
      List.filter_cons_of_neg (by decide), List.mapM_cons, hDigit.digitBelow? hRadix, ih]
    rfl

theorem magnitude? (hRadix : radix ≤ 16) (h : Row radix cs ds) :
    Integer.magnitude? radix cs = some (Nat.ofDigits radix ds.reverse) := by
  have hDigits := h.mapM_digits hRadix
  have hSome : (cs.filter (· != '_')).isEmpty = false := by
    obtain ⟨c, d, rest, rfl, hDigit⟩ := h.exists_cons
    rw [hDigit.filter_cons hRadix]
    rfl
  simp only [Integer.magnitude?, hSome, hDigits, Option.map_some, Numeral.denoted_eq_foldl,
    foldl_eq_ofDigits]
  rfl

/-- Each underscore in a row has a digit on both sides. -/
theorem underscoresFit (hRadix : radix ≤ 16) (h : Row radix cs ds) (after : Bool) :
    Integer.underscoresFit isHexDigit after cs = true := by
  induction h generalizing after with
  | last hDigit =>
    rw [Integer.underscoresFit]
    · rfl
    · exact fun hSame => hDigit.ne_underscore hRadix hSame
  | next hDigit _ ih =>
    rw [Integer.underscoresFit]
    · exact ih _
    · exact fun hSame => hDigit.ne_underscore hRadix hSame
  | apart hDigit hRow ih =>
    rw [Integer.underscoresFit]
    · -- the digit behind the underscore is the first of the rest
      obtain ⟨c, d, rest, rfl, hNext⟩ := hRow.exists_cons
      rw [Integer.underscoresFit, hDigit.isHexDigit hRadix, ih]
      simp only [hNext.isHexDigit hRadix, Bool.and_self]
    · exact fun hSame => hDigit.ne_underscore hRadix hSame

theorem inRadix? (hRadix : radix ≤ 16) (h : Row radix cs ds) :
    Integer.inRadix? radix cs = some (some ((Nat.ofDigits radix ds.reverse : Nat) : Int)) := by
  have hAll : cs.all (fun c => c == '_' || (digitBelow? radix c).isSome) = true := by
    rw [List.all_eq_true]
    intro c hMem
    obtain rfl | ⟨d, hDigit⟩ := h.eq_or_digit c hMem
    · rfl
    · rw [hDigit.digitBelow? hRadix, Option.isSome_some, Bool.or_true]
  rw [Integer.inRadix?, if_pos ⟨hAll, h.underscoresFit hRadix false⟩, h.magnitude? hRadix]
  rfl

/-- Behind the first digits of a decimal row there is an underscore, or nothing. -/
theorem dropWhile_digits (h : Row 10 cs ds) :
    cs.dropWhile Char.isDigit = [] ∨ ∃ rest, cs.dropWhile Char.isDigit = '_' :: rest := by
  induction h with
  | last hDigit =>
    rw [List.dropWhile_cons_of_pos hDigit.isDigit]
    exact .inl rfl
  | next hDigit _ ih =>
    rw [List.dropWhile_cons_of_pos hDigit.isDigit]
    exact ih
  | apart hDigit _ _ =>
    rw [List.dropWhile_cons_of_pos hDigit.isDigit]
    exact .inr ⟨_, rfl⟩

end Row

/-! ### Literals -/

namespace Decimal

theorem exists_cons (h : Decimal cs n) : ∃ c d rest, cs = c :: rest ∧ Digit 10 c d := by
  obtain ⟨ds, hRow, -⟩ := h.magnitude
  exact hRow.exists_cons

theorem decimal? (h : Decimal cs n) (negative : Bool) :
    Integer.decimal? negative cs = some (some (signed negative n)) := by
  obtain ⟨⟨ds, hRow, rfl⟩, hLeading⟩ := h
  have hValue : Integer.decimal?.value negative cs =
      some (some (signed negative (Nat.ofDigits 10 ds.reverse))) := by
    rw [Integer.decimal?.value, hRow.magnitude? (by decide)]
    rfl
  obtain hNone | ⟨rest, hSome⟩ := hRow.dropWhile_digits
  · rw [Integer.decimal?, hNone]
    simp only [hValue]
    rw [if_neg]
    simp only [Bool.or_eq_true, Bool.and_eq_true, decide_eq_true_eq, beq_iff_eq, not_or, not_and]
    refine ⟨?_, fun hLong hZero => hLong ?_⟩
    · obtain ⟨c, d, rest, rfl, -⟩ := hRow.exists_cons
      exact Bool.false_ne_true
    · rw [hLeading hZero]
      rfl
  · have hZero : cs.head? ≠ some '0' := by
      intro hZero
      rw [hLeading hZero] at hSome
      cases hSome
    rw [Integer.decimal?, hSome]
    simp only [hValue, hRow.underscoresFit (by decide), hZero, ne_eq, not_false_eq_true, and_self, if_true]

theorem number? (h : Decimal cs n) (negative : Bool) (raw : List Char) :
    Scalar.number? negative raw cs = some (.integer (some (signed negative n))) := by
  have hChars : ∀ c ∈ cs.dropWhile Char.isDigit, c.isDigit = true ∨ c = '_' := by
    intro c hMem
    obtain ⟨ds, hRow, -⟩ := h.magnitude
    obtain rfl | ⟨d, hDigit⟩ := hRow.eq_or_digit c ((List.dropWhile_sublist _).subset hMem)
    · exact .inr rfl
    · exact .inl hDigit.isDigit
  have hNot {x : Char} (hx : x.isDigit = false ∧ x ≠ '_') : x ∉ cs.dropWhile Char.isDigit := by
    intro hMem
    obtain hDigit | rfl := hChars x hMem
    · rw [hx.1] at hDigit
      cases hDigit
    · exact hx.2 rfl
  have hHead {x : Char} (hx : x.isDigit = false ∧ x ≠ '_') :
      (cs.dropWhile Char.isDigit).head? ≠ some x :=
    fun hSome => hNot hx (List.mem_of_head? hSome)
  have hSpace : (cs.dropWhile Char.isDigit).contains ' ' = false := by
    rw [List.contains_eq_mem, decide_eq_false_iff_not]
    exact hNot (by decide)
  have hMark : (cs.dropWhile Char.isDigit).any Scalar.isMark = false := by
    rw [List.any_eq_false]
    intro c hMem hIs
    simp only [Scalar.isMark, Bool.or_eq_true, beq_iff_eq] at hIs
    obtain (rfl | rfl) | rfl := hIs <;> exact hNot (by decide) hMem
  have hMoment : ¬((cs.dropWhile Char.isDigit).head? = some '-' ∨
      (cs.dropWhile Char.isDigit).head? = some ':') :=
    not_or.mpr ⟨hHead (by decide), hHead (by decide)⟩
  -- so nothing makes it a date, a time or a real
  simp only [Scalar.number?, if_neg hMoment, hSpace, hMark, h.decimal? negative, Bool.false_eq_true, if_false]
  rfl

end Decimal

/-- What starts with a digit is no word, so only a radix mark keeps it from being a decimal number. -/
theorem ofPlain?_of_isDigit {raw : List Char} {negative : Bool} (hDigit : c.isDigit = true)
    (hSign : sign raw = (negative, c :: cs))
    (hMark : ∀ x rest, raw = '0' :: x :: rest → radix? x = none) :
    Scalar.ofPlain? raw = Scalar.number? negative raw (c :: cs) := by
  have hWord {word : List Char} (h : ∀ c ∈ (sign word).2.head?, c.isDigit = false) : raw ≠ word := by
    rintro rfl
    have hNot := h c (by rw [hSign]; rfl)
    rw [hDigit] at hNot
    cases hNot
  have hTail {word : List Char} (h : ∀ c ∈ word.head?, c.isDigit = false) : c :: cs ≠ word := by
    rintro rfl
    have hNot := h c rfl
    rw [hDigit] at hNot
    cases hNot
  have hInf : c :: cs ≠ "inf".toList := hTail (by rintro _ ⟨⟩; rfl)
  have hNan : c :: cs ≠ "nan".toList := hTail (by rintro _ ⟨⟩; rfl)
  have hTrue : raw ≠ "true".toList := hWord (by rintro _ ⟨⟩; rfl)
  have hFalse : raw ≠ "false".toList := hWord (by rintro _ ⟨⟩; rfl)
  rw [Scalar.ofPlain?, if_neg hTrue, if_neg hFalse, hSign]
  simp only [if_neg hInf, if_neg hNan]
  split
  · rename_i x rest
    rw [hMark x rest rfl]
  · rfl

theorem Decimal.ofPlain? (h : Decimal cs n) : Scalar.ofPlain? cs = some (.integer (some (n : Int))) := by
  obtain ⟨c, d, rest, rfl, hDigit⟩ := h.exists_cons
  have hSign : sign (c :: rest) = (false, c :: rest) := by
    rw [sign]
    · rintro _ ⟨⟩
      cases hDigit.isDigit
    · rintro _ ⟨⟩
      cases hDigit.isDigit
  rw [ofPlain?_of_isDigit hDigit.isDigit hSign, h.number?]
  · rfl
  · rintro x rest ⟨⟩
    cases h.leading rfl

theorem Decimal.ofPlain?_sign {negative : Bool} (h : Decimal cs n) (mark : Char)
    (hSign : sign (mark :: cs) = (negative, cs)) (hMark : mark ≠ '0') :
    Scalar.ofPlain? (mark :: cs) = some (.integer (some (signed negative n))) := by
  obtain ⟨c, d, rest, rfl, hDigit⟩ := h.exists_cons
  rw [ofPlain?_of_isDigit hDigit.isDigit hSign, h.number?]
  rintro x rest ⟨⟩
  exact absurd rfl hMark

theorem Magnitude.ofPlain? (h : Magnitude radix cs n) (hMark : radix? c = some radix)
    (hRadix : radix ≤ 16) : Scalar.ofPlain? ('0' :: c :: cs) = some (.integer (some (n : Int))) := by
  obtain ⟨ds, hRow, rfl⟩ := h
  rw [Scalar.ofPlain?, if_neg (by rintro ⟨⟩), if_neg (by rintro ⟨⟩), sign]
  · simp only [if_neg (show '0' :: c :: cs ≠ "inf".toList by rintro ⟨⟩),
      if_neg (show '0' :: c :: cs ≠ "nan".toList by rintro ⟨⟩), hMark, hRow.inRadix? hRadix]
    rfl
  · rintro _ ⟨⟩
  · rintro _ ⟨⟩

namespace Denotes

variable {z : Int}

/-- An integer literal is read as the number that it denotes. -/
theorem ofPlain? (h : Denotes cs z) : Scalar.ofPlain? cs = some (.integer (some z)) := by
  cases h with
  | decimal h => exact h.ofPlain?
  | plus h => exact h.ofPlain?_sign '+' rfl (by decide)
  | minus h => exact h.ofPlain?_sign '-' rfl (by decide)
  | hexadecimal h => exact h.ofPlain? rfl (by decide)
  | octal h => exact h.ofPlain? rfl (by decide)
  | binary h => exact h.ofPlain? rfl (by decide)

theorem ne_nil (h : Denotes cs z) : cs ≠ [] := by
  cases h with
  | decimal h =>
    obtain ⟨c, d, rest, rfl, -⟩ := h.exists_cons
    exact List.cons_ne_nil _ _
  | _ => exact List.cons_ne_nil _ _

/-- The characters of a literal are those of bare keys, and a plus sign. -/
theorem chars (h : Denotes cs z) : ∀ c ∈ cs, c = '+' ∨ isBareKeyChar c = true := by
  have hRow {radix n : Nat} {cs : List Char} (hRadix : radix ≤ 16) (h : Magnitude radix cs n) :
      ∀ c ∈ cs, c = '+' ∨ isBareKeyChar c = true := by
    intro c hMem
    obtain ⟨ds, hRow, -⟩ := h
    obtain rfl | ⟨d, hDigit⟩ := hRow.eq_or_digit c hMem
    · exact .inr rfl
    · exact .inr (hDigit.isBareKeyChar hRadix)
  have hMarked {radix n : Nat} {c : Char} {cs : List Char} (hRadix : radix ≤ 16)
      (hc : isBareKeyChar c = true) (h : Magnitude radix cs n) : ∀ x ∈ '0' :: c :: cs, x = '+' ∨ isBareKeyChar x = true :=
    List.forall_mem_cons.mpr ⟨.inr rfl, List.forall_mem_cons.mpr ⟨.inr hc, hRow hRadix h⟩⟩
  cases h with
  | decimal h => exact hRow (by decide) h.magnitude
  | plus h => exact List.forall_mem_cons.mpr ⟨.inl rfl, hRow (by decide) h.magnitude⟩
  | minus h => exact List.forall_mem_cons.mpr ⟨.inr rfl, hRow (by decide) h.magnitude⟩
  | hexadecimal h => exact hMarked (by decide) rfl h
  | octal h => exact hMarked (by decide) rfl h
  | binary h => exact hMarked (by decide) rfl h

end Denotes

end WorkerSim.Toml.Integer
