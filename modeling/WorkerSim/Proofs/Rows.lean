import Mathlib.Data.List.Forall2
import WorkerSim.Proofs.Drafts

/-!
# Reading plain documents

A plain document is read line by line. Its lines give back the pairs that they were written for, with
a section for each header, and so the tables at the root that the document adds to.
-/

set_option autoImplicit false

namespace WorkerSim.Toml

open Entries Scalar

/-! ### Characters -/

/-- A stretch of characters of a class, in front of one that is not of it. -/
theorem stretch_append {p : Char → Bool} {cs : List Char} (h : ∀ c ∈ cs, p c = true) {c : Char}
    (hStop : p c = false) (rest : List Char) :
    (cs ++ c :: rest).takeWhile p = cs ∧ (cs ++ c :: rest).dropWhile p = c :: rest := by
  constructor
  · rw [List.takeWhile_append_of_pos h, List.takeWhile_cons, hStop]
    exact List.append_nil cs
  · rw [List.dropWhile_append_of_pos h, List.dropWhile_cons, hStop]
    rfl

theorem isPlainEnd_iff (c : Char) : isPlainEnd c = true ↔
    c ∈ [' ', '\t', '\n', '\r', '#', ',', '=', '[', ']', '\x7b', '\x7d'] := by
  simp [isPlainEnd, isSpace, or_assoc]

theorem isPlainEnd_of_bare {c : Char} (h : isBareKeyChar c = true) : isPlainEnd c = false := by
  have hEnds : [' ', '\t', '\n', '\r', '#', ',', '=', '[', ']', '\x7b', '\x7d'].all
      (!isBareKeyChar ·) = true := by decide
  refine Bool.eq_false_iff.mpr fun hEnd => ?_
  have hNot := List.all_eq_true.mp hEnds c ((isPlainEnd_iff c).mp hEnd)
  rw [h] at hNot
  cases hNot

theorem ne_of_bare {c d : Char} (h : isBareKeyChar c = true) (hOther : isBareKeyChar d = false) :
    c ≠ d := by
  rintro rfl
  rw [h] at hOther
  cases hOther

theorem ne_of_plain {c d : Char} (h : isPlainEnd c = false) (hEnd : isPlainEnd d = true) : c ≠ d := by
  rintro rfl
  rw [h] at hEnd
  cases hEnd

theorem isSpace_of_plain {c : Char} (h : isPlainEnd c = false) : isSpace c = false := by
  refine Bool.eq_false_iff.mpr fun hSpace => ?_
  simp [isPlainEnd, hSpace] at h

theorem afterSpaces_cons {c : Char} (h : isSpace c = false) (cs : List Char) :
    afterSpaces (c :: cs) = c :: cs := by
  rw [afterSpaces, List.dropWhile_cons, h]
  rfl

theorem afterGap_space (cs : List Char) : afterGap (' ' :: cs) = afterGap cs := by
  rw [afterGap, afterTrivia]
  · rfl
  · exact nofun

theorem afterGap_cons {c : Char} (hSpace : isSpace c = false) (hNewline : c ≠ '\n')
    (hReturn : c ≠ '\r') (hComment : c ≠ '#') (cs : List Char) : afterGap (c :: cs) = c :: cs := by
  rw [afterGap, afterTrivia]
  · simp [hSpace, hNewline, hComment]
  · exact fun _ hSame => absurd hSame hReturn

theorem afterGap_plain {c : Char} (h : isPlainEnd c = false) (cs : List Char) :
    afterGap (c :: cs) = c :: cs :=
  afterGap_cons (isSpace_of_plain h) (ne_of_plain h rfl) (ne_of_plain h rfl) (ne_of_plain h rfl) cs

/-- What passes over the blanks inside a line passes over one space, and stops at what a token may
start with. -/
structure Passes (gap : List Char → List Char) : Prop where
  equals : ∀ cs, gap ('=' :: cs) = '=' :: cs
  space : ∀ cs, gap (' ' :: cs) = gap cs
  plain : ∀ c cs, isPlainEnd c = false → gap (c :: cs) = c :: cs
  brace : ∀ cs, gap ('\x7b' :: cs) = '\x7b' :: cs

theorem passes_afterSpaces : Passes afterSpaces where
  equals := afterSpaces_cons (by decide)
  space _ := rfl
  plain _ cs h := afterSpaces_cons (isSpace_of_plain h) cs
  brace := afterSpaces_cons (by decide)

theorem passes_afterGap : Passes afterGap where
  equals := afterGap_cons (by decide) (by decide) (by decide) (by decide)
  space := afterGap_space
  plain _ cs h := afterGap_plain h cs
  brace := afterGap_cons (by decide) (by decide) (by decide) (by decide)

/-! ### Keys and paths -/

namespace BareKey

theorem exists_cons (k : BareKey) : ∃ c cs, k.chars = c :: cs ∧ isBareKeyChar c = true := by
  obtain ⟨c, cs, hChars⟩ := List.exists_cons_of_ne_nil k.ne_nil
  exact ⟨c, cs, hChars, k.bare c (hChars ▸ List.mem_cons_self)⟩

theorem afterSpaces_append (k : BareKey) (rest : List Char) :
    afterSpaces (k.chars ++ rest) = k.chars ++ rest := by
  obtain ⟨c, cs, hChars, hBare⟩ := k.exists_cons
  rw [hChars]
  exact afterSpaces_cons (isSpace_of_plain (isPlainEnd_of_bare hBare)) _

variable {c : Char}

theorem key?_append (k : BareKey) (h : isBareKeyChar c = false) (rest : List Char) :
    key? (k.chars ++ c :: rest) =
      some (⟨⟨k.chars ++ c :: rest, c :: rest⟩, k.chars⟩, c :: rest) := by
  obtain ⟨hTake, hDrop⟩ := stretch_append k.bare h rest
  obtain ⟨d, ds, hChars, hBare⟩ := k.exists_cons
  rw [hChars] at hTake hDrop ⊢
  have hQuote : ¬(d = '"' ∨ d = '\'') :=
    not_or.mpr ⟨ne_of_bare hBare (by decide), ne_of_bare hBare (by decide)⟩
  simp only [key?, List.cons_append] at hTake hDrop ⊢
  simp only [hTake, hDrop, if_neg hQuote]
  rfl

theorem path?_append (k : BareKey) (h : isBareKeyChar c = false) {d : Char} {tail rest : List Char}
    (hSpaces : afterSpaces (c :: rest) = d :: tail) (hDot : d ≠ '.') (n : Nat) :
    path? (n + 1) (k.chars ++ c :: rest) =
      some ([⟨⟨k.chars ++ c :: rest, c :: rest⟩, k.chars⟩], d :: tail) := by
  rw [path?, k.afterSpaces_append, k.key?_append h]
  simp only [hSpaces]
  split
  · rename_i hSame
    cases hSame
    exact absurd rfl hDot
  · rfl

theorem path?_dotted (t k : BareKey) (h : isBareKeyChar c = false) {d : Char} {tail rest : List Char}
    (hSpaces : afterSpaces (c :: rest) = d :: tail) (hDot : d ≠ '.') (n : Nat) :
    ∃ r s : Span, path? (n + 2) (t.chars ++ '.' :: (k.chars ++ c :: rest)) =
      some ([⟨r, t.chars⟩, ⟨s, k.chars⟩], d :: tail) := by
  rw [path?, t.afterSpaces_append, t.key?_append (by decide)]
  simp only [afterSpaces_cons (show isSpace '.' = false by decide), k.path?_append h hSpaces hDot n]
  exact ⟨_, _, rfl⟩

end BareKey

/-! ### Values -/

/-- A literal without quotes ends here. -/
structure Closes (rest : List Char) : Prop where
  ends : ∃ c tail, rest = c :: tail ∧ isPlainEnd c = true
  final : (rest.dropWhile isSpace).head?.any isPlainStart = false

theorem closes_of_end {c : Char} (h : isPlainEnd c = true) (hSpace : isSpace c = false)
    (tail : List Char) : Closes (c :: tail) := by
  refine ⟨⟨c, tail, rfl, h⟩, ?_⟩
  rw [List.dropWhile_cons, hSpace]
  simp [isPlainStart, h]

theorem closes_brace (tail : List Char) : Closes (' ' :: '\x7d' :: tail) :=
  ⟨⟨' ', '\x7d' :: tail, rfl, by decide⟩, rfl⟩

theorem plain_append {cs rest : List Char} (hPlain : ∀ c ∈ cs, isPlainEnd c = false)
    (hCloses : Closes rest) : plain (cs ++ rest) = (cs, rest) := by
  obtain ⟨c, tail, rfl, hEnd⟩ := hCloses.ends
  have hPos : ∀ c ∈ cs, (!isPlainEnd c) = true := fun c hMem => by rw [hPlain c hMem]; rfl
  have hStop : (!isPlainEnd c) = false := by rw [hEnd]; rfl
  obtain ⟨hTake, hDrop⟩ := stretch_append hPos hStop tail
  rw [plain, dif_neg]
  · rw [hTake, hDrop]
  · rw [hDrop, hCloses.final]
    exact fun h => nomatch h.2

namespace PlainValue

theorem exists_cons (v : PlainValue) :
    ∃ c cs, v.chars = c :: cs ∧ isPlainEnd c = false ∧ c ≠ '"' ∧ c ≠ '\'' := by
  obtain ⟨c, cs, hChars⟩ := List.exists_cons_of_ne_nil v.ne_nil
  have hMem : c ∈ v.chars := hChars ▸ List.mem_cons_self
  exact ⟨c, cs, hChars, v.plain c hMem, v.unquoted c hMem⟩

theorem gap_append (v : PlainValue) {gap : List Char → List Char} (hGap : Passes gap)
    (rest : List Char) : gap (v.chars ++ rest) = v.chars ++ rest := by
  obtain ⟨c, cs, hChars, hPlain, -⟩ := v.exists_cons
  rw [hChars]
  exact hGap.plain c _ hPlain

theorem read?_append (v : PlainValue) {rest : List Char} (h : Closes rest) :
    Scalar.read? (v.chars ++ rest) = some (v.scalar, rest) := by
  obtain ⟨c, cs, hChars, -, hDouble, hSingle⟩ := v.exists_cons
  have hPlain := plain_append v.plain h
  have hMeans := v.means
  rw [hChars] at hPlain hMeans ⊢
  rw [List.cons_append] at hPlain ⊢
  rw [Scalar.read?, if_neg hDouble, if_neg hSingle, hPlain]
  simp only [hMeans]
  rfl

theorem value?_append (v : PlainValue) {rest : List Char} (h : Closes rest) (most depth : Nat) :
    value? most depth (v.chars ++ rest) = some (⟨⟨v.chars ++ rest, rest⟩, .scalar v.scalar⟩, rest) := by
  have hSingle : value?.single (v.chars ++ rest) =
      some (⟨⟨v.chars ++ rest, rest⟩, .scalar v.scalar⟩, rest) := by
    rw [value?.single, v.read?_append h]
    rfl
  -- the first character opens neither an array nor a table
  cases depth with
  | zero => rw [value?, hSingle]
  | succ depth =>
    obtain ⟨c, cs, hChars, hPlain, -⟩ := v.exists_cons
    rw [hChars] at hSingle ⊢
    rw [value?]
    · exact hSingle
    · exact fun _ hSame => ne_of_plain hPlain (by decide) (List.cons.inj hSame).1
    · exact fun _ hSame => ne_of_plain hPlain (by decide) (List.cons.inj hSame).1

end PlainValue

/-! ### Pairs -/

theorem pair?_eq {gap : List Char → List Char} (hGap : Passes gap)
    {value : List Char → Option (Item × List Char)} {cs rest after : List Char} {path : List Key}
    {item : Item} (hPath : path? pathLimit cs = some (path, '=' :: ' ' :: rest))
    (hRest : gap rest = rest) (hValue : value rest = some (item, after)) :
    pair? gap value cs = some ((path, item), after) := by
  rw [pair?, hPath]
  simp only [hGap.equals, hGap.space, hRest, hValue]
  rfl

theorem equals_append (rest : List Char) : " = ".toList ++ rest = ' ' :: '=' :: ' ' :: rest := rfl

namespace Assignment

variable {gap : List Char → List Char} {rest : List Char}

theorem pair?_append (a : Assignment) (hGap : Passes gap) (h : Closes rest) (most depth : Nat) :
    ∃ r s : Span, pair? gap (value? most depth) (a.chars ++ rest) =
      some (([⟨r, a.key.chars⟩], ⟨s, .scalar a.value.scalar⟩), rest) := by
  rw [chars, List.append_assoc, List.append_assoc, equals_append]
  exact ⟨_, _, pair?_eq hGap (a.key.path?_append (by decide) rfl (by decide) _)
    (a.value.gap_append hGap rest) (a.value.value?_append h most depth)⟩

theorem pair?_dotted (t : BareKey) (a : Assignment) (hGap : Passes gap) (h : Closes rest)
    (most depth : Nat) :
    ∃ r s u : Span, pair? gap (value? most depth) (t.chars ++ '.' :: a.chars ++ rest) =
      some (([⟨r, t.chars⟩, ⟨s, a.key.chars⟩], ⟨u, .scalar a.value.scalar⟩), rest) := by
  rw [chars, List.append_assoc, List.cons_append, List.append_assoc, List.append_assoc, equals_append]
  have hSpaces : afterSpaces (' ' :: '=' :: ' ' :: (a.value.chars ++ rest)) =
      '=' :: ' ' :: (a.value.chars ++ rest) := rfl
  obtain ⟨r, s, hPath⟩ := t.path?_dotted a.key (by decide) hSpaces (by decide) 78
  exact ⟨r, s, _, pair?_eq hGap hPath (a.value.gap_append hGap rest)
    (a.value.value?_append h most depth)⟩

theorem exists_cons (a : Assignment) : ∃ c cs, a.chars = c :: cs ∧ isBareKeyChar c = true := by
  obtain ⟨c, cs, hChars, hBare⟩ := a.key.exists_cons
  exact ⟨c, _, by rw [chars, hChars, List.cons_append, List.cons_append], hBare⟩

end Assignment

/-! ### Tables between braces -/

section Elements

variable {α : Type} {close c : Char} {element : List Char → Option (α × List Char)}
  {cs tail rest after : List Char} {a : α} {n : Nat}

theorem elements_last (hGap : afterGap cs = c :: tail) (hOpen : c ≠ close)
    (hElement : element (c :: tail) = some (a, rest)) (hEnd : afterGap rest = close :: after) :
    elements close element (n + 1) cs = some ([a], after) := by
  rw [elements, hGap]
  simp only [if_neg hOpen, hElement, hEnd, if_true]

theorem elements_more (hGap : afterGap cs = c :: tail) (hOpen : c ≠ close)
    (hElement : element (c :: tail) = some (a, rest)) (hEnd : afterGap rest = ',' :: after)
    (hComma : ',' ≠ close) :
    elements close element (n + 1) cs =
      (elements close element n after).map fun r => (a :: r.1, r.2) := by
  rw [elements, hGap]
  simp only [if_neg hOpen, hElement, hEnd, if_neg hComma, if_true]

end Elements

namespace Assignment

/-- An assignment behind a space and in front of something else. -/
theorem afterGap_append (a : Assignment) (tail : List Char) : ∃ c cs, c ≠ '\x7d' ∧
    afterGap (' ' :: (a.chars ++ tail)) = c :: cs ∧ a.chars ++ tail = c :: cs := by
  obtain ⟨c, cs, hChars, hBare⟩ := a.exists_cons
  refine ⟨c, cs ++ tail, ne_of_bare hBare (by decide), ?_, by rw [hChars]; rfl⟩
  rw [hChars, afterGap_space]
  exact afterGap_plain (isPlainEnd_of_bare hBare) _

theorem elements_braced (as : List Assignment) (most depth : Nat) {n : Nat} (hMost : as.length < n)
    (rest : List Char) :
    ∃ pairs, elements '\x7d' (pair? afterGap (value? most depth)) n (braced as ++ rest) =
        some (pairs, rest) ∧ List.Forall₂ Leaf.Of pairs (as.map leaf) := by
  have hBrace : afterGap (' ' :: '\x7d' :: rest) = '\x7d' :: rest := by
    rw [afterGap_space]
    exact afterGap_cons (by decide) (by decide) (by decide) (by decide) rest
  -- each assignment takes one of the bound, and the closing brace the last
  obtain ⟨n, rfl⟩ := Nat.exists_eq_add_one_of_ne_zero (Nat.ne_zero_of_lt hMost)
  fun_induction braced as generalizing n with
  | case1 =>
    refine ⟨[], ?_, .nil⟩
    rw [List.cons_append, List.cons_append, List.nil_append, elements, hBrace]
    rfl
  | case2 a =>
    obtain ⟨r, s, hPair⟩ := a.pair?_append passes_afterGap (closes_brace rest) most depth
    obtain ⟨c, cs, hOpen, hGap, hChars⟩ := a.afterGap_append (' ' :: '\x7d' :: rest)
    rw [hChars] at hPair
    refine ⟨_, ?_, .cons ⟨r, s, rfl⟩ .nil⟩
    simp only [List.cons_append, List.append_assoc, List.nil_append]
    exact elements_last hGap hOpen hPair hBrace
  | case3 a b as ih =>
    obtain ⟨n, rfl⟩ := Nat.exists_eq_add_one_of_ne_zero (Nat.ne_zero_of_lt (Nat.lt_of_succ_lt_succ hMost))
    obtain ⟨pairs, hElements, hPairs⟩ := ih n (Nat.lt_of_succ_lt_succ hMost)
    have hComma : Closes (',' :: (braced (b :: as) ++ rest)) :=
      closes_of_end (by decide) (by decide) _
    obtain ⟨r, s, hPair⟩ := a.pair?_append passes_afterGap hComma most depth
    obtain ⟨c, cs, hOpen, hGap, hChars⟩ := a.afterGap_append (',' :: (braced (b :: as) ++ rest))
    rw [hChars] at hPair
    refine ⟨_ :: pairs, ?_, .cons ⟨r, s, rfl⟩ hPairs⟩
    have hAfter : afterGap (',' :: (braced (b :: as) ++ rest)) = ',' :: (braced (b :: as) ++ rest) :=
      afterGap_cons (by decide) (by decide) (by decide) (by decide) _
    simp only [List.cons_append, List.append_assoc]
    rw [elements_more hGap hOpen hPair hAfter (by decide), hElements]
    rfl

theorem value?_braced {as : List Assignment} (hNodup : ((as.map leaf).map Prod.fst).Nodup) {most : Nat}
    (hMost : as.length < most) (depth : Nat) (rest : List Char) :
    ∃ (s : Span) (es : Entries), value? most (depth + 1) ('\x7b' :: (braced as ++ rest)) =
        some (⟨s, .table .inline es⟩, rest) ∧ Holds es (as.map leaf) := by
  obtain ⟨pairs, hElements, hPairs⟩ := elements_braced as most depth hMost rest
  obtain ⟨es, hAssign, hHolds⟩ := Holds.nil.assignAll hPairs hNodup
  rw [value?, hElements]
  simp only [hAssign]
  exact ⟨_, es, rfl, hHolds⟩

end Assignment

/-! ### Lines -/

/-- The lines of a text are read as statements of a kind, whatever follows. -/
def Reads (most : Nat) (text : List Char) (kind : List Statement → Prop) : Prop :=
  ∀ lines rest, (text ++ rest).length ≤ lines → ∃ statements left, kind statements ∧
    rest.length ≤ left ∧ Statement.readLines? most lines (text ++ rest) =
      (Statement.readLines? most left rest).map (statements ++ ·)

/-- Statements that come from things of one sort, and these from what the document adds. -/
def Writes {α σ : Type} (statements : α → List Statement) (Of : α → σ → Prop) (xs : List σ)
    (written : List Statement) : Prop :=
  ∃ as, written = as.flatMap statements ∧ List.Forall₂ Of as xs

def pairStatement (pair : List Key × Item) : List Statement := [.pair pair.1 pair.2]

def Section.statements (s : Section) : List Statement :=
  .header s.path s.span :: s.pairs.flatMap pairStatement

theorem Section.split_pairs (pairs : List (List Key × Item)) (rest : List Statement) :
    split (pairs.flatMap pairStatement ++ rest) = (pairs ++ (split rest).1, (split rest).2) := by
  induction pairs with
  | nil => rfl
  | cons pair pairs ih =>
    rw [List.flatMap_cons, List.append_assoc, pairStatement, List.singleton_append, split, ih]
    rfl

theorem Section.split_sections {sections : List Section} (h : ∀ s ∈ sections, s.repeats = false) :
    split (sections.flatMap statements) = ([], sections) := by
  induction sections with
  | nil => rfl
  | cons s sections ih =>
    obtain ⟨hOnce, hRest⟩ := List.forall_mem_cons.mp h
    obtain ⟨path, span, repeats, pairs⟩ := s
    obtain rfl : repeats = false := hOnce
    rw [List.flatMap_cons, statements, List.cons_append, split, split_pairs, ih hRest]
    simp only [List.append_nil]

namespace Writes

variable {α σ : Type} {statements : α → List Statement} {Of : α → σ → Prop} {xs ys : List σ}
  {a b : List Statement}

theorem nil : Writes statements Of [] [] := ⟨[], rfl, .nil⟩

theorem single {x : α} {y : σ} (h : Of x y) : Writes statements Of [y] (statements x) :=
  ⟨[x], by simp, .cons h .nil⟩

theorem append (h : Writes statements Of xs a) (h' : Writes statements Of ys b) :
    Writes statements Of (xs ++ ys) (a ++ b) := by
  obtain ⟨as, rfl, hAs⟩ := h
  obtain ⟨bs, rfl, hBs⟩ := h'
  exact ⟨as ++ bs, List.flatMap_append.symm, List.rel_append hAs hBs⟩

end Writes

namespace Reads

variable {most : Nat} {text more : List Char} {P Q R : List Statement → Prop}

theorem nil (h : P []) : Reads most [] P := by
  intro lines rest hLines
  refine ⟨[], lines, h, hLines, ?_⟩
  simp

theorem append (h : Reads most text P) (h' : Reads most more Q) (hBoth : ∀ a b, P a → Q b → R (a ++ b)) :
    Reads most (text ++ more) R := by
  intro lines rest hLines
  rw [List.append_assoc] at hLines ⊢
  obtain ⟨first, middle, hFirst, hMiddle, hRead⟩ := h lines (more ++ rest) hLines
  obtain ⟨second, left, hSecond, hLeft, hRead'⟩ := h' middle rest hMiddle
  refine ⟨first ++ second, left, hBoth first second hFirst hSecond, hLeft, ?_⟩
  rw [hRead, hRead', Option.map_map]
  simp only [Function.comp_def, List.append_assoc]

theorem line (h : ∀ rest, ∃ statements, P statements ∧
    Statement.read? most (text ++ '\n' :: rest) = some (statements, '\n' :: rest)) :
    Reads most (text ++ ['\n']) P := by
  intro lines rest hLines
  obtain ⟨statements, hStatements, hRead⟩ := h rest
  rw [List.append_assoc, List.singleton_append] at hLines ⊢
  simp only [List.length_append, List.length_cons] at hLines
  -- the line's end leaves room for one line less
  obtain ⟨left, rfl⟩ := Nat.exists_eq_add_one_of_ne_zero (show lines ≠ 0 by omega)
  refine ⟨statements, left, hStatements, by omega, ?_⟩
  have hLine : afterLine? ('\n' :: rest) = some rest := rfl
  rw [Statement.readLines?]
  · simp only [hRead, hLine]
  · intro hNil
    simp at hNil

theorem flatMap {α σ ρ : Type} {statements : α → List Statement} {Of : α → σ → Prop} {rows : List ρ}
    {chars : ρ → List Char} {adds : ρ → List σ}
    (h : ∀ row ∈ rows, Reads most (chars row) (Writes statements Of (adds row))) :
    Reads most (rows.flatMap chars) (Writes statements Of (rows.flatMap adds)) := by
  induction rows with
  | nil => exact nil .nil
  | cons row rows ih =>
    obtain ⟨hRow, hRows⟩ := List.forall_mem_cons.mp h
    exact hRow.append (ih hRows) fun _ _ hFirst hRest => hFirst.append hRest

theorem blank (h : P []) : Reads most ['\n'] P := by
  have hLine : Reads most ([] ++ ['\n']) P := line fun _ => ⟨[], h, rfl⟩
  exact hLine

theorem blanks (n : Nat) : Reads most (List.replicate n '\n') (· = []) := by
  induction n with
  | zero => exact nil rfl
  | succ n ih => exact (blank rfl).append ih fun a b ha hb => by simp [ha, hb]

end Reads

variable {most : Nat}

theorem read?_of_bare {c : Char} (hBare : isBareKeyChar c = true) (cs : List Char) :
    Statement.read? most (c :: cs) = (pair? afterSpaces (value? most depthLimit) (c :: cs)).map
      fun r => (pairStatement r.1, r.2) := by
  have hBlank : ¬(c = '#' ∨ c = '\n' ∨ c = '\r') :=
    not_or.mpr ⟨ne_of_bare hBare (by decide),
      not_or.mpr ⟨ne_of_bare hBare (by decide), ne_of_bare hBare (by decide)⟩⟩
  have hHeader : c ≠ '[' := ne_of_bare hBare (by decide)
  rw [Statement.read?, afterSpaces_cons (isSpace_of_plain (isPlainEnd_of_bare hBare))]
  simp only [if_neg hBlank, if_neg hHeader]
  rfl

theorem read?_pair {c : Char} {cs after : List Char} {path : List Key} {item : Item}
    (hBare : isBareKeyChar c = true)
    (hPair : pair? afterSpaces (value? most depthLimit) (c :: cs) = some ((path, item), after)) :
    Statement.read? most (c :: cs) = some (pairStatement (path, item), after) := by
  rw [read?_of_bare hBare, hPair, Option.map_some]

theorem closes_newline (rest : List Char) : Closes ('\n' :: rest) :=
  closes_of_end (by decide) (by decide) rest

theorem Assignment.reads (a : Assignment) :
    Reads most (a.chars ++ ['\n']) (Writes pairStatement Leaf.Of [a.leaf]) := by
  refine Reads.line fun rest => ?_
  obtain ⟨r, s, hPair⟩ := a.pair?_append passes_afterSpaces (closes_newline rest) most depthLimit
  obtain ⟨c, cs, hChars, hBare⟩ := a.exists_cons
  rw [hChars] at hPair ⊢
  exact ⟨_, .single ⟨r, s, rfl⟩, read?_pair hBare hPair⟩

namespace Portion

/-- A part by what its keys and values are read as. -/
def piece (part : Portion BareKey Assignment) : Piece := part.map BareKey.chars Assignment.leaf

theorem exists_cons (part : Portion BareKey Assignment) :
    ∃ c cs, part.chars = c :: cs ∧ isBareKeyChar c = true := by
  cases part with
  | dotted t a =>
    obtain ⟨c, cs, hChars, hBare⟩ := t.exists_cons
    exact ⟨c, _, by rw [chars, hChars, List.cons_append], hBare⟩
  | whole t as =>
    obtain ⟨c, cs, hChars, hBare⟩ := t.exists_cons
    exact ⟨c, _, by rw [chars, hChars, List.cons_append, List.cons_append], hBare⟩

theorem pair?_append (part : Portion BareKey Assignment) (hMost : part.assigned.length < most)
    (hNodup : (part.piece.assigned.map Prod.fst).Nodup) (rest : List Char) :
    ∃ pair, pair? afterSpaces (value? most depthLimit) (part.chars ++ '\n' :: rest) =
      some (pair, '\n' :: rest) ∧ Piece.Of pair part.piece := by
  cases part with
  | dotted t a =>
    obtain ⟨r, s, u, hPair⟩ :=
      Assignment.pair?_dotted t a passes_afterSpaces (closes_newline rest) most depthLimit
    have hOf : Piece.Of ([⟨r, t.chars⟩, ⟨s, a.leaf.1⟩], ⟨u, .scalar a.leaf.2⟩)
        (.dotted t.chars a.leaf) := .dotted r s u
    exact ⟨_, hPair, hOf⟩
  | whole t as =>
    obtain ⟨s, es, hValue, hHolds⟩ := Assignment.value?_braced hNodup hMost 79 ('\n' :: rest)
    rw [chars, List.append_assoc, List.append_assoc, List.cons_append, equals_append]
    exact ⟨_, pair?_eq passes_afterSpaces (t.path?_append (by decide) rfl (by decide) _)
      (passes_afterSpaces.brace _) hValue, .inline _ s hHolds⟩

theorem reads (part : Portion BareKey Assignment) (hMost : part.assigned.length < most)
    (hNodup : (part.piece.assigned.map Prod.fst).Nodup) :
    Reads most (part.chars ++ ['\n']) (Writes pairStatement Piece.Of [part.piece]) := by
  refine Reads.line fun rest => ?_
  obtain ⟨pair, hPair, hOf⟩ := part.pair?_append hMost hNodup rest
  obtain ⟨c, cs, hChars, hBare⟩ := part.exists_cons
  rw [hChars] at hPair ⊢
  exact ⟨_, .single hOf, read?_pair hBare hPair⟩

end Portion

namespace Sheet

theorem header?_append (t : BareKey) (rest : List Char) :
    ∃ r u : Span, Statement.header? ('[' :: (t.chars ++ ']' :: rest)) =
      some (.header [⟨r, t.chars⟩] u, rest) := by
  have hSpaces : afterSpaces (']' :: rest) = ']' :: rest := rfl
  have hPath := t.path?_append (by decide) hSpaces (by decide) 79
  obtain ⟨c, cs, hChars, hBare⟩ := t.exists_cons
  have hOpen : c ≠ '[' := ne_of_bare hBare (by decide)
  rw [hChars] at hPath ⊢
  rw [Statement.header?, pathLimit, hPath]
  · exact ⟨_, _, rfl⟩
  · exact fun _ hSame => hOpen (List.cons.inj hSame).1

theorem reads_header (t : BareKey) : Reads most ('[' :: t.chars ++ [']', '\n']) fun statements =>
    ∃ r u : Span, statements = [.header [⟨r, t.chars⟩] u] := by
  have hText : '[' :: t.chars ++ [']', '\n'] = ('[' :: t.chars ++ [']']) ++ ['\n'] := by simp
  rw [hText]
  refine Reads.line fun rest => ?_
  obtain ⟨r, u, hHeader⟩ := header?_append t ('\n' :: rest)
  refine ⟨_, ⟨r, u, rfl⟩, ?_⟩
  rw [List.append_assoc, List.cons_append, List.singleton_append, Statement.read?,
    afterSpaces_cons (by decide)]
  simp only [hHeader]
  rfl

theorem reads (s : Sheet BareKey Assignment) (hNodup : (s.part.piece.assigned.map Prod.fst).Nodup) :
    Reads most s.text (Writes Section.statements Piece.OfSection [s.part.piece]) := by
  have hAssigned : Reads most (s.assigned.flatMap fun a => a.chars ++ ['\n'])
      (Writes pairStatement Leaf.Of (s.assigned.flatMap fun a => [a.leaf])) :=
    Reads.flatMap fun a _ => a.reads
  rw [← List.map_eq_flatMap] at hAssigned
  have hBody := (reads_header s.table).append hAssigned
    (R := Writes Section.statements Piece.OfSection [s.part.piece]) fun a b hHeader hPairs => by
      obtain ⟨r, u, rfl⟩ := hHeader
      obtain ⟨pairs, rfl, hPairs⟩ := hPairs
      have hOf : Piece.OfSection ⟨[⟨r, s.table.chars⟩], u, false, pairs⟩ s.part.piece :=
        ⟨r, s.table.chars, _, rfl, rfl, rfl, hPairs, hNodup⟩
      exact Writes.single hOf
  exact hBody.append (Reads.blanks s.gap) fun a b hSection hBlank => by
    rwa [hBlank, List.append_nil]

end Sheet

theorem Assignment.length_lt_braced (as : List Assignment) : as.length < (braced as).length := by
  fun_induction braced as with
  | case1 => decide
  | case2 a => simp
  | case3 a b as ih =>
    simp only [List.cons_append, List.length_cons, List.length_append] at ih ⊢
    omega

theorem Portion.length_assigned_lt (part : Portion BareKey Assignment) :
    part.assigned.length < part.chars.length := by
  cases part with
  | dotted t a =>
    have hEquals : " = ".toList.length = 3 := rfl
    simp only [assigned, chars, Assignment.chars, List.length_append, List.length_cons, List.length_nil]
    omega
  | whole t as =>
    have hBraced := Assignment.length_lt_braced as
    simp only [assigned, chars, List.length_append, List.length_cons]
    omega

namespace Draft

theorem reads_rows {rows : List (Option (Portion BareKey Assignment))}
    (hMost : ∀ part ∈ rows.reduceOption, part.assigned.length < most)
    (hNodup : ∀ part ∈ rows.reduceOption, (part.piece.assigned.map Prod.fst).Nodup) :
    Reads most (rows.flatMap fun row => row.elim [] Portion.chars ++ ['\n'])
      (Writes pairStatement Piece.Of (rows.reduceOption.map Portion.piece)) := by
  induction rows with
  | nil => exact Reads.nil .nil
  | cons row rows ih =>
    cases row with
    | none =>
      rw [List.reduceOption_cons_of_none] at hMost hNodup ⊢
      have hBlank : Reads most ['\n'] (· = []) := Reads.blank rfl
      refine hBlank.append (ih hMost hNodup) fun a b hNone hRows => ?_
      rwa [hNone]
    | some part =>
      rw [List.reduceOption_cons_of_some] at hMost hNodup ⊢
      obtain ⟨hPartMost, hRowsMost⟩ := List.forall_mem_cons.mp hMost
      obtain ⟨hPartNodup, hRowsNodup⟩ := List.forall_mem_cons.mp hNodup
      exact (part.reads hPartMost hPartNodup).append (ih hRowsMost hRowsNodup)
        fun a b hPart hRows => hPart.append hRows

variable {d : Draft BareKey Assignment}

theorem length_lt_text {part : Portion BareKey Assignment} (hMem : part ∈ d.rows.reduceOption) :
    part.assigned.length < d.text.length := by
  have hRow : some part ∈ d.rows := List.reduceOption_mem_iff.mp hMem
  have hLine := (List.sublist_flatten_of_mem (List.mem_map_of_mem (f := fun row =>
    row.elim [] Portion.chars ++ ['\n']) hRow)).length_le
  rw [← List.flatMap_def] at hLine
  have hPart := part.length_assigned_lt
  simp only [Option.elim_some, List.length_append] at hLine
  rw [text, List.length_append]
  omega

theorem afterByteOrderMark_text (h : Char.ofNat 0xFEFF ∉ d.text) :
    Document.afterByteOrderMark d.text = d.text := by
  cases hText : d.text with
  | nil => rfl
  | cons c cs =>
    rw [hText] at h
    rw [Document.afterByteOrderMark, if_neg]
    rintro rfl
    exact h List.mem_cons_self

theorem readAll?_text (hNodup : ∀ part ∈ d.parts, (part.piece.assigned.map Prod.fst).Nodup) :
    ∃ (pairs : List (List Key × Item)) (sections : List Section),
      Statement.readAll? d.text =
        some (pairs.flatMap pairStatement ++ sections.flatMap Section.statements) ∧
      List.Forall₂ Piece.Of pairs (d.rows.reduceOption.map Portion.piece) ∧
      List.Forall₂ Piece.OfSection sections (d.sheets.map fun s => s.part.piece) := by
  have hRows := reads_rows (fun part hMem => length_lt_text hMem)
    fun part hMem => hNodup part (List.mem_append_left _ hMem)
  have hSheets : Reads d.text.length (d.sheets.flatMap Sheet.text)
      (Writes Section.statements Piece.OfSection (d.sheets.flatMap fun s => [s.part.piece])) :=
    Reads.flatMap fun s hMem =>
      s.reads (hNodup s.part (List.mem_append_right _ (List.mem_map_of_mem hMem)))
  rw [← List.map_eq_flatMap] at hSheets
  have hBoth := hRows.append hSheets (R := fun statements => ∃ a b, statements = a ++ b ∧
    Writes pairStatement Piece.Of (d.rows.reduceOption.map Portion.piece) a ∧
    Writes Section.statements Piece.OfSection (d.sheets.map fun s => s.part.piece) b)
    fun a b hFirst hRest => ⟨a, b, rfl, hFirst, hRest⟩
  rw [← text] at hBoth
  obtain ⟨statements, left, ⟨a, b, rfl, ⟨pairs, rfl, hPairs⟩, sections, rfl, hSections⟩, -, hRead⟩ :=
    hBoth d.text.length [] (by simp)
  refine ⟨pairs, sections, ?_, hPairs, hSections⟩
  rw [List.append_nil] at hRead
  have hEnd : Statement.readLines? d.text.length left [] = some [] := by rw [Statement.readLines?]
  rw [Statement.readAll?, hRead, hEnd, Option.map_some, List.append_nil]

/-- A document whose parts do not come in the way of one another is read as these parts. -/
theorem exists_shelf (hNodup : ∀ part ∈ d.parts, (part.piece.assigned.map Prod.fst).Nodup)
    (hApart : (d.parts.map Portion.piece).Pairwise Piece.Apart)
    (hMark : Char.ofNat 0xFEFF ∉ d.text) :
    ∃ root, Document.ofText? d.text = some root ∧ Shelf root (d.parts.map Portion.piece) := by
  obtain ⟨pairs, sections, hRead, hPairs, hSections⟩ := readAll?_text hNodup
  have hOnce : ∀ s ∈ sections, s.repeats = false := by
    intro s hMem
    obtain ⟨i, hi, rfl⟩ := List.mem_iff_getElem.mp hMem
    obtain ⟨_, _, _, _, hRepeats, _⟩ := (List.forall₂_iff_get.mp hSections).2 i hi (by
      rwa [← hSections.length_eq])
    exact hRepeats
  have hSplit : Section.split (pairs.flatMap pairStatement ++ sections.flatMap Section.statements) =
      (pairs, sections) := by
    rw [Section.split_pairs, Section.split_sections hOnce, List.append_nil]
  have hParts : d.parts.map Portion.piece =
      d.rows.reduceOption.map Portion.piece ++ d.sheets.map fun s => s.part.piece := by
    rw [parts, List.map_append, List.map_map]
    rfl
  rw [hParts] at hApart ⊢
  obtain ⟨root, hRoot, hShelf⟩ := Document.exists_shelf hSplit hPairs hSections hApart
  refine ⟨root, ?_, hShelf⟩
  rw [Document.ofText?, afterByteOrderMark_text hMark, hRead]
  exact hRoot

section Tidy

variable {τ σ : Type} {d : Draft τ σ} {f : τ → BareKey} {g : σ → Assignment}

/-- The parts of a draft by what their keys and values are read as. -/
theorem pieces_map (d : Draft τ σ) (f : τ → BareKey) (g : σ → Assignment) :
    (d.map f g).parts.map Portion.piece =
      d.parts.map (Portion.map (fun t => (f t).chars) fun a => (g a).leaf) := by
  rw [parts_map, List.map_map]
  refine List.map_congr_left fun part _ => ?_
  cases part with
  | dotted t a => rfl
  | whole t as =>
    simp only [Function.comp_apply, Portion.piece, Portion.map, List.map_map]
    rfl

/-- A tidy draft is read as its parts. -/
theorem Tidy.exists_shelf (h : d.Tidy fun a => (g a).leaf.1)
    (hNames : Function.Injective fun t => (f t).chars) (hMark : Char.ofNat 0xFEFF ∉ (d.map f g).text) :
    ∃ root, Document.ofText? (d.map f g).text = some root ∧
      Shelf root (d.parts.map (Portion.map (fun t => (f t).chars) fun a => (g a).leaf)) := by
  have hApart := h.pairwise hNames
  have hNodup : ∀ piece ∈ d.parts.map (Portion.map (fun t => (f t).chars) fun a => (g a).leaf),
      (piece.assigned.map Prod.fst).Nodup := List.forall_mem_map.mpr fun part hMem => h.nodup hMem
  rw [← pieces_map] at hApart hNodup ⊢
  exact Draft.exists_shelf (fun part hMem => hNodup _ (List.mem_map_of_mem hMem)) hApart hMark

end Tidy

end Draft

end WorkerSim.Toml
