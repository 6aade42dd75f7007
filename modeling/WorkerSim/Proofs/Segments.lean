import Mathlib.Logic.ExistsUnique
import WorkerSim.Proofs.Templates

/-!
# Texts cut at their placeholders

From left to right a text is cut into gaps and the placeholders between them, each of which begins as
early as a placeholder can begin behind the one before it. There is one such cut. Substitution copies
the gaps and puts in the place of each placeholder the value of its name, or the placeholder itself if
the name has no value that is a text.
-/

set_option autoImplicit false

namespace WorkerSim.Placeholder

namespace Name

def source (n : Name) : List Char := '$' :: '\x7b' :: (n.chars ++ ['\x7d'])

/-- What stands for the placeholder afterwards. -/
def replaced (env : Environment) (n : Name) : List Char :=
  match env.get? n.chars with
  | some bytes => (Text.Utf8.decode? bytes).getD n.source
  | none => n.source

theorem eq_of_chars {n m : Name} (h : n.chars = m.chars) : n = m := by
  cases n
  cases m
  cases h
  rfl

theorem expand_eq (n : Name) (env : Environment) :
    (Piece.hole n.chars).expand env.text? = n.replaced env := by
  rw [Piece.expand, Environment.text?, replaced]
  cases env.get? n.chars <;> rfl

theorem replaced_eq (n : Name) (env : Environment) : n.replaced env = (env.text? n.chars).getD n.source :=
  (n.expand_eq env).symm

theorem replaced_of_set {n : Name} {env : Environment} {value : List Char}
    (h : env.get? n.chars = some (Text.Utf8.encode value)) : n.replaced env = value := by
  rw [replaced, h]
  simp only [Text.Utf8.decode?_encode, Option.getD_some]

theorem replaced_of_none {n : Name} {env : Environment}
    (h : (env.get? n.chars).bind Text.Utf8.decode? = none) : n.replaced env = n.source := by
  rw [← expand_eq, Piece.expand, Environment.text?, h]
  rfl

end Name

/-- Whether a text begins with a placeholder. -/
def Starts (cs : List Char) : Prop := ∃ (n : Name) (rest : List Char), cs = n.source ++ rest

/-- Gaps with placeholders between them. -/
inductive Segments
  | last (gap : List Char)
  | hole (gap : List Char) (n : Name) (rest : Segments)

namespace Segments

def filled (value : Name → List Char) : Segments → List Char
  | last gap => gap
  | hole gap n rest => gap ++ (value n ++ rest.filled value)

def source (seg : Segments) : List Char := seg.filled Name.source

def names : Segments → List Name
  | last _ => []
  | hole _ n rest => n :: rest.names

/-- No placeholder begins in a gap. -/
def Leftmost : Segments → Prop
  | last gap => ∀ cs, cs <:+ gap → ¬ Starts cs
  | hole gap n rest =>
    (∀ cs, cs <:+ gap → cs ≠ [] → ¬ Starts (cs ++ (n.source ++ rest.source))) ∧ rest.Leftmost

def pieces : Segments → List Piece
  | last gap => gap.map .plain
  | hole gap n rest => gap.map .plain ++ .hole n.chars :: rest.pieces

def cons (c : Char) : Segments → Segments
  | last gap => last (c :: gap)
  | hole gap n rest => hole (c :: gap) n rest

end Segments

/-! ### Where placeholders begin -/

section Starts

variable {cs gap rest : List Char}

theorem exists_name_of_hole? {name : List Char} (h : hole? cs = some (name, rest)) :
    ∃ n : Name, n.chars = name := by
  unfold hole? at h
  split at h
  · rename_i tail
    split at h
    · split at h
      · cases h
      · rename_i hSome
        obtain ⟨rfl, -⟩ := Prod.mk.inj (Option.some.inj h)
        have hOpen : '\x7d' ∉ tail.takeWhile (· != '\x7d') := by
          intro hMem
          have hOther := List.mem_takeWhile_imp hMem
          exact absurd hOther (by decide)
        exact ⟨⟨_, fun hNil => hSome (List.isEmpty_iff.mpr hNil), hOpen⟩, rfl⟩
    · cases h
  · cases h

theorem hole?_eq_none_iff : hole? cs = none ↔ ¬ Starts cs := by
  constructor
  · rintro hNone ⟨n, rest, rfl⟩
    cases (hole?_source n rest).symm.trans hNone
  · intro hStarts
    cases hHole : hole? cs with
    | none => rfl
    | some found =>
      obtain ⟨name, rest⟩ := found
      obtain ⟨n, rfl⟩ := exists_name_of_hole? hHole
      exact absurd ⟨n, rest, (source_of_hole? hHole).symm⟩ hStarts

theorem pieces_cons {c : Char} (h : ¬ Starts (c :: cs)) : pieces (c :: cs) = .plain c :: pieces cs :=
  pieces_of_plain (hole?_eq_none_iff.mpr h)

/-- A dollar sign and an opening brace begin a placeholder if a closing brace comes, but not at once. -/
theorem starts_cons_iff {c : Char} : Starts (c :: cs) ↔
    c = '$' ∧ ∃ chars, cs = '\x7b' :: chars ∧ '\x7d' ∈ chars ∧ chars.head? ≠ some '\x7d' := by
  constructor
  · rintro ⟨n, rest, hSource⟩
    obtain ⟨rfl, rfl⟩ := List.cons.inj hSource
    obtain ⟨b, bs, hSome⟩ := List.exists_cons_of_ne_nil n.ne_nil
    refine ⟨rfl, n.chars ++ ['\x7d'] ++ rest, rfl, by simp, fun hFirst => n.not_mem ?_⟩
    rw [hSome] at hFirst ⊢
    exact Option.some.inj hFirst ▸ List.mem_cons_self
  · rintro ⟨rfl, chars, rfl, hMem, hHead⟩
    obtain ⟨name, after, rfl, hName⟩ := List.eq_append_cons_of_mem hMem
    have hNil : name ≠ [] := by
      rintro rfl
      exact hHead rfl
    exact ⟨⟨name, hNil, hName⟩, after, by simp [Name.source]⟩

theorem pieces_gap (h : ∀ cs, cs <:+ gap → cs ≠ [] → ¬ Starts (cs ++ rest)) :
    pieces (gap ++ rest) = gap.map .plain ++ pieces rest := by
  induction gap with
  | nil => rfl
  | cons c gap ih =>
    have hFirst : ¬ Starts (c :: (gap ++ rest)) := h (c :: gap) List.suffix_rfl (List.cons_ne_nil _ _)
    have hRest : pieces (gap ++ rest) = gap.map .plain ++ pieces rest :=
      ih fun cs hSuffix => h cs (hSuffix.trans (List.suffix_cons c gap))
    rw [List.cons_append, pieces_cons hFirst, hRest]
    rfl

end Starts

/-! ### The cut of a text -/

namespace Segments

theorem pieces_source {seg : Segments} (h : seg.Leftmost) :
    Placeholder.pieces seg.source = seg.pieces := by
  induction seg with
  | last gap =>
    have hStarts : ∀ cs, cs <:+ gap → cs ≠ [] → ¬ Starts (cs ++ []) := by
      intro cs hSuffix _
      rw [List.append_nil]
      exact h cs hSuffix
    have hGap := pieces_gap hStarts
    have hNil : Placeholder.pieces [] = [] := by rw [Placeholder.pieces]
    rwa [hNil, List.append_nil, List.append_nil] at hGap
  | hole gap n rest ih =>
    obtain ⟨hGap, hRest⟩ := h
    have hHole : Placeholder.pieces (n.source ++ rest.source) = .hole n.chars :: _ :=
      pieces_hole n rest.source
    rw [ih hRest] at hHole
    rw [pieces, ← hHole]
    exact pieces_gap hGap

/-- A gap ends where its pieces are no longer single characters. -/
theorem gap_eq {gap other : List Char} {ps qs : List Piece}
    (hPieces : ∀ c, ps.head? ≠ some (.plain c)) (hOthers : ∀ c, qs.head? ≠ some (.plain c))
    (h : gap.map .plain ++ ps = other.map .plain ++ qs) : gap = other ∧ ps = qs := by
  induction gap generalizing other with
  | nil =>
    cases other with
    | nil => exact ⟨rfl, h⟩
    | cons c other => exact absurd (congrArg List.head? h) (hPieces c)
  | cons c gap ih =>
    cases other with
    | nil => exact absurd (congrArg List.head? h).symm (hOthers c)
    | cons d other =>
      obtain ⟨hHead, hTail⟩ := List.cons.inj h
      obtain ⟨rfl, hRest⟩ := ih hTail
      exact ⟨congrArg (· :: gap) (Piece.plain.inj hHead), hRest⟩

theorem eq_of_pieces {seg other : Segments} (h : seg.pieces = other.pieces) : seg = other := by
  have hNil (c : Char) : ([] : List Piece).head? ≠ some (.plain c) := nofun
  have hHole (n : Name) (ps : List Piece) (c : Char) :
      (.hole n.chars :: ps : List Piece).head? ≠ some (.plain c) := nofun
  induction seg generalizing other with
  | last gap =>
    rw [pieces, ← List.append_nil (gap.map Piece.plain)] at h
    cases other with
    | last gap' =>
      rw [pieces, ← List.append_nil (gap'.map Piece.plain)] at h
      rw [(gap_eq hNil hNil h).1]
    | hole gap' n' rest' => cases (gap_eq hNil (hHole _ _) h).2
  | hole gap n rest ih =>
    rw [pieces] at h
    cases other with
    | last gap' =>
      rw [pieces, ← List.append_nil (gap'.map Piece.plain)] at h
      cases (gap_eq (hHole _ _) hNil h).2
    | hole gap' n' rest' =>
      obtain ⟨rfl, hTail⟩ := gap_eq (hHole _ _) (hHole _ _) h
      obtain ⟨hName, hRest⟩ := List.cons.inj hTail
      rw [Name.eq_of_chars (Piece.hole.inj hName), ih hRest]

theorem source_cons (c : Char) (seg : Segments) : (seg.cons c).source = c :: seg.source := by
  cases seg <;> rfl

theorem leftmost_cons {c : Char} {seg : Segments} (h : seg.Leftmost)
    (hStarts : ¬ Starts (c :: seg.source)) : (seg.cons c).Leftmost := by
  cases seg with
  | last gap =>
    intro cs hSuffix
    obtain rfl | hSuffix := List.suffix_cons_iff.mp hSuffix
    · exact hStarts
    · exact h cs hSuffix
  | hole gap n rest =>
    refine ⟨fun cs hSuffix hSome => ?_, h.2⟩
    obtain rfl | hSuffix := List.suffix_cons_iff.mp hSuffix
    · exact hStarts
    · exact h.1 cs hSuffix hSome

theorem exists_leftmost (cs : List Char) : ∃ seg : Segments, seg.source = cs ∧ seg.Leftmost := by
  fun_induction Placeholder.pieces cs with
  | case1 =>
    refine ⟨last [], rfl, fun cs hSuffix => ?_⟩
    rw [List.suffix_nil.mp hSuffix]
    rintro ⟨n, rest, hSource⟩
    cases hSource
  | case2 c tail name after hHole _ ih =>
    obtain ⟨seg, rfl, hLeft⟩ := ih
    obtain ⟨n, rfl⟩ := exists_name_of_hole? hHole
    have hSource : (hole [] n seg).source = c :: tail := source_of_hole? hHole
    exact ⟨hole [] n seg, hSource, fun cs hSuffix hSome => absurd (List.suffix_nil.mp hSuffix) hSome, hLeft⟩
  | case3 c tail hNone ih =>
    obtain ⟨seg, rfl, hLeft⟩ := ih
    exact ⟨seg.cons c, source_cons c seg, leftmost_cons hLeft (hole?_eq_none_iff.mp hNone)⟩

theorem flatMap_expand_pieces (env : Environment) (seg : Segments) :
    seg.pieces.flatMap (Piece.expand env.text?) = seg.filled (Name.replaced env) := by
  have hGap (gap : List Char) :
      (gap.map Piece.plain).flatMap (Piece.expand env.text?) = gap := by
    rw [List.flatMap_map]
    exact List.flatMap_singleton' gap
  induction seg with
  | last gap => exact hGap gap
  | hole gap n rest ih =>
    rw [pieces, filled, List.flatMap_append, List.flatMap_cons, hGap, n.expand_eq, ih]

theorem filled_congr {seg : Segments} {value other : Name → List Char}
    (h : ∀ n ∈ seg.names, value n = other n) : seg.filled value = seg.filled other := by
  induction seg with
  | last gap => rfl
  | hole gap n rest ih =>
    obtain ⟨hName, hRest⟩ := List.forall_mem_cons.mp h
    rw [filled, filled, hName, ih hRest]

theorem substitute_source {seg : Segments} (h : seg.Leftmost) (env : Environment) :
    substitute env.text? seg.source = seg.filled (Name.replaced env) := by
  rw [substitute, pieces_source h, flatMap_expand_pieces]

end Segments

/-- A text is cut in one way, and substitution fills the placeholders of the cut. It changes nothing if
none of their names has a value that is a text. -/
theorem substitute_segments (cs : List Char) :
    (∃! seg : Segments, seg.source = cs ∧ seg.Leftmost) ∧
    ∀ seg : Segments, seg.source = cs → seg.Leftmost → ∀ env : Environment,
      substitute env.text? cs = seg.filled (Name.replaced env) ∧
      ((∀ n ∈ seg.names, (env.get? n.chars).bind Text.Utf8.decode? = none) →
        substitute env.text? cs = cs) := by
  constructor
  · obtain ⟨seg, hSource, hLeft⟩ := Segments.exists_leftmost cs
    refine ⟨seg, ⟨hSource, hLeft⟩, ?_⟩
    rintro other ⟨hOther, hLeftOther⟩
    apply Segments.eq_of_pieces
    rw [← Segments.pieces_source hLeftOther, hOther, ← hSource, Segments.pieces_source hLeft]
  · rintro seg rfl hLeft env
    have hFilled := Segments.substitute_source hLeft env
    refine ⟨hFilled, fun hNone => ?_⟩
    rw [hFilled]
    exact Segments.filled_congr fun n hMem => Name.replaced_of_none (hNone n hMem)

end WorkerSim.Placeholder
