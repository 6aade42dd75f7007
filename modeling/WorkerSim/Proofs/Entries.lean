import Mathlib.Data.List.Basic
import Mathlib.Data.Char
import WorkerSim.Toml.Document

/-!
# Entries by their keys

The entries of a table are sorted, so each key has one of them. What pairs make of a table does not
depend on their order, as long as none of them comes in the way of another: this is followed through
the pairs and sections of a document for tables of single values.
-/

set_option autoImplicit false

namespace WorkerSim.Toml

namespace Entries

theorem order_swap (key k : List Char) : (order key k).swap = order k key := by
  fun_induction order key k with
  | case1 => rfl
  | case2 b bs => rfl
  | case3 a as => rfl
  | case4 a as bs ih => rw [ih, order, if_pos rfl]
  | case5 a as b bs hNe hLt => rw [order, if_neg (Ne.symm hNe), if_neg (lt_asymm hLt)]; rfl
  | case6 a as b bs hNe hLt =>
    have hGt : b < a := lt_of_le_of_ne (not_lt.mp hLt) (Ne.symm hNe)
    rw [order, if_neg (Ne.symm hNe), if_pos hGt]
    rfl

theorem order_eq_gt_iff (key k : List Char) : order key k = .gt ↔ order k key = .lt := by
  rw [← order_swap key k]
  cases order key k <;> decide

theorem order_cons_eq_lt_iff (a b : Char) (as bs : List Char) :
    order (a :: as) (b :: bs) = .lt ↔ a < b ∨ (a = b ∧ order as bs = .lt) := by
  rw [order]
  split
  · rename_i hEq
    simp [hEq]
  · rename_i hNe
    simp [hNe]

theorem order_trans {a b c : List Char} (h : order a b = .lt) (h' : order b c = .lt) :
    order a c = .lt := by
  induction a generalizing b c with
  | nil =>
    cases b with
    | nil => cases h
    | cons y b =>
      cases c with
      | nil => cases h'
      | cons z c => rfl
  | cons x a ih =>
    cases b with
    | nil => cases h
    | cons y b =>
      cases c with
      | nil => cases h'
      | cons z c =>
        rw [order_cons_eq_lt_iff] at h h' ⊢
        obtain hxy | ⟨rfl, h⟩ := h
        · obtain hyz | ⟨rfl, -⟩ := h'
          · exact .inl (lt_trans hxy hyz)
          · exact .inl hxy
        · exact h'.imp_right (And.imp_right (ih h))

theorem order_self_ne_lt (key : List Char) : order key key ≠ .lt := by
  rw [(order_eq_eq_iff key key).mpr rfl]
  exact nofun

def Sorted (es : Entries) : Prop := es.Pairwise fun a b => order a.1 b.1 = .lt

theorem mem_put {key : List Char} {item : Item} {es : Entries} {e : List Char × Item}
    (h : e ∈ put key item es) : e = (key, item) ∨ e ∈ es := by
  induction es with
  | nil => exact .inl (List.mem_singleton.mp h)
  | cons e' es ih =>
    obtain ⟨k, v⟩ := e'
    rw [put] at h
    split at h
    · exact (List.mem_cons.mp h)
    · obtain rfl | hMem := List.mem_cons.mp h
      · exact .inl rfl
      · exact .inr (List.mem_cons_of_mem _ hMem)
    · obtain rfl | hMem := List.mem_cons.mp h
      · exact .inr List.mem_cons_self
      · exact (ih hMem).imp_right (List.mem_cons_of_mem _)

theorem Sorted.put {es : Entries} (h : Sorted es) (key : List Char) (item : Item) :
    Sorted (es.put key item) := by
  induction es with
  | nil => exact List.pairwise_singleton _ _
  | cons e es ih =>
    obtain ⟨k, v⟩ := e
    obtain ⟨hHead, hTail⟩ := List.pairwise_cons.mp h
    rw [Entries.put]
    split
    · rename_i hOrder
      refine List.pairwise_cons.mpr ⟨?_, h⟩
      intro e hMem
      obtain rfl | hMem := List.mem_cons.mp hMem
      · exact hOrder
      · exact order_trans hOrder (hHead e hMem)
    · rename_i hOrder
      obtain rfl : key = k := (order_eq_eq_iff key k).mp hOrder
      exact List.pairwise_cons.mpr ⟨hHead, hTail⟩
    · rename_i hOrder
      refine List.pairwise_cons.mpr ⟨?_, ih hTail⟩
      intro e hMem
      obtain rfl | hMem := mem_put hMem
      · exact (order_eq_gt_iff key k).mp hOrder
      · exact hHead e hMem

theorem mem_of_get? {key : List Char} {item : Item} {es : Entries} (h : get? key es = some item) :
    (key, item) ∈ es := by
  obtain ⟨before, after, rfl, -⟩ := List.lookup_eq_some_iff.mp h
  simp

theorem Sorted.get?_of_mem {es : Entries} (h : Sorted es) {key : List Char} {item : Item}
    (hMem : (key, item) ∈ es) : get? key es = some item := by
  induction es with
  | nil => cases hMem
  | cons e es ih =>
    obtain ⟨k, v⟩ := e
    obtain ⟨hHead, hTail⟩ := List.pairwise_cons.mp h
    rw [get?_cons]
    obtain hSame | hMem := List.mem_cons.mp hMem
    · cases hSame
      rw [if_pos rfl]
    · have hLt : order k key = .lt := hHead _ hMem
      have hNe : key ≠ k := fun hSame => order_self_ne_lt k (hSame ▸ hLt)
      rw [if_neg hNe, ih hTail hMem]

theorem get?_eq_none_iff {key : List Char} {es : Entries} :
    get? key es = none ↔ key ∉ es.map Prod.fst := by
  induction es with
  | nil => simp
  | cons e es ih =>
    obtain ⟨k, v⟩ := e
    rw [get?_cons, List.map_cons, List.mem_cons, not_or, ← ih]
    by_cases hKey : key = k
    · simp [hKey]
    · simp [hKey]

theorem put_perm {key : List Char} {es : Entries} (h : get? key es = none) (item : Item) :
    (put key item es).Perm ((key, item) :: es) := by
  induction es with
  | nil => exact List.Perm.refl _
  | cons e es ih =>
    obtain ⟨k, v⟩ := e
    rw [get?_cons] at h
    rw [put]
    split
    · exact List.Perm.refl _
    · rename_i hOrder
      rw [if_pos ((order_eq_eq_iff key k).mp hOrder)] at h
      cases h
    · have hNone : get? key es = none := by
        by_cases hKey : key = k
        · rw [if_pos hKey] at h
          cases h
        · rwa [if_neg hKey] at h
      exact ((ih hNone).cons _).trans (List.Perm.swap _ _ es)

end Entries

open Entries

abbrev Leaf := List Char × Scalar

namespace Leaf

/-- The pair is a key of one segment and a single value. -/
def Of (pair : List Key × Item) (leaf : Leaf) : Prop :=
  ∃ s t : Span, pair = ([⟨s, leaf.1⟩], ⟨t, .scalar leaf.2⟩)

end Leaf

/-- The entries are the leaves, in some order. -/
def Entries.Holds (es : Entries) (leaves : List Leaf) : Prop :=
  (es.map fun e => (e.1, e.2.value)).Perm (leaves.map fun leaf => (leaf.1, Value.scalar leaf.2))

namespace Entries.Holds

variable {es : Entries} {leaves : List Leaf}

theorem nil : Holds [] [] := List.Perm.refl _

theorem get?_eq_none (h : Holds es leaves) {key : List Char} (hNew : key ∉ leaves.map Prod.fst) :
    get? key es = none := by
  rw [get?_eq_none_iff]
  have hKeys := h.map Prod.fst
  simp only [List.map_map, Function.comp_def] at hKeys
  exact fun hMem => hNew (hKeys.mem_iff.mp hMem)

theorem put (h : Holds es leaves) {leaf : Leaf} (hNew : leaf.1 ∉ leaves.map Prod.fst) (span : Span) :
    Holds (es.put leaf.1 ⟨span, .scalar leaf.2⟩) (leaves ++ [leaf]) := by
  have hPut := (put_perm (h.get?_eq_none hNew) ⟨span, .scalar leaf.2⟩).map fun e => (e.1, e.2.value)
  refine hPut.trans ?_
  rw [List.map_append]
  exact (h.cons _).trans (List.perm_append_singleton _ _).symm

theorem assignAll (h : Holds es leaves) {pairs : List (List Key × Item)} {new : List Leaf}
    (hPairs : List.Forall₂ Leaf.Of pairs new) (hNodup : ((leaves ++ new).map Prod.fst).Nodup) :
    ∃ es', Entries.assignAll es pairs = some es' ∧ Holds es' (leaves ++ new) := by
  induction hPairs generalizing es leaves with
  | nil => exact ⟨es, rfl, by simpa using h⟩
  | @cons pair leaf pairs new hPair _ ih =>
    obtain ⟨s, t, rfl⟩ := hPair
    have hNew : leaf.1 ∉ leaves.map Prod.fst := by
      rw [List.map_append, List.map_cons] at hNodup
      intro hMem
      exact (List.nodup_append.mp hNodup).2.2 _ hMem _ List.mem_cons_self rfl
    rw [List.append_cons] at hNodup ⊢
    obtain ⟨es', hAssign, hHolds⟩ := ih (h.put hNew t) hNodup
    refine ⟨es', ?_, hHolds⟩
    rw [Entries.assignAll, List.foldlM_cons, assign, h.get?_eq_none hNew]
    exact hAssign

end Entries.Holds

/-- What a document adds to a table below the root: an assignment on a dotted path, or all of the
table. -/
inductive Portion (τ σ : Type)
  | dotted (table : τ) (a : σ)
  | whole (table : τ) (as : List σ)

namespace Portion

variable {τ σ : Type}

def table : Portion τ σ → τ
  | dotted t _ => t
  | whole t _ => t

def assigned : Portion τ σ → List σ
  | dotted _ a => [a]
  | whole _ as => as

/-- What parts add to a table. -/
def within [DecidableEq τ] (t : τ) (parts : List (Portion τ σ)) : List σ :=
  parts.flatMap fun part => if part.table = t then part.assigned else []

theorem within_append [DecidableEq τ] (t : τ) (parts more : List (Portion τ σ)) :
    within t (parts ++ more) = within t parts ++ within t more := by
  rw [within, List.flatMap_append]
  rfl

theorem within_self [DecidableEq τ] (part : Portion τ σ) : within part.table [part] = part.assigned := by
  simp [within]

theorem within_eq_nil [DecidableEq τ] {t : τ} {parts : List (Portion τ σ)}
    (h : ∀ part ∈ parts, part.table ≠ t) : within t parts = [] := by
  rw [within, List.flatMap_eq_nil_iff]
  intro part hMem
  rw [if_neg (h part hMem)]

theorem mem_within [DecidableEq τ] {t : τ} {a : σ} {parts : List (Portion τ σ)} :
    a ∈ within t parts ↔ ∃ part ∈ parts, part.table = t ∧ a ∈ part.assigned := by
  simp only [within, List.mem_flatMap]
  refine exists_congr fun part => and_congr_right fun _ => ?_
  by_cases hTable : part.table = t <;> simp [hTable]

end Portion

/-- A part by the names of its keys. -/
abbrev Piece := Portion (List Char) Leaf

namespace Piece

open Portion

/-- Two parts do not come in the way of each other. -/
def Apart (a b : Piece) : Prop :=
  a.table = b.table → ∃ t l m, a = .dotted t l ∧ b = .dotted t m ∧ l.1 ≠ m.1

/-- The pair of a document that adds a part. -/
inductive Of : List Key × Item → Piece → Prop
  | dotted {t : List Char} {leaf : Leaf} (r s u : Span) :
    Of ([⟨r, t⟩, ⟨s, leaf.1⟩], ⟨u, .scalar leaf.2⟩) (.dotted t leaf)
  | inline {t : List Char} {es : Entries} {leaves : List Leaf} (r s : Span) (h : Holds es leaves) :
    Of ([⟨r, t⟩], ⟨s, .table .inline es⟩) (.whole t leaves)

/-- The section of a document that adds a part. -/
def OfSection (s : Section) (part : Piece) : Prop :=
  ∃ (r : Span) (t : List Char) (leaves : List Leaf), s.path = [⟨r, t⟩] ∧ s.repeats = false ∧
    part = .whole t leaves ∧ List.Forall₂ Leaf.Of s.pairs leaves ∧ (leaves.map Prod.fst).Nodup

end Piece

open Portion Piece

/-- The root's entries are the tables that parts make together. -/
structure Shelf (root : Entries) (parts : List Piece) : Prop where
  sorted : Sorted root
  absent : ∀ t, (∀ part ∈ parts, part.table ≠ t) → get? t root = none
  present : ∀ part ∈ parts, ∃ span standing es,
    get? part.table root = some ⟨span, .table standing es⟩ ∧ Holds es (within part.table parts) ∧
      (standing = .dotted ∨ ∃ leaves, .whole part.table leaves ∈ parts)

namespace Shelf

variable {root : Entries} {parts : List Piece}

theorem nil : Shelf [] [] := ⟨List.Pairwise.nil, fun _ _ => rfl, nofun⟩

theorem put (h : Shelf root parts) (part : Piece) (span : Span) {standing : Standing} {es : Entries}
    (hHolds : Holds es (within part.table parts ++ part.assigned))
    (hStanding : standing = .dotted ∨ ∃ leaves, part = .whole part.table leaves) :
    Shelf (root.put part.table ⟨span, .table standing es⟩) (parts ++ [part]) := by
  have hWithin : Holds es (within part.table (parts ++ [part])) := by
    rwa [within_append, within_self]
  have hWhole : standing = .dotted ∨ ∃ leaves, .whole part.table leaves ∈ parts ++ [part] := by
    obtain hDotted | ⟨leaves, hPart⟩ := hStanding
    · exact .inl hDotted
    · exact .inr ⟨leaves, List.mem_append_right _ (List.mem_singleton.mpr hPart.symm)⟩
  refine ⟨h.sorted.put _ _, fun t hAbsent => ?_, fun old hMem => ?_⟩
  · have hNe : t ≠ part.table := fun hSame => hAbsent part (by simp) hSame.symm
    rw [get?_put, if_neg hNe]
    exact h.absent t fun old hMem => hAbsent old (List.mem_append_left _ hMem)
  · -- the new entry is what all parts of this table now find, and no others
    by_cases hTable : old.table = part.table
    · rw [hTable]
      refine ⟨span, standing, es, ?_, hWithin, hWhole⟩
      rw [get?_put, if_pos rfl]
    · have hOld : old ∈ parts := by
        obtain hOld | hNew := List.mem_append.mp hMem
        · exact hOld
        · exact absurd (congrArg table (List.mem_singleton.mp hNew)) hTable
      obtain ⟨span', standing', es', hGet, hHolds', hStanding'⟩ := h.present old hOld
      refine ⟨span', standing', es', ?_, ?_, ?_⟩
      · rw [get?_put, if_neg hTable, hGet]
      · have hNone : within old.table [part] = [] := within_eq_nil (by simpa using Ne.symm hTable)
        rwa [within_append, hNone, List.append_nil]
      · exact hStanding'.imp_right fun ⟨leaves, hMem⟩ => ⟨leaves, List.mem_append_left _ hMem⟩

variable {t : List Char}

theorem table_ne_of_apart {leaves : List Leaf} (hApart : ∀ old ∈ parts, Apart old (.whole t leaves)) :
    ∀ old ∈ parts, old.table ≠ t := by
  intro old hMem hTable
  obtain ⟨_, _, _, _, hPart, _⟩ := hApart old hMem hTable
  cases hPart

theorem whole (h : Shelf root parts) {leaves : List Leaf} {es : Entries} (span : Span)
    (standing : Standing) (hHolds : Holds es leaves)
    (hApart : ∀ old ∈ parts, Apart old (.whole t leaves)) :
    get? t root = none ∧ Shelf (root.put t ⟨span, .table standing es⟩) (parts ++ [.whole t leaves]) := by
  have hNew := table_ne_of_apart hApart
  have hNone : within (Portion.whole t leaves : Piece).table parts = [] := within_eq_nil hNew
  refine ⟨h.absent t hNew, h.put (.whole t leaves) span ?_ (.inr ⟨leaves, rfl⟩)⟩
  rwa [hNone]

theorem dotted (h : Shelf root parts) {leaf : Leaf} (r s u : Span)
    (hApart : ∀ old ∈ parts, Apart old (.dotted t leaf)) :
    ∃ root', Entries.assign ⟨u, .scalar leaf.2⟩ [⟨r, t⟩, ⟨s, leaf.1⟩] root = some root' ∧
      Shelf root' (parts ++ [.dotted t leaf]) := by
  have hNew : leaf.1 ∉ (within t parts).map Prod.fst := by
    intro hMem
    obtain ⟨l, hLeaf, hKey⟩ := List.mem_map.mp hMem
    obtain ⟨old, hOld, hTable, hLeaf⟩ := mem_within.mp hLeaf
    obtain ⟨t', m, m', rfl, hPart, hNe⟩ := hApart old hOld hTable
    cases hPart
    obtain rfl : l = m := List.mem_singleton.mp hLeaf
    exact hNe hKey
  -- a dotted path enters the table that earlier paths have made, or makes it
  by_cases hSome : ∃ old ∈ parts, old.table = t
  · obtain ⟨old, hOld, rfl⟩ := hSome
    obtain ⟨span, standing, es, hGet, hHolds, hStanding⟩ := h.present old hOld
    obtain rfl : standing = .dotted := by
      obtain hDotted | ⟨leaves, hMem⟩ := hStanding
      · exact hDotted
      · obtain ⟨_, _, _, hPart, _⟩ := hApart _ hMem rfl
        cases hPart
    refine ⟨_, ?_, h.put (.dotted old.table leaf) span (hHolds.put hNew u) (.inl rfl)⟩
    simp only [Entries.assign, hGet, hHolds.get?_eq_none hNew]
    rfl
  · have hNone : ∀ old ∈ parts, old.table ≠ t := fun old hMem hTable => hSome ⟨old, hMem, hTable⟩
    have hHolds : Holds (Entries.put leaf.1 ⟨u, .scalar leaf.2⟩ []) (within t parts ++ [leaf]) := by
      rw [within_eq_nil hNone]
      exact List.Perm.refl _
    refine ⟨_, ?_, h.put (.dotted t leaf) r hHolds (.inl rfl)⟩
    simp only [Entries.assign, h.absent t hNone]
    rfl

theorem assign (h : Shelf root parts) {pair : List Key × Item} {part : Piece} (hOf : Of pair part)
    (hApart : ∀ old ∈ parts, Apart old part) :
    ∃ root', Entries.assign pair.2 pair.1 root = some root' ∧ Shelf root' (parts ++ [part]) := by
  cases hOf with
  | dotted r s u => exact h.dotted r s u hApart
  | inline r s hHolds =>
    obtain ⟨hNone, hShelf⟩ := h.whole s .inline hHolds hApart
    refine ⟨_, ?_, hShelf⟩
    rw [Entries.assign, hNone]
    rfl

/-- What is at the root is a table that some part adds to. -/
theorem exists_of_get? (h : Shelf root parts) {key : List Char} {item : Item}
    (hGet : root.get? key = some item) : ∃ part ∈ parts, part.table = key ∧
      ∃ standing es, item.value = .table standing es ∧ Holds es (within key parts) := by
  by_cases hSome : ∃ part ∈ parts, part.table = key
  · obtain ⟨part, hPart, rfl⟩ := hSome
    obtain ⟨span, standing, es, hTable, hHolds, -⟩ := h.present part hPart
    obtain rfl := Option.some.inj (hTable.symm.trans hGet)
    exact ⟨part, hPart, rfl, standing, es, rfl, hHolds⟩
  · rw [h.absent key fun part hPart hTable => hSome ⟨part, hPart, hTable⟩] at hGet
    cases hGet

theorem apart_of_pairwise {part : Piece} {new : List Piece}
    (h : (parts ++ part :: new).Pairwise Apart) : ∀ old ∈ parts, Apart old part := by
  intro old hMem
  exact (List.pairwise_append.mp h).2.2 old hMem part List.mem_cons_self

theorem foldlM {σ : Type} (step : Entries → σ → Option Entries) {Adds : σ → Piece → Prop}
    (hStep : ∀ root parts x part, Shelf root parts → Adds x part → (∀ old ∈ parts, Apart old part) →
      ∃ root', step root x = some root' ∧ Shelf root' (parts ++ [part]))
    (h : Shelf root parts) {xs : List σ} {new : List Piece} (hAdds : List.Forall₂ Adds xs new)
    (hApart : (parts ++ new).Pairwise Apart) :
    ∃ root', xs.foldlM step root = some root' ∧ Shelf root' (parts ++ new) := by
  induction hAdds generalizing root parts with
  | nil => exact ⟨root, rfl, by simpa using h⟩
  | @cons x part xs new hAdds _ ih =>
    obtain ⟨mid, hFirst, hMid⟩ := hStep _ _ x part h hAdds (apart_of_pairwise hApart)
    rw [List.append_cons] at hApart ⊢
    obtain ⟨root', hRest, hShelf⟩ := ih hMid hApart
    refine ⟨root', ?_, hShelf⟩
    rw [List.foldlM_cons, hFirst]
    exact hRest

theorem update (h : Shelf root parts) {s : Section} {part : Piece} (hOf : OfSection s part)
    (hApart : ∀ old ∈ parts, Apart old part) :
    ∃ root', Section.update s.place s.path root = some root' ∧ Shelf root' (parts ++ [part]) := by
  obtain ⟨path, span, repeats, pairs⟩ := s
  obtain ⟨r, t, leaves, rfl, rfl, rfl, hPairs, hNodup⟩ := hOf
  obtain ⟨es, hAssign, hHolds⟩ := Holds.nil.assignAll hPairs hNodup
  obtain ⟨hNone, hShelf⟩ := h.whole span .headed hHolds hApart
  refine ⟨_, ?_, hShelf⟩
  simp only [Section.update, Section.place, hNone, hAssign]
  rfl

end Shelf

/-- The root that pairs before the first header, and sections behind, make. -/
theorem Document.exists_shelf {statements : List Statement} {pairs : List (List Key × Item)}
    {sections : List Section} {parts new : List Piece}
    (hSplit : Section.split statements = (pairs, sections)) (hPairs : List.Forall₂ Of pairs parts)
    (hSections : List.Forall₂ OfSection sections new) (hApart : (parts ++ new).Pairwise Apart) :
    ∃ root, Document.ofStatements? statements = some root ∧ Shelf root (parts ++ new) := by
  have hFirst : (([] : List Piece) ++ parts).Pairwise Apart := (List.pairwise_append.mp hApart).1
  obtain ⟨mid, hAssign, hMid⟩ := Shelf.nil.foldlM
    (fun root pair => Entries.assign pair.2 pair.1 root)
    (fun _ _ _ _ hShelf hOf => hShelf.assign hOf) hPairs hFirst
  obtain ⟨root, hUpdate, hShelf⟩ := hMid.foldlM
    (fun root s => Section.update s.place s.path root)
    (fun _ _ _ _ hShelf hOf => hShelf.update hOf) hSections hApart
  refine ⟨root, ?_, hShelf⟩
  rw [Document.ofStatements?, hSplit]
  simp only [Entries.assignAll]
  rw [hAssign]
  exact hUpdate

end WorkerSim.Toml
