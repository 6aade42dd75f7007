import Mathlib.Data.List.ReduceOption
import WorkerSim.Proofs.Entries

/-!
# Plain documents

A plain document says what it adds to tables: an assignment on a dotted path or a table between
braces, each on a line before the first header, and tables under headers. Keys and values stand
without quotes, with one space where spaces are needed; there may be empty lines.
-/

set_option autoImplicit false

namespace WorkerSim.Toml

open Scalar

structure BareKey where
  chars : List Char
  ne_nil : chars ≠ []
  bare : ∀ c ∈ chars, isBareKeyChar c = true

/-- A literal without quotes, and what it means. -/
structure PlainValue where
  chars : List Char
  scalar : Scalar
  ne_nil : chars ≠ []
  plain : ∀ c ∈ chars, isPlainEnd c = false
  unquoted : ∀ c ∈ chars, c ≠ '"' ∧ c ≠ '\''
  means : Scalar.ofPlain? chars = some scalar

structure Assignment where
  key : BareKey
  value : PlainValue

namespace Assignment

def chars (a : Assignment) : List Char := a.key.chars ++ " = ".toList ++ a.value.chars

def leaf (a : Assignment) : Leaf := (a.key.chars, a.value.scalar)

/-- What follows the opening brace of a table with these assignments. -/
def braced : List Assignment → List Char
  | [] => [' ', '\x7d']
  | [a] => ' ' :: a.chars ++ [' ', '\x7d']
  | a :: b :: as => ' ' :: a.chars ++ ',' :: braced (b :: as)

end Assignment

namespace Portion

variable {τ σ υ ω : Type}

def map (f : τ → υ) (g : σ → ω) : Portion τ σ → Portion υ ω
  | dotted t a => dotted (f t) (g a)
  | whole t as => whole (f t) (as.map g)

theorem table_map (f : τ → υ) (g : σ → ω) (part : Portion τ σ) : (part.map f g).table = f part.table := by
  cases part <;> rfl

theorem assigned_map (f : τ → υ) (g : σ → ω) (part : Portion τ σ) :
    (part.map f g).assigned = part.assigned.map g := by
  cases part <;> rfl

def whole? : Portion τ σ → Option τ
  | dotted _ _ => none
  | whole t _ => some t

/-- The line of a part before the first header. -/
def chars : Portion BareKey Assignment → List Char
  | dotted t a => t.chars ++ '.' :: a.chars
  | whole t as => t.chars ++ " = ".toList ++ '\x7b' :: Assignment.braced as

end Portion

/-- A table under a header, and the number of empty lines behind it. -/
structure Sheet (τ σ : Type) where
  table : τ
  assigned : List σ
  gap : Nat

/-- A document: lines before the first header, some of them empty, and tables under headers. -/
structure Draft (τ σ : Type) where
  rows : List (Option (Portion τ σ))
  sheets : List (Sheet τ σ)

namespace Sheet

def part {τ σ : Type} (s : Sheet τ σ) : Portion τ σ := .whole s.table s.assigned

def map {τ σ υ ω : Type} (f : τ → υ) (g : σ → ω) (s : Sheet τ σ) : Sheet υ ω :=
  ⟨f s.table, s.assigned.map g, s.gap⟩

def text (s : Sheet BareKey Assignment) : List Char :=
  '[' :: s.table.chars ++ [']', '\n'] ++ s.assigned.flatMap (fun a => a.chars ++ ['\n']) ++
    List.replicate s.gap '\n'

end Sheet

namespace Draft

variable {τ σ υ ω : Type}

def parts (d : Draft τ σ) : List (Portion τ σ) := d.rows.reduceOption ++ d.sheets.map Sheet.part

def assigned (d : Draft τ σ) : List (τ × σ) :=
  d.parts.flatMap fun part => part.assigned.map (part.table, ·)

/-- The tables that are written as a whole. -/
def wholes (d : Draft τ σ) : List τ := d.parts.filterMap Portion.whole?

def map (f : τ → υ) (g : σ → ω) (d : Draft τ σ) : Draft υ ω :=
  ⟨d.rows.map fun row => row.map (Portion.map f g), d.sheets.map (Sheet.map f g)⟩

def text (d : Draft BareKey Assignment) : List Char :=
  d.rows.flatMap (fun row => row.elim [] Portion.chars ++ ['\n']) ++ d.sheets.flatMap Sheet.text

theorem mem_assigned {d : Draft τ σ} {t : τ} {a : σ} :
    (t, a) ∈ d.assigned ↔ ∃ part ∈ d.parts, part.table = t ∧ a ∈ part.assigned := by
  simp only [assigned, List.mem_flatMap, List.mem_map, Prod.mk.injEq]
  constructor
  · rintro ⟨part, hPart, a, hMem, rfl, rfl⟩
    exact ⟨part, hPart, rfl, hMem⟩
  · rintro ⟨part, hPart, rfl, hMem⟩
    exact ⟨part, hPart, a, hMem, rfl, rfl⟩

theorem parts_map (f : τ → υ) (g : σ → ω) (d : Draft τ σ) :
    (d.map f g).parts = d.parts.map (Portion.map f g) := by
  rw [parts, parts, map, List.reduceOption_map, List.map_append, List.map_map, List.map_map]
  rfl

theorem exists_of_mem_assigned_map {f : τ → υ} {g : σ → ω} {d : Draft τ σ} {t : υ} {b : ω}
    (h : (t, b) ∈ (d.map f g).assigned) : ∃ u a, (u, a) ∈ d.assigned ∧ f u = t ∧ g a = b := by
  obtain ⟨_, hMapped, rfl, hMem⟩ := mem_assigned.mp h
  rw [parts_map] at hMapped
  obtain ⟨part, hPart, rfl⟩ := List.mem_map.mp hMapped
  rw [Portion.assigned_map] at hMem
  obtain ⟨a, hAssigned, rfl⟩ := List.mem_map.mp hMem
  exact ⟨part.table, a, mem_assigned.mpr ⟨part, hPart, rfl, hAssigned⟩, (part.table_map f g).symm, rfl⟩

end Draft

section Foreign

variable {x : Char} (hBare : isBareKeyChar x = false)
  (hMark : x ∉ [' ', '=', '.', ',', '[', ']', '\x7b', '\x7d', '\n'])

include hBare

theorem BareKey.not_mem (k : BareKey) : x ∉ k.chars := by
  intro hMem
  rw [k.bare x hMem] at hBare
  cases hBare

include hMark

theorem Assignment.not_mem {a : Assignment} (h : x ∉ a.value.chars) : x ∉ a.chars := by
  have hKey := a.key.not_mem hBare
  simp only [List.mem_cons, List.not_mem_nil, or_false, not_or] at hMark
  simp only [chars, List.mem_append, not_or, String.reduceToList, List.mem_cons, List.not_mem_nil]
  tauto

theorem Assignment.not_mem_braced {as : List Assignment} (h : ∀ a ∈ as, x ∉ a.value.chars) :
    x ∉ braced as := by
  have hMarks := hMark
  simp only [List.mem_cons, List.not_mem_nil, or_false, not_or] at hMarks
  fun_induction braced as with
  | case1 =>
    simp only [List.mem_cons, List.not_mem_nil]
    tauto
  | case2 a =>
    have hFirst := a.not_mem hBare hMark (h a List.mem_cons_self)
    simp only [List.cons_append, List.mem_cons, List.mem_append, List.not_mem_nil]
    tauto
  | case3 a b as ih =>
    have hFirst := a.not_mem hBare hMark (h a List.mem_cons_self)
    have hRest := ih fun c hMem => h c (List.mem_cons_of_mem a hMem)
    simp only [List.cons_append, List.mem_cons, List.mem_append]
    tauto

theorem Portion.not_mem {part : Portion BareKey Assignment} (h : ∀ a ∈ part.assigned, x ∉ a.value.chars) :
    x ∉ part.chars := by
  cases part with
  | dotted t a =>
    have hTable := t.not_mem hBare
    have hAssigned := a.not_mem hBare hMark (h a List.mem_cons_self)
    simp only [List.mem_cons, List.not_mem_nil, or_false, not_or] at hMark
    simp only [chars, List.mem_append, List.mem_cons]
    tauto
  | whole t as =>
    have hTable := t.not_mem hBare
    have hBraced := Assignment.not_mem_braced hBare hMark h
    simp only [List.mem_cons, List.not_mem_nil, or_false, not_or] at hMark
    simp only [chars, String.reduceToList, List.mem_append, List.mem_cons, List.not_mem_nil]
    tauto

theorem Sheet.not_mem {s : Sheet BareKey Assignment} (h : ∀ a ∈ s.assigned, x ∉ a.value.chars) :
    x ∉ s.text := by
  have hTable := s.table.not_mem hBare
  have hLines : x ∉ s.assigned.flatMap fun a => a.chars ++ ['\n'] := by
    intro hMem
    obtain ⟨a, hAssigned, hLine⟩ := List.mem_flatMap.mp hMem
    obtain hChars | hEnd := List.mem_append.mp hLine
    · exact a.not_mem hBare hMark (h a hAssigned) hChars
    · exact hMark (by simp [List.mem_singleton.mp hEnd])
  simp only [List.mem_cons, List.not_mem_nil, or_false, not_or] at hMark
  simp only [text, List.cons_append, List.mem_cons, List.mem_append, List.mem_replicate, List.not_mem_nil]
  tauto

/-- A character that stands in none of the values, and is neither a mark nor one that keys may have,
is not in a document. -/
theorem Draft.not_mem_text {d : Draft BareKey Assignment}
    (h : ∀ t a, (t, a) ∈ d.assigned → x ∉ a.value.chars) : x ∉ d.text := by
  have hPart (part : Portion BareKey Assignment) (hMem : part ∈ d.parts) :
      ∀ a ∈ part.assigned, x ∉ a.value.chars :=
    fun a hAssigned => h part.table a (mem_assigned.mpr ⟨part, hMem, rfl, hAssigned⟩)
  have hEnd : x ≠ '\n' := fun hSame => hMark (by simp [hSame])
  intro hMem
  obtain hRows | hSheets := List.mem_append.mp hMem
  · obtain ⟨row, hRow, hLine⟩ := List.mem_flatMap.mp hRows
    obtain hChars | hLast := List.mem_append.mp hLine
    · cases row with
      | none => cases hChars
      | some part =>
        have hParts : part ∈ d.parts := List.mem_append_left _ (List.reduceOption_mem_iff.mpr hRow)
        exact part.not_mem hBare hMark (hPart part hParts) hChars
    · exact hEnd (List.mem_singleton.mp hLast)
  · obtain ⟨s, hSheet, hText⟩ := List.mem_flatMap.mp hSheets
    have hParts : s.part ∈ d.parts := List.mem_append_right _ (List.mem_map_of_mem hSheet)
    exact s.not_mem hBare hMark (hPart s.part hParts) hText

theorem Draft.not_mem_text_map {τ σ : Type} {d : Draft τ σ} {f : τ → BareKey} {g : σ → Assignment}
    (h : ∀ t a, (t, a) ∈ d.assigned → x ∉ (g a).value.chars) : x ∉ (d.map f g).text := by
  refine not_mem_text hBare hMark fun t b hAssigned => ?_
  obtain ⟨u, a, hMem, -, rfl⟩ := exists_of_mem_assigned_map hAssigned
  exact h u a hMem

end Foreign

namespace Draft

variable {τ σ : Type} {d : Draft τ σ} {f : τ → List Char} {g : σ → Leaf}

/-- What parts add to a table is what the draft assigns in it. -/
theorem mem_within_parts (hNames : Function.Injective f) {t : τ} {leaf : Leaf} :
    leaf ∈ Portion.within (f t) (d.parts.map (Portion.map f g)) ↔ ∃ a, (t, a) ∈ d.assigned ∧ g a = leaf := by
  rw [Portion.mem_within]
  constructor
  · rintro ⟨_, hMem, hTable, hLeaf⟩
    obtain ⟨part, hPart, rfl⟩ := List.mem_map.mp hMem
    rw [Portion.assigned_map] at hLeaf
    obtain ⟨a, hAssigned, rfl⟩ := List.mem_map.mp hLeaf
    rw [Portion.table_map] at hTable
    obtain rfl := hNames hTable
    exact ⟨a, mem_assigned.mpr ⟨part, hPart, rfl, hAssigned⟩, rfl⟩
  · rintro ⟨a, hMem, rfl⟩
    obtain ⟨part, hPart, rfl, hAssigned⟩ := mem_assigned.mp hMem
    refine ⟨part.map f g, List.mem_map_of_mem hPart, part.table_map f g, ?_⟩
    rw [Portion.assigned_map]
    exact List.mem_map_of_mem hAssigned

/-- No key is assigned twice, and no table stands in more than one way. -/
structure Tidy (d : Draft τ σ) (key : σ → List Char) : Prop where
  once : (d.assigned.map fun a => key a.2).Nodup
  tables : d.wholes.Nodup
  apart : ∀ t a, .dotted t a ∈ d.parts → t ∉ d.wholes

namespace Tidy

theorem keys {key : σ → List Char} (h : d.Tidy key) :
    (∀ part ∈ d.parts, part.assigned.Pairwise fun a b => key a ≠ key b) ∧
      d.parts.Pairwise fun p q => ∀ a ∈ p.assigned, ∀ b ∈ q.assigned, key a ≠ key b := by
  have hOnce := h.once
  rw [List.nodup_iff_pairwise_ne, List.pairwise_map, assigned, List.pairwise_flatMap] at hOnce
  simpa only [List.pairwise_map, List.forall_mem_map] using hOnce

variable (h : d.Tidy fun a => (g a).1)

include h

theorem nodup {part : Portion τ σ} (hMem : part ∈ d.parts) :
    ((part.map f g).assigned.map Prod.fst).Nodup := by
  rw [Portion.assigned_map, List.map_map, List.nodup_iff_pairwise_ne, List.pairwise_map]
  exact h.keys.1 part hMem

theorem apart_map (hNames : Function.Injective f) {p q : Portion τ σ} (hp : p ∈ d.parts) (hq : q ∈ d.parts)
    (hKeys : ∀ a ∈ p.assigned, ∀ b ∈ q.assigned, (g a).1 ≠ (g b).1)
    (hWholes : ∀ t ∈ p.whole?, ∀ u ∈ q.whole?, t ≠ u) : Piece.Apart (p.map f g) (q.map f g) := by
  intro hTable
  rw [Portion.table_map, Portion.table_map] at hTable
  have hTable := hNames hTable
  have hWhole {t : τ} {as : List σ} (hMem : .whole t as ∈ d.parts) : t ∈ d.wholes :=
    List.mem_filterMap.mpr ⟨_, hMem, rfl⟩
  cases p with
  | dotted t a =>
    cases q with
    | dotted u b =>
      obtain rfl : t = u := hTable
      exact ⟨_, _, _, rfl, rfl, hKeys a List.mem_cons_self b List.mem_cons_self⟩
    | whole u bs =>
      obtain rfl : t = u := hTable
      exact absurd (hWhole hq) (h.apart t a hp)
  | whole t as =>
    cases q with
    | dotted u b =>
      obtain rfl : t = u := hTable
      exact absurd (hWhole hp) (h.apart t b hq)
    | whole u bs => exact absurd hTable (hWholes t rfl u rfl)

theorem pairwise (hNames : Function.Injective f) : (d.parts.map (Portion.map f g)).Pairwise Piece.Apart := by
  have hTables := h.tables
  rw [Draft.wholes, List.nodup_iff_pairwise_ne, List.pairwise_filterMap] at hTables
  rw [List.pairwise_map]
  exact (h.keys.2.and hTables).imp_of_mem fun hp hq hBoth => h.apart_map hNames hp hq hBoth.1 hBoth.2

end Tidy

end Draft

end WorkerSim.Toml
