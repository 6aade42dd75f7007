import WorkerSim.Proofs.Fields
import WorkerSim.Proofs.Literals
import WorkerSim.Proofs.Rows

/-!
# Spellings of a configuration

What a document sets can be spelled in many ways: each table under a header, between braces or on
dotted paths, the tables in any order and the keys of a table in any order. Every spelling describes
the same configuration, in every environment.
-/

set_option autoImplicit false

namespace WorkerSim.Config

open Toml

def Table.bareKey (t : Table) : BareKey where
  chars := t.name.toList
  ne_nil := by cases t <;> decide
  bare := List.all_eq_true.mp (by cases t <;> decide)

def Key.bareKey (k : Key) : BareKey where
  chars := k.name.toList
  ne_nil := by
    cases k with
    | number k => cases k <;> decide
    | flag k => cases k <;> decide
  bare := by
    refine List.all_eq_true.mp ?_
    cases k with
    | number k => cases k <;> decide
    | flag k => cases k <;> decide

def flagChars (b : Bool) : List Char := if b then "true".toList else "false".toList

theorem ofPlain?_flagChars (b : Bool) : Scalar.ofPlain? (flagChars b) = some (.boolean b) := by
  cases b <;> decide

def Key.literal : (k : Key) → k.Value → List Char
  | number _ => fun n => Numeral.digits n.toNat
  | flag _ => flagChars

/-- Values are written in letters and digits only. -/
theorem Key.isBareKeyChar_of_literal (k : Key) (v : k.Value) :
    ∀ c ∈ k.literal v, isBareKeyChar c = true := by
  cases k with
  | number k =>
    intro c hMem
    have hDigit : c.isDigit = true := Numeral.isDigit_of_mem_digits hMem
    simp only [isBareKeyChar, Char.isAlphanum, hDigit, Bool.or_true, Bool.true_or]
  | flag k =>
    intro c hMem
    have hAll : ∀ b : Bool, (flagChars b).all isBareKeyChar = true := by decide
    exact List.all_eq_true.mp (hAll v) c hMem

def Setting.plainValue (s : Setting) : PlainValue where
  chars := s.key.literal s.value
  scalar := s.scalar
  ne_nil := by
    obtain ⟨k, v⟩ := s
    cases k with
    | number k => exact Numeral.digits_ne_nil _
    | flag k =>
      have hAll : ∀ b : Bool, flagChars b ≠ [] := by decide
      exact hAll v
  plain c hMem := isPlainEnd_of_bare (s.key.isBareKeyChar_of_literal s.value c hMem)
  unquoted c hMem :=
    have hBare := s.key.isBareKeyChar_of_literal s.value c hMem
    ⟨ne_of_bare hBare (by decide), ne_of_bare hBare (by decide)⟩
  means := by
    obtain ⟨k, v⟩ := s
    cases k with
    | number k => exact ofPlain?_digits _
    | flag k => exact ofPlain?_flagChars v

def Setting.assignment (s : Setting) : Assignment := ⟨s.key.bareKey, s.plainValue⟩

/-- A document about the tables and keys of a configuration. -/
abbrev Draft := Toml.Draft Table Setting

namespace Draft

def written (d : Config.Draft) : Toml.Draft BareKey Assignment :=
  d.map Table.bareKey Setting.assignment

/-- The draft says what `p` sets, each setting once and in its own table, and no table in more than
one way. -/
structure Spells (d : Config.Draft) (p : Config.Partial) : Prop where
  settings : ∀ t s, (t, s) ∈ d.assigned ↔ s.table = t ∧ p.Sets s
  once : (d.assigned.map fun a => a.2.key).Nodup
  tables : d.wholes.Nodup
  apart : ∀ t s, .dotted t s ∈ d.parts → t ∉ d.wholes

/-- A draft that sets nothing but what `p` sets, and something at every key that `p` has. -/
theorem mem_assigned_iff_sets {d : Config.Draft} {p : Config.Partial}
    (hSets : ∀ t s, (t, s) ∈ d.assigned → s.table = t ∧ p.Sets s)
    (hKeys : ∀ k, p.get k ≠ none → k ∈ d.assigned.map fun a => a.2.key) (t : Table) (s : Setting) :
    (t, s) ∈ d.assigned ↔ s.table = t ∧ p.Sets s := by
  refine ⟨hSets t s, ?_⟩
  rintro ⟨rfl, hSet⟩
  have hSome : p.get s.key ≠ none := by
    rw [hSet]
    exact nofun
  obtain ⟨⟨u, s'⟩, hMem, hKey⟩ := List.mem_map.mp (hKeys s.key hSome)
  obtain ⟨rfl, hSet'⟩ := hSets u s' hMem
  obtain ⟨k, v⟩ := s
  obtain ⟨k', v'⟩ := s'
  obtain rfl : k' = k := hKey
  obtain rfl : v' = v := Option.some.inj (hSet'.symm.trans hSet)
  exact hMem

/-- A part by the names of its keys and what its values mean. -/
def piece (part : Portion Table Setting) : Piece :=
  part.map (fun t => t.name.toList) fun s => (s.name.toList, s.scalar)

theorem mem_within_pieces {d : Config.Draft} {t : Table} {leaf : Leaf} :
    leaf ∈ Portion.within t.name.toList (d.parts.map piece) ↔
      ∃ s, (t, s) ∈ d.assigned ∧ (s.name.toList, s.scalar) = leaf :=
  Toml.Draft.mem_within_parts Table.toList_name_injective

namespace Spells

variable {d : Config.Draft} {p : Config.Partial}

theorem tidy (h : d.Spells p) : d.Tidy fun s => s.name.toList := by
  have hOnce := h.once
  rw [List.nodup_iff_pairwise_ne, List.pairwise_map] at hOnce
  refine ⟨?_, h.tables, h.apart⟩
  rw [List.nodup_iff_pairwise_ne, List.pairwise_map]
  exact hOnce.imp fun hNe hSame => hNe (Key.name_injective (String.toList_injective hSame))

theorem shows (h : d.Spells p) {t : Table} {es : Entries}
    (hHolds : es.Holds (Portion.within t.name.toList (d.parts.map piece))) : t.Shows es p := by
  constructor
  · intro e hMem
    have hLeaf := hHolds.mem_iff.mp (List.mem_map_of_mem hMem)
    obtain ⟨leaf, hWithin, hEq⟩ := List.mem_map.mp hLeaf
    obtain ⟨s, hAssigned, rfl⟩ := mem_within_pieces.mp hWithin
    obtain ⟨hTable, hSets⟩ := (h.settings t s).mp hAssigned
    have hEq := Prod.mk.inj hEq
    exact ⟨s, hTable, hSets, hEq.1.symm, hEq.2.symm⟩
  · intro s hTable hSets
    have hWithin : (s.name.toList, s.scalar) ∈ Portion.within t.name.toList (d.parts.map piece) :=
      mem_within_pieces.mpr ⟨s, (h.settings t s).mpr ⟨hTable, hSets⟩, rfl⟩
    have hLeaf := hHolds.mem_iff.mpr (List.mem_map_of_mem hWithin)
    obtain ⟨e, hMem, hEq⟩ := List.mem_map.mp hLeaf
    exact ⟨e, hMem, (Prod.mk.inj hEq).1⟩

theorem shown (h : d.Spells p) {root : Entries} (hShelf : Shelf root (d.parts.map piece)) :
    p.Shown root := by
  constructor
  · intro e hMem
    obtain ⟨key, item⟩ := e
    obtain ⟨_, hPiece, rfl, standing, es, hTable, hHolds⟩ :=
      hShelf.exists_of_get? (hShelf.sorted.get?_of_mem hMem)
    obtain ⟨part, -, rfl⟩ := List.mem_map.mp hPiece
    rw [piece, Portion.table_map] at hHolds ⊢
    exact ⟨part.table, rfl, standing, es, hTable, h.shows hHolds⟩
  · intro s hSets
    obtain ⟨part, hPart, hTable, -⟩ :=
      Toml.Draft.mem_assigned.mp ((h.settings s.table s).mpr ⟨rfl, hSets⟩)
    obtain ⟨span, standing, es, hGet, -, -⟩ := hShelf.present _ (List.mem_map_of_mem hPart)
    rw [piece, Portion.table_map, hTable] at hGet
    exact ⟨_, Entries.mem_of_get? hGet, rfl⟩

theorem not_mem_text {x : Char} (hBare : isBareKeyChar x = false)
    (hMark : x ∉ [' ', '=', '.', ',', '[', ']', '\x7b', '\x7d', '\n']) : x ∉ d.written.text := by
  refine Toml.Draft.not_mem_text_map hBare hMark fun t s _ hMem => ?_
  rw [s.key.isBareKeyChar_of_literal s.value x hMem] at hBare
  cases hBare

/-- The document of a draft sets what the draft spells. -/
theorem ofText_eq (h : d.Spells p) (env : Environment) :
    Partial.record.ofText env d.written.text = .ok p := by
  have hDollar : '$' ∉ d.written.text := not_mem_text (by decide) (by decide)
  have hMark : Char.ofNat 0xFEFF ∉ d.written.text := not_mem_text (by decide) (by decide)
  have hTidy : d.Tidy fun s => s.assignment.leaf.1 := h.tidy
  obtain ⟨root, hRoot, hShelf⟩ := hTidy.exists_shelf (f := Table.bareKey) Table.toList_name_injective hMark
  have hRoot : Document.ofText? d.written.text = some root := hRoot
  rw [Record.ofText, Placeholder.substitute_eq_self _ hDollar, Record.ofDocument, hRoot]
  simp only [(h.shown hShelf).ofEntries_eq_ok]

end Spells

end Draft

/-- The number that a configuration has at a key, if it has one. -/
def number (c : Config) : NumberKey → Option UInt64
  | .workloadSize => some c.runaway.workloadSize
  | .reportEvery => some c.runaway.reportEvery
  | .maxIterations => c.runaway.maxIterations
  | .heartbeats => some c.recovered.heartbeats
  | .intervalMs => some c.recovered.intervalMs

def flag (c : Config) : FlagKey → Bool
  | .verbose => c.logging.verbose
  | .json => c.logging.json
  | .enabled => c.monitoring.enabled

namespace Partial

def number (p : Config.Partial) (k : NumberKey) : Option UInt64 := p.get (.number k)

def flag (p : Config.Partial) (k : FlagKey) : Option Bool := p.get (.flag k)

theorem number_config (p : Config.Partial) (k : NumberKey) :
    p.config.number k = (p.number k).or (({} : Config).number k) := by
  obtain ⟨⟨w, r, m⟩, ⟨b, i⟩, l, e⟩ := p
  cases k with
  | workloadSize => cases w <;> rfl
  | reportEvery => cases r <;> rfl
  | maxIterations => cases m <;> rfl
  | heartbeats => cases b <;> rfl
  | intervalMs => cases i <;> rfl

theorem flag_config (p : Config.Partial) (k : FlagKey) :
    p.config.flag k = (p.flag k).getD (({} : Config).flag k) := by
  obtain ⟨r, s, ⟨v, j⟩, ⟨e⟩⟩ := p
  cases k <;> rfl

end Partial

/-- Every partial assignment is decoded field by field, however it is spelled. -/
theorem ofText_of_spells {d : Config.Draft} {p : Config.Partial} (h : d.Spells p) (env : Environment) :
    Config.ofText env d.written.text = .ok p.config ∧
      (∀ k, p.config.number k = (p.number k).or (({} : Config).number k)) ∧
      ∀ k, p.config.flag k = (p.flag k).getD (({} : Config).flag k) := by
  refine ⟨?_, p.number_config, p.flag_config⟩
  rw [Config.ofText_eq_map, h.ofText_eq]
  rfl

theorem ofText_of_three_spellings :
    let d : Config.Draft :=
      ⟨[some (.dotted .recovered (.number .heartbeats 3)), none, some (.whole .logging [.flag .json true])],
        [⟨.runaway, [.number .maxIterations 18446744073709551615, .number .workloadSize 0], 1⟩]⟩
    let p : Config.Partial :=
      ⟨⟨some 0, none, some 18446744073709551615⟩, ⟨some 3, none⟩, ⟨none, some true⟩, ⟨none⟩⟩
    d.Spells p ∧ Config.ofText [] d.written.text =
      .ok ⟨⟨0, 200, some 18446744073709551615⟩, ⟨3, 200⟩, ⟨false, true⟩, ⟨false⟩⟩ := by
  intro d p
  have hAssigned : d.assigned = [(.recovered, .number .heartbeats 3), (.logging, .flag .json true),
      (.runaway, .number .maxIterations 18446744073709551615), (.runaway, .number .workloadSize 0)] := rfl
  have hSpells : d.Spells p := by
    constructor
    · intro t s
      rw [hAssigned]
      simp only [List.mem_cons, List.not_mem_nil, or_false, Prod.mk.injEq]
      constructor
      · rintro (⟨rfl, rfl⟩ | ⟨rfl, rfl⟩ | ⟨rfl, rfl⟩ | ⟨rfl, rfl⟩) <;> exact ⟨rfl, rfl⟩
      · rintro ⟨rfl, hSets⟩
        obtain ⟨k, v⟩ := s
        rcases k with k | k <;> cases k <;> cases hSets
        · exact .inr (.inr (.inr ⟨rfl, rfl⟩))
        · exact .inr (.inr (.inl ⟨rfl, rfl⟩))
        · exact .inl ⟨rfl, rfl⟩
        · exact .inr (.inl ⟨rfl, rfl⟩)
    · rw [hAssigned]
      change ([.number .heartbeats, .flag .json, .number .maxIterations, .number .workloadSize] :
        List Key).Nodup
      decide
    · change [Table.logging, .runaway].Nodup
      decide
    · intro t s hMem
      change t ∉ [Table.logging, .runaway]
      have hParts : d.parts = [.dotted .recovered (.number .heartbeats 3), .whole .logging [.flag .json true],
        .whole .runaway [.number .maxIterations 18446744073709551615, .number .workloadSize 0]] := rfl
      rw [hParts] at hMem
      simp only [List.mem_cons, List.not_mem_nil, or_false, reduceCtorEq, Portion.dotted.injEq] at hMem
      obtain ⟨rfl, -⟩ := hMem
      decide
  exact ⟨hSpells, (ofText_of_spells hSpells []).1⟩

end WorkerSim.Config
