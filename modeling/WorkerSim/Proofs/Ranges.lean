import WorkerSim.Proofs.Inertness
import WorkerSim.Proofs.Integers
import WorkerSim.Proofs.Spelling

/-!
# Numbers of any size

A document can set a numeric key to an integer literal of any radix and length. It is then a
configuration if the number that the literal denotes fits into 64 bits, and has this very number; all
other literals are misfits.
-/

set_option autoImplicit false

namespace WorkerSim

open Toml

namespace Config

/-! ### Documents with any literals -/

/-- A key of the configuration, and the literal that it is set to. -/
structure Entry where
  key : Key
  literal : PlainValue

namespace Entry

def assignment (e : Entry) : Assignment := ⟨e.key.bareKey, e.literal⟩

def leaf (e : Entry) : Leaf := (e.key.name.toList, e.literal.scalar)

end Entry

/-- The entries of a draft stand in their own tables, each key once and no table in more than one way,
and with literals that substitution leaves alone. -/
structure Legible (d : Toml.Draft Table Entry) : Prop where
  own : ∀ t e, (t, e) ∈ d.assigned → e.key.table = t
  tidy : d.Tidy fun e => e.leaf.1
  unchanged : ∀ t e, (t, e) ∈ d.assigned →
    '$' ∉ e.literal.chars ∧ Char.ofNat 0xFEFF ∉ e.literal.chars

def document (d : Toml.Draft Table Entry) : List Char :=
  (d.map Table.bareKey Entry.assignment).text

namespace Legible

variable {d : Toml.Draft Table Entry} {root : Entries}

def pieces (d : Toml.Draft Table Entry) : List Piece :=
  d.parts.map (Portion.map (fun t => t.name.toList) Entry.leaf)

theorem exists_shelf (h : Legible d) : ∃ root, Document.ofText? (document d) = some root ∧
    Shelf root (pieces d) := by
  have hMark : Char.ofNat 0xFEFF ∉ document d :=
    Toml.Draft.not_mem_text_map (by decide) (by decide) fun t e hMem => (h.unchanged t e hMem).2
  have hTidy : d.Tidy fun e => e.assignment.leaf.1 := h.tidy
  exact hTidy.exists_shelf Table.toList_name_injective hMark

/-- What is at the root is a table of the configuration. -/
theorem exists_table (hShelf : Shelf root (pieces d)) {key : List Char} {item : Item}
    (hGet : root.get? key = some item) : ∃ (t : Table) (standing : Standing) (es : Entries),
      key = t.name.toList ∧ item.value = .table standing es ∧
        es.Holds (Portion.within t.name.toList (pieces d)) := by
  obtain ⟨_, hPiece, rfl, standing, es, hTable, hHolds⟩ := hShelf.exists_of_get? hGet
  obtain ⟨part, -, rfl⟩ := List.mem_map.mp hPiece
  rw [Portion.table_map] at hHolds ⊢
  exact ⟨part.table, standing, es, rfl, hTable, hHolds⟩

/-- What is in a table is one of the entries. -/
theorem exists_entry (hShelf : Shelf root (pieces d)) {t : Table} {key : List Char} {item : Item}
    (hMem : (key, item) ∈ t.within root) :
    ∃ e, (t, e) ∈ d.assigned ∧ key = e.key.name.toList ∧ item.value = .scalar e.literal.scalar := by
  rw [Table.within] at hMem
  cases hGet : root.get? t.name.toList with
  | none =>
    rw [hGet] at hMem
    cases hMem
  | some table =>
    obtain ⟨u, standing, es, hName, hValue, hHolds⟩ := exists_table hShelf hGet
    obtain rfl := Table.toList_name_injective hName
    rw [hGet, Option.elim_some, hValue] at hMem
    have hLeaf := hHolds.mem_iff.mp (List.mem_map_of_mem hMem)
    obtain ⟨leaf, hWithin, hEq⟩ := List.mem_map.mp hLeaf
    obtain ⟨e, hAssigned, rfl⟩ := (Toml.Draft.mem_within_parts Table.toList_name_injective).mp hWithin
    have hEq := Prod.mk.inj hEq
    exact ⟨e, hAssigned, hEq.1.symm, hEq.2.symm⟩

/-- The document of a draft holds at each key what the draft sets it to, and nothing else. -/
theorem exists_describes (h : Legible d) (env : Environment) :
    ∃ root, Describes env (document d) root ∧
      (∀ t e, (t, e) ∈ d.assigned → e.key.kind? root = some (kind (.scalar e.literal.scalar))) ∧
      ∀ k : Key, k ∉ d.assigned.map (fun a => a.2.key) → k.kind? root = none := by
  have hDollar : '$' ∉ document d :=
    Toml.Draft.not_mem_text_map (by decide) (by decide) fun t e hMem => (h.unchanged t e hMem).1
  obtain ⟨root, hRoot, hShelf⟩ := h.exists_shelf
  have hOrderly := Document.orderly_of_ofText? hRoot
  refine ⟨root, ⟨?_, fun t item hGet => ?_, fun item hUnknown => ?_⟩, fun t e hAssigned => ?_,
    fun k hNot => ?_⟩
  · rw [Placeholder.substitute_eq_self _ hDollar]
    exact hRoot
  · obtain ⟨-, standing, es, -, hValue, -⟩ := exists_table hShelf hGet
    exact ⟨standing, es, hValue⟩
  · -- there is nothing but the keys of the draft
    exfalso
    obtain ⟨hMem, hKey⟩ | ⟨hMem, hKey⟩ := hUnknown
    · obtain ⟨t, -, -, hName, -⟩ := exists_table hShelf (hOrderly.sorted.get?_of_mem hMem)
      exact hKey t hName
    · obtain ⟨e, hAssigned, hName, -⟩ := exists_entry hShelf hMem
      exact hKey e.key (h.own _ e hAssigned) hName
  · obtain rfl := h.own t e hAssigned
    obtain ⟨part, hPart, hTable, hEntry⟩ := Toml.Draft.mem_assigned.mp hAssigned
    obtain ⟨span, standing, es, hGet, hHolds, -⟩ := hShelf.present _ (List.mem_map_of_mem hPart)
    rw [Portion.table_map, hTable] at hGet hHolds
    have hWithin : e.leaf ∈ Portion.within e.key.table.name.toList (pieces d) :=
      (Toml.Draft.mem_within_parts Table.toList_name_injective).mpr ⟨e, hAssigned, rfl⟩
    have hHeld := hHolds.mem_iff.mpr (List.mem_map_of_mem hWithin)
    obtain ⟨⟨key, item⟩, hMem, hEq⟩ := List.mem_map.mp hHeld
    obtain ⟨rfl, hValue⟩ := Prod.mk.inj hEq
    have hInside : e.key.table.within root = es := by
      rw [Table.within, hGet]
      rfl
    rw [← hInside] at hMem
    have hItem : e.key.item? root = some item := (e.key.table.within_sorted hOrderly).get?_of_mem hMem
    have hScalar : item.value = .scalar e.literal.scalar := hValue
    rw [Key.kind?, hItem, Option.map_some, hScalar]
  · rw [Key.kind?]
    cases hItem : k.item? root with
    | none => rfl
    | some item =>
      obtain ⟨e, hAssigned, hName, -⟩ := exists_entry hShelf (Entries.mem_of_get? hItem)
      obtain rfl : k = e.key := Key.name_injective (String.toList_injective hName)
      exact absurd (List.mem_map_of_mem hAssigned) hNot

end Legible

/-! ### Numbers -/

/-- An integer literal, of any radix and length, and the number that it denotes. -/
structure IntegerLiteral where
  chars : List Char
  value : Int
  denotes : Integer.Denotes chars value

def IntegerLiteral.plainValue (l : IntegerLiteral) : PlainValue where
  chars := l.chars
  scalar := .integer (some l.value)
  ne_nil := l.denotes.ne_nil
  plain c hMem := by
    obtain rfl | hBare := l.denotes.chars c hMem
    · rfl
    · exact isPlainEnd_of_bare hBare
  unquoted c hMem := by
    obtain rfl | hBare := l.denotes.chars c hMem
    · decide
    · exact ⟨ne_of_bare hBare (by decide), ne_of_bare hBare (by decide)⟩
  means := l.denotes.ofPlain?

theorem IntegerLiteral.not_mem_chars (l : IntegerLiteral) {x : Char} (hPlus : x ≠ '+')
    (hBare : isBareKeyChar x = false) : x ∉ l.chars := by
  intro hMem
  obtain rfl | hChar := l.denotes.chars x hMem
  · exact hPlus rfl
  · rw [hChar] at hBare
    cases hBare

/-- A configuration with this number at this key. -/
def withNumber (c : Config) (n : UInt64) : NumberKey → Config
  | .workloadSize => { c with runaway := { c.runaway with workloadSize := n } }
  | .reportEvery => { c with runaway := { c.runaway with reportEvery := n } }
  | .maxIterations => { c with runaway := { c.runaway with maxIterations := some n } }
  | .heartbeats => { c with recovered := { c.recovered with heartbeats := n } }
  | .intervalMs => { c with recovered := { c.recovered with intervalMs := n } }

/-- One number, and nothing else. -/
def single (n : UInt64) (k : NumberKey) : (key : Key) → Option key.Value
  | .number other => if other = k then some n else none
  | .flag _ => none

theorem config_single (n : UInt64) (k : NumberKey) :
    (Partial.ofKeys (single n k)).config = ({} : Config).withNumber n k := by
  cases k <;> rfl

theorem Kind.number?_toNat (n : UInt64) : Kind.number? (.integer (some (n.toNat : Int))) = some n := by
  have hRange : (0 : Int) ≤ n.toNat ∧ (n.toNat : Int) < (UInt64.size : Int) :=
    ⟨Int.natCast_nonneg _, Int.ofNat_lt.mpr n.toNat_lt_size⟩
  rw [Kind.number?, if_pos hRange, Int.toNat_natCast, UInt64.ofNat_toNat]

theorem exists_toNat_eq_iff (z : Int) :
    (∃ n : UInt64, (n.toNat : Int) = z) ↔ 0 ≤ z ∧ z < (UInt64.size : Int) := by
  constructor
  · rintro ⟨n, rfl⟩
    exact ⟨Int.natCast_nonneg _, Int.ofNat_lt.mpr n.toNat_lt_size⟩
  · rintro ⟨hLow, hHigh⟩
    refine ⟨UInt64.ofNat z.toNat, ?_⟩
    rw [UInt64.toNat_ofNat_of_lt' ((Int.toNat_lt hLow).mpr hHigh), Int.toNat_of_nonneg hLow]

/-- The one entry of a draft is a literal at a numeric key. -/
structure Lone (d : Toml.Draft Table Entry) (k : NumberKey) (l : IntegerLiteral) : Prop where
  assigned : d.assigned = [(k.table, ⟨.number k, l.plainValue⟩)]
  tables : d.wholes.Nodup
  apart : ∀ t e, .dotted t e ∈ d.parts → t ∉ d.wholes

namespace Lone

variable {d : Toml.Draft Table Entry} {k : NumberKey} {l : IntegerLiteral}

theorem legible (h : Lone d k l) : Legible d := by
  refine ⟨fun t e hMem => ?_, ⟨?_, h.tables, h.apart⟩, fun t e hMem => ?_⟩
  · rw [h.assigned] at hMem
    cases List.mem_singleton.mp hMem
    rfl
  · rw [h.assigned]
    exact List.pairwise_singleton _ _
  · rw [h.assigned] at hMem
    cases List.mem_singleton.mp hMem
    exact ⟨l.not_mem_chars (by decide) (by decide), l.not_mem_chars (by decide) (by decide)⟩

theorem exists_describes (h : Lone d k l) (env : Environment) : ∃ root, Describes env (document d) root ∧
    (Key.number k).kind? root = some (.integer (some l.value)) ∧
      ∀ key : Key, key ≠ .number k → key.kind? root = none := by
  obtain ⟨root, hDescribes, hHere, hElse⟩ := h.legible.exists_describes env
  rw [h.assigned] at hHere hElse
  refine ⟨root, hDescribes, hHere _ _ List.mem_cons_self, fun key hKey => hElse key ?_⟩
  intro hMem
  exact hKey (List.mem_singleton.mp hMem)

theorem ofText_eq_ok (h : Lone d k l) (env : Environment) {n : UInt64} (hValue : (n.toNat : Int) = l.value) :
    Config.ofText env (document d) = .ok (({} : Config).withNumber n k) := by
  obtain ⟨root, hDescribes, hHere, hElse⟩ := h.exists_describes env
  rw [← hValue] at hHere
  have hTaken (key : Key) (seen : Kind) (hKind : key.kind? root = some seen) : key.take? seen ≠ none := by
    by_cases hKey : key = .number k
    · subst hKey
      obtain rfl := Option.some.inj (hHere.symm.trans hKind)
      rw [Key.take?, Kind.number?_toNat]
      exact Option.some_ne_none n
    · rw [hElse key hKey] at hKind
      cases hKind
  -- no other key has anything to say
  have hKnown : known root = Partial.ofKeys (single n k) := by
    rw [known]
    congr 1
    funext key
    by_cases hKey : key = .number k
    · subst hKey
      rw [hHere, single, if_pos rfl, Option.bind_some, Key.take?, Kind.number?_toNat]
      rfl
    · rw [hElse key hKey]
      cases key with
      | number other =>
        rw [single, if_neg fun hSame => hKey (congrArg Key.number hSame)]
        rfl
      | flag other => rfl
  rw [hDescribes.ofText_eq_ok hTaken, hKnown, config_single]

theorem ofText_eq_error (h : Lone d k l) (env : Environment)
    (hRange : ¬(0 ≤ l.value ∧ l.value < (UInt64.size : Int))) :
    ∃ report, Config.ofText env (document d) = .error (.config (.misfit report)) := by
  obtain ⟨root, hDescribes, hHere, -⟩ := h.exists_describes env
  exact hDescribes.ofText_eq_error hHere (if_neg hRange)

end Lone

/-- A numeric key takes the number of its literal as it is if that fits, and takes no other. -/
theorem number_is_exact {d : Toml.Draft Table Entry} {k : NumberKey} {l : IntegerLiteral} (h : Lone d k l)
    (env : Environment) :
    ((∃ c, Config.ofText env (document d) = .ok c) ↔ 0 ≤ l.value ∧ l.value < (UInt64.size : Int)) ∧
    (∀ c, Config.ofText env (document d) = .ok c ↔
      ∃ n : UInt64, (n.toNat : Int) = l.value ∧ c = ({} : Config).withNumber n k) ∧
    ((∃ report, Config.ofText env (document d) = .error (.config (.misfit report))) ↔
      l.value < 0 ∨ (UInt64.size : Int) ≤ l.value) := by
  by_cases hRange : 0 ≤ l.value ∧ l.value < (UInt64.size : Int)
  · obtain ⟨n, hValue⟩ := (exists_toNat_eq_iff l.value).mpr hRange
    have hRead := h.ofText_eq_ok env hValue
    refine ⟨iff_of_true ⟨_, hRead⟩ hRange, fun c => ?_, iff_of_false ?_ ?_⟩
    · rw [hRead, Except.ok.injEq]
      constructor
      · rintro rfl
        exact ⟨n, hValue, rfl⟩
      · rintro ⟨m, hSame, rfl⟩
        have hNat : n.toNat = m.toNat := Int.ofNat_inj.mp (hValue.trans hSame.symm)
        rw [UInt64.toNat_inj.mp hNat]
    · rintro ⟨report, hError⟩
      rw [hRead] at hError
      cases hError
    · rintro (hLow | hHigh)
      · exact absurd hRange.1 (Int.not_le.mpr hLow)
      · exact absurd hRange.2 (Int.not_lt.mpr hHigh)
  · obtain ⟨report, hError⟩ := h.ofText_eq_error env hRange
    refine ⟨iff_of_false ?_ hRange, fun c => iff_of_false ?_ ?_, iff_of_true ⟨report, hError⟩ ?_⟩
    · rintro ⟨c, hRead⟩
      rw [hError] at hRead
      cases hRead
    · rw [hError]
      intro hRead
      cases hRead
    · rintro ⟨n, hValue, -⟩
      exact hRange ((exists_toNat_eq_iff l.value).mp ⟨n, hValue⟩)
    · rw [not_and_or, Int.not_le, Int.not_lt] at hRange
      exact hRange

theorem number_is_exact_in_hexadecimal :
    let l : IntegerLiteral := ⟨"0xF_f".toList, 255, .hexadecimal
      ⟨[15, 15], .apart (.upper (d := 15) (by decide)) (.last (.lower (d := 15) (by decide))), by decide⟩⟩
    let d : Toml.Draft Table Entry :=
      ⟨[none, some (.dotted .recovered ⟨.number .heartbeats, l.plainValue⟩)], [⟨.logging, [], 1⟩]⟩
    Lone d .heartbeats l ∧ Config.ofText [] (document d) = .ok ⟨{}, ⟨255, 200⟩, {}, {}⟩ := by
  intro l d
  have hLone : Lone d .heartbeats l := by
    refine ⟨rfl, List.pairwise_singleton _ _, fun t e hMem => ?_⟩
    have hParts : d.parts =
        [.dotted .recovered ⟨.number .heartbeats, l.plainValue⟩, .whole .logging []] := rfl
    rw [hParts] at hMem
    obtain hHere | hMem := List.mem_cons.mp hMem
    · cases hHere
      change Table.recovered ∉ [Table.logging]
      decide
    · cases List.mem_singleton.mp hMem
  exact ⟨hLone, ((number_is_exact hLone []).2.1 _).mpr ⟨255, rfl, rfl⟩⟩

end Config

end WorkerSim
