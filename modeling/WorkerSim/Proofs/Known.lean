import WorkerSim.Proofs.Fields
import WorkerSim.Proofs.Orderly

/-!
# Known and unknown keys

In a document whose four tables are tables, or are not there, eight keys are known. The document
describes something if what stands at the known keys can be read and everything else can be passed
over, and then it sets what is read at the known keys.
-/

set_option autoImplicit false

namespace WorkerSim

open Toml

namespace Toml.Record

variable {α γ : Type} {r : Record α} {entries : Entries} {a : α}

theorem exists_assign_of_ofEntries (h : r.ofEntries entries = .ok a) :
    ∀ e ∈ entries, ∃ b c, r.assign b e.1 e.2 = .ok c := by
  rw [Record.ofEntries] at h
  generalize r.start = start at h
  induction entries generalizing start with
  | nil => exact List.forall_mem_nil _
  | cons e entries ih =>
    rw [List.foldlM_cons] at h
    cases hAssign : r.assign start e.1 e.2 with
    | error misfit =>
      rw [hAssign] at h
      cases h
    | ok b =>
      rw [hAssign] at h
      exact List.forall_mem_cons.mpr ⟨⟨start, b, hAssign⟩, ih b h⟩

theorem assign_of_not_mem {key : List Char} (h : key ∉ r.fields.map Prod.fst) (b : α) (item : Item) :
    r.assign b key item = (item.value.passOver item.span).map fun _ => b := by
  have hLookup : r.fields.lookup key = none := by
    rw [List.lookup_eq_none_iff]
    intro field hMem
    rw [bne_iff_ne]
    rintro rfl
    exact h (List.mem_map_of_mem hMem)
  rw [Record.assign, hLookup]

theorem passOver_of_ofEntries (h : r.ofEntries entries = .ok a) {key : List Char} {item : Item}
    (hMem : (key, item) ∈ entries) (hKey : key ∉ r.fields.map Prod.fst) :
    item.value.passOver item.span = .ok () := by
  obtain ⟨b, c, hAssign⟩ := exists_assign_of_ofEntries h _ hMem
  rw [assign_of_not_mem hKey] at hAssign
  obtain ⟨_, hPass, -⟩ := map_eq_ok_iff.mp hAssign
  exact hPass

/-- What the entries hold at a governed key. -/
theorem Governs.find_eq {key : List Char} {part : α → γ} {read : Item → Except Misfit γ}
    (hGoverns : Governs r key part read) (hSorted : entries.Sorted) (h : r.ofEntries entries = .ok a) :
    (entries.get? key).elim (.ok (part r.start)) read = .ok (part a) := by
  cases hGet : entries.get? key with
  | none =>
    rw [Entries.get?_eq_none_iff] at hGet
    have hAbsent : ∀ e ∈ entries, e.1 ≠ key :=
      fun e hMem hKey => hGet (hKey ▸ List.mem_map_of_mem hMem)
    have hPart : part a = part r.start :=
      hGoverns.part_eq h (fun e hMem hKey => absurd hKey (hAbsent e hMem)) fun _ => rfl
    rw [hPart]
    rfl
  | some item =>
    have hMem := Entries.mem_of_get? hGet
    obtain ⟨b, c, hAssign⟩ := exists_assign_of_ofEntries h _ hMem
    have hRead : read item = .ok (part c) := by
      rw [← hGoverns.here b item, hAssign]
      rfl
    have hPart : part a = part c := by
      refine hGoverns.part_eq h (fun e hMem' hKey => ?_) fun hAbsent => absurd rfl (hAbsent _ hMem)
      obtain ⟨k, item'⟩ := e
      obtain rfl : k = key := hKey
      obtain rfl : item' = item := Option.some.inj ((hSorted.get?_of_mem hMem').symm.trans hGet)
      exact hRead
    rw [hPart]
    exact hRead

end Toml.Record

namespace Config

open Record

/-- The four tables are tables, as far as they are there. -/
def HasTables (root : Entries) : Prop :=
  ∀ (t : Table) (item : Item), root.get? t.name.toList = some item →
    ∃ standing es, item.value = .table standing es

/-- The entries of a table; what is no table has none. -/
def entriesOf : Value → Entries
  | .table _ es => es
  | .scalar _ | .list _ | .series _ _ => []

def Table.within (t : Table) (root : Entries) : Entries :=
  (root.get? t.name.toList).elim [] fun item => entriesOf item.value

/-- The item at a key of the configuration. -/
def Key.item? (k : Key) (root : Entries) : Option Item := (k.table.within root).get? k.name.toList

/-- The items that no part of a configuration is read from, in the root and in its tables. -/
inductive Unknown (root : Entries) (item : Item) : Prop
  | outside {key : List Char} (h : (key, item) ∈ root) (hKey : ∀ t : Table, key ≠ t.name.toList)
  | inside {t : Table} {key : List Char} (h : (key, item) ∈ t.within root)
      (hKey : ∀ k : Key, k.table = t → key ≠ k.name.toList)

theorem mem_keys_iff (key : List Char) :
    key ∈ Partial.record.fields.map Prod.fst ↔ ∃ t : Table, key = t.name.toList := by
  constructor
  · intro hMem
    simp only [Partial.record, Record.part, List.map_cons, List.map_nil, List.mem_cons, List.not_mem_nil,
      or_false] at hMem
    obtain rfl | rfl | rfl | rfl := hMem
    · exact ⟨.runaway, rfl⟩
    · exact ⟨.recovered, rfl⟩
    · exact ⟨.logging, rfl⟩
    · exact ⟨.monitoring, rfl⟩
  · rintro ⟨t, rfl⟩
    cases t <;> simp [Partial.record, Record.part, Table.name]

theorem Table.mem_keys_iff (t : Table) (key : List Char) :
    key ∈ t.record.fields.map Prod.fst ↔ ∃ k : Key, k.table = t ∧ key = k.name.toList := by
  constructor
  · intro hMem
    cases t with
    | runaway =>
      have hNames : key ∈ ["workload_size".toList, "report_every".toList, "max_iterations".toList] := hMem
      simp only [List.mem_cons, List.not_mem_nil, or_false] at hNames
      obtain rfl | rfl | rfl := hNames
      · exact ⟨.number .workloadSize, rfl, rfl⟩
      · exact ⟨.number .reportEvery, rfl, rfl⟩
      · exact ⟨.number .maxIterations, rfl, rfl⟩
    | recovered =>
      have hNames : key ∈ ["heartbeats".toList, "interval_ms".toList] := hMem
      simp only [List.mem_cons, List.not_mem_nil, or_false] at hNames
      obtain rfl | rfl := hNames
      · exact ⟨.number .heartbeats, rfl, rfl⟩
      · exact ⟨.number .intervalMs, rfl, rfl⟩
    | logging =>
      have hNames : key ∈ ["verbose".toList, "json".toList] := hMem
      simp only [List.mem_cons, List.not_mem_nil, or_false] at hNames
      obtain rfl | rfl := hNames
      · exact ⟨.flag .verbose, rfl, rfl⟩
      · exact ⟨.flag .json, rfl, rfl⟩
    | monitoring => exact ⟨.flag .enabled, rfl, List.mem_singleton.mp hMem⟩
  · rintro ⟨k, rfl, rfl⟩
    rcases k with k | k <;> cases k <;> decide

/-- What is read at a key, if anything is there. -/
def Key.find (k : Key) (root : Entries) : Except Misfit (Option k.Value) :=
  (k.item? root).elim (.ok none) fun item => (k.read item).map some

/-- What is at the known keys is `p`, and all the rest can be passed over. -/
structure Partial.Told (p : Config.Partial) (root : Entries) : Prop where
  known : ∀ k : Key, k.find root = .ok (p.get k)
  unknown : ∀ item, Unknown root item → item.value.passOver item.span = .ok ()

theorem HasTables.read_eq {root : Entries} (h : HasTables root) {t : Table} {item : Item}
    (hGet : root.get? t.name.toList = some item) :
    t.record.read item = t.record.ofEntries (t.within root) := by
  obtain ⟨standing, es, hTable⟩ := h t item hGet
  rw [Table.within, hGet, Option.elim_some, hTable, Record.read, hTable]
  rfl

theorem Table.within_sorted {root : Entries} (h : root.Orderly) (t : Table) : (t.within root).Sorted := by
  rw [Table.within]
  cases hGet : root.get? t.name.toList with
  | none => exact List.Pairwise.nil
  | some item =>
    rw [Option.elim_some]
    cases hValue : item.value with
    | table standing es =>
      have hItem := h.get? hGet
      rw [hValue] at hItem
      exact (Entries.Orderly.of_table hItem).sorted
    | scalar | list | series => exact List.Pairwise.nil

/-- The tables of what is read of a root are what is read of the tables in it. -/
theorem Table.ofEntries_within {root : Entries} (hOrderly : root.Orderly) (hTables : HasTables root)
    {p : Config.Partial} (h : Partial.record.ofEntries root = .ok p) (t : Table) :
    t.record.ofEntries (t.within root) = .ok (t.part p) := by
  have hFind := t.governs.find_eq hOrderly.sorted h
  cases hGet : root.get? t.name.toList with
  | none =>
    rw [hGet, Option.elim_none] at hFind
    rw [Table.within, hGet, Option.elim_none, ← hFind]
    cases t <;> rfl
  | some item =>
    rw [hGet, Option.elim_some] at hFind
    rw [← hTables.read_eq hGet, hFind]

theorem Partial.told_of_ofEntries {root : Entries} (hOrderly : root.Orderly) (hTables : HasTables root)
    {p : Config.Partial} (h : Partial.record.ofEntries root = .ok p) : p.Told root := by
  have hWithin := Table.ofEntries_within hOrderly hTables h
  constructor
  · intro k
    have hFind := k.governs.find_eq (k.table.within_sorted hOrderly) (hWithin k.table)
    rw [k.get_start] at hFind
    rw [Key.find, Key.item?, hFind]
    rfl
  · rintro item (⟨hMem, hKey⟩ | ⟨hMem, hKey⟩)
    · apply passOver_of_ofEntries h hMem
      rw [mem_keys_iff]
      rintro ⟨t, hSame⟩
      exact hKey t hSame
    · rename_i t key
      apply passOver_of_ofEntries (hWithin t) hMem
      rw [t.mem_keys_iff]
      rintro ⟨k, hTable, hSame⟩
      exact hKey k hTable hSame

theorem Partial.Told.exists_within {p : Config.Partial} {root : Entries} (h : p.Told root)
    (hOrderly : root.Orderly) (t : Table) : ∃ part, t.record.ofEntries (t.within root) = .ok part := by
  refine exists_ofEntries_eq_ok fun e hMem part => ?_
  obtain ⟨key, item⟩ := e
  -- a known key can be read, and what is unknown can be passed over
  by_cases hKey : ∃ k : Key, k.table = t ∧ key = k.name.toList
  · obtain ⟨k, rfl, rfl⟩ := hKey
    have hKnown := h.known k
    rw [Key.find, Key.item?, (k.table.within_sorted hOrderly).get?_of_mem hMem, Option.elim_some] at hKnown
    exact k.governs.assign_eq_ok hKnown part
  · rw [assign_of_not_mem (fun hMem' => hKey ((t.mem_keys_iff key).mp hMem'))]
    have hUnknown : Unknown root item := .inside hMem fun k hTable hSame => hKey ⟨k, hTable, hSame⟩
    rw [h.unknown item hUnknown]
    exact ⟨part, rfl⟩

theorem Partial.Told.exists_ofEntries {p : Config.Partial} {root : Entries} (h : p.Told root)
    (hOrderly : root.Orderly) (hTables : HasTables root) :
    ∃ q, Partial.record.ofEntries root = .ok q := by
  refine exists_ofEntries_eq_ok fun e hMem q => ?_
  obtain ⟨key, item⟩ := e
  by_cases hKey : ∃ t : Table, key = t.name.toList
  · obtain ⟨t, rfl⟩ := hKey
    obtain ⟨part, hPart⟩ := h.exists_within hOrderly t
    rw [← hTables.read_eq (hOrderly.sorted.get?_of_mem hMem)] at hPart
    exact t.governs.assign_eq_ok hPart q
  · rw [assign_of_not_mem (fun hMem' => hKey ((mem_keys_iff key).mp hMem'))]
    have hUnknown : Unknown root item := .outside hMem fun t hSame => hKey ⟨t, hSame⟩
    rw [h.unknown item hUnknown]
    exact ⟨q, rfl⟩

/-- A document sets what it tells. -/
theorem Partial.ofEntries_eq_ok_iff {root : Entries} (hOrderly : root.Orderly) (hTables : HasTables root)
    {p : Config.Partial} : Partial.record.ofEntries root = .ok p ↔ p.Told root := by
  constructor
  · exact Partial.told_of_ofEntries hOrderly hTables
  · intro h
    obtain ⟨q, hRead⟩ := h.exists_ofEntries hOrderly hTables
    have hTold := Partial.told_of_ofEntries hOrderly hTables hRead
    have hSame : q = p := Partial.ext_keys fun k =>
      Except.ok.inj ((hTold.known k).symm.trans (h.known k))
    rw [hRead, hSame]

end Config

end WorkerSim
