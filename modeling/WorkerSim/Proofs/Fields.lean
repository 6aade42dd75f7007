import Mathlib.Data.List.Basic
import WorkerSim.Proofs.Partial

/-!
# Fields by their keys

Every number and every switch of a configuration has a key in one of four tables. What the item at
that key says is all that decides about it: neither the order of the entries nor anything at another
key has a part in it.
-/

set_option autoImplicit false

namespace WorkerSim

open Toml

namespace Toml

theorem fitsUnsigned_toNat (n : UInt64) : fitsUnsigned 64 n.toNat = true := by
  have hLt : n.toNat < Nat.pow 2 64 := n.toNat_lt
  simp only [fitsUnsigned, Bool.and_eq_true, decide_eq_true_eq, Int.ofNat_eq_natCast]
  omega

theorem Item.number_of_scalar (span : Span) (n : UInt64) :
    Item.number ⟨span, .scalar (.integer (some n.toNat))⟩ = .ok n := by
  simp only [Item.number, fitsUnsigned_toNat, if_true, Int.toNat_natCast, UInt64.ofNat_toNat]

namespace Record

variable {α β γ δ : Type} {r : Record α}

/-- The item at a key decides a part of the record, and no item at another key touches it. -/
structure Governs (r : Record α) (key : List Char) (part : α → γ) (read : Item → Except Misfit γ) :
    Prop where
  here : ∀ a item, (r.assign a key item).map part = read item
  elsewhere : ∀ a k item b, k ≠ key → r.assign a k item = .ok b → part b = part a

/-- A field that does not touch a part of the record. -/
def Leaves (part : α → γ) (field : List Char × (Item → α → Except Misfit α)) : Prop :=
  ∀ item a b, field.2 item a = .ok b → part b = part a

variable {key : List Char} {part : α → γ} {read : Item → Except Misfit γ}

theorem map_eq_ok_iff {f : β → γ} {x : Except Misfit β} {c : γ} :
    x.map f = .ok c ↔ ∃ b, x = .ok b ∧ f b = c := by
  cases x with
  | error misfit => simp [Except.map]
  | ok b => simp [Except.map]

theorem leaves_field {find : Item → Except Misfit δ} {set : δ → α → α}
    (h : ∀ v a, part (set v a) = part a) :
    Leaves part (key, fun item a => (find item).map fun v => set v a) := by
  intro item a b hSet
  obtain ⟨v, -, rfl⟩ := map_eq_ok_iff.mp hSet
  exact h v a

theorem governs_field {find : Item → Except Misfit δ} {set : δ → α → α} {see : δ → γ}
    (hField : r.fields.lookup key = some fun item a => (find item).map fun v => set v a)
    (hSet : ∀ v a, part (set v a) = see v)
    (hOthers : r.fields.Forall fun field => field.1 = key ∨ Leaves part field) :
    Governs r key part fun item => (find item).map see := by
  constructor
  · intro a item
    rw [Record.assign, hField]
    cases hFind : find item with
    | error misfit => simp only [hFind, Except.map]
    | ok v => simp only [hFind, Except.map, hSet]
  · intro a k item b hKey hAssign
    rw [Record.assign] at hAssign
    cases hLookup : r.fields.lookup k with
    | none =>
      rw [hLookup] at hAssign
      obtain ⟨-, -, rfl⟩ := map_eq_ok_iff.mp hAssign
      rfl
    | some set' =>
      rw [hLookup] at hAssign
      obtain ⟨before, after, hFields, -⟩ := List.lookup_eq_some_iff.mp hLookup
      have hMem : (k, set') ∈ r.fields := by simp [hFields]
      obtain hSame | hLeaves := List.forall_iff_forall_mem.mp hOthers _ hMem
      · exact absurd hSame hKey
      · exact hLeaves item a b hAssign

namespace Governs

theorem comp (h : Governs r key part read) (see : γ → δ) :
    Governs r key (fun a => see (part a)) fun item => (read item).map see where
  here a item := by
    rw [← h.here a item]
    cases r.assign a key item <;> rfl
  elsewhere a k item b hKey hAssign := congrArg see (h.elsewhere a k item b hKey hAssign)

theorem assign_eq_ok (h : Governs r key part read) {item : Item} {v : γ} (hRead : read item = .ok v)
    (a : α) : ∃ b, r.assign a key item = .ok b := by
  obtain ⟨b, hAssign, -⟩ := map_eq_ok_iff.mp ((h.here a item).trans hRead)
  exact ⟨b, hAssign⟩

/-- A part is what all items at its key say it is, or what it was if there are none. -/
theorem part_eq (h : Governs r key part read) {entries : Entries} {a : α} {v : γ}
    (hRead : r.ofEntries entries = .ok a)
    (hItems : ∀ e ∈ entries, e.1 = key → read e.2 = .ok v)
    (hAbsent : (∀ e ∈ entries, e.1 ≠ key) → part r.start = v) : part a = v := by
  rw [Record.ofEntries] at hRead
  generalize r.start = start at hRead hAbsent
  induction entries generalizing start with
  | nil =>
    cases hRead
    exact hAbsent (by simp)
  | cons e entries ih =>
    rw [List.foldlM_cons] at hRead
    cases hAssign : r.assign start e.1 e.2 with
    | error misfit =>
      rw [hAssign] at hRead
      cases hRead
    | ok b =>
      rw [hAssign] at hRead
      refine ih (fun e' hMem => hItems e' (List.mem_cons_of_mem e hMem)) b hRead fun hNone => ?_
      -- no later entry is at the key, so this one has the last word or the start has
      by_cases hKey : e.1 = key
      · have hHere := hItems e List.mem_cons_self hKey
        rw [← h.here start, ← hKey, hAssign] at hHere
        exact Except.ok.inj hHere
      · rw [h.elsewhere start e.1 e.2 b hKey hAssign]
        exact hAbsent (List.forall_mem_cons.mpr ⟨hKey, hNone⟩)

end Governs

theorem exists_ofEntries_eq_ok {entries : Entries}
    (h : ∀ e ∈ entries, ∀ a, ∃ b, r.assign a e.1 e.2 = .ok b) : ∃ a, r.ofEntries entries = .ok a := by
  rw [Record.ofEntries]
  generalize r.start = start
  induction entries generalizing start with
  | nil => exact ⟨start, rfl⟩
  | cons e entries ih =>
    obtain ⟨b, hAssign⟩ := h e List.mem_cons_self start
    rw [List.foldlM_cons, hAssign]
    exact ih (fun e' hMem => h e' (List.mem_cons_of_mem e hMem)) b

end Record

end Toml

namespace Config

inductive Table
  | runaway
  | recovered
  | logging
  | monitoring
  deriving DecidableEq, Repr

inductive NumberKey
  | workloadSize
  | reportEvery
  | maxIterations
  | heartbeats
  | intervalMs
  deriving DecidableEq, Repr

inductive FlagKey
  | verbose
  | json
  | enabled
  deriving DecidableEq, Repr

namespace Table

def name : Table → String
  | runaway => "runaway"
  | recovered => "recovered"
  | logging => "logging"
  | monitoring => "monitoring"

def Part : Table → Type
  | runaway => Runaway.Partial
  | recovered => Recovered.Partial
  | logging => Logging.Partial
  | monitoring => Monitoring.Partial

def record : (t : Table) → Record t.Part
  | runaway => Runaway.Partial.record
  | recovered => Recovered.Partial.record
  | logging => Logging.Partial.record
  | monitoring => Monitoring.Partial.record

def part : (t : Table) → Config.Partial → t.Part
  | runaway => Config.Partial.runaway
  | recovered => Config.Partial.recovered
  | logging => Config.Partial.logging
  | monitoring => Config.Partial.monitoring

theorem name_injective {t u : Table} (h : t.name = u.name) : t = u := by
  revert h
  cases t <;> cases u <;> decide

theorem toList_name_injective : Function.Injective fun t : Table => t.name.toList :=
  fun _ _ hSame => name_injective (String.toList_injective hSame)

end Table

namespace NumberKey

def table : NumberKey → Table
  | workloadSize | reportEvery | maxIterations => .runaway
  | heartbeats | intervalMs => .recovered

def name : NumberKey → String
  | workloadSize => "workload_size"
  | reportEvery => "report_every"
  | maxIterations => "max_iterations"
  | heartbeats => "heartbeats"
  | intervalMs => "interval_ms"

def get : (k : NumberKey) → k.table.Part → Option UInt64
  | workloadSize => Runaway.Partial.workloadSize
  | reportEvery => Runaway.Partial.reportEvery
  | maxIterations => Runaway.Partial.maxIterations
  | heartbeats => Recovered.Partial.heartbeats
  | intervalMs => Recovered.Partial.intervalMs

end NumberKey

namespace FlagKey

def table : FlagKey → Table
  | verbose | json => .logging
  | enabled => .monitoring

def name : FlagKey → String
  | verbose => "verbose"
  | json => "json"
  | enabled => "enabled"

def get : (k : FlagKey) → k.table.Part → Option Bool
  | verbose => Logging.Partial.verbose
  | json => Logging.Partial.json
  | enabled => Monitoring.Partial.enabled

end FlagKey

inductive Key
  | number (k : NumberKey)
  | flag (k : FlagKey)
  deriving DecidableEq, Repr

namespace Key

def Value : Key → Type
  | number _ => UInt64
  | flag _ => Bool

def table : Key → Table
  | number k => k.table
  | flag k => k.table

def name : Key → String
  | number k => k.name
  | flag k => k.name

def get : (k : Key) → k.table.Part → Option k.Value
  | number k => k.get
  | flag k => k.get

def read : (k : Key) → Item → Except Misfit k.Value
  | number _ => Item.number
  | flag _ => Item.flag

def scalar : (k : Key) → k.Value → Scalar
  | number _, n => .integer (some (UInt64.toNat n))
  | flag _, b => .boolean b

theorem name_injective {k l : Key} (h : k.name = l.name) : k = l := by
  revert h
  cases k with
  | number k =>
    cases l with
    | number l => cases k <;> cases l <;> decide
    | flag l => cases k <;> cases l <;> decide
  | flag k =>
    cases l with
    | number l => cases k <;> cases l <;> decide
    | flag l => cases k <;> cases l <;> decide

theorem read_scalar (k : Key) (span : Span) (v : k.Value) :
    k.read ⟨span, .scalar (k.scalar v)⟩ = .ok v := by
  cases k with
  | number k => exact Item.number_of_scalar span v
  | flag k => rfl

theorem get_start (k : Key) : k.get k.table.record.start = none := by
  cases k with
  | number k => cases k <;> rfl
  | flag k => cases k <;> rfl

theorem get_part_start (k : Key) : k.get (k.table.part Partial.record.start) = none := by
  cases k with
  | number k => cases k <;> rfl
  | flag k => cases k <;> rfl

end Key

structure Setting where
  key : Key
  value : key.Value

namespace Setting

def number (k : NumberKey) (n : UInt64) : Setting := ⟨.number k, n⟩

def flag (k : FlagKey) (b : Bool) : Setting := ⟨.flag k, b⟩

def table (s : Setting) : Table := s.key.table

def name (s : Setting) : String := s.key.name

def scalar (s : Setting) : Scalar := s.key.scalar s.value

end Setting

namespace Partial

def get (p : Config.Partial) (k : Key) : Option k.Value := k.get (k.table.part p)

/-- The document of `p` gives this key this value. -/
def Sets (p : Config.Partial) (s : Setting) : Prop := p.get s.key = some s.value

theorem ext_keys {p q : Config.Partial} (h : ∀ k, p.get k = q.get k) : p = q := by
  obtain ⟨⟨w, r, m⟩, ⟨b, i⟩, ⟨v, j⟩, ⟨e⟩⟩ := p
  obtain ⟨⟨w', r', m'⟩, ⟨b', i'⟩, ⟨v', j'⟩, ⟨e'⟩⟩ := q
  obtain rfl : w = w' := h (.number .workloadSize)
  obtain rfl : r = r' := h (.number .reportEvery)
  obtain rfl : m = m' := h (.number .maxIterations)
  obtain rfl : b = b' := h (.number .heartbeats)
  obtain rfl : i = i' := h (.number .intervalMs)
  obtain rfl : v = v' := h (.flag .verbose)
  obtain rfl : j = j' := h (.flag .json)
  obtain rfl : e = e' := h (.flag .enabled)
  rfl

end Partial

open Record

theorem Table.governs (t : Table) : Governs Partial.record t.name.toList t.part t.record.read := by
  have hPart : Governs Partial.record t.name.toList t.part fun item => (t.record.read item).map id := by
    cases t with
    | runaway =>
      exact governs_field rfl (fun _ _ => rfl) ⟨.inl rfl, .inr (leaves_field fun _ _ => rfl),
        .inr (leaves_field fun _ _ => rfl), .inr (leaves_field fun _ _ => rfl)⟩
    | recovered =>
      exact governs_field rfl (fun _ _ => rfl) ⟨.inr (leaves_field fun _ _ => rfl), .inl rfl,
        .inr (leaves_field fun _ _ => rfl), .inr (leaves_field fun _ _ => rfl)⟩
    | logging =>
      exact governs_field rfl (fun _ _ => rfl) ⟨.inr (leaves_field fun _ _ => rfl),
        .inr (leaves_field fun _ _ => rfl), .inl rfl, .inr (leaves_field fun _ _ => rfl)⟩
    | monitoring =>
      exact governs_field rfl (fun _ _ => rfl) ⟨.inr (leaves_field fun _ _ => rfl),
        .inr (leaves_field fun _ _ => rfl), .inr (leaves_field fun _ _ => rfl), .inl rfl⟩
  simpa only [Except.map_id, id] using hPart

theorem NumberKey.governs (k : NumberKey) :
    Governs k.table.record k.name.toList k.get fun item => item.number.map some := by
  cases k with
  | workloadSize =>
    exact governs_field rfl (fun _ _ => rfl)
      ⟨.inl rfl, .inr (leaves_field fun _ _ => rfl), .inr (leaves_field fun _ _ => rfl)⟩
  | reportEvery =>
    exact governs_field rfl (fun _ _ => rfl)
      ⟨.inr (leaves_field fun _ _ => rfl), .inl rfl, .inr (leaves_field fun _ _ => rfl)⟩
  | maxIterations =>
    exact governs_field rfl (fun _ _ => rfl)
      ⟨.inr (leaves_field fun _ _ => rfl), .inr (leaves_field fun _ _ => rfl), .inl rfl⟩
  | heartbeats =>
    exact governs_field rfl (fun _ _ => rfl) ⟨.inl rfl, .inr (leaves_field fun _ _ => rfl)⟩
  | intervalMs =>
    exact governs_field rfl (fun _ _ => rfl) ⟨.inr (leaves_field fun _ _ => rfl), .inl rfl⟩

theorem FlagKey.governs (k : FlagKey) :
    Governs k.table.record k.name.toList k.get fun item => item.flag.map some := by
  cases k with
  | verbose =>
    exact governs_field rfl (fun _ _ => rfl) ⟨.inl rfl, .inr (leaves_field fun _ _ => rfl)⟩
  | json =>
    exact governs_field rfl (fun _ _ => rfl) ⟨.inr (leaves_field fun _ _ => rfl), .inl rfl⟩
  | enabled => exact governs_field rfl (fun _ _ => rfl) (.inl rfl)

theorem Key.governs (k : Key) :
    Governs k.table.record k.name.toList k.get fun item => (k.read item).map some := by
  cases k with
  | number k => exact k.governs
  | flag k => exact k.governs

/-- Entries that give each key of a table the value that `p` has for it, and hold nothing else. -/
structure Table.Shows (t : Table) (entries : Entries) (p : Config.Partial) : Prop where
  sound : ∀ e ∈ entries, ∃ s : Setting, s.table = t ∧ p.Sets s ∧
    e.1 = s.name.toList ∧ e.2.value = .scalar s.scalar
  complete : ∀ s : Setting, s.table = t → p.Sets s → ∃ e ∈ entries, e.1 = s.name.toList

/-- Entries with a table for every table that `p` sets something in. -/
structure Partial.Shown (p : Config.Partial) (entries : Entries) : Prop where
  sound : ∀ e ∈ entries, ∃ t : Table, e.1 = t.name.toList ∧
    ∃ standing inner, e.2.value = .table standing inner ∧ t.Shows inner p
  complete : ∀ s : Setting, p.Sets s → ∃ e ∈ entries, e.1 = s.table.name.toList

namespace Table.Shows

variable {t : Table} {entries : Entries} {p : Config.Partial}

theorem exists_read (h : t.Shows entries p) : ∃ part, t.record.ofEntries entries = .ok part := by
  refine exists_ofEntries_eq_ok fun e hMem part => ?_
  obtain ⟨s, rfl, -, hName, hValue⟩ := h.sound e hMem
  obtain ⟨key, span, value⟩ := e
  obtain rfl : key = s.name.toList := hName
  obtain rfl : value = .scalar s.scalar := hValue
  refine s.key.governs.assign_eq_ok (v := some s.value) ?_ part
  exact congrArg (Except.map some) (s.key.read_scalar span s.value)

theorem get_eq {k : Key} (h : k.table.Shows entries p) {part : k.table.Part}
    (hRead : k.table.record.ofEntries entries = .ok part) : k.get part = p.get k := by
  refine k.governs.part_eq hRead (fun e hMem hKey => ?_) fun hAbsent => ?_
  · obtain ⟨s, -, hSets, hName, hValue⟩ := h.sound e hMem
    obtain rfl : s.key = k := Key.name_injective (String.toList_injective (hName.symm.trans hKey))
    obtain ⟨key, span, value⟩ := e
    obtain rfl : value = .scalar s.scalar := hValue
    have hSets : p.get s.key = some s.value := hSets
    have hScalar : s.key.read ⟨span, .scalar s.scalar⟩ = .ok s.value := s.key.read_scalar span s.value
    rw [hScalar, hSets]
    rfl
  · rw [Key.get_start]
    cases hGet : p.get k with
    | none => rfl
    | some v =>
      obtain ⟨e, hMem, hKey⟩ := h.complete ⟨k, v⟩ rfl hGet
      exact absurd hKey (hAbsent e hMem)

end Table.Shows

/-- What entries show is what is read from them. -/
theorem Partial.Shown.ofEntries_eq_ok {p : Config.Partial} {entries : Entries} (h : p.Shown entries) :
    Partial.record.ofEntries entries = .ok p := by
  have hTable (e : List Char × Item) (hMem : e ∈ entries) (t : Table) (hKey : e.1 = t.name.toList) :
      ∃ inner, t.Shows inner p ∧ t.record.read e.2 = t.record.ofEntries inner := by
    obtain ⟨u, hName, standing, inner, hValue, hShows⟩ := h.sound e hMem
    obtain rfl : t = u := Table.name_injective (String.toList_injective (hKey.symm.trans hName))
    refine ⟨inner, hShows, ?_⟩
    rw [Record.read, hValue]
  obtain ⟨q, hRead⟩ : ∃ q, Partial.record.ofEntries entries = .ok q := by
    refine exists_ofEntries_eq_ok fun e hMem q => ?_
    obtain ⟨t, hKey, -⟩ := h.sound e hMem
    obtain ⟨inner, hShows, hInner⟩ := hTable e hMem t hKey
    obtain ⟨part, hPart⟩ := hShows.exists_read
    rw [hKey]
    exact t.governs.assign_eq_ok (hInner.trans hPart) q
  have hEq : q = p := by
    -- what a key governs in its table, it governs through its table in the whole
    refine ext_keys fun k => ?_
    refine (k.table.governs.comp k.get).part_eq hRead (fun e hMem hKey => ?_) fun hAbsent => ?_
    · obtain ⟨inner, hShows, hInner⟩ := hTable e hMem k.table hKey
      obtain ⟨part, hPart⟩ := hShows.exists_read
      rw [hInner, hPart, ← hShows.get_eq hPart]
      rfl
    · rw [Key.get_part_start]
      cases hGet : p.get k with
      | none => rfl
      | some v =>
        obtain ⟨e, hMem, hKey⟩ := h.complete ⟨k, v⟩ hGet
        exact absurd hKey (hAbsent e hMem)
  rw [hRead, hEq]

end Config

end WorkerSim
