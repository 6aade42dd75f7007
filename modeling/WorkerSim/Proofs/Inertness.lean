import WorkerSim.Proofs.Known
import WorkerSim.Proofs.Muting

/-!
# Unknown configuration

A document describes a configuration by what stands at the known keys. Whatever else it holds, at any
depth and in any order, has no part in it, as long as its numbers are representable.
-/

set_option autoImplicit false

namespace WorkerSim

open Toml

namespace Toml

/-! ### Representable values -/

def Scalar.Representable : Scalar → Prop
  | .integer value => ∃ n, value = some n ∧ -(Nat.pow 2 127 : Int) ≤ n ∧ n < (Nat.pow 2 128 : Int)
  | .real (.decimal _ mantissa exponent) => ∃ x, Binary64.ofDecimal? mantissa exponent = some x
  | .real .nan | .real (.infinite _) | .boolean _ | .text _ | .moment => True

/-- The numbers in a value, at any depth, are representable. -/
inductive Value.Representable : Value → Prop
  | scalar {s : Scalar} : s.Representable → Representable (.scalar s)
  | list {items : List Item} : (∀ item ∈ items, Representable item.value) → Representable (.list items)
  | series {latest : Item} {others : List Item} : Representable latest.value →
      (∀ item ∈ others, Representable item.value) → Representable (.series latest others)
  | table {standing : Standing} {es : Entries} : (∀ e ∈ es, Representable e.2.value) →
      Representable (.table standing es)

theorem integerSuffix?_of_bounds {n : Int} (hLow : -(Nat.pow 2 127 : Int) ≤ n)
    (hHigh : n < (Nat.pow 2 128 : Int)) : ∃ suffix, integerSuffix? n = some suffix := by
  rw [integerSuffix?]
  split
  · exact ⟨_, rfl⟩
  · split
    · exact ⟨_, rfl⟩
    · rename_i h
      have hUnsigned : fitsUnsigned 128 n = true := by
        simp only [fitsSigned, fitsUnsigned, Bool.and_eq_true, decide_eq_true_eq, Int.ofNat_eq_natCast] at h ⊢
        have hHalf : Nat.pow 2 (128 - 1) = Nat.pow 2 127 := rfl
        have hPositive : 0 < Nat.pow 2 127 := by decide
        rw [hHalf] at h
        omega
      rw [hUnsigned]
      exact ⟨_, rfl⟩

theorem Scalar.Representable.exists_describe {s : Scalar} (h : s.Representable) :
    ∃ found, s.describe = .ok found := by
  cases s with
  | integer value =>
    obtain ⟨n, rfl, hLow, hHigh⟩ := h
    obtain ⟨suffix, hSuffix⟩ := integerSuffix?_of_bounds hLow hHigh
    simp only [Scalar.describe, hSuffix]
    exact ⟨_, rfl⟩
  | real x =>
    cases x with
    | decimal negative mantissa exponent =>
      obtain ⟨y, hNearest⟩ := h
      simp only [Scalar.describe, Real.describe, hNearest]
      exact ⟨_, rfl⟩
    | nan | infinite _ => exact ⟨_, rfl⟩
  | boolean _ | text _ | moment => exact ⟨_, rfl⟩

theorem passOverItems_eq_ok {items : List Item}
    (h : ∀ item ∈ items, ∀ span, item.value.passOver span = .ok ()) : passOverItems items = .ok () := by
  induction items with
  | nil => rw [passOverItems]
  | cons item items ih =>
    obtain ⟨hFirst, hRest⟩ := List.forall_mem_cons.mp h
    rw [passOverItems, hFirst]
    exact ih hRest

theorem passOverBefore_eq_ok {items : List Item}
    (h : ∀ item ∈ items, ∀ span, item.value.passOver span = .ok ()) :
    passOverBefore (.ok ()) items = .ok () := by
  induction items with
  | nil => rw [passOverBefore]
  | cons item items ih =>
    obtain ⟨hFirst, hRest⟩ := List.forall_mem_cons.mp h
    rw [passOverBefore, hFirst]
    exact ih hRest

theorem passOverEntries_eq_ok {es : Entries}
    (h : ∀ e ∈ es, ∀ span, e.2.value.passOver span = .ok ()) : passOverEntries es = .ok () := by
  induction es with
  | nil => rw [passOverEntries]
  | cons e es ih =>
    obtain ⟨hFirst, hRest⟩ := List.forall_mem_cons.mp h
    rw [passOverEntries, hFirst]
    exact ih hRest

/-- A representable value can be passed over, wherever it stands. -/
theorem Value.Representable.passOver {v : Value} (h : v.Representable) (span : Span) :
    v.passOver span = .ok () := by
  induction h generalizing span with
  | scalar hScalar =>
    obtain ⟨found, hFound⟩ := hScalar.exists_describe
    rw [Value.passOver, hFound]
  | list _ ih =>
    rw [Value.passOver]
    exact passOverItems_eq_ok ih
  | series _ _ ihLatest ihOthers =>
    rw [Value.passOver, ihLatest]
    exact passOverBefore_eq_ok ihOthers
  | table _ ih =>
    rw [Value.passOver]
    exact passOverEntries_eq_ok ih

end Toml

/-! ### What a document describes -/

namespace Config

/-- What a value is to a configuration: its type, and of a number or a switch its value. -/
inductive Kind
  | integer (value : Option Int)
  | boolean (value : Bool)
  | real
  | text
  | moment
  | list
  | table
  deriving DecidableEq, Repr

def kind : Value → Kind
  | .scalar (.integer value) => .integer value
  | .scalar (.boolean value) => .boolean value
  | .scalar (.real _) => .real
  | .scalar (.text _) => .text
  | .scalar .moment => .moment
  | .list _ | .series _ _ => .list
  | .table _ _ => .table

namespace Kind

/-- A whole number that is not negative and below `2 ^ 64`. -/
def number? : Kind → Option UInt64
  | .integer (some n) =>
    if 0 ≤ n ∧ n < (UInt64.size : Int) then some (UInt64.ofNat n.toNat) else none
  | _ => none

def flag? : Kind → Option Bool
  | .boolean b => some b
  | _ => none

end Kind

theorem toOption_number (item : Item) : item.number.toOption = (kind item.value).number? := by
  obtain ⟨span, value⟩ := item
  cases value with
  | scalar s =>
    cases s with
    | integer n? =>
      cases n? with
      | none => simp only [Item.number, kind, Kind.number?, Item.toOption_unexpected]
      | some n =>
        have hRange : fitsUnsigned 64 n = true ↔ 0 ≤ n ∧ n < (UInt64.size : Int) := by
          rw [fitsUnsigned, Bool.and_eq_true, decide_eq_true_eq, decide_eq_true_eq]
          rfl
        simp only [Item.number, kind, Kind.number?, hRange]
        split
        · rfl
        · split
          · rfl
          · exact Item.toOption_unexpected _ _
    | _ => simp only [Item.number, kind, Kind.number?, Item.toOption_unexpected]
  | _ => simp only [Item.number, kind, Kind.number?, Item.toOption_unexpected]

theorem toOption_flag (item : Item) : item.flag.toOption = (kind item.value).flag? := by
  obtain ⟨span, value⟩ := item
  cases value with
  | scalar s =>
    cases s with
    | boolean b => rfl
    | _ => simp only [Item.flag, kind, Kind.flag?, Item.toOption_unexpected]
  | _ => simp only [Item.flag, kind, Kind.flag?, Item.toOption_unexpected]

namespace Key

/-- What a key makes of a value, if it is one for it. -/
def take? : (k : Key) → Kind → Option k.Value
  | number _ => Kind.number?
  | flag _ => Kind.flag?

theorem toOption_read (k : Key) (item : Item) : (k.read item).toOption = k.take? (kind item.value) := by
  cases k with
  | number k => exact toOption_number item
  | flag k => exact toOption_flag item

def kind? (k : Key) (root : Entries) : Option Kind := (k.item? root).map fun item => kind item.value

theorem find_eq_ok_iff {k : Key} {root : Entries} {v? : Option k.Value} :
    k.find root = .ok v? ↔
      (k.kind? root = none ∧ v? = none) ∨
        ∃ seen v, k.kind? root = some seen ∧ k.take? seen = some v ∧ v? = some v := by
  rw [find, kind?]
  cases k.item? root with
  | none => simp [eq_comm]
  | some item =>
    have hRead := k.toOption_read item
    cases hItem : k.read item with
    | error misfit =>
      rw [hItem] at hRead
      simp [hItem, ← hRead, Except.map, Except.toOption]
    | ok v =>
      rw [hItem] at hRead
      simp [hItem, ← hRead, Except.map, Except.toOption, eq_comm]

end Key

namespace Partial

/-- What sets at each key what a function gives for it. -/
def ofKeys (f : (k : Key) → Option k.Value) : Config.Partial where
  runaway := ⟨f (.number .workloadSize), f (.number .reportEvery), f (.number .maxIterations)⟩
  recovered := ⟨f (.number .heartbeats), f (.number .intervalMs)⟩
  logging := ⟨f (.flag .verbose), f (.flag .json)⟩
  monitoring := ⟨f (.flag .enabled)⟩

theorem get_ofKeys (f : (k : Key) → Option k.Value) (k : Key) : (ofKeys f).get k = f k := by
  cases k with
  | number k => cases k <;> rfl
  | flag k => cases k <;> rfl

end Partial

/-- What the known keys of a root set. -/
def known (root : Entries) : Config.Partial :=
  Partial.ofKeys fun k => (k.kind? root).bind k.take?

/-- The text is a document with this root, its four tables are tables as far as they are there, and all
that is unknown in it is representable. -/
structure Describes (env : Environment) (text : List Char) (root : Entries) : Prop where
  document : Document.ofText? (Placeholder.substitute env.text? text) = some root
  tables : HasTables root
  representable : ∀ item, Unknown root item → item.value.Representable

namespace Describes

variable {env env' : Environment} {text text' : List Char} {root root' : Entries}

theorem ofText_eq_ok (h : Describes env text root)
    (hTaken : ∀ (k : Key) seen, k.kind? root = some seen → k.take? seen ≠ none) :
    Config.ofText env text = .ok (known root).config := by
  have hTold : (known root).Told root := by
    refine ⟨fun k => ?_, fun item hUnknown => (h.representable item hUnknown).passOver _⟩
    rw [Key.find_eq_ok_iff, known, Partial.get_ofKeys]
    cases hKind : k.kind? root with
    | none => exact .inl ⟨rfl, rfl⟩
    | some seen =>
      obtain ⟨v, hValue⟩ := Option.ne_none_iff_exists'.mp (hTaken k seen hKind)
      exact .inr ⟨seen, v, rfl, hValue, hValue⟩
  have hRead := (Partial.ofEntries_eq_ok_iff (Document.orderly_of_ofText? h.document) h.tables).mpr hTold
  rw [Config.ofText_eq_map, Record.ofText, Record.ofDocument, h.document]
  simp only [hRead]
  rfl

theorem ofText_eq_error (h : Describes env text root) {k : Key} {seen : Kind}
    (hKind : k.kind? root = some seen) (hTaken : k.take? seen = none) :
    ∃ report, Config.ofText env text = .error (.config (.misfit report)) := by
  rw [Config.ofText_eq_map, Record.ofText, Record.ofDocument, h.document]
  cases hRead : Partial.record.ofEntries root with
  | error misfit =>
    simp only [hRead]
    exact ⟨_, rfl⟩
  | ok p =>
    have hTold := (Partial.ofEntries_eq_ok_iff (Document.orderly_of_ofText? h.document) h.tables).mp hRead
    obtain ⟨hNone, -⟩ | ⟨_, v, hSome, hValue, -⟩ := Key.find_eq_ok_iff.mp (hTold.known k)
    · rw [hNone] at hKind
      cases hKind
    · obtain rfl := Option.some.inj (hKind.symm.trans hSome)
      rw [hTaken] at hValue
      cases hValue

end Describes

end Config

end WorkerSim
