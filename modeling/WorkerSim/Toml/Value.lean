import WorkerSim.Toml.Scalar

/-!
# Values and tables

A value is a single value, a list, or a table. Every value carries the stretch of the document that
it was written in. The entries of a table are kept in ascending order of their keys, each key once.
How a table came about decides whether later parts of the document may add to it.
-/

set_option autoImplicit false

namespace WorkerSim.Toml

/-- A stretch of the document, given by what is left of the document at its start and at its end. -/
structure Span where
  start : List Char
  stop : List Char
  deriving DecidableEq, Repr, Inhabited

structure Placed (α : Type) where
  span : Span
  value : α
  deriving Repr

/-- How a table came about: as the beginning of a header's path or of a dotted key, under a header
of its own, or between braces. -/
inductive Standing
  | implied
  | dotted
  | headed
  | inline
  deriving DecidableEq, Repr

/-- A series is a list of tables under headers of their own. It grows, and there is always a latest
table; the others are kept from the latest to the first. -/
inductive Value
  | scalar (value : Scalar)
  | list (items : List (Placed Value))
  | series (latest : Placed Value) (others : List (Placed Value))
  | table (standing : Standing) (entries : List (List Char × Placed Value))
  deriving Repr

abbrev Item := Placed Value

abbrev Entries := List (List Char × Item)

/-- One segment of a key path. -/
abbrev Key := Placed (List Char)

namespace Entries

def get? (key : List Char) (es : Entries) : Option Item := es.lookup key

/-- The order of keys: by the first character in which they differ, and a key comes before those that
it begins. -/
def order : List Char → List Char → Ordering
  | [], [] => .eq
  | [], _ :: _ => .lt
  | _ :: _, [] => .gt
  | a :: as, b :: bs => if a = b then order as bs else if a < b then .lt else .gt

/-- Puts an item in its place, over an item that the key may have had. -/
def put (key : List Char) (item : Item) : Entries → Entries
  | [] => [(key, item)]
  | (k, v) :: es =>
    match order key k with
    | .lt => (key, item) :: (k, v) :: es
    | .eq => (key, item) :: es
    | .gt => (k, v) :: put key item es

theorem order_eq_eq_iff (key k : List Char) : order key k = .eq ↔ key = k := by
  fun_induction order key k <;> grind

@[simp]
theorem get?_nil (key : List Char) : get? key [] = none := rfl

theorem get?_cons (key k : List Char) (item : Item) (es : Entries) :
    get? key ((k, item) :: es) = if key = k then some item else get? key es := by
  by_cases h : key = k
  · simp [get?, h]
  · have hb : (key == k) = false := by simpa using h
    simp [get?, List.lookup_cons, hb, h]

theorem get?_put (key k : List Char) (item : Item) (es : Entries) :
    get? k (put key item es) = if k = key then some item else get? k es := by
  induction es with
  | nil => simp [put, get?_cons]
  | cons e es ih =>
    obtain ⟨k', v⟩ := e
    rw [put]
    split
    · rw [get?_cons]
    · rename_i h
      rw [order_eq_eq_iff] at h
      subst h
      by_cases h : k = key <;> simp [get?_cons, h]
    · rename_i h
      have hne : key ≠ k' := fun he => by simp [(order_eq_eq_iff key k').mpr he] at h
      rw [get?_cons, get?_cons, ih]
      by_cases hk : k = k'
      · subst hk
        simp [Ne.symm hne]
      · simp [hk]

/-- Puts an item at the end of a dotted path below these entries. Tables on the way are made as
needed, and a series is passed through its latest table. A table that has been made otherwise
than on a path is not passed through, and only one that dotted keys have made is added to. -/
def assign (item : Item) : List Key → Entries → Option Entries
  | [], _ => none
  | [key], es => if (get? key.value es).isSome then none else some (put key.value item es)
  | key :: path, es =>
    match get? key.value es with
    | none =>
      (assign item path []).map fun inner =>
        put key.value ⟨key.span, .table .dotted inner⟩ es
    | some ⟨span, .table standing inner⟩ =>
      if standing = .dotted ∨ (standing = .implied ∧ path.length ≠ 1) then
        (assign item path inner).map fun inner => put key.value ⟨span, .table standing inner⟩ es
      else none
    | some ⟨span, .series ⟨latest, .table standing inner⟩ others⟩ =>
      if path.length = 1 then none
      else (assign item path inner).map fun inner =>
        put key.value ⟨span, .series ⟨latest, .table standing inner⟩ others⟩ es
    | some _ => none

/-- The entries that a row of assignments makes, on top of those that are there. -/
def assignAll (es : Entries) (pairs : List (List Key × Item)) : Option Entries :=
  pairs.foldlM (fun es pair => assign pair.2 pair.1 es) es

end Entries

end WorkerSim.Toml
