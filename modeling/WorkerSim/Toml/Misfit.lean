import WorkerSim.Binary64
import WorkerSim.Numeral
import WorkerSim.Text.Quoted
import WorkerSim.Toml.Value

/-!
# Values that do not fit

A value is a misfit if it is not what its key asks for, or if its number lies outside every type that
could hold it. The latter is an error wherever the value stands, known key or not.
-/

set_option autoImplicit false

namespace WorkerSim.Toml

inductive Expectation
  | number
  | flag
  | record (name : String)
  deriving DecidableEq, Repr

def Expectation.text : Expectation → String
  | number => "u64"
  | flag => "a boolean"
  | record name => "struct " ++ name

inductive Reason
  | wrongType (found : List Char) (expected : Expectation)
  | negative (value : Int)
  | integerOverflow
  | realOverflow
  deriving DecidableEq, Repr

/-- Whether so many bits hold a number that has no sign. -/
def fitsUnsigned (bits : Nat) (n : Int) : Bool := 0 ≤ n && n < Int.ofNat (Nat.pow 2 bits)

/-- Whether so many bits, one of them for the sign, hold a number. -/
def fitsSigned (bits : Nat) (n : Int) : Bool :=
  -Int.ofNat (Nat.pow 2 (bits - 1)) ≤ n && n < Int.ofNat (Nat.pow 2 (bits - 1))

/-- Integers of up to 128 bits can be told apart; the name of the type that is needed is shown for
those that need more than 64. -/
def integerSuffix? (n : Int) : Option String :=
  if fitsSigned 64 n || fitsUnsigned 64 n then some ""
  else if fitsSigned 128 n then some " as i128"
  else if fitsUnsigned 128 n then some " as u128"
  else none

def integerChars (n : Int) : List Char :=
  if n < 0 then '-' :: Numeral.digits n.natAbs else Numeral.digits n.natAbs

/-- A description with its value between grave accents. -/
def described (kind : String) (value : List Char) : List Char :=
  kind.toList ++ " \x60".toList ++ value ++ "\x60".toList

def Real.describe : Real → Except Reason (List Char)
  | nan => .ok "NaN".toList
  | infinite negative => .ok (if negative then "-inf".toList else "inf".toList)
  | decimal negative mantissa exponent =>
    match Binary64.ofDecimal? mantissa exponent with
    | some x => .ok (if negative then '-' :: x.chars else x.chars)
    | none => .error .realOverflow

/-- What a single value is called when it is out of place. -/
def Scalar.describe : Scalar → Except Reason (List Char)
  | integer none => .error .integerOverflow
  | integer (some n) =>
    match integerSuffix? n with
    | some suffix => .ok (described "integer" (integerChars n) ++ suffix.toList)
    | none => .error .integerOverflow
  | real x => (described "floating point") <$> x.describe
  | boolean b => .ok (described "boolean" (if b then "true".toList else "false".toList))
  | text cs => .ok ("string ".toList ++ Text.quoted cs)
  | moment => .ok "map".toList

def Value.describe : Value → Except Reason (List Char)
  | scalar s => s.describe
  | list _ | series _ _ => .ok "sequence".toList
  | table _ _ => .ok "map".toList

def Reason.text : Reason → List Char
  | wrongType found expected =>
    "invalid type: ".toList ++ found ++ ", expected ".toList ++ expected.text.toList
  | negative n =>
    "invalid value: ".toList ++ described "integer" (integerChars n) ++ ", expected u64".toList
  | integerOverflow => "integer number overflowed".toList
  | realOverflow => "floating-point number overflowed".toList

structure Misfit where
  span : Span
  reason : Reason
  deriving DecidableEq, Repr

namespace Item

def misfit {α : Type} (item : Item) (reason : Reason) : Except Misfit α :=
  .error ⟨item.span, reason⟩

/-- The error of a value where something else is expected. -/
def unexpected {α : Type} (item : Item) (expected : Expectation) : Except Misfit α :=
  match item.value.describe with
  | .ok found => misfit item (.wrongType found expected)
  | .error reason => misfit item reason

/-- A whole number of 64 bits without sign. -/
def number (item : Item) : Except Misfit UInt64 :=
  match item.value with
  | .scalar (.integer (some n)) =>
    if fitsUnsigned 64 n then .ok (UInt64.ofNat n.toNat)
    else if fitsSigned 64 n then misfit item (.negative n)
    else unexpected item .number
  | _ => unexpected item .number

def flag (item : Item) : Except Misfit Bool :=
  match item.value with
  | .scalar (.boolean b) => .ok b
  | _ => unexpected item .flag

end Item

mutual

/-- Succeeds on a value that is passed over: all of its numbers are representable. The first one
that is not, in the order of the lists and of the keys, is the error. -/
def Value.passOver (span : Span) : Value → Except Misfit Unit
  | .scalar s =>
    match s.describe with
    | .ok _ => .ok ()
    | .error reason => .error ⟨span, reason⟩
  | .list items => passOverItems items
  | .series ⟨latest, value⟩ others => passOverBefore (value.passOver latest) others
  | .table _ entries => passOverEntries entries

def passOverItems : List (Placed Value) → Except Misfit Unit
  | [] => .ok ()
  | ⟨span, value⟩ :: items => do
    value.passOver span
    passOverItems items

/-- The first error of items that are given from the last to the first, or of what comes after. -/
def passOverBefore (after : Except Misfit Unit) : List (Placed Value) → Except Misfit Unit
  | [] => after
  | ⟨span, value⟩ :: items =>
    match value.passOver span with
    | .ok () => passOverBefore after items
    | .error misfit => passOverBefore (.error misfit) items

def passOverEntries : List (List Char × Placed Value) → Except Misfit Unit
  | [] => .ok ()
  | (_, ⟨span, value⟩) :: entries => do
    value.passOver span
    passOverEntries entries

end

/-- How a record is read: its name in errors, the values that it starts from, and its fields in
order, each with what it does with an item. -/
structure Record (α : Type) where
  name : String
  start : α
  fields : List (List Char × (Item → α → Except Misfit α))

namespace Record

def assign {α : Type} (r : Record α) (a : α) (key : List Char) (item : Item) : Except Misfit α :=
  match r.fields.lookup key with
  | some set => set item a
  | none => (item.value.passOver item.span).map fun _ => a

/-- Reads entries in ascending order of their keys; unknown ones are passed over. -/
def ofEntries {α : Type} (r : Record α) (entries : Entries) : Except Misfit α :=
  entries.foldlM (fun a e => r.assign a e.1 e.2) r.start

/-- Reads items by position, what exceeds the fields left out. -/
def ofItems {α : Type} (r : Record α) (items : List Item) : Except Misfit α :=
  r.ofEntries ((r.fields.map Prod.fst).zip items)

/-- Reads a table by its keys and a list by position. A date is a table without known keys. -/
def read {α : Type} (r : Record α) (item : Item) : Except Misfit α :=
  match item.value with
  | .table _ entries => r.ofEntries entries
  | .list items => r.ofItems items
  | .series latest others => r.ofItems (others.reverse ++ [latest])
  | .scalar .moment => .ok r.start
  | .scalar _ => Item.unexpected item (.record r.name)

end Record

end WorkerSim.Toml
