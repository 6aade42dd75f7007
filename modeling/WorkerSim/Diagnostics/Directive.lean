import WorkerSim.Diagnostics.Event
import WorkerSim.Diagnostics.Pattern
import WorkerSim.Text.Indented

/-!
# Directives

A directive sets the limit for some of the events: for all of them, for those from targets that
begin with a word, for those that have a field. It may also ask for a span around an event or for
the value of a field; then it is none of any event's concern, since events stand alone and values
are only compared in spans. A level alone is a directive, and so is a word alone, which lets
everything from its targets through.
-/

set_option autoImplicit false

namespace WorkerSim

/-- What a directive asks for besides the target. -/
inductive Demand
  | nothing
  | field (name : List Char)
  | span
  deriving DecidableEq, Repr

/-- A limit of zero lets nothing through. -/
structure Directive where
  target : List Char
  demand : Demand := .nothing
  limit : Nat
  deriving DecidableEq, Repr

namespace Demand

def isMet (d : Demand) (e : Event) : Bool :=
  match d with
  | nothing => true
  | field name => name = "message".toList || e.fields.any fun f => f.1.toList = name
  | span => false

/-- Whether a demand is no more specific than another; of two fields, the one that comes first in
the alphabet is not. -/
def isUpTo : Demand → Demand → Bool
  | nothing, _ => true
  | field a, field b => !decide (b < a)
  | field _, nothing => false
  | _, span => true
  | span, _ => false

end Demand

namespace Directive

def everything : Nat := 5

def limits : List (String × Nat) :=
  [("off", 0), ("error", 1), ("warn", 2), ("info", 3), ("debug", 4), ("trace", 5)]

/-- The limit that a word in upper or lower case or a number stands for. -/
def limit? (word : List Char) : Option Nat :=
  match limits.lookup (String.ofList (word.map Char.toLower)), Numeral.read64 word with
  | some limit, _ => some limit
  | none, .ok n => if n.toNat ≤ everything then some n.toNat else none
  | none, .error _ => none

/-- The parts of a directive; a level is what follows an equals sign. -/
structure Shape where
  target : List Char
  demand : Demand
  level? : Option (List Char)
  deriving DecidableEq, Repr

def isWordStart (c : Char) : Bool := c == '_' || c == ':' || c == '-' || Text.isAlphanumeric c

/-- A directive whose brackets are closed: only a level may follow. -/
def Shape.closed? (source : Text.Indented) (target : List Char) (demand : Demand)
    (cs : List Char) : Option Shape :=
  if Text.isBlankText cs then some ⟨target, demand, none⟩
  else match cs with
    | '=' :: rest => (source.from? rest).map fun level => ⟨target, demand, some level⟩
    | _ => none

/-- The value that a field is to have, between its first two equals signs. -/
def fieldValue? (field : List Char) : Option (List Char) :=
  match field.dropWhile (· != '=') with
  | [] => none
  | _ :: rest => some (rest.takeWhile (· != '='))

/-- The demand of a span's name and a field in braces. Without a name and a value, the field alone is
asked for. -/
def fieldDemand? (span field : List Char) : Option Demand :=
  if field.isEmpty then none
  else match fieldValue? field with
    | some value => if Pattern.isPattern value then some .span else none
    | none => some (if span.isEmpty then .field field else .span)

/-- A directive after its opening bracket. -/
def Shape.bracketed? (source : Text.Indented) (target cs : List Char) : Option Shape :=
  let span := cs.takeWhile fun c => c != ']' && c != '\x7b'
  match cs.dropWhile fun c => c != ']' && c != '\x7b' with
  | ']' :: rest => closed? source target .span rest
  | _ :: field =>
    let brace := field.dropWhile (· != '\x7d')
    match brace, (source.cut? field brace).bind (fieldDemand? span) with
    | _ :: ']' :: rest, some demand => closed? source target demand rest
    | _, _ => none
  | [] => none

def isWordEnd (c : Char) : Bool := c == '=' || c == '['

/-- The shape of a directive. A word alone is the whole text, blanks and all. -/
def Shape.of? (source : Text.Indented) : Option Shape :=
  match source.body with
  | [] => none
  | c :: cs =>
    if c != '[' && !isWordStart c then none
    else
      let rest := (c :: cs).dropWhile (!isWordEnd ·)
      match rest, source.cut? (c :: cs) rest with
      | [], _ => some ⟨source.text, .nothing, none⟩
      | '=' :: level, some target =>
        (source.from? level).map fun level => ⟨target, .nothing, some level⟩
      | _ :: span, some target => bracketed? source target span
      | _, none => none

/-- Reads a directive. Its parts are cut from the text with its blanks in front, so after blanks a
target begins with one and a level holds its equals sign. An empty level lets everything through. -/
def ofText? (cs : List Char) : Option Directive :=
  match Shape.of? ⟨cs⟩ with
  | none => none
  | some ⟨target, demand, some level⟩ =>
    if level.isEmpty then some ⟨target, demand, everything⟩
    else (limit? level).map fun limit => ⟨target, demand, limit⟩
  | some ⟨target, .nothing, none⟩ =>
    match limit? target with
    | some limit => some ⟨[], .nothing, limit⟩
    | none => some ⟨target, .nothing, everything⟩
  | some ⟨target, demand, none⟩ => some ⟨target, demand, everything⟩

def fits (d : Directive) (e : Event) : Bool :=
  d.target.isPrefixOf e.target.toList && d.demand.isMet e

/-- Whether a directive is no more specific than another that fits the same event. -/
def isUpTo (a b : Directive) : Bool :=
  if a.target.length = b.target.length then a.demand.isUpTo b.demand
  else a.target.length < b.target.length

end Directive

end WorkerSim
