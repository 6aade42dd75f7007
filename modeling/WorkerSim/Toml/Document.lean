import WorkerSim.Toml.Reader

/-!
# Documents

A document is a row of sections: pairs before the first header, then a header and its pairs, and so
on. Each section's table is put in its place below the root. A path of a header leads through tables
however they were made, except those between braces, and through the latest table of a series.
-/

set_option autoImplicit false

namespace WorkerSim.Toml

/-- A header and the pairs that follow it. -/
structure Section where
  path : List Key
  span : Span
  repeats : Bool
  pairs : List (List Key × Item)
  deriving Repr

namespace Section

/-- The pairs before the first header, and the sections behind. -/
def split : List Statement → List (List Key × Item) × List Section
  | [] => ([], [])
  | .pair path item :: rest => ((path, item) :: (split rest).1, (split rest).2)
  | .header path span :: rest => ([], ⟨path, span, false, (split rest).1⟩ :: (split rest).2)
  | .element path span :: rest => ([], ⟨path, span, true, (split rest).1⟩ :: (split rest).2)

/-- The item that a section makes of what stands at its path. A table under a header is made once,
unless it was only implied; a series gets one more table. -/
def place (s : Section) : Option Item → Option Item
  | none => do
    let es ← Entries.assignAll [] s.pairs
    let table : Item := ⟨s.span, .table .headed es⟩
    some (if s.repeats then ⟨s.span, .series table []⟩ else table)
  | some ⟨_, .table .implied es⟩ => do
    if s.repeats then none
    else some ⟨s.span, .table .headed (← Entries.assignAll es s.pairs)⟩
  | some ⟨span, .series latest others⟩ => do
    if s.repeats then
      let es ← Entries.assignAll [] s.pairs
      some ⟨span, .series ⟨s.span, .table .headed es⟩ (latest :: others)⟩
    else none
  | some _ => none

/-- Changes the item at a header's path. -/
def update (f : Option Item → Option Item) : List Key → Entries → Option Entries
  | [], _ => none
  | [key], es => (f (es.get? key.value)).map fun item => es.put key.value item
  | key :: path, es =>
    match es.get? key.value with
    | none =>
      (update f path []).map fun inner => es.put key.value ⟨key.span, .table .implied inner⟩
    | some ⟨span, .table standing inner⟩ =>
      if standing = .inline then none
      else (update f path inner).map fun inner => es.put key.value ⟨span, .table standing inner⟩
    | some ⟨span, .series ⟨latest, .table standing inner⟩ others⟩ =>
      (update f path inner).map fun inner =>
        es.put key.value ⟨span, .series ⟨latest, .table standing inner⟩ others⟩
    | some _ => none

end Section

namespace Document

/-- The root's entries that a row of statements makes. -/
def ofStatements? (statements : List Statement) : Option Entries := do
  let (pairs, sections) := Section.split statements
  let root ← Entries.assignAll [] pairs
  sections.foldlM (fun root s => Section.update s.place s.path root) root

/-- A mark at the very start that tells the byte order is passed over. -/
def afterByteOrderMark : List Char → List Char
  | c :: rest => if c = Char.ofNat 0xFEFF then rest else c :: rest
  | [] => []

/-- The entries of the document's root, unless the text is no document. -/
def ofText? (text : List Char) : Option Entries :=
  (Statement.readAll? (afterByteOrderMark text)).bind ofStatements?

end Document

end WorkerSim.Toml
