import WorkerSim.Fault

/-!
# Files

To a program, files are what comes of reading them by path. In a tree of directories a path is
followed name by name from the working directory, or from the root if it starts with a slash, and
every name but the last has to lead to a directory.
-/

set_option autoImplicit false

namespace WorkerSim

/-- What comes of reading the file at a path. -/
abbrev FileSystem := List Char → Except IoCause Text.Bytes

/-- The text of a file. -/
def FileSystem.readText (fs : FileSystem) (path : List Char) : Except IoCause (List Char) := do
  match Text.Utf8.decode? (← fs path) with
  | some text => .ok text
  | none => .error .notUtf8

theorem FileSystem.readText_of_encode {fs : FileSystem} {path text : List Char}
    (h : fs path = .ok (Text.Utf8.encode text)) : fs.readText path = .ok text := by
  simp [readText, h, Text.Utf8.decode?_encode, bind, Except.bind]

abbrev Files.Name := List Char

inductive Files.Entry
  | file (content : Text.Bytes)
  | directory
  deriving DecidableEq, Repr

/-- Files by the names on their way, the last name first; so is the working directory. -/
structure Files where
  entries : List (List Files.Name × Files.Entry)
  here : List Files.Name
  deriving Repr

namespace Files

/-- What is at a place. A directory exists as soon as something lies in it. -/
def entry? (files : Files) (place : List Name) : Option Entry :=
  match files.entries.lookup place with
  | some entry => some entry
  | none =>
    if place.isEmpty ∨ place.isSuffixOf files.here ∨ files.entries.any (place.isSuffixOf ·.1) then
      some .directory
    else none

def noEntry : IoCause := .system 2
def notDirectory : IoCause := .system 20
def isDirectory : IoCause := .system 21
def nameTooLong : IoCause := .system 36

def nameLimit : Nat := 255

def pathLimit : Nat := 4095

/-- The names of a path: what stands before, between and behind its slashes. -/
def names : List Char → List Name
  | [] => [[]]
  | c :: rest =>
    if c = '/' then [] :: names rest
    else match names rest with
      | name :: others => (c :: name) :: others
      | [] => [[c]]

/-- The place that a name leads to from another one. An empty name, as behind a slash at the end, and
a single dot stay where they are, but only in a directory. -/
def enter (files : Files) (place : List Name) (name : Name) : Except IoCause (List Name) :=
  match files.entry? place with
  | none => .error noEntry
  | some (.file _) => .error notDirectory
  | some .directory =>
    if name = [] ∨ name = ['.'] then .ok place
    else if name = ['.', '.'] then .ok place.tail
    else if nameLimit < Text.Utf8.width name then .error nameTooLong
    else if (files.entry? (name :: place)).isSome then .ok (name :: place)
    else .error noEntry

def read (files : Files) : FileSystem := fun path =>
  if path.contains '\x00' then .error .nulInPath
  else if path.isEmpty then .error noEntry
  else if pathLimit < Text.Utf8.width path then .error nameTooLong
  else do
    let start := if path.head? = some '/' then [] else files.here
    let place ← (names path).foldlM files.enter start
    match files.entry? place with
    | some (.file content) => .ok content
    | some .directory => .error isDirectory
    | none => .error noEntry

end Files

end WorkerSim
