import WorkerSim.Flags.Refusal

/-!
# Reading command lines

Arguments are read from left to right. The value of a parameter stands in the same argument or in the
next one, where it may not look like a flag. A value from the next argument is looked at only when
something else is recognised, or at the end, so an argument that is not recognised is refused before
it. Two dashes alone end the flags, and there is nothing else that an argument could be.
-/

set_option autoImplicit false

namespace WorkerSim

open Text (Bytes)

/-- What a command line gives. -/
structure Flags where
  verbose : Bool := false
  logJson : Bool := false
  monitor : Bool := false
  config : Option (List Char) := none
  workloadSize : Option UInt64 := none
  reportEvery : Option UInt64 := none
  maxIterations : Option UInt64 := none
  heartbeats : Option UInt64 := none
  intervalMs : Option UInt64 := none
  deriving DecidableEq, Repr

namespace Flags

def isOn (f : Flags) : Switch → Bool
  | .verbose => f.verbose
  | .logJson => f.logJson
  | .monitor => f.monitor

def turnOn (f : Flags) : Switch → Flags
  | .verbose => { f with verbose := true }
  | .logJson => { f with logJson := true }
  | .monitor => { f with monitor := true }

def isGiven (f : Flags) : Parameter → Bool
  | .config => f.config.isSome
  | .workloadSize => f.workloadSize.isSome
  | .reportEvery => f.reportEvery.isSome
  | .maxIterations => f.maxIterations.isSome
  | .heartbeats => f.heartbeats.isSome
  | .intervalMs => f.intervalMs.isSome

/-- Gives a parameter the value that a text stands for; a path is any text. -/
def give (f : Flags) (p : Parameter) (given : List Char) : Except Numeral.Problem Flags :=
  match p with
  | .config => .ok { f with config := some given }
  | .workloadSize => (Numeral.read64 given).map fun n => { f with workloadSize := some n }
  | .reportEvery => (Numeral.read64 given).map fun n => { f with reportEvery := some n }
  | .maxIterations => (Numeral.read64 given).map fun n => { f with maxIterations := some n }
  | .heartbeats => (Numeral.read64 given).map fun n => { f with heartbeats := some n }
  | .intervalMs => (Numeral.read64 given).map fun n => { f with intervalMs := some n }

/-- A parameter that has been recognised, and its value once that has come. -/
structure Pending where
  parameter : Parameter
  value : Option Bytes
  deriving DecidableEq, Repr

structure State where
  flags : Flags := {}
  pending : Option Pending := none
  deriving DecidableEq, Repr

/-- Takes a switch; each may be given once. -/
def takeSwitch (f : Flags) (s : Switch) : Except Refusal Flags :=
  if f.isOn s then .error (.repeated (.switch s)) else .ok (f.turnOn s)

/-- Takes a parameter with its value; each may be given once. -/
def takeValue (f : Flags) (p : Parameter) (value : Bytes) : Except Refusal Flags :=
  if f.isGiven p then .error (.repeated (.parameter p))
  else match Text.Utf8.decode? value with
    | none => .error .notUtf8
    | some given =>
      match f.give p given with
      | .ok f => .ok f
      | .error problem => .error (.badNumber given p problem)

/-- Takes the parameter that is pending, if one is. -/
def settle (s : State) : Except Refusal Flags :=
  match s.pending with
  | none => .ok s.flags
  | some ⟨p, none⟩ => .error (.missingValue p)
  | some ⟨p, some value⟩ => s.flags.takeValue p value

def takeFlag (s : State) : Flag → Except Refusal State
  | .help => do
    let _ ← settle s
    .error .help
  | .switch sw => do
    let flags ← settle s
    return { flags := ← flags.takeSwitch sw }
  | .parameter p => do
    let flags ← settle s
    return { flags := flags, pending := some ⟨p, none⟩ }

def dash : UInt8 := 0x2D

def equals : UInt8 := 0x3D

/-- An argument after its two dashes. -/
def readLong (program : Program) (rest : Bytes) (s : State) : Except Refusal State :=
  let name := rest.takeWhile (· ≠ equals)
  let attached := rest.dropWhile (· ≠ equals)
  match program.flags.find? (fun f => Text.Utf8.encode f.long.toList = name), attached with
  | none, _ => .error (.unknownArgument ('-' :: '-' :: Text.Utf8.decodeLenient name))
  | some f, [] => takeFlag s f
  | some (.parameter p), _ :: value => do
    let flags ← settle s
    return { flags := ← flags.takeValue p value }
  | some f, _ :: value => .error (.surplusValue (Text.Utf8.decodeLenient value) f)

/-- What is shown of an argument from its first unknown character on: the character, or everything
if that is not one. -/
def unknownShort (b : UInt8) (rest : Bytes) : List Char :=
  match (Text.Utf8.next b rest).1 with
  | some c => [c]
  | none => Text.Utf8.decodeLenient (b :: rest)

/-- An argument after its one dash: switches in a row, and perhaps a parameter with the rest as its
value, or with the next argument if nothing is left. -/
def readShort (program : Program) (s : State) : Bytes → Except Refusal State
  | [] => .ok s
  | b :: rest =>
    match program.flags.find? (fun f => f.short?.map (fun c => Text.Utf8.encode [c]) = some [b]) with
    | none => .error (.unknownArgument ('-' :: unknownShort b rest))
    | some (.parameter p) =>
      match rest with
      | [] => takeFlag s (.parameter p)
      | c :: value => do
        let flags ← settle s
        return { flags := ← flags.takeValue p (if c = equals then value else c :: value) }
    | some f =>
      match takeFlag s f with
      | .ok s => readShort program s rest
      | .error refusal => .error refusal

/-- An argument that does not look like a flag is the value of a parameter that waits for one. -/
def readValue (arg : Bytes) (s : State) : Except Refusal State :=
  match s.pending with
  | some ⟨p, none⟩ => .ok { s with pending := some ⟨p, some arg⟩ }
  | _ => .error (.unknownArgument (Text.Utf8.decodeLenient arg))

def readArgument (program : Program) (arg : Bytes) (s : State) : Except Refusal State :=
  match arg with
  | a :: b :: rest =>
    if a = dash then
      if b = dash then readLong program rest s else readShort program s (b :: rest)
    else readValue arg s
  | _ => readValue arg s

/-- Reads the arguments that are left. -/
def readFrom (program : Program) : List Bytes → State → Except Refusal Flags
  | [], s => settle s
  | arg :: args, s =>
    if arg = [dash, dash] then
      match args with
      | [] => settle s
      | next :: _ => .error (.unknownArgument (Text.Utf8.decodeLenient next))
    else
      match readArgument program arg s with
      | .ok s => readFrom program args s
      | .error refusal => .error refusal

/-- Reads a command line without the program's name. -/
def read (program : Program) (args : List Bytes) : Except Refusal Flags := readFrom program args {}

end Flags

end WorkerSim
