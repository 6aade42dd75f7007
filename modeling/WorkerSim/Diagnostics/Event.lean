import WorkerSim.Worker.Outlet

/-!
# Events

What the programs and the workers tell about themselves. An event has a level, the part of the
program that it comes from, a message and named fields. A message may hold figures, numbers that
differ from run to run, which are spelled out only when the event is shown.
-/

set_option autoImplicit false

namespace WorkerSim

/-- From the gravest to the least. -/
inductive Level
  | error
  | warn
  | info
  | debug
  | trace
  deriving DecidableEq, Repr

def Level.rank : Level → Nat
  | error => 1
  | warn => 2
  | info => 3
  | debug => 4
  | trace => 5

def Level.name : Level → String
  | error => "ERROR"
  | warn => "WARN"
  | info => "INFO"
  | debug => "DEBUG"
  | trace => "TRACE"

/-- A number that belongs to one run: when something happened, which process it was, tenths, a count,
or time that has passed. -/
inductive Figure
  | timestamp
  | processId
  | tenths (n : Nat)
  | count (n : Nat)
  | elapsed (time : Interval)
  deriving DecidableEq, Repr

inductive Segment
  | words (text : String)
  | figure (f : Figure)
  deriving DecidableEq, Repr

inductive FieldValue
  | number (n : UInt64)
  | words (text : String)
  deriving DecidableEq, Repr

def FieldValue.text : FieldValue → String
  | number n => toString n
  | words text => text

structure Event where
  level : Level
  target : String
  message : List Segment
  fields : List (String × FieldValue)
  deriving DecidableEq, Repr

namespace Event

/-- What the targets of all events begin with that do not come from a program itself. -/
def library : String := "worker_fixtures"

/-- The target of a part of the library. -/
def partTarget (part : String) : String := library ++ "::" ++ part

def optionText : Option UInt64 → String
  | some n => "Some(" ++ toString n ++ ")"
  | none => "None"

def loopStarting (s : Runaway.Settings) : Event where
  level := .debug
  target := partTarget "core::runaway"
  message := [.words "runaway loop starting"]
  fields := [("workload_size", .number s.workloadSize), ("report_every", .number s.reportEvery),
    ("max_iterations", .words (optionText s.maxIterations))]

def failureReported (iteration : UInt64) : Event where
  level := .debug
  target := partTarget "core::runaway"
  message := [.words "failure line emitted"]
  fields := [("iteration", .number iteration)]

def heartbeatsDone (count : UInt64) : Event where
  level := .debug
  target := partTarget "core::recovered"
  message := [.words "healthy worker finished"]
  fields := [("heartbeats", .number count)]

/-- An event of a program about itself. -/
def ofProgram (p : Program) (level : Level) (message : List Segment) : Event :=
  ⟨level, p.name, message, []⟩

def messageText (spell : Figure → String) (e : Event) : String :=
  String.join (e.message.map fun
    | .words text => text
    | .figure f => spell f)

end Event

end WorkerSim
