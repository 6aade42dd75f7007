import WorkerSim.Host
import WorkerSim.Worker.Job

/-!
# Running a program

A program reads its flags, loads its configuration and sets up its diagnostics, which comes to a
plan, and carries the plan out. Whatever stops it on the way is reported, and decides its exit code.
While the configuration cannot be loaded, the flags alone say how diagnostics look.
-/

set_option autoImplicit false

namespace WorkerSim

/-- What a program is going to do: refuse its command line, report a fault, or work. -/
inductive Plan
  | refuse (coloured : Bool) (refusal : Refusal)
  | abort (logger : Logger) (fault : Fault)
  | work (logger : Logger) (monitored : Bool) (job : Job)
  deriving DecidableEq, Repr

/-- How a program ended, unless it still runs. -/
inductive Ending
  | exited (code : UInt8)
  | running
  deriving DecidableEq, Repr

namespace Program

/-- What flags, variables and files come to. -/
def plan (p : Program) (args : List Text.Bytes) (env : Environment) (fs : FileSystem) : Plan :=
  match Flags.read p args with
  | .error refusal => .refuse (Refusal.isColoured env) refusal
  | .ok flags =>
    match flags.load env fs with
    | .error fault => .abort (Logger.of env ⟨flags.verbose, flags.logJson⟩) fault
    | .ok config =>
      let launch := Launch.of p flags config
      let logger := Logger.of env launch.logging
      match launch.job with
      | .error fault => .abort logger fault
      | .ok job => .work logger launch.monitored job

def starting : Job → Event
  | .runaway _ =>
    .ofProgram .runaway .info
      [.words "Starting runaway worker (pid ", .figure .processId, .words ")"]
  | .recovered s =>
    .ofProgram .recovered .info
      [.words ("Starting healthy worker: " ++ toString s.heartbeats ++ " heartbeats every " ++
        s.interval.text)]

def stopped (p : Program) (s : Summary) : Event :=
  match p with
  | .runaway =>
    .ofProgram p .info [.words ("Runaway worker stopped after " ++ toString s.iterations ++ " iterations")]
  | .recovered =>
    .ofProgram p .info [.words ("Healthy worker finished after " ++ toString s.iterations ++ " heartbeats")]

def workerName : Program → String
  | .runaway => "Runaway worker"
  | .recovered => "Healthy worker"

def failing (p : Program) (f : Fault) : Event :=
  .ofProgram p .error [.words (p.workerName ++ " failed: " ++ f.message)]

def advising (p : Program) (f : Fault) : Event :=
  .ofProgram p .error [.words ("Suggestion: " ++ f.suggestion)]

variable {m : Type → Type} [Monad m]

/-- Reports what stops a program, to its diagnostics and plainly. -/
def abort (p : Program) (h : Host m) (logger : Logger) (f : Fault) : m Ending := do
  h.log logger (p.failing f)
  h.log logger (p.advising f)
  h.printError (p.name ++ ": " ++ f.message ++ "\n")
  pure (.exited f.exitCode)

def work (p : Program) (turns : Nat) (h : Host m) (logger : Logger) (monitored : Bool) (job : Job) :
    m Ending := do
  h.log logger (starting job)
  match ← job.runWithin turns (h.outlet logger) monitored with
  | .finished summary =>
    h.log logger (p.stopped summary)
    pure (.exited 0)
  | .failed fault => p.abort h logger fault
  | .running => pure .running

def refuse (p : Program) (h : Host m) (coloured : Bool) (r : Refusal) : m Ending := do
  if r = .help then h.printOut (r.output coloured p)
  else h.printError (r.output coloured p ++ "\n")
  pure (.exited r.exitCode)

def carryOut (p : Program) (turns : Nat) (h : Host m) : Plan → m Ending
  | .refuse coloured refusal => p.refuse h coloured refusal
  | .abort logger fault => p.abort h logger fault
  | .work logger monitored job => p.work turns h logger monitored job

/-- Runs a program, and follows a worker without a limit for so many turns. -/
def runWithin (p : Program) (turns : Nat) (h : Host m) (args : List Text.Bytes) (env : Environment)
    (fs : FileSystem) : m Ending :=
  p.carryOut turns h (p.plan args env fs)

def run (p : Program) (h : Host m) (args : List Text.Bytes) (env : Environment) (fs : FileSystem) :
    m Ending :=
  p.runWithin UInt64.size h args env fs

end Program

end WorkerSim
