import WorkerSim.Diagnostics.Logger
import WorkerSim.Monitor
import WorkerSim.Writer

/-!
# Hosts

What a program needs of the world while it runs: somewhere to put lines, plain output and errors,
time to wait, work to do, a look at its own process, and the spelling of figures at the moment. A
model of it keeps the output on a writer of any kind and the errors as a text.
-/

set_option autoImplicit false

namespace WorkerSim

structure Host (m : Type → Type) where
  emit : Line → m (Except Fault Unit)
  pause : Interval → m Unit
  burn : UInt64 → m Unit
  look : m (Option Stats)
  spell : m (Figure → String)
  printOut : String → m Unit
  printError : String → m Unit

namespace Host

variable {m : Type → Type} [Monad m]

def log (h : Host m) (logger : Logger) (e : Event) : m Unit := do
  match logger.line? (← h.spell) e with
  | some line => h.printError line
  | none => pure ()

def note (h : Host m) (logger : Logger) (n : Note) : m Unit := do
  let stats ← match n with
    | .sample _ => h.look
    | _ => pure none
  match n.event? stats with
  | some e => h.log logger e
  | none => pure ()

/-- The outlet of a worker that runs on the host. -/
def outlet (h : Host m) (logger : Logger) : Outlet m where
  emit := h.emit
  pause := h.pause
  burn := h.burn
  note := h.note logger

end Host

/-- A world in a model: the state of its standard output, what was written to standard error, the
monitor of the process, and how many readings the monitor has taken. -/
structure World (σ : Type) where
  output : σ
  errors : List String := []
  monitor : Monitor
  looks : Nat := 0

namespace World

variable {σ : Type}

/-- Everything written to standard error, in order. -/
def errorText (w : World σ) : String := String.join w.errors.reverse

/-- The host of a modelled world: output goes to a writer, and the readings of the process are given
one after another. -/
def host (writer : Writer σ) (readings : Nat → Option Reading) (spell : Figure → String) :
    Host (StateM (World σ)) where
  emit line := fun w =>
    let (result, output) := writer.emit line w.output
    (result, { w with output := output })
  pause _ := pure ()
  burn _ := pure ()
  look := fun w =>
    let (stats, monitor) := w.monitor.look (readings w.looks)
    (stats, { w with monitor := monitor, looks := w.looks + 1 })
  spell := pure spell
  printOut text := modify fun w =>
    let written := (writer.writeAll (Text.Utf8.encode text.toList) w.output).2
    { w with output := (writer.flush written).2 }
  printError text := modify fun w => { w with errors := text :: w.errors }

end World

end WorkerSim
