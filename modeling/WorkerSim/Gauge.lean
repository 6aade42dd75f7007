import WorkerSim.Monitor
import WorkerSim.Numeral

/-!
# Gauges

A system keeps its account of a process in texts: its memory in pages, its time on a core in ticks,
and the memory of the machine in kilobytes. A gauge holds these numbers at one moment. Two of them
make a reading, since the share of a core is one of the time between them.
-/

set_option autoImplicit false

namespace WorkerSim

structure Gauge where
  pages : Nat
  kilobytes : Nat
  ticks : Nat
  deriving DecidableEq, Repr

namespace Gauge

/-- The numbers in a text, whatever stands between them. -/
def numbers (text : List Char) : List Nat :=
  (text.splitBy fun a b => a.isDigit == b.isDigit).filterMap Numeral.value?

/-- The number of a process comes first in its status. -/
def processId? (status : List Char) : Option Nat := (numbers status).head?

/-- A status without the name of the program, which stands in parentheses and may hold anything. -/
def unnamed (status : List Char) : List Char := (status.reverse.takeWhile (· != ')')).reverse

/-- The gauge that the memory of a process, the memory of the machine and the status show. -/
def ofTexts? (memory machine status : List Char) : Option Gauge := do
  let pages ← (numbers memory)[1]?
  let kilobytes ← (numbers machine)[0]?
  let inProgram ← (numbers (unnamed status))[10]?
  let inSystem ← (numbers (unnamed status))[11]?
  return ⟨pages, kilobytes, inProgram + inSystem⟩

def pageSize : Nat := 4096

/-- There are a hundred ticks in a second. -/
def tickMillis : Nat := 10

/-- The reading of a gauge, some milliseconds after an earlier gauge. -/
def reading (g earlier : Gauge) (millis : Nat) (elapsed : Interval) : Reading where
  memory := g.pages * pageSize
  machineMemory := g.kilobytes * 1024
  cpuTenths :=
    if millis = 0 then 0
    else Binary64.roundHalfEven ((g.ticks - earlier.ticks) * tickMillis * 1000) millis
  elapsed := elapsed

end Gauge

end WorkerSim
