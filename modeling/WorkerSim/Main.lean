import Std.Time.Format
import WorkerSim.Gauge
import WorkerSim.Program

/-!
# The programs on the command line

Either program runs under its own name, on the standard streams, the clock, and the account that the
system keeps of the process.
-/

set_option autoImplicit false

namespace WorkerSim

/-- The system's number of an error; some calls give it with its sign turned. -/
def IoCause.systemCode (code : UInt32) : Int :=
  if code < 0x80000000 then code.toNat else UInt32.size - code.toNat

def IoCause.ofError : IO.Error → IoCause
  | .alreadyExists _ code _ | .interrupted _ code _ | .noFileOrDirectory _ code _
  | .invalidArgument _ code _ | .permissionDenied _ code _ | .resourceExhausted _ code _
  | .inappropriateType _ code _ | .noSuchThing _ code _ | .otherError code _
  | .resourceBusy code _ | .resourceVanished code _ | .unsupportedOperation code _
  | .hardwareFault code _ | .unsatisfiedConstraints code _ | .illegalOperation code _
  | .protocolError code _ | .timeExpired code _ => .system (systemCode code)
  | .unexpectedEof => .kind .unexpectedEof
  | .userError message => .stated .other message

/-- What the process knows of itself: when it started, its monitor, and its gauge at the last look. -/
structure OwnProcess where
  processId : Nat
  started : Nat
  monitor : Monitor
  looked : Nat
  gauge? : Option Gauge

namespace OwnProcess

def accountText (path : String) : IO (List Char) := do
  match ← (IO.FS.readFile path).toBaseIO with
  | .ok text => return text.toList
  | .error _ => return []

def status : IO (List Char) := accountText "/proc/self/stat"

def currentGauge? : IO (Option Gauge) := do
  return Gauge.ofTexts? (← accountText "/proc/self/statm") (← accountText "/proc/meminfo") (← status)

def start : IO OwnProcess := do
  let processId? := Gauge.processId? (← status)
  let now ← IO.monoMsNow
  return ⟨processId?.getD 0, now, Monitor.watch processId? true, now, ← currentGauge?⟩

def look (self : IO.Ref OwnProcess) : IO (Option Stats) := do
  let s ← self.get
  let now ← IO.monoMsNow
  let gauge? ← currentGauge?
  let reading? := gauge?.map fun g =>
    g.reading (s.gauge?.getD g) (now - s.looked) ⟨UInt64.ofNat (now - s.started)⟩
  let (stats, monitor) := s.monitor.look reading?
  self.set { s with monitor := monitor, looked := now, gauge? := gauge? }
  return stats

end OwnProcess

def tenthsText (n : Nat) : String := toString (n / 10) ++ "." ++ toString (n % 10)

def spelling (processId : Nat) : IO (Figure → String) := do
  let now := Std.Time.DateTime.ofTimestampWithZone (← Std.Time.Timestamp.now) .UTC
  return fun
    | .timestamp => now.format "uuuu-MM-dd'T'HH:mm:ss.SSSSSS'Z'"
    | .processId => toString processId
    | .tenths n => tenthsText n
    | .count n => toString n
    | .elapsed time => time.text

/-- The longest time that is slept at once, in milliseconds. -/
def longestNap : UInt64 := 0x80000000

def sleep (time : Interval) : IO Unit := do
  let millis := time.paused.millis
  (millis / longestNap).toNat.forM fun _ _ => IO.sleep longestNap.toUInt32
  IO.sleep (millis % longestNap).toUInt32

/-- The host of a program that runs for real. Only lines tell whether they could be written. -/
def Host.real (self : IO.Ref OwnProcess) (total : IO.Ref Float) : Host IO where
  emit line := do
    let output ← IO.getStdout
    match ← (do output.putStr (line.text ++ "\n"); output.flush : IO Unit).toBaseIO with
    | .ok () => return .ok ()
    | .error e => return .error (.io (.ofError e))
  pause := sleep
  burn size := total.set (Workload.sum size)
  look := OwnProcess.look self
  spell := do spelling (← self.get).processId
  printOut text := discard (IO.print text).toBaseIO
  printError text := discard (IO.eprint text).toBaseIO

/-- The one file that the flags point to. -/
def onlyFile (path : List Char) : IO FileSystem := do
  let content ← match ← (IO.FS.readBinFile (String.ofList path)).toBaseIO with
    | .ok bytes => pure (.ok bytes.toList)
    | .error e => pure (.error (.ofError e))
  return fun p => if p = path then content else .error Files.noEntry

/-- The variables of these names that are set. -/
def Environment.current (names : List (List Char)) : IO Environment :=
  names.foldlM (fun env name => do
    match ← IO.getEnv (String.ofList name) with
    | some value => return env.set name (Text.Utf8.encode value.toList)
    | none => return env) []

def Program.runReal (p : Program) (args : List Text.Bytes) : IO Ending := do
  let path? := (Flags.read p args).toOption.bind (·.config)
  let fs ← onlyFile (path?.getD [])
  let asked := match fs.readText (path?.getD []) with
    | .ok text => Placeholder.names text
    | .error _ => []
  let always := ["RUST_LOG", "NO_COLOR", "CLICOLOR_FORCE"].map String.toList
  let env ← Environment.current (always ++ asked)
  p.run (Host.real (← IO.mkRef (← OwnProcess.start)) (← IO.mkRef 0)) args env fs

/-- The program of a name; a name that is none of theirs stands for the runaway worker. -/
def Program.ofName (name : String) : Program :=
  if name = Program.recovered.name then .recovered else .runaway

end WorkerSim

open WorkerSim in
def main (args : List String) : IO UInt32 := do
  let name := (← IO.appPath).fileName.getD ""
  let program := Program.ofName name
  match ← program.runReal (args.map fun arg => Text.Utf8.encode arg.toList) with
  | .exited code => return code.toUInt32
  | .running => return 0
