import WorkerSim.Environment
import WorkerSim.Fault
import WorkerSim.Files
import WorkerSim.Placeholder
import WorkerSim.Settings
import WorkerSim.Toml.Document

/-!
# Configurations as documents

A configuration is written as a TOML document with a table for each of its parts. A document is read
after the placeholders in it have been replaced by environment variables; what it leaves out keeps
its default. Reading does not check the settings.
-/

set_option autoImplicit false

namespace WorkerSim

open Toml

/-- A field that holds a number. -/
def Toml.Record.number {α : Type} (name : String) (set : UInt64 → α → α) :
    List Char × (Item → α → Except Misfit α) :=
  (name.toList, fun item a => (Item.number item).map fun n => set n a)

def Toml.Record.flag {α : Type} (name : String) (set : Bool → α → α) :
    List Char × (Item → α → Except Misfit α) :=
  (name.toList, fun item a => (Item.flag item).map fun b => set b a)

def Toml.Record.part {α β : Type} (name : String) (r : Record β) (set : β → α → α) :
    List Char × (Item → α → Except Misfit α) :=
  (name.toList, fun item a => (r.read item).map fun b => set b a)

def Runaway.Settings.record : Record Runaway.Settings where
  name := "RunawaySettings"
  start := {}
  fields := [
    Record.number "workload_size" fun n s => { s with workloadSize := n },
    Record.number "report_every" fun n s => { s with reportEvery := n },
    Record.number "max_iterations" fun n s => { s with maxIterations := some n }]

def Recovered.Settings.record : Record Recovered.Settings where
  name := "RecoveredSettings"
  start := {}
  fields := [
    Record.number "heartbeats" fun n s => { s with heartbeats := n },
    Record.number "interval_ms" fun n s => { s with intervalMs := n }]

def Logging.record : Record Logging where
  name := "LoggingConfig"
  start := {}
  fields := [
    Record.flag "verbose" fun b l => { l with verbose := b },
    Record.flag "json" fun b l => { l with json := b }]

def Monitoring.record : Record Monitoring where
  name := "MonitoringConfig"
  start := {}
  fields := [Record.flag "enabled" fun b m => { m with enabled := b }]

namespace Config

def record : Record Config where
  name := "Config"
  start := {}
  fields := [
    Record.part "runaway" Runaway.Settings.record fun s c => { c with runaway := s },
    Record.part "recovered" Recovered.Settings.record fun s c => { c with recovered := s },
    Record.part "logging" Logging.record fun l c => { c with logging := l },
    Record.part "monitoring" Monitoring.record fun m c => { c with monitoring := m }]

/-- The configuration that a document describes. -/
def ofDocument (document : List Char) : Except Fault Config :=
  match Document.ofText? document with
  | none => .error (.config .notToml)
  | some entries =>
    match record.ofEntries entries with
    | .ok config => .ok config
    | .error misfit => .error (.config (.misfit (Report.ofMisfit document misfit)))

/-- The configuration that a text describes in an environment. -/
def ofText (env : Environment) (text : List Char) : Except Fault Config :=
  ofDocument (Placeholder.substitute env.text? text)

/-- The configuration in a file. -/
def ofFile (env : Environment) (fs : FileSystem) (path : List Char) : Except Fault Config :=
  match fs.readText path with
  | .ok text => ofText env text
  | .error cause => .error (.io cause)

/-- A line that gives a key its value. -/
def line (key : String) (value : List Char) : List Char :=
  key.toList ++ " = ".toList ++ value ++ ['\n']

def numberLine (key : String) (n : UInt64) : List Char := line key (Numeral.digits n.toNat)

def flagLine (key : String) (b : Bool) : List Char :=
  line key (if b then "true".toList else "false".toList)

/-- The header line of a table. -/
def heading (name : String) : List Char := '[' :: name.toList ++ [']', '\n']

def runawayLines (s : Runaway.Settings) : List Char :=
  numberLine "workload_size" s.workloadSize ++ numberLine "report_every" s.reportEvery ++
    (match s.maxIterations with | some n => numberLine "max_iterations" n | none => [])

def recoveredLines (s : Recovered.Settings) : List Char :=
  numberLine "heartbeats" s.heartbeats ++ numberLine "interval_ms" s.intervalMs

def loggingLines (l : Logging) : List Char := flagLine "verbose" l.verbose ++ flagLine "json" l.json

def monitoringLines (m : Monitoring) : List Char := flagLine "enabled" m.enabled

/-- The document of a configuration: four tables with an empty line between them. A limit that is
not set is left out. -/
def toDocument (c : Config) : List Char :=
  heading "runaway" ++ runawayLines c.runaway ++ ['\n'] ++
    heading "recovered" ++ recoveredLines c.recovered ++ ['\n'] ++
    heading "logging" ++ loggingLines c.logging ++ ['\n'] ++
    heading "monitoring" ++ monitoringLines c.monitoring

end Config

end WorkerSim
