import Mathlib.Data.List.Forall2
import WorkerSim.Config

/-!
# What a document sets

A document sets some of the eight numbers and switches of a configuration and is silent about the
others. It is read like a configuration, except that nothing has a value to start with. The
configuration that a document describes is what it sets, and the defaults for the rest: whether a
table is missing or present and incomplete makes no difference.
-/

set_option autoImplicit false

namespace WorkerSim

open Toml

structure Runaway.Partial where
  workloadSize : Option UInt64 := none
  reportEvery : Option UInt64 := none
  maxIterations : Option UInt64 := none
  deriving DecidableEq, Repr

structure Recovered.Partial where
  heartbeats : Option UInt64 := none
  intervalMs : Option UInt64 := none
  deriving DecidableEq, Repr

structure Logging.Partial where
  verbose : Option Bool := none
  json : Option Bool := none
  deriving DecidableEq, Repr

structure Monitoring.Partial where
  enabled : Option Bool := none
  deriving DecidableEq, Repr

structure Config.Partial where
  runaway : Runaway.Partial := {}
  recovered : Recovered.Partial := {}
  logging : Logging.Partial := {}
  monitoring : Monitoring.Partial := {}
  deriving DecidableEq, Repr

def Runaway.Partial.settings (p : Runaway.Partial) : Runaway.Settings :=
  ⟨p.workloadSize.getD 120000, p.reportEvery.getD 200, p.maxIterations⟩

def Recovered.Partial.settings (p : Recovered.Partial) : Recovered.Settings :=
  ⟨p.heartbeats.getD 199, p.intervalMs.getD 200⟩

def Logging.Partial.logging (p : Logging.Partial) : Logging :=
  ⟨p.verbose.getD false, p.json.getD false⟩

def Monitoring.Partial.monitoring (p : Monitoring.Partial) : Monitoring := ⟨p.enabled.getD false⟩

/-- The configuration with the defaults for everything that is not set. -/
def Config.Partial.config (p : Config.Partial) : Config :=
  ⟨p.runaway.settings, p.recovered.settings, p.logging.logging, p.monitoring.monitoring⟩

def Runaway.Partial.record : Record Runaway.Partial where
  name := "RunawaySettings"
  start := {}
  fields := [
    Record.number "workload_size" fun n p => { p with workloadSize := some n },
    Record.number "report_every" fun n p => { p with reportEvery := some n },
    Record.number "max_iterations" fun n p => { p with maxIterations := some n }]

def Recovered.Partial.record : Record Recovered.Partial where
  name := "RecoveredSettings"
  start := {}
  fields := [
    Record.number "heartbeats" fun n p => { p with heartbeats := some n },
    Record.number "interval_ms" fun n p => { p with intervalMs := some n }]

def Logging.Partial.record : Record Logging.Partial where
  name := "LoggingConfig"
  start := {}
  fields := [
    Record.flag "verbose" fun b p => { p with verbose := some b },
    Record.flag "json" fun b p => { p with json := some b }]

def Monitoring.Partial.record : Record Monitoring.Partial where
  name := "MonitoringConfig"
  start := {}
  fields := [Record.flag "enabled" fun b p => { p with enabled := some b }]

def Config.Partial.record : Record Config.Partial where
  name := "Config"
  start := {}
  fields := [
    Record.part "runaway" Runaway.Partial.record fun r p => { p with runaway := r },
    Record.part "recovered" Recovered.Partial.record fun r p => { p with recovered := r },
    Record.part "logging" Logging.Partial.record fun r p => { p with logging := r },
    Record.part "monitoring" Monitoring.Partial.record fun r p => { p with monitoring := r }]

namespace Toml.Record

/-- What a document holds for a record. -/
def ofDocument {α : Type} (r : Record α) (document : List Char) : Except Fault α :=
  match Document.ofText? document with
  | none => .error (.config .notToml)
  | some entries =>
    match r.ofEntries entries with
    | .ok a => .ok a
    | .error misfit => .error (.config (.misfit (Report.ofMisfit document misfit)))

def ofText {α : Type} (r : Record α) (env : Environment) (text : List Char) : Except Fault α :=
  r.ofDocument (Placeholder.substitute env.text? text)

variable {α β : Type}

/-- Two fields with the same key that do the same with every item, as seen through a map of what is
read. -/
def MapsField (f : α → β) (x : List Char × (Item → α → Except Misfit α))
    (y : List Char × (Item → β → Except Misfit β)) : Prop :=
  x.1 = y.1 ∧ ∀ item a, (x.2 item a).map f = y.2 item (f a)

structure Maps (f : α → β) (r : Record α) (q : Record β) : Prop where
  name : r.name = q.name
  start : f r.start = q.start
  fields : List.Forall₂ (MapsField f) r.fields q.fields

theorem mapsField_number {f : α → β} {set : UInt64 → α → α} {set' : UInt64 → β → β} (name : String)
    (h : ∀ n a, f (set n a) = set' n (f a)) :
    MapsField f (Record.number name set) (Record.number name set') := by
  refine ⟨rfl, fun item a => ?_⟩
  simp only [Record.number]
  cases item.number with
  | error misfit => rfl
  | ok n => exact congrArg Except.ok (h n a)

theorem mapsField_flag {f : α → β} {set : Bool → α → α} {set' : Bool → β → β} (name : String)
    (h : ∀ b a, f (set b a) = set' b (f a)) :
    MapsField f (Record.flag name set) (Record.flag name set') := by
  refine ⟨rfl, fun item a => ?_⟩
  simp only [Record.flag]
  cases item.flag with
  | error misfit => rfl
  | ok b => exact congrArg Except.ok (h b a)

namespace Maps

variable {f : α → β} {r : Record α} {q : Record β}

theorem assign (h : Maps f r q) (key : List Char) (item : Item) (a : α) :
    (r.assign a key item).map f = q.assign (f a) key item := by
  rw [Record.assign, Record.assign]
  generalize r.fields = xs, q.fields = ys, h.fields = hFields
  -- the two rows of fields have the same keys, so a key is found at the same place in both
  induction hFields with
  | nil =>
    simp only [List.lookup_nil]
    cases item.value.passOver item.span <;> rfl
  | @cons x y xs ys hxy _ ih =>
    obtain ⟨hKey, hSet⟩ := hxy
    obtain ⟨k, set⟩ := x
    obtain ⟨k', set'⟩ := y
    obtain rfl : k = k' := hKey
    cases hEq : key == k with
    | true =>
      rw [List.lookup_cons, List.lookup_cons, hEq]
      exact hSet item a
    | false =>
      rw [List.lookup_cons, List.lookup_cons, hEq]
      exact ih

theorem ofEntries (h : Maps f r q) (entries : Entries) :
    (r.ofEntries entries).map f = q.ofEntries entries := by
  have hFold (a : α) : (entries.foldlM (fun a e => r.assign a e.1 e.2) a).map f =
      entries.foldlM (fun b e => q.assign b e.1 e.2) (f a) := by
    induction entries generalizing a with
    | nil => rfl
    | cons e es ih =>
      rw [List.foldlM_cons, List.foldlM_cons, ← h.assign]
      cases r.assign a e.1 e.2 with
      | error misfit => rfl
      | ok b => exact ih b
  rw [Record.ofEntries, Record.ofEntries, hFold, h.start]

theorem keys (h : Maps f r q) : r.fields.map Prod.fst = q.fields.map Prod.fst := by
  have hFields := h.fields
  generalize r.fields = xs, q.fields = ys at hFields
  induction hFields with
  | nil => rfl
  | cons hxy _ ih => rw [List.map_cons, List.map_cons, hxy.1, ih]

theorem read (h : Maps f r q) (item : Item) : (r.read item).map f = q.read item := by
  have hItems (items : List Item) : (r.ofItems items).map f = q.ofItems items := by
    rw [Record.ofItems, Record.ofItems, h.ofEntries, h.keys]
  rw [Record.read, Record.read]
  obtain ⟨span, value⟩ := item
  cases value with
  | table _ entries => exact h.ofEntries entries
  | list items => exact hItems items
  | series latest others => exact hItems _
  | scalar s =>
    cases s with
    | moment => exact congrArg Except.ok h.start
    | integer _ | real _ | boolean _ | text _ =>
      simp only [Item.unexpected, h.name]
      split <;> rfl

theorem ofDocument (h : Maps f r q) (document : List Char) :
    (r.ofDocument document).map f = q.ofDocument document := by
  rw [Record.ofDocument, Record.ofDocument]
  cases Document.ofText? document with
  | none => rfl
  | some entries =>
    simp only [← h.ofEntries]
    cases r.ofEntries entries <;> rfl

theorem part {γ δ : Type} {g : γ → δ} {t : Record γ} {u : Record δ} (h : Maps g t u) (name : String)
    {set : γ → α → α} {set' : δ → β → β} (hSet : ∀ c a, f (set c a) = set' (g c) (f a)) :
    MapsField f (Record.part name t set) (Record.part name u set') := by
  refine ⟨rfl, fun item a => ?_⟩
  simp only [Record.part, ← h.read]
  cases t.read item with
  | error misfit => rfl
  | ok c => exact congrArg Except.ok (hSet c a)

end Maps

end Toml.Record

open Toml.Record

theorem Runaway.Partial.maps :
    Maps Runaway.Partial.settings Runaway.Partial.record Runaway.Settings.record where
  name := rfl
  start := rfl
  fields := .cons (mapsField_number _ fun _ _ => rfl) (.cons (mapsField_number _ fun _ _ => rfl)
    (.cons (mapsField_number _ fun _ _ => rfl) .nil))

theorem Recovered.Partial.maps :
    Maps Recovered.Partial.settings Recovered.Partial.record Recovered.Settings.record where
  name := rfl
  start := rfl
  fields := .cons (mapsField_number _ fun _ _ => rfl) (.cons (mapsField_number _ fun _ _ => rfl) .nil)

theorem Logging.Partial.maps :
    Maps Logging.Partial.logging Logging.Partial.record Logging.record where
  name := rfl
  start := rfl
  fields := .cons (mapsField_flag _ fun _ _ => rfl) (.cons (mapsField_flag _ fun _ _ => rfl) .nil)

theorem Monitoring.Partial.maps :
    Maps Monitoring.Partial.monitoring Monitoring.Partial.record Monitoring.record where
  name := rfl
  start := rfl
  fields := .cons (mapsField_flag _ fun _ _ => rfl) .nil

theorem Config.Partial.maps : Maps Config.Partial.config Config.Partial.record Config.record where
  name := rfl
  start := rfl
  fields := .cons (Runaway.Partial.maps.part _ fun _ _ => rfl)
    (.cons (Recovered.Partial.maps.part _ fun _ _ => rfl)
      (.cons (Logging.Partial.maps.part _ fun _ _ => rfl)
        (.cons (Monitoring.Partial.maps.part _ fun _ _ => rfl) .nil)))

theorem Config.ofDocument_eq (document : List Char) :
    Config.ofDocument document = Config.record.ofDocument document := by
  rw [Config.ofDocument, Record.ofDocument]
  cases Document.ofText? document with
  | none => rfl
  | some entries => cases hRead : Config.record.ofEntries entries <;> simp only [hRead]

/-- A configuration is what its document sets, and the defaults for the rest. -/
theorem Config.ofText_eq_map (env : Environment) (text : List Char) :
    Config.ofText env text = (Config.Partial.record.ofText env text).map Config.Partial.config := by
  rw [Record.ofText, Config.Partial.maps.ofDocument, Config.ofText, Config.ofDocument_eq]

end WorkerSim
