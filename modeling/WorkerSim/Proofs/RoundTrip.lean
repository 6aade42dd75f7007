import WorkerSim.Proofs.Spelling

/-!
# Configurations written and read back

The document of a configuration spells everything that the configuration has, so that it is the one
that is read back.
-/

set_option autoImplicit false

namespace WorkerSim.Config

open Toml

/-- A document that sets everything; a limit that is not there it does not set. -/
def Partial.ofConfig (c : Config) : Config.Partial :=
  ⟨⟨some c.runaway.workloadSize, some c.runaway.reportEvery, c.runaway.maxIterations⟩,
    ⟨some c.recovered.heartbeats, some c.recovered.intervalMs⟩,
    ⟨some c.logging.verbose, some c.logging.json⟩, ⟨some c.monitoring.enabled⟩⟩

def settings (c : Config) : Table → List Setting
  | .runaway => .number .workloadSize c.runaway.workloadSize ::
      .number .reportEvery c.runaway.reportEvery ::
      (c.runaway.maxIterations.map (Setting.number .maxIterations)).toList
  | .recovered => [.number .heartbeats c.recovered.heartbeats,
      .number .intervalMs c.recovered.intervalMs]
  | .logging => [.flag .verbose c.logging.verbose, .flag .json c.logging.json]
  | .monitoring => [.flag .enabled c.monitoring.enabled]

/-- The document of a configuration, with an empty line between the tables. -/
def draft (c : Config) : Config.Draft where
  rows := []
  sheets := [⟨.runaway, c.settings .runaway, 1⟩, ⟨.recovered, c.settings .recovered, 1⟩,
    ⟨.logging, c.settings .logging, 1⟩, ⟨.monitoring, c.settings .monitoring, 0⟩]

def Setting.line (s : Setting) : List Char := Config.line s.name (s.key.literal s.value)

theorem text_sheet (s : Sheet Table Setting) :
    (s.map Table.bareKey Setting.assignment).text =
      heading s.table.name ++ s.assigned.flatMap Setting.line ++ List.replicate s.gap '\n' := by
  rw [Sheet.text, Sheet.map, List.flatMap_map]
  have hLine (a : Setting) : a.assignment.chars ++ ['\n'] = a.line := rfl
  have hHeading : '[' :: s.table.bareKey.chars ++ [']', '\n'] = heading s.table.name := rfl
  simp only [hLine, hHeading]

theorem lines_runaway (c : Config) :
    (c.settings .runaway).flatMap Setting.line = runawayLines c.runaway := by
  rw [settings, runawayLines, List.flatMap_cons, List.flatMap_cons, List.append_assoc]
  cases c.runaway.maxIterations with
  | none => rfl
  | some limit =>
    rw [Option.map_some, Option.toList_some, List.flatMap_singleton]
    rfl

theorem text_draft (c : Config) : c.draft.written.text = c.toDocument := by
  have hRecovered : (c.settings .recovered).flatMap Setting.line = recoveredLines c.recovered := by
    rw [settings, List.flatMap_cons, List.flatMap_singleton]
    rfl
  have hLogging : (c.settings .logging).flatMap Setting.line = loggingLines c.logging := by
    rw [settings, List.flatMap_cons, List.flatMap_singleton]
    rfl
  have hMonitoring : (c.settings .monitoring).flatMap Setting.line = monitoringLines c.monitoring := by
    rw [settings, List.flatMap_singleton]
    rfl
  rw [Toml.Draft.text, Draft.written, Toml.Draft.map, draft, toDocument]
  simp [text_sheet, lines_runaway, hRecovered, hLogging, hMonitoring, Table.name]

theorem mem_settings {c : Config} {t : Table} {s : Setting} :
    s ∈ c.settings t ↔ s.table = t ∧ (Partial.ofConfig c).Sets s := by
  constructor
  · intro hMem
    cases t with
    | runaway =>
      obtain rfl | hMem := List.mem_cons.mp hMem
      · exact ⟨rfl, rfl⟩
      · obtain rfl | hMem := List.mem_cons.mp hMem
        · exact ⟨rfl, rfl⟩
        · obtain ⟨limit, hLimit, rfl⟩ := Option.map_eq_some_iff.mp (Option.mem_toList.mp hMem)
          exact ⟨rfl, hLimit⟩
    | recovered =>
      simp only [settings, List.mem_cons, List.not_mem_nil, or_false] at hMem
      obtain rfl | rfl := hMem <;> exact ⟨rfl, rfl⟩
    | logging =>
      simp only [settings, List.mem_cons, List.not_mem_nil, or_false] at hMem
      obtain rfl | rfl := hMem <;> exact ⟨rfl, rfl⟩
    | monitoring =>
      obtain rfl := List.mem_singleton.mp hMem
      exact ⟨rfl, rfl⟩
  · rintro ⟨rfl, hSets⟩
    obtain ⟨k, v⟩ := s
    cases k with
    | number k =>
      cases k with
      | workloadSize =>
        obtain rfl : c.runaway.workloadSize = v := Option.some.inj hSets
        exact List.mem_cons_self
      | reportEvery =>
        obtain rfl : c.runaway.reportEvery = v := Option.some.inj hSets
        exact List.mem_cons_of_mem _ List.mem_cons_self
      | maxIterations =>
        have hLimit : c.runaway.maxIterations = some v := hSets
        refine List.mem_cons_of_mem _ (List.mem_cons_of_mem _ ?_)
        rw [hLimit]
        exact List.mem_cons_self
      | heartbeats =>
        obtain rfl : c.recovered.heartbeats = v := Option.some.inj hSets
        exact List.mem_cons_self
      | intervalMs =>
        obtain rfl : c.recovered.intervalMs = v := Option.some.inj hSets
        exact List.mem_cons_of_mem _ List.mem_cons_self
    | flag k =>
      cases k with
      | verbose =>
        obtain rfl : c.logging.verbose = v := Option.some.inj hSets
        exact List.mem_cons_self
      | json =>
        obtain rfl : c.logging.json = v := Option.some.inj hSets
        exact List.mem_cons_of_mem _ List.mem_cons_self
      | enabled =>
        obtain rfl : c.monitoring.enabled = v := Option.some.inj hSets
        exact List.mem_cons_self

theorem parts_draft (c : Config) : c.draft.parts =
    [Table.runaway, .recovered, .logging, .monitoring].map fun t => .whole t (c.settings t) := rfl

theorem spells_draft (c : Config) : c.draft.Spells (Partial.ofConfig c) where
  settings t s := by
    rw [← mem_settings, Toml.Draft.mem_assigned, parts_draft]
    constructor
    · rintro ⟨part, hPart, rfl, hMem⟩
      obtain ⟨t, -, rfl⟩ := List.mem_map.mp hPart
      exact hMem
    · intro hMem
      have hTable : t ∈ [Table.runaway, .recovered, .logging, .monitoring] := by cases t <;> decide
      exact ⟨_, List.mem_map_of_mem hTable, rfl, hMem⟩
  once := by
    obtain ⟨⟨w, r, m⟩, b, l, e⟩ := c
    cases m with
    | none =>
      change ([.number .workloadSize, .number .reportEvery, .number .heartbeats, .number .intervalMs,
        .flag .verbose, .flag .json, .flag .enabled] : List Key).Nodup
      decide
    | some limit =>
      change ([.number .workloadSize, .number .reportEvery, .number .maxIterations, .number .heartbeats,
        .number .intervalMs, .flag .verbose, .flag .json, .flag .enabled] : List Key).Nodup
      decide
  tables := by
    change [Table.runaway, .recovered, .logging, .monitoring].Nodup
    decide
  apart t s hMem := by
    rw [parts_draft] at hMem
    obtain ⟨u, -, hPart⟩ := List.mem_map.mp hMem
    cases hPart

theorem ofText_toDocument (c : Config) (env : Environment) :
    Config.ofText env c.toDocument = .ok c := by
  rw [← text_draft, Config.ofText_eq_map, c.spells_draft.ofText_eq]
  rfl

end WorkerSim.Config
