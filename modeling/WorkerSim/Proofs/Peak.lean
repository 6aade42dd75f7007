import WorkerSim.Monitor

/-!
# Peak memory

A monitor is called in several ways, and at each call its process is there with some memory, or it is
not. What a call finds of the process is its memory at that moment and the most memory that any call has
found up to then. A monitor that is disabled or has no process finds nothing.
-/

set_option autoImplicit false

namespace WorkerSim.Monitor

/-- The ways to look at the process. -/
inductive Look
  | stats
  | sampleOver (window : Interval)
  | logStats (phase : String)
  | logFinalStats

namespace Look

def operation : Look → Operation
  | stats => .stats
  | sampleOver window => .sampleOver window
  | logStats phase => .logStats phase
  | logFinalStats => .logFinalStats

/-- What comes of the statistics that a look finds, or of none. -/
def answer : Look → Option Stats → Answer
  | stats, s | sampleOver _, s => .stats s
  | logStats phase, s => .events (s.map (Event.stats phase)).toList
  | logFinalStats, s => .events (s.map Event.finalStats).toList

end Look

/-- A look, and the processes that there are at that moment. -/
structure Call where
  look : Look
  processes : Processes

namespace Call

def made (self : Nat) (m : Monitor) (c : Call) : Answer × Monitor :=
  m.step c.processes self c.look.operation

def stats? (m : Monitor) (c : Call) : Option Stats := (m.look (m.reading c.processes)).1

/-- The memory of a process in megabytes. -/
def size? (processId : Nat) (c : Call) : Option Nat :=
  (c.processes processId).map fun r => r.memory / (1024 * 1024)

end Call

/-- The monitor after some calls. -/
def after (self : Nat) (m : Monitor) (calls : List Call) : Monitor :=
  calls.foldl (fun m c => (c.made self m).2) m

def sizes (processId : Nat) (calls : List Call) : List Nat := calls.filterMap (Call.size? processId)

variable {processId : Nat} {m : Monitor} {c d : Call} {s t : Stats}

/-! ### One call -/

/-- A look finds nothing and changes nothing, or it finds a process and keeps the peak that it shows. -/
theorem look_cases (m : Monitor) (reading : Option Reading) :
    (m.enabled = false ∨ reading = none) ∧ m.look reading = (none, m) ∨
    ∃ r s, m.enabled = true ∧ reading = some r ∧ m.look reading = (some s, { m with peakMb := s.peakMb }) ∧
      s.memoryMb = r.memory / (1024 * 1024) ∧ s.peakMb = max m.peakMb s.memoryMb := by
  obtain ⟨enabled, processId, peakMb⟩ := m
  cases enabled with
  | false => exact .inl ⟨.inl rfl, rfl⟩
  | true =>
    cases reading with
    | none => exact .inl ⟨.inr rfl, rfl⟩
    | some r => exact .inr ⟨r, _, rfl, rfl, rfl, Nat.div_div_eq_div_mul .., rfl⟩

theorem made_eq (self : Nat) (m : Monitor) (c : Call) :
    c.made self m = (c.look.answer (c.stats? m), (m.look (m.reading c.processes)).2) := by
  obtain ⟨look, processes⟩ := c
  cases look <;> rfl

theorem made_cases (self : Nat) (m : Monitor) (c : Call) :
    c.stats? m = none ∧ (c.made self m).2 = m ∨
    ∃ s, c.stats? m = some s ∧ (c.made self m).2 = { m with peakMb := s.peakMb } ∧
      s.peakMb = max m.peakMb s.memoryMb := by
  rw [made_eq, Call.stats?]
  obtain ⟨-, hLook⟩ | ⟨r, s, -, -, hLook, -, hPeak⟩ := look_cases m (m.reading c.processes)
  · rw [hLook]
    exact .inl ⟨rfl, rfl⟩
  · rw [hLook]
    exact .inr ⟨s, rfl, rfl, hPeak⟩

theorem peakMb_of_stats? (self : Nat) (h : c.stats? m = some s) :
    (c.made self m).2.peakMb = s.peakMb ∧ s.peakMb = max m.peakMb s.memoryMb := by
  obtain ⟨hNone, -⟩ | ⟨s', hSome, hNext, hPeak⟩ := made_cases self m c
  · cases h.symm.trans hNone
  · cases h.symm.trans hSome
    exact ⟨congrArg peakMb hNext, hPeak⟩

theorem made_keeps (self : Nat) (m : Monitor) (c : Call) :
    (c.made self m).2.enabled = m.enabled ∧ (c.made self m).2.processId = m.processId ∧
      m.peakMb ≤ (c.made self m).2.peakMb := by
  obtain ⟨-, hSame⟩ | ⟨s, -, hNext, hPeak⟩ := made_cases self m c
  · simp [hSame]
  · have hLe : m.peakMb ≤ s.peakMb := by omega
    rw [hNext]
    exact ⟨rfl, rfl, hLe⟩

theorem made_of_disabled (self : Nat) (h : m.enabled = false) (c : Call) :
    c.made self m = (c.look.answer none, m) := by
  rw [made_eq, Call.stats?]
  obtain ⟨-, hLook⟩ | ⟨r, s, hEnabled, -⟩ := look_cases m (m.reading c.processes)
  · rw [hLook]
  · cases h.symm.trans hEnabled

/-! ### A row of calls -/

theorem after_append (self : Nat) (m : Monitor) (calls later : List Call) :
    m.after self (calls ++ later) = (m.after self calls).after self later := List.foldl_append ..

theorem after_keeps (self : Nat) (m : Monitor) (calls : List Call) :
    (m.after self calls).enabled = m.enabled ∧ (m.after self calls).processId = m.processId ∧
      m.peakMb ≤ (m.after self calls).peakMb := by
  induction calls generalizing m with
  | nil => exact ⟨rfl, rfl, Nat.le_refl _⟩
  | cons c calls ih =>
    obtain ⟨hEnabled, hProcess, hPeak⟩ := made_keeps self m c
    obtain ⟨hEnabled', hProcess', hPeak'⟩ := ih (c.made self m).2
    exact ⟨hEnabled'.trans hEnabled, hProcess'.trans hProcess, Nat.le_trans hPeak hPeak'⟩

theorem after_of_disabled (self : Nat) (h : m.enabled = false) (calls : List Call) :
    m.after self calls = m := by
  induction calls with
  | nil => rfl
  | cons c calls ih =>
    rw [after, List.foldl_cons, made_of_disabled self h]
    exact ih

theorem peakMb_le_of_later (self : Nat) {later : List Call} (h : c.stats? m = some s)
    (hLater : d.stats? ((c.made self m).2.after self later) = some t) : s.peakMb ≤ t.peakMb := by
  calc
    s.peakMb = (c.made self m).2.peakMb := (peakMb_of_stats? self h).1.symm
    _ ≤ ((c.made self m).2.after self later).peakMb := (after_keeps self _ later).2.2
    _ ≤ (d.made self ((c.made self m).2.after self later)).2.peakMb := (made_keeps self _ d).2.2
    _ = t.peakMb := (peakMb_of_stats? self hLater).1

/-! ### A monitor that watches a process -/

section Watching

variable (hEnabled : m.enabled = true) (hProcess : m.processId = some processId)

include hEnabled hProcess

theorem size?_eq (c : Call) : c.size? processId = (c.stats? m).map Stats.memoryMb := by
  have hReading : m.reading c.processes = c.processes processId := by
    rw [reading, hProcess]
    rfl
  rw [Call.stats?, Call.size?, hReading]
  obtain ⟨hNone, hLook⟩ | ⟨r, s, -, hSome, hLook, hMemory, -⟩ := look_cases m (c.processes processId)
  · have hMissing : c.processes processId = none := hNone.resolve_left (by simp [hEnabled])
    rw [hLook, hMissing]
    rfl
  · rw [hLook, hSome]
    exact congrArg some hMemory.symm

theorem stats?_eq_none_iff (c : Call) : c.stats? m = none ↔ c.processes processId = none := by
  have hSize := size?_eq hEnabled hProcess c
  rw [← Option.map_eq_none_iff, ← hSize, Call.size?, Option.map_eq_none_iff]

theorem peakMb_after (self : Nat) (calls : List Call) :
    (m.after self calls).peakMb = (sizes processId calls).foldl max m.peakMb := by
  induction calls generalizing m with
  | nil => rfl
  | cons c calls ih =>
    obtain ⟨hEnabled', hProcess', -⟩ := made_keeps self m c
    have hRest : ((c.made self m).2.after self calls).peakMb =
        (sizes processId calls).foldl max (c.made self m).2.peakMb :=
      ih (hEnabled'.trans hEnabled) (hProcess'.trans hProcess)
    have hSize := size?_eq hEnabled hProcess c
    rw [after, List.foldl_cons, ← after, hRest, sizes, sizes, List.filterMap_cons, hSize]
    obtain ⟨hNone, hSame⟩ | ⟨s, hSome, hNext, hPeak⟩ := made_cases self m c
    · rw [hNone, hSame]
      rfl
    · rw [hSome, hNext, Option.map_some, List.foldl_cons, hPeak]

end Watching

theorem max?_eq_foldl {xs : List Nat} (h : xs ≠ []) : xs.max? = some (xs.foldl max 0) := by
  obtain ⟨x, xs, rfl⟩ := List.exists_cons_of_ne_nil h
  rw [List.max?_cons', List.foldl_cons, Nat.zero_max]

theorem max?_sizes (self : Nat) {before : List Call}
    (h : c.stats? ((watch (some processId) true).after self before) = some s) :
    (sizes processId (before ++ [c])).max? = some s.peakMb := by
  obtain ⟨hEnabled, hProcess, -⟩ := after_keeps self (watch (some processId) true) before
  have hSize := size?_eq hEnabled hProcess c
  have hFound : sizes processId (before ++ [c]) ≠ [] := by simp [sizes, hSize, h]
  rw [max?_eq_foldl hFound, ← (peakMb_of_stats? self h).1]
  have hAll := peakMb_after (m := watch (some processId) true) rfl rfl self (before ++ [c])
  rw [after_append] at hAll
  exact congrArg some hAll.symm

/-- A call finds something exactly if its process is there, and then the peak is the most memory that
this call and the ones before it have found. -/
theorem peak_runs_maximum (self : Nat) :
    (∀ (processId : Nat) (before : List Call) (c : Call),
      let start := watch (some processId) true
      let m := start.after self before
      (c.made self m).1 = c.look.answer (c.stats? m) ∧
      (c.stats? m = none ↔ c.processes processId = none) ∧
      (c.stats? m = none → (c.made self m).2 = m) ∧
      ∀ s, c.stats? m = some s →
        c.size? processId = some s.memoryMb ∧
        (sizes processId (before ++ [c])).max? = some s.peakMb ∧
        s.memoryMb ≤ s.peakMb ∧
        ∀ (later : List Call) (d : Call) (t : Stats),
          d.stats? (start.after self (before ++ c :: later)) = some t → s.peakMb ≤ t.peakMb) ∧
    ∀ (processId : Option Nat) (enabled : Bool), enabled = false ∨ processId = none →
      ∀ (before : List Call) (c : Call),
        let m := (watch processId enabled).after self before
        (c.made self m).1 = c.look.answer none ∧ m.peakMb = 0 := by
  constructor
  · intro processId before c start m
    obtain ⟨hEnabled, hProcess, -⟩ := after_keeps self start before
    refine ⟨by rw [made_eq], stats?_eq_none_iff hEnabled hProcess c, fun hNone => ?_, fun s hSome => ?_⟩
    · obtain ⟨-, hSame⟩ | ⟨s, hSome, -⟩ := made_cases self m c
      · exact hSame
      · cases hNone.symm.trans hSome
    · have hSize : c.size? processId = (c.stats? m).map Stats.memoryMb := size?_eq hEnabled hProcess c
      have hPeak := (peakMb_of_stats? self hSome).2
      rw [hSome] at hSize
      refine ⟨hSize, max?_sizes self hSome, by omega, fun later d t hLater => ?_⟩
      rw [after_append] at hLater
      exact peakMb_le_of_later self hSome hLater
  · intro processId enabled hNothing before c m
    have hDisabled : (watch processId enabled).enabled = false := by
      rw [watch]
      obtain rfl | rfl := hNothing <;> simp
    have hSame : m = watch processId enabled := after_of_disabled self hDisabled before
    rw [hSame, made_of_disabled self hDisabled]
    exact ⟨rfl, rfl⟩

end WorkerSim.Monitor
