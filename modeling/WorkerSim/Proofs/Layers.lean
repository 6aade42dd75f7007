import WorkerSim.Launch
import WorkerSim.Proofs.OwnFlags
import WorkerSim.Proofs.Partial

/-!
# Flags over files over defaults

A file is checked as a whole before a flag can override anything in it, so that a flag does not repair
it, and the settings that come of both are checked again. The checks look for the first number that
is zero, in the order of the fields. If there is none, every number is that of its flag, else that of
the file, else the default.
-/

set_option autoImplicit false

namespace WorkerSim

/-- Numbers with the names of their fields; a field may have no number. -/
abbrev Numbers := List (String × Option UInt64)

namespace Numbers

def firstZero (ns : Numbers) : Option String := (ns.find? (·.2 = some 0)).map Prod.fst

def fault (field : String) : Fault := .value field "0" (.below 1)

def check (ns : Numbers) : Except Fault Unit :=
  match ns.firstZero with
  | some field => .error (fault field)
  | none => .ok ()

theorem firstZero_cons (field : String) (n : Option UInt64) (ns : Numbers) :
    firstZero ((field, n) :: ns) = if n = some 0 then some field else firstZero ns := by
  rw [firstZero, List.find?_cons]
  by_cases h : n = some 0
  · simp [h]
  · simp [h, firstZero]

theorem firstZero_append (ns ms : Numbers) :
    firstZero (ns ++ ms) = (firstZero ns).or (firstZero ms) := by
  rw [firstZero, List.find?_append, Option.map_or]
  rfl

theorem firstZero_eq_none_iff (ns : Numbers) : ns.firstZero = none ↔ ∀ n ∈ ns, n.2 ≠ some 0 := by
  rw [firstZero, Option.map_eq_none_iff, List.find?_eq_none]
  simp only [decide_eq_true_eq]

theorem check_eq_ok_iff (ns : Numbers) : ns.check = .ok () ↔ ns.firstZero = none := by
  rw [check]
  cases ns.firstZero with
  | none => exact iff_of_true rfl rfl
  | some field => exact iff_of_false nofun nofun

theorem check_congr {ns ms : Numbers} (h : ns.firstZero = ms.firstZero) : ns.check = ms.check := by
  rw [check, check, h]

theorem check_cons (field : String) (n : Option UInt64) (ns : Numbers) :
    check ((field, n) :: ns) = Check.optionalAtLeast field n 1 >>= fun _ => ns.check := by
  rw [check, firstZero_cons]
  cases n with
  | none => rfl
  | some n =>
    rw [Check.optionalAtLeast, Check.atLeast]
    by_cases h : n = 0
    · subst h
      rfl
    · have hLess : ¬ n < 1 := by
        rw [UInt64.lt_one_iff]
        exact h
      rw [if_neg (fun hSome => h (Option.some.inj hSome)), if_neg hLess]
      rfl

theorem check_singleton (field : String) (n : Option UInt64) :
    check [(field, n)] = Check.optionalAtLeast field n 1 := by
  rw [check_cons]
  cases Check.optionalAtLeast field n 1 <;> rfl

theorem check_append (ns ms : Numbers) : check (ns ++ ms) = ns.check >>= fun _ => ms.check := by
  rw [check, check, firstZero_append]
  cases ns.firstZero <;> rfl

/-- Where numbers are put over others, none of which is zero, the first zero is one of those on top. -/
theorem firstZero_or (ts : List (String × Option UInt64 × Option UInt64))
    (h : firstZero (ts.map fun t => (t.1, t.2.2)) = none) :
    firstZero (ts.map fun t => (t.1, t.2.1.or t.2.2)) = firstZero (ts.map fun t => (t.1, t.2.1)) := by
  induction ts with
  | nil => rfl
  | cons t ts ih =>
    rw [List.map_cons, firstZero_cons] at h
    split at h
    · cases h
    · rename_i hBelow
      rw [List.map_cons, List.map_cons, firstZero_cons, firstZero_cons, ih h]
      -- what shows through is not zero, and neither is what is not there
      cases t.2.1 with
      | some n => rfl
      | none => rw [Option.none_or, if_neg hBelow, if_neg nofun]

end Numbers

open Numbers

def Runaway.Settings.numbers (s : Runaway.Settings) : Numbers :=
  [("runaway.workload_size", some s.workloadSize), ("runaway.report_every", some s.reportEvery),
    ("runaway.max_iterations", s.maxIterations)]

def Recovered.Settings.numbers (s : Recovered.Settings) : Numbers :=
  [("recovered.heartbeats", some s.heartbeats), ("recovered.interval_ms", some s.intervalMs)]

def Config.numbers (c : Config) : Numbers := c.runaway.numbers ++ c.recovered.numbers

theorem Runaway.Settings.check_eq (s : Runaway.Settings) : s.check = s.numbers.check := by
  rw [numbers, check_cons, check_cons, check_singleton]
  rfl

theorem Recovered.Settings.check_eq (s : Recovered.Settings) : s.check = s.numbers.check := by
  rw [numbers, check_cons, check_singleton]
  rfl

theorem Config.check_eq (c : Config) : c.check = c.numbers.check := by
  rw [check, numbers, check_append, ← Runaway.Settings.check_eq, ← Recovered.Settings.check_eq]

namespace Flags

def runawayNumbers (f : Flags) : Numbers :=
  [("runaway.workload_size", f.workloadSize), ("runaway.report_every", f.reportEvery),
    ("runaway.max_iterations", f.maxIterations)]

def recoveredNumbers (f : Flags) : Numbers :=
  [("recovered.heartbeats", f.heartbeats), ("recovered.interval_ms", f.intervalMs)]

def numbers (f : Flags) : Numbers := f.runawayNumbers ++ f.recoveredNumbers

/-- What a record reads from the file that the flags point to; without a file, what it starts from. -/
def file {α : Type} (f : Flags) (r : Toml.Record α) (env : Environment) (fs : FileSystem) :
    Except Fault α :=
  match f.config with
  | none => .ok r.start
  | some path => do
    Check.notBlank "config" (String.ofList path)
    match fs.readText path with
    | .ok text => r.ofText env text
    | .error cause => .error (.io cause)

/-- A configuration and flags on top of it, with a job whose settings have passed their checks. -/
def layered (f : Flags) (program : Program) (env : Environment) (fs : FileSystem) :
    Except Fault (Logging × Bool × Job) := do
  let config ← f.load env fs
  let launch := Launch.of program f config
  let job ← launch.job
  return (launch.logging, launch.monitored, job)

/-- Each number is that of its flag, else what is set otherwise, else the default. -/
def jobOver (f : Flags) (program : Program) (p : Config.Partial) : Job :=
  match program with
  | .runaway => .runaway ⟨(f.workloadSize.or p.runaway.workloadSize).getD 120000,
      (f.reportEvery.or p.runaway.reportEvery).getD 200, f.maxIterations.or p.runaway.maxIterations⟩
  | .recovered => .recovered ⟨(f.heartbeats.or p.recovered.heartbeats).getD 199,
      (f.intervalMs.or p.recovered.intervalMs).getD 200⟩

theorem file_eq_map (f : Flags) (env : Environment) (fs : FileSystem) :
    f.file Config.record env fs =
      (f.file Config.Partial.record env fs).map Config.Partial.config := by
  rw [file, file]
  cases f.config with
  | none => rfl
  | some path =>
    simp only
    cases Check.notBlank "config" (String.ofList path) with
    | error fault => rfl
    | ok _ =>
      cases fs.readText path with
      | error cause => rfl
      | ok text => exact (Config.Partial.maps.ofDocument _).symm

theorem load_eq (f : Flags) (env : Environment) (fs : FileSystem) :
    f.load env fs = f.file Config.record env fs >>= fun c => c.numbers.check >>= fun _ => .ok c := by
  rw [load, file]
  cases f.config with
  | none => rfl
  | some path =>
    simp only [Config.check_eq, Config.ofFile]
    cases Check.notBlank "config" (String.ofList path) with
    | error fault => rfl
    | ok _ =>
      cases fs.readText path with
      | error cause => rfl
      | ok text =>
        have hText : Config.ofText env text = Config.record.ofText env text :=
          Config.ofDocument_eq _
        simp only [hText]
        rfl

theorem getD_or (flag set : Option UInt64) (default : UInt64) :
    (flag.or set).getD default = flag.getD (set.getD default) := by
  cases flag <;> rfl

theorem runawayNumbers_firstZero {f : Flags} (hFits : f.Fits .recovered) :
    f.runawayNumbers.firstZero = none := by
  have hSize : f.workloadSize = none :=
    Option.not_isSome_iff_eq_none.mp (hFits.not_isGiven (p := .workloadSize) (by decide))
  have hEvery : f.reportEvery = none :=
    Option.not_isSome_iff_eq_none.mp (hFits.not_isGiven (p := .reportEvery) (by decide))
  have hLimit : f.maxIterations = none :=
    Option.not_isSome_iff_eq_none.mp (hFits.not_isGiven (p := .maxIterations) (by decide))
  rw [runawayNumbers, hSize, hEvery, hLimit]
  rfl

theorem recoveredNumbers_firstZero {f : Flags} (hFits : f.Fits .runaway) :
    f.recoveredNumbers.firstZero = none := by
  have hBeats : f.heartbeats = none :=
    Option.not_isSome_iff_eq_none.mp (hFits.not_isGiven (p := .heartbeats) (by decide))
  have hInterval : f.intervalMs = none :=
    Option.not_isSome_iff_eq_none.mp (hFits.not_isGiven (p := .intervalMs) (by decide))
  rw [recoveredNumbers, hBeats, hInterval]
  rfl

theorem firstZero_runawaySettings (f : Flags) {c : Config} (h : c.runaway.numbers.firstZero = none) :
    (f.runawaySettings c).numbers.firstZero = f.runawayNumbers.firstZero := by
  let ts := [("runaway.workload_size", f.workloadSize, some c.runaway.workloadSize),
    ("runaway.report_every", f.reportEvery, some c.runaway.reportEvery),
    ("runaway.max_iterations", f.maxIterations, c.runaway.maxIterations)]
  have hNumbers : (f.runawaySettings c).numbers = ts.map fun t => (t.1, t.2.1.or t.2.2) := by
    simp [ts, Runaway.Settings.numbers, runawaySettings, Option.or_some]
  rw [hNumbers, firstZero_or ts h]
  rfl

theorem firstZero_recoveredSettings (f : Flags) {c : Config}
    (h : c.recovered.numbers.firstZero = none) :
    (f.recoveredSettings c).numbers.firstZero = f.recoveredNumbers.firstZero := by
  let ts := [("recovered.heartbeats", f.heartbeats, some c.recovered.heartbeats),
    ("recovered.interval_ms", f.intervalMs, some c.recovered.intervalMs)]
  have hNumbers : (f.recoveredSettings c).numbers = ts.map fun t => (t.1, t.2.1.or t.2.2) := by
    simp [ts, Recovered.Settings.numbers, recoveredSettings, Option.or_some]
  rw [hNumbers, firstZero_or ts h]
  rfl

/-- The numbers of a job are those of the flags over those of the file. -/
theorem job_eq {f : Flags} {program : Program} (hFits : f.Fits program) {p : Config.Partial}
    (hFile : p.config.numbers.firstZero = none) :
    f.job program p.config = f.numbers.check >>= fun _ => .ok (f.jobOver program p) := by
  rw [Config.numbers, firstZero_append, Option.or_eq_none_iff] at hFile
  cases program with
  | runaway =>
    have hNumbers : (f.runawaySettings p.config).numbers.firstZero = f.numbers.firstZero := by
      rw [firstZero_runawaySettings f hFile.1, numbers, firstZero_append,
        recoveredNumbers_firstZero hFits, Option.or_none]
    rw [job, Runaway.Settings.check_eq, check_congr hNumbers, jobOver, getD_or, getD_or]
    rfl
  | recovered =>
    have hNumbers : (f.recoveredSettings p.config).numbers.firstZero = f.numbers.firstZero := by
      rw [firstZero_recoveredSettings f hFile.2, numbers, firstZero_append,
        runawayNumbers_firstZero hFits, Option.none_or]
    rw [job, Recovered.Settings.check_eq, check_congr hNumbers, jobOver, getD_or, getD_or]
    rfl

theorem load_of_file {f : Flags} {env : Environment} {fs : FileSystem} {p : Config.Partial}
    (h : f.file Config.Partial.record env fs = .ok p) :
    f.load env fs = p.config.numbers.check >>= fun _ => .ok p.config := by
  rw [load_eq, file_eq_map, h]
  rfl

theorem job_of_file {f : Flags} {program : Program} (hFits : f.Fits program) {env : Environment}
    {fs : FileSystem} {p : Config.Partial} (h : f.file Config.Partial.record env fs = .ok p) :
    f.load env fs >>= f.job program =
      p.config.numbers.check >>= fun _ => f.numbers.check >>= fun _ => .ok (f.jobOver program p) := by
  rw [load_of_file h]
  cases hCheck : p.config.numbers.check with
  | error fault => rfl
  | ok _ => exact job_eq hFits ((check_eq_ok_iff _).mp hCheck)

theorem layered_of_file_error {f : Flags} {env : Environment} {fs : FileSystem} {fault : Fault}
    (h : f.file Config.Partial.record env fs = .error fault) (program : Program) :
    f.layered program env fs = .error fault := by
  rw [layered, load_eq, file_eq_map, h]
  rfl

theorem layered_of_file {f : Flags} {program : Program} (hFits : f.Fits program) {env : Environment}
    {fs : FileSystem} {p : Config.Partial} (h : f.file Config.Partial.record env fs = .ok p) :
    f.layered program env fs = p.config.numbers.check >>= fun _ => f.numbers.check >>= fun _ =>
      .ok (f.logging p.config, f.monitored p.config, f.jobOver program p) := by
  rw [layered, load_of_file h]
  cases hCheck : p.config.numbers.check with
  | error fault => rfl
  | ok _ =>
    let finish (job : Job) : Except Fault (Logging × Bool × Job) :=
      .ok (f.logging p.config, f.monitored p.config, job)
    change f.job program p.config >>= finish = f.numbers.check >>= fun _ => finish (f.jobOver program p)
    rw [job_eq hFits ((check_eq_ok_iff _).mp hCheck)]
    cases f.numbers.check <;> rfl

theorem file_eq_ok_iff {f : Flags} {α : Type} {r : Toml.Record α} {env : Environment}
    {fs : FileSystem} {a : α} :
    f.file r env fs = .ok a ↔ (f.config = none ∧ a = r.start) ∨
      ∃ path text, f.config = some path ∧ Check.notBlank "config" (String.ofList path) = .ok () ∧
        fs.readText path = .ok text ∧ r.ofText env text = .ok a := by
  constructor
  · intro h
    rw [file] at h
    cases hPath : f.config with
    | none =>
      rw [hPath] at h
      exact .inl ⟨rfl, (Except.ok.inj h).symm⟩
    | some path =>
      rw [hPath] at h
      obtain ⟨_, hBlank, hRest⟩ := ok_of_bind h
      cases hText : fs.readText path with
      | error cause =>
        rw [hText] at hRest
        cases hRest
      | ok text =>
        rw [hText] at hRest
        exact .inr ⟨path, text, rfl, hBlank, hText, hRest⟩
  · rintro (⟨hNone, rfl⟩ | ⟨path, text, hSome, hBlank, hText, hRead⟩)
    · rw [file, hNone]
    · rw [file, hSome]
      simp only [hBlank, hText]
      exact hRead

theorem ofFile_eq_ok_iff {env : Environment} {fs : FileSystem} {path : List Char} {c : Config} :
    Config.ofFile env fs path = .ok c ↔
      ∃ text, fs.readText path = .ok text ∧ Config.record.ofText env text = .ok c := by
  rw [Config.ofFile]
  cases fs.readText path with
  | error cause => exact ⟨nofun, fun ⟨_, hText, _⟩ => nomatch hText⟩
  | ok text =>
    have hText : Config.ofText env text = Config.record.ofText env text := Config.ofDocument_eq _
    simp only [hText]
    refine ⟨fun h => ⟨text, rfl, h⟩, ?_⟩
    rintro ⟨_, hSame, h⟩
    obtain rfl := Except.ok.inj hSame
    exact h

theorem ofFile_of_file {f : Flags} {env : Environment} {fs : FileSystem} {p : Config.Partial}
    (h : f.file Config.Partial.record env fs = .ok p) {path : List Char} (hPath : f.config = some path) :
    Config.ofFile env fs path = .ok p.config := by
  have hConfig : f.file Config.record env fs = .ok p.config := by rw [file_eq_map, h]; rfl
  obtain ⟨hNone, -⟩ | ⟨other, text, hOther, -, hText, hRead⟩ := file_eq_ok_iff.mp hConfig
  · exact nomatch hPath.symm.trans hNone
  · obtain rfl := Option.some.inj (hPath.symm.trans hOther)
    exact ofFile_eq_ok_iff.mpr ⟨text, hText, hRead⟩

/-- Without a file, or with one that can be read. -/
theorem exists_file_iff (f : Flags) (env : Environment) (fs : FileSystem) :
    (∃ p, f.file Config.Partial.record env fs = .ok p ∧ p.config.numbers.firstZero = none) ↔
      f.config = none ∨ ∃ path c, f.config = some path ∧
        Check.notBlank "config" (String.ofList path) = .ok () ∧ Config.ofFile env fs path = .ok c ∧
        ∀ n ∈ c.numbers, n.2 ≠ some 0 := by
  constructor
  · rintro ⟨p, hFile, hZero⟩
    have hConfig : f.file Config.record env fs = .ok p.config := by rw [file_eq_map, hFile]; rfl
    obtain ⟨hNone, -⟩ | ⟨path, text, hSome, hBlank, hText, hRead⟩ := file_eq_ok_iff.mp hConfig
    · exact .inl hNone
    · exact .inr ⟨path, p.config, hSome, hBlank, ofFile_eq_ok_iff.mpr ⟨text, hText, hRead⟩,
        (firstZero_eq_none_iff _).mp hZero⟩
  · rintro (hNone | ⟨path, c, hSome, hBlank, hFile, hZero⟩)
    · exact ⟨{}, file_eq_ok_iff.mpr (.inl ⟨hNone, rfl⟩), rfl⟩
    · obtain ⟨text, hText, hRead⟩ := ofFile_eq_ok_iff.mp hFile
      have hConfig : f.file Config.record env fs = .ok c :=
        file_eq_ok_iff.mpr (.inr ⟨path, text, hSome, hBlank, hText, hRead⟩)
      rw [file_eq_map] at hConfig
      cases hSet : f.file Config.Partial.record env fs with
      | error fault =>
        rw [hSet] at hConfig
        cases hConfig
      | ok p =>
        rw [hSet] at hConfig
        obtain rfl := Except.ok.inj hConfig
        exact ⟨p, rfl, (firstZero_eq_none_iff _).mpr hZero⟩

/-- Every accepted command line, in every environment and with all files: when the layers come to a
job, what its numbers and switches are, and which field is to blame if they do not. -/
theorem layered_of_read {program : Program} {args : List Text.Bytes} {f : Flags}
    (hRead : read program args = .ok f) (env : Environment) (fs : FileSystem) :
    let set := f.file Config.Partial.record env fs
    let result := f.layered program env fs
    ((∃ launched, result = .ok launched) ↔
      (f.config = none ∨ ∃ path c, f.config = some path ∧
        Check.notBlank "config" (String.ofList path) = .ok () ∧ Config.ofFile env fs path = .ok c ∧
        ∀ n ∈ c.numbers, n.2 ≠ some 0) ∧
      ∀ n ∈ f.numbers, n.2 ≠ some 0) ∧
    (∀ fault, set = .error fault → result = .error fault) ∧
    ∀ p, set = .ok p →
      (∀ path, f.config = some path → Config.ofFile env fs path = .ok p.config) ∧
      (∀ field, p.config.numbers.firstZero = some field →
        result = .error (.value field "0" (.below 1))) ∧
      (p.config.numbers.firstZero = none → ∀ field, f.numbers.firstZero = some field →
        result = .error (.value field "0" (.below 1))) ∧
      (p.config.numbers.firstZero = none → f.numbers.firstZero = none →
        result = .ok
          (⟨f.verbose || p.logging.verbose.getD false, f.logJson || p.logging.json.getD false⟩,
            f.monitor || p.monitoring.enabled.getD false, f.jobOver program p)) := by
  intro set result
  have hFits := fits_of_read hRead
  refine ⟨?_, fun fault hSet => layered_of_file_error hSet program, fun p hSet => ?_⟩
  · rw [← exists_file_iff, ← firstZero_eq_none_iff, ← check_eq_ok_iff f.numbers]
    constructor
    · rintro ⟨launched, hOk⟩
      cases hSet : set with
      | error fault => exact nomatch hOk.symm.trans (layered_of_file_error hSet program)
      | ok p =>
        have hResult := (layered_of_file hFits hSet).symm.trans hOk
        obtain ⟨_, hFile, hRest⟩ := ok_of_bind hResult
        obtain ⟨_, hFlags, -⟩ := ok_of_bind hRest
        exact ⟨⟨p, hSet, (check_eq_ok_iff _).mp hFile⟩, hFlags⟩
    · rintro ⟨⟨p, hSet, hFile⟩, hFlags⟩
      have hResult := layered_of_file hFits hSet
      rw [(check_eq_ok_iff _).mpr hFile, hFlags] at hResult
      exact ⟨_, hResult⟩
  · have hResult : result = _ := layered_of_file hFits hSet
    refine ⟨fun path hSome => ofFile_of_file hSet hSome, fun field hZero => ?_,
      fun hFile field hZero => ?_, fun hFile hFlags => ?_⟩
    · rw [hResult, Numbers.check, hZero]
      rfl
    · rw [hResult, (check_eq_ok_iff _).mpr hFile, Numbers.check, hZero]
      rfl
    · rw [hResult, (check_eq_ok_iff _).mpr hFile, (check_eq_ok_iff _).mpr hFlags]
      rfl

/-- A flag goes before the file, the file before a default, and a switch may come from either. -/
theorem layered_of_three_heartbeats :
    let args := ["-v", "--heartbeats=3", "-ca"].map fun word => Text.Utf8.encode word.toList
    let text := "logging.json = true\n[recovered]\nheartbeats = 7\ninterval_ms = 5\n".toList
    let fs : FileSystem := fun _ => .ok (Text.Utf8.encode text)
    let f : Flags := { verbose := true, heartbeats := some 3, config := some ['a'] }
    read .recovered args = .ok f ∧
      f.layered .recovered [] fs = .ok (⟨true, true⟩, false, .recovered ⟨3, 5⟩) := by
  intro args text fs f
  have hRead : read .recovered args = .ok f := by rfl
  let p : Config.Partial :=
    { logging := { json := some true }, recovered := { heartbeats := some 7, intervalMs := some 5 } }
  have hText : Config.Partial.record.ofText [] text = .ok p := by with_unfolding_all rfl
  have hSet : f.file Config.Partial.record [] fs = .ok p :=
    file_eq_ok_iff.mpr (.inr ⟨['a'], text, rfl, rfl, FileSystem.readText_of_encode rfl, hText⟩)
  obtain ⟨-, -, hFile⟩ := layered_of_read hRead [] fs
  exact ⟨hRead, (hFile p hSet).2.2.2 (by decide) (by decide)⟩

end Flags

end WorkerSim
