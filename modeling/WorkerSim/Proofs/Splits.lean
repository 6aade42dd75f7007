import Mathlib.Data.List.Nodup
import WorkerSim.Proofs.Check
import WorkerSim.Proofs.Endings
import WorkerSim.Proofs.Layers
import WorkerSim.Proofs.RoundTrip
import WorkerSim.Proofs.Words

/-!
# Numbers from two sides

A program takes its numbers from the command line, from its table in a file, or some from here and
some from there. It makes no difference to the job where a number comes from. If all of them come from
one side, it makes none to the fault either.
-/

set_option autoImplicit false

namespace WorkerSim

open Config (NumberKey Setting)
open Text (Bytes)

namespace Config.NumberKey

def parameter : NumberKey → Parameter
  | workloadSize => .workloadSize
  | reportEvery => .reportEvery
  | maxIterations => .maxIterations
  | heartbeats => .heartbeats
  | intervalMs => .intervalMs

end Config.NumberKey

def Program.table : Program → Config.Table
  | runaway => .runaway
  | recovered => .recovered

abbrev KeyedNumbers := List (NumberKey × UInt64)

/-- Numbers of a program, at most one for each of its keys. -/
structure Program.Assignment (program : Program) where
  numbers : KeyedNumbers
  once : (numbers.map Prod.fst).Nodup
  own : ∀ a ∈ numbers, a.1.table = program.table

/-- A file with numbers, and whether its path stands in a word of its own. -/
structure NumberFile where
  path : List Char
  isApart : Bool
  numbers : KeyedNumbers

/-- Numbers on the command line, some of them behind the path of a file with others, if there is one. -/
structure Split where
  before : KeyedNumbers
  file? : Option NumberFile
  after : KeyedNumbers

namespace KeyedNumbers

def words (ns : KeyedNumbers) : List Bytes :=
  ns.map fun a => Flags.attached a.1.parameter (Numeral.digits a.2.toNat)

/-- The document of a program's table with these numbers. -/
def document (program : Program) (ns : KeyedNumbers) : List Char :=
  Config.heading program.table.name ++ ns.flatMap fun a => Config.numberLine a.1.name a.2

def flags (ns : KeyedNumbers) (path? : Option (List Char)) : Flags where
  config := path?
  workloadSize := ns.lookup .workloadSize
  reportEvery := ns.lookup .reportEvery
  maxIterations := ns.lookup .maxIterations
  heartbeats := ns.lookup .heartbeats
  intervalMs := ns.lookup .intervalMs

def partialConfig (ns : KeyedNumbers) : Config.Partial where
  runaway := ⟨ns.lookup .workloadSize, ns.lookup .reportEvery, ns.lookup .maxIterations⟩
  recovered := ⟨ns.lookup .heartbeats, ns.lookup .intervalMs⟩

/-- The job with these numbers, and the defaults for the others. -/
def job (program : Program) (ns : KeyedNumbers) : Job :=
  match program with
  | .runaway => .runaway ⟨(ns.lookup .workloadSize).getD 120000, (ns.lookup .reportEvery).getD 200,
      ns.lookup .maxIterations⟩
  | .recovered => .recovered ⟨(ns.lookup .heartbeats).getD 199, (ns.lookup .intervalMs).getD 200⟩

end KeyedNumbers

def NumberFile.words (f : NumberFile) : List Bytes :=
  if f.isApart then Flags.apart .config f.path else [Flags.attached .config f.path]

namespace Split

def given (s : Split) : KeyedNumbers := s.before ++ s.after

def written (s : Split) : KeyedNumbers := (s.file?.map NumberFile.numbers).getD []

def args (s : Split) : List Bytes :=
  s.before.words ++ ((s.file?.map NumberFile.words).getD [] ++ s.after.words)

/-- The numbers of an assignment are given here or written in a file that can be read. -/
structure Of {program : Program} (s : Split) (a : program.Assignment) (fs : FileSystem) : Prop where
  numbers : (s.given ++ s.written).Perm a.numbers
  path : ∀ f ∈ s.file?, Text.isBlankText f.path = false
  apart : ∀ f ∈ s.file?, f.isApart = true → (Text.Utf8.encode f.path).head? ≠ some Flags.dash
  document : ∀ f ∈ s.file?, fs.readText f.path = .ok (f.numbers.document program)

end Split

namespace KeyedNumbers

variable {program : Program} {ns ms : KeyedNumbers} {k : NumberKey} {n : UInt64}

theorem lookup_eq_some_iff (hOnce : (ns.map Prod.fst).Nodup) : ns.lookup k = some n ↔ (k, n) ∈ ns := by
  induction ns with
  | nil => simp
  | cons a ns ih =>
    obtain ⟨k', n'⟩ := a
    rw [List.map_cons, List.nodup_cons] at hOnce
    rw [List.lookup_cons, List.mem_cons, Prod.mk.injEq]
    by_cases hKey : k = k'
    · subst hKey
      have hOthers : (k, n) ∉ ns := fun hMem => hOnce.1 (List.mem_map.mpr ⟨_, hMem, rfl⟩)
      simp [hOthers, eq_comm]
    · have hBeq : (k == k') = false := beq_false_of_ne hKey
      simp [hBeq, hKey, ih hOnce.2]

theorem lookup_eq_none (h : k ∉ ns.map Prod.fst) : ns.lookup k = none := by
  rw [List.lookup_eq_none_iff]
  intro a hMem
  exact bne_iff_ne.mpr fun hSame => h (List.mem_map.mpr ⟨a, hMem, hSame.symm⟩)

theorem lookup_eq_of_perm (hPerm : ns.Perm ms) (hOnce : (ms.map Prod.fst).Nodup) (k : NumberKey) :
    ns.lookup k = ms.lookup k := by
  have hOnce' : (ns.map Prod.fst).Nodup := (hPerm.map Prod.fst).nodup_iff.mpr hOnce
  refine Option.ext fun n => ?_
  rw [lookup_eq_some_iff hOnce, lookup_eq_some_iff hOnce', hPerm.mem_iff]

theorem lookup_concat (h : ns.lookup k = none) (l : NumberKey) :
    (ns ++ [(k, n)]).lookup l = if l = k then some n else ns.lookup l := by
  rw [List.lookup_append, List.lookup_cons]
  by_cases hKey : l = k
  · subst hKey
    simp [h]
  · have hBeq : (l == k) = false := beq_false_of_ne hKey
    simp [hBeq, hKey]

/-! ### The command line -/

theorem parameter_mem_flags (h : k.table = program.table) : .parameter k.parameter ∈ program.flags := by
  revert h
  cases program <;> cases k <;> decide

theorem isGiven_flags (ns : KeyedNumbers) (path? : Option (List Char)) (k : NumberKey) :
    (ns.flags path?).isGiven k.parameter = (ns.lookup k).isSome := by
  cases k <;> rfl

theorem give_flags (h : ns.lookup k = none) (path? : Option (List Char)) (n : UInt64) :
    (ns.flags path?).give k.parameter (Numeral.digits n.toNat) =
      .ok (flags (ns ++ [(k, n)]) path?) := by
  have hRead := Numeral.read64_digits n
  cases k <;> simp [Config.NumberKey.parameter, Flags.give, hRead, flags, lookup_concat h, Except.map]

theorem readFrom_words {done : KeyedNumbers} (hOwn : ∀ a ∈ ns, a.1.table = program.table)
    (hOnce : ((done ++ ns).map Prod.fst).Nodup) (path? : Option (List Char)) (args : List Bytes) :
    Flags.readFrom program (ns.words ++ args) { flags := done.flags path? } =
      Flags.readFrom program args { flags := flags (done ++ ns) path? } := by
  induction ns generalizing done with
  | nil => rw [List.append_nil]; rfl
  | cons a ns ih =>
    obtain ⟨k, n⟩ := a
    obtain ⟨hKey, hRest⟩ := List.forall_mem_cons.mp hOwn
    have hNew : done.lookup k = none := by
      apply lookup_eq_none
      rw [List.map_append, List.map_cons] at hOnce
      exact fun hMem => List.disjoint_of_nodup_append hOnce hMem List.mem_cons_self
    have hGiven : (done.flags path?).isGiven k.parameter = false := by rw [isGiven_flags, hNew]; rfl
    have hWord := Flags.readFrom_attached (parameter_mem_flags hKey) hGiven (give_flags hNew path? n)
      (words ns ++ args)
    rw [List.append_cons] at hOnce ⊢
    exact hWord.trans (ih hRest hOnce)

/-! ### The file -/

/-- A table with these numbers. -/
def draft (program : Program) (ns : KeyedNumbers) : Config.Draft :=
  ⟨[], [⟨program.table, ns.map fun a => Setting.number a.1 a.2, 0⟩]⟩

theorem text_draft (program : Program) (ns : KeyedNumbers) :
    (ns.draft program).written.text = ns.document program := by
  rw [Toml.Draft.text, Config.Draft.written, Toml.Draft.map, draft, document]
  simp only [List.map_nil, List.flatMap_nil, List.nil_append, List.map_singleton, List.flatMap_singleton,
    Config.text_sheet, List.replicate_zero, List.append_nil, List.flatMap_map]
  rfl

theorem assigned_draft (program : Program) (ns : KeyedNumbers) :
    (ns.draft program).assigned = ns.map fun a => (program.table, Setting.number a.1 a.2) := by
  have hParts : (ns.draft program).parts =
      [.whole program.table (ns.map fun a => Setting.number a.1 a.2)] := rfl
  rw [Toml.Draft.assigned, hParts, List.flatMap_singleton, Toml.Portion.assigned, List.map_map]
  rfl

theorem get_partialConfig (ns : KeyedNumbers) (k : NumberKey) :
    ns.partialConfig.get (.number k) = ns.lookup k := by
  cases k <;> rfl

theorem spells_draft (hOwn : ∀ a ∈ ns, a.1.table = program.table) (hOnce : (ns.map Prod.fst).Nodup) :
    (ns.draft program).Spells ns.partialConfig where
  settings := by
    apply Config.Draft.mem_assigned_iff_sets
    · intro t s hMem
      rw [assigned_draft] at hMem
      obtain ⟨⟨k, n⟩, hNumber, hSame⟩ := List.mem_map.mp hMem
      obtain ⟨rfl, rfl⟩ := Prod.mk.inj hSame
      exact ⟨hOwn _ hNumber, (get_partialConfig ns k).trans ((lookup_eq_some_iff hOnce).mpr hNumber)⟩
    · intro k hSome
      cases k with
      | flag k => cases k <;> exact absurd rfl hSome
      | number k =>
        rw [get_partialConfig] at hSome
        by_contra hNone
        refine hSome (lookup_eq_none fun hMem => hNone ?_)
        obtain ⟨a, hNumber, rfl⟩ := List.mem_map.mp hMem
        rw [assigned_draft, List.map_map]
        exact List.mem_map.mpr ⟨a, hNumber, rfl⟩
  once := by
    rw [assigned_draft, List.map_map]
    have hKeys : ((ns.map Prod.fst).map Config.Key.number).Nodup :=
      List.Nodup.map (fun _ _ hSame => Config.Key.number.inj hSame) hOnce
    rwa [List.map_map] at hKeys
  tables := List.nodup_singleton program.table
  apart t s hMem := by
    simp [Toml.Draft.parts, draft, Toml.Sheet.part] at hMem

theorem ofText_document (hOwn : ∀ a ∈ ns, a.1.table = program.table) (hOnce : (ns.map Prod.fst).Nodup)
    (env : Environment) :
    Config.Partial.record.ofText env (ns.document program) = .ok ns.partialConfig := by
  rw [← text_draft]
  exact (spells_draft hOwn hOnce).ofText_eq env

/-! ### Both -/

open Numbers

/-- A default is not zero, so it is a number that is written that is. -/
theorem firstZero_partialConfig (ns : KeyedNumbers) (path? : Option (List Char)) :
    ns.partialConfig.config.numbers.firstZero = (ns.flags path?).numbers.firstZero := by
  let ts : List (String × Option UInt64 × Option UInt64) :=
    [("runaway.workload_size", ns.lookup .workloadSize, some 120000),
      ("runaway.report_every", ns.lookup .reportEvery, some 200),
      ("runaway.max_iterations", ns.lookup .maxIterations, none),
      ("recovered.heartbeats", ns.lookup .heartbeats, some 199),
      ("recovered.interval_ms", ns.lookup .intervalMs, some 200)]
  have hNumbers : ns.partialConfig.config.numbers = ts.map fun t => (t.1, t.2.1.or t.2.2) := by
    simp [ts, Config.numbers, Runaway.Settings.numbers, Recovered.Settings.numbers, partialConfig,
      Config.Partial.config, Runaway.Partial.settings, Recovered.Partial.settings, Option.or_some]
  rw [hNumbers, firstZero_or ts rfl]
  rfl

theorem firstZero_flags_eq_none_iff (hOnce : (ns.map Prod.fst).Nodup) (path? : Option (List Char)) :
    (ns.flags path?).numbers.firstZero = none ↔ ∀ a ∈ ns, a.2 ≠ 0 := by
  have hKeys : (∀ n ∈ (ns.flags path?).numbers, n.2 ≠ some 0) ↔ ∀ k, ns.lookup k ≠ some 0 := by
    simp only [Flags.numbers, Flags.runawayNumbers, Flags.recoveredNumbers, flags, List.cons_append,
      List.nil_append, List.forall_mem_cons, List.not_mem_nil, false_implies, implies_true, and_true]
    constructor
    · rintro ⟨hSize, hEvery, hLimit, hBeats, hPause⟩ k
      cases k <;> assumption
    · intro hAll
      exact ⟨hAll _, hAll _, hAll _, hAll _, hAll _⟩
  rw [firstZero_eq_none_iff, hKeys]
  constructor
  · rintro hAll ⟨k, n⟩ hMem rfl
    exact hAll k ((lookup_eq_some_iff hOnce).mpr hMem)
  · intro hAll k hZero
    exact hAll _ ((lookup_eq_some_iff hOnce).mp hZero) rfl

end KeyedNumbers

namespace Split

open KeyedNumbers

variable {program : Program} {a : program.Assignment} {s t : Split} {fs fs' : FileSystem}

namespace Of

theorem once (h : s.Of a fs) : ((s.given ++ s.written).map Prod.fst).Nodup :=
  (h.numbers.map Prod.fst).nodup_iff.mpr a.once

theorem own (h : s.Of a fs) : ∀ n ∈ s.given ++ s.written, n.1.table = program.table :=
  fun n hMem => a.own n (h.numbers.mem_iff.mp hMem)

theorem once_given (h : s.Of a fs) : (s.given.map Prod.fst).Nodup :=
  h.once.sublist ((List.sublist_append_left _ _).map _)

theorem once_written (h : s.Of a fs) : (s.written.map Prod.fst).Nodup :=
  h.once.sublist ((List.sublist_append_right _ _).map _)

end Of

theorem readFrom_file {f : NumberFile}
    (hApart : f.isApart = true → (Text.Utf8.encode f.path).head? ≠ some Flags.dash) (ns : KeyedNumbers)
    (args : List Bytes) :
    Flags.readFrom program (f.words ++ args) { flags := ns.flags none } =
      Flags.readFrom program args { flags := ns.flags (some f.path) } := by
  have hOwn : .parameter .config ∈ program.flags := by cases program <;> decide
  rw [NumberFile.words]
  split
  · rename_i hWords
    exact Flags.readFrom_apart hOwn rfl rfl (hApart hWords) args
  · exact Flags.readFrom_attached hOwn rfl rfl args

theorem read_args (h : s.Of a fs) :
    Flags.read program s.args = .ok (s.given.flags (s.file?.map NumberFile.path)) := by
  have hOwn : ∀ n ∈ s.given, n.1.table = program.table := fun n hMem => h.own n (List.mem_append_left _ hMem)
  obtain ⟨hBefore, hAfter⟩ := List.forall_mem_append.mp hOwn
  have hOnce := h.once_given
  have hFirst (args : List Bytes) : Flags.readFrom program (s.before.words ++ args)
      { flags := flags [] none } = Flags.readFrom program args { flags := s.before.flags none } :=
    readFrom_words hBefore (hOnce.sublist ((List.sublist_append_left _ _).map _)) none args
  have hLast (path? : Option (List Char)) : Flags.readFrom program s.after.words
      { flags := s.before.flags path? } = .ok (s.given.flags path?) := by
    have hWords := readFrom_words hAfter hOnce path? []
    rwa [List.append_nil] at hWords
  rw [Flags.read, args]
  refine (hFirst _).trans ?_
  cases hFile : s.file? with
  | none => exact hLast none
  | some f => exact (readFrom_file (h.apart f hFile) _ _).trans (hLast (some f.path))

theorem file_eq (h : s.Of a fs) (env : Environment) :
    (s.given.flags (s.file?.map NumberFile.path)).file Config.Partial.record env fs =
      .ok s.written.partialConfig := by
  rw [Flags.file_eq_ok_iff]
  have hOwn : ∀ n ∈ s.written, n.1.table = program.table := fun n hMem => h.own n (List.mem_append_right _ hMem)
  have hOnce := h.once_written
  rw [written] at hOwn hOnce ⊢
  cases hFile : s.file? with
  | none => exact .inl ⟨rfl, rfl⟩
  | some f =>
    rw [hFile] at hOwn hOnce
    have hBlank : Check.notBlank "config" (String.ofList f.path) = .ok () := by
      rw [Check.notBlank_eq, String.toList_ofList, h.path f hFile]
      rfl
    exact .inr ⟨f.path, _, rfl, hBlank, h.document f hFile, ofText_document hOwn hOnce env⟩

/-- The job has each number from where it is. -/
theorem jobOver_eq (h : s.Of a fs) (path? : Option (List Char)) :
    (s.given.flags path?).jobOver program s.written.partialConfig = a.numbers.job program := by
  have hLookup (k : NumberKey) : (s.given.lookup k).or (s.written.lookup k) = a.numbers.lookup k := by
    rw [← List.lookup_append, lookup_eq_of_perm h.numbers a.once]
  cases program with
  | runaway =>
    simp only [Flags.jobOver, job, flags, partialConfig, hLookup]
  | recovered =>
    simp only [Flags.jobOver, job, flags, partialConfig, hLookup]

theorem setup_eq (h : s.Of a fs) (env : Environment) : program.setup s.args env fs =
    .ok ((s.written.flags none).numbers.check >>= fun _ => (s.given.flags none).numbers.check >>= fun _ =>
      .ok (a.numbers.job program)) := by
  have hRead := read_args h
  have hJob := Flags.job_of_file (Flags.fits_of_read hRead) (file_eq h env)
  rw [jobOver_eq h, Numbers.check_congr (firstZero_partialConfig _ none)] at hJob
  rw [Program.setup, hRead]
  exact congrArg Except.ok hJob

theorem setup_eq_ok_iff (h : s.Of a fs) (env : Environment) {job : Job} :
    program.setup s.args env fs = .ok (.ok job) ↔
      (∀ n ∈ a.numbers, n.2 ≠ 0) ∧ job = a.numbers.job program := by
  have hNumbers : (∀ n ∈ a.numbers, n.2 ≠ 0) ↔ (∀ n ∈ s.given, n.2 ≠ 0) ∧ ∀ n ∈ s.written, n.2 ≠ 0 := by
    rw [← List.forall_mem_append]
    exact ⟨fun hAll n hMem => hAll n (h.numbers.mem_iff.mp hMem),
      fun hAll n hMem => hAll n (h.numbers.mem_iff.mpr hMem)⟩
  rw [setup_eq h, hNumbers, ← firstZero_flags_eq_none_iff h.once_given none,
    ← firstZero_flags_eq_none_iff h.once_written none, Numbers.check, Numbers.check]
  cases (s.written.flags none).numbers.firstZero with
  | some field => simp [bind, Except.bind]
  | none =>
    cases (s.given.flags none).numbers.firstZero with
    | some field => simp [bind, Except.bind]
    | none => simp [bind, Except.bind, eq_comm]

theorem check_of_perm {ns ms : KeyedNumbers} (hPerm : ns.Perm ms) (hOnce : (ms.map Prod.fst).Nodup) :
    (ns.flags none).numbers.check = (ms.flags none).numbers.check := by
  have hFlags : ns.flags none = ms.flags none := by
    simp only [flags, lookup_eq_of_perm hPerm hOnce]
  rw [hFlags]

/-- However numbers are split between the command line and a file, they come to a job if none of them
is zero, and always to the same job. With all of them on one side, the fault is the same too. -/
theorem setup_agrees (hs : s.Of a fs) (ht : t.Of a fs') (env env' : Environment) :
    ((∃ job, program.setup s.args env fs = .ok (.ok job)) ↔ ∀ n ∈ a.numbers, n.2 ≠ 0) ∧
    (∀ job, program.setup s.args env fs = .ok (.ok job) →
      program.setup t.args env' fs' = .ok (.ok job)) ∧
    (s.file? = none → t.before = [] → t.after = [] →
      program.setup s.args env fs = program.setup t.args env' fs') := by
  refine ⟨?_, fun job hJob => ?_, fun hFile hBefore hAfter => ?_⟩
  · simp only [setup_eq_ok_iff hs, exists_and_left, exists_eq, and_true]
  · exact (setup_eq_ok_iff ht env').mpr ((setup_eq_ok_iff hs env).mp hJob)
  · have hWritten : s.written = [] := by rw [written, hFile]; rfl
    have hGiven : t.given = [] := by rw [given, hBefore, hAfter]; rfl
    have hs' := hs.numbers
    have ht' := ht.numbers
    rw [hWritten, List.append_nil] at hs'
    rw [hGiven, List.nil_append] at ht'
    rw [setup_eq hs, setup_eq ht, hWritten, hGiven, check_of_perm hs' a.once, check_of_perm ht' a.once]
    cases (a.numbers.flags none).numbers.check <;> rfl

/-- A limit of zero is refused in the same way on both sides. -/
theorem setup_agrees_on_zero_limit :
    let a : Program.runaway.Assignment := ⟨[(.maxIterations, 0), (.workloadSize, 7)], by decide, by decide⟩
    let s : Split := ⟨a.numbers, none, []⟩
    let t : Split := ⟨[], some ⟨"a.toml".toList, true, a.numbers.reverse⟩, []⟩
    let fs : FileSystem := fun _ => .ok (Text.Utf8.encode (document .runaway a.numbers.reverse))
    s.Of a fs ∧ t.Of a fs ∧ (¬ ∃ job, Program.runaway.setup s.args [] fs = .ok (.ok job)) ∧
      Program.runaway.setup s.args [] fs = Program.runaway.setup t.args [] fs := by
  intro a s t fs
  have hs : s.Of a fs := ⟨List.Perm.refl _, nofun, nofun, nofun⟩
  have ht : t.Of a fs := by
    constructor
    · exact List.reverse_perm _
    · rintro _ ⟨⟩
      rfl
    · rintro _ ⟨⟩ _
      decide
    · rintro _ ⟨⟩
      exact FileSystem.readText_of_encode rfl
  obtain ⟨hOk, -, hSame⟩ := setup_agrees hs ht [] []
  exact ⟨hs, ht, fun hJob => hOk.mp hJob (.maxIterations, 0) List.mem_cons_self rfl, hSame rfl rfl rfl⟩

end Split

end WorkerSim
