import WorkerSim.Proofs.Help
import WorkerSim.Proofs.Record

/-!
# How programs end

A program refuses its command line, or finds that it cannot load its configuration or that its
settings do not pass their checks, or has its worker run. On any standard output, a worker comes to
its end and has delivered all its lines, or the output fails, or the worker has no end. The last
requires a run without a limit, and is told by any number of turns.
-/

set_option autoImplicit false

namespace WorkerSim

open Text (Bytes)
open Writer (Breaks Logged delivered)

namespace Program

variable {σ : Type} (writer : Writer σ) (readings : Nat → Option Reading) (spell : Figure → String)

/-- Whatever is logged, the last words are those of the fault. -/
theorem run_abort (p : Program) (logger : Logger) (fault : Fault) (w : World σ) :
    let r := (p.abort (World.host writer readings spell) logger fault).run w
    r.1 = .exited fault.exitCode ∧ r.2.output = w.output ∧
      ∃ before, r.2.errorText = before ++ (p.name ++ ": " ++ fault.message ++ "\n") := by
  intro r
  have hRun : r = (.exited fault.exitCode, { w with
      errors := (p.name ++ ": " ++ fault.message ++ "\n") ::
        ((logger.line? spell (p.advising fault)).toList ++
          ((logger.line? spell (p.failing fault)).toList ++ w.errors)) }) := by
    simp only [r, abort, StateT.run_bind, World.run_log]
    rfl
  rw [hRun]
  refine ⟨rfl, rfl, ?_⟩
  rw [World.errorText, List.reverse_cons, String.join_append, String.join_cons, String.join_nil,
    String.append_empty]
  exact ⟨_, rfl⟩

section

variable {writer readings spell} {p : Program} {turns : Nat} {logger : Logger} {monitored : Bool}
  {job : Job} {w v : World σ}

theorem run_work_of_finished {summary : Summary}
    (h : (job.runWithin turns ((World.host writer readings spell).outlet logger) monitored).run
      (((World.host writer readings spell).log logger (starting job)).run w).2 =
        (.finished summary, v)) :
    (p.work turns (World.host writer readings spell) logger monitored job).run w =
      (.exited 0, (((World.host writer readings spell).log logger (p.stopped summary)).run v).2) :=
  (run_bind_of_eq rfl).trans (run_bind_of_eq h)

theorem run_work_of_failed {fault : Fault}
    (h : (job.runWithin turns ((World.host writer readings spell).outlet logger) monitored).run
      (((World.host writer readings spell).log logger (starting job)).run w).2 = (.failed fault, v)) :
    (p.work turns (World.host writer readings spell) logger monitored job).run w =
      (p.abort (World.host writer readings spell) logger fault).run v :=
  (run_bind_of_eq rfl).trans (run_bind_of_eq h)

theorem run_work_of_running
    (h : (job.runWithin turns ((World.host writer readings spell).outlet logger) monitored).run
      (((World.host writer readings spell).log logger (starting job)).run w).2 = (.running, v)) :
    (p.work turns (World.host writer readings spell) logger monitored job).run w = (.running, v) :=
  (run_bind_of_eq rfl).trans (run_bind_of_eq h)

end

end Program

namespace Flags

theorem check_of_job {f : Flags} {p : Program} {c : Config} {job : Job} (h : f.job p c = .ok job) :
    job.check = .ok () ∧ (job.limit? = none → p = .runaway) := by
  cases p with
  | runaway =>
    rw [Flags.job] at h
    cases hCheck : (f.runawaySettings c).check with
    | error fault =>
      rw [hCheck] at h
      cases h
    | ok _ =>
      rw [hCheck] at h
      obtain rfl := Except.ok.inj h
      exact ⟨hCheck, fun _ => rfl⟩
  | recovered =>
    rw [Flags.job] at h
    cases hCheck : (f.recoveredSettings c).check with
    | error fault =>
      rw [hCheck] at h
      cases h
    | ok _ =>
      rw [hCheck] at h
      obtain rfl := Except.ok.inj h
      exact ⟨hCheck, nofun⟩

end Flags

section Worker

variable {σ : Type} (writer : Writer σ) (readings : Nat → Option Reading) (spell : Figure → String)

/-- In any number of turns, a worker delivers all the lines of these turns, or the output fails and
more turns change nothing. -/
theorem Job.run_on_host {job : Job} (hCheck : job.check = .ok ()) (logger : Logger) (monitored : Bool)
    {w : World (Logged σ)} (hNew : w.output.calls = []) (turns : Nat) :
    let o := (World.host writer.logged readings spell).outlet logger
    let r := (job.runWithin turns o monitored).run w
    (r.1 = job.target ∧ delivered r.2.output.calls = job.bytes (job.span turns) ∧
      ∀ c ∈ r.2.output.calls, ¬ c.Fails) ∨
    ∃ cause, r.1 = .failed (.io cause) ∧ delivered r.2.output.calls <+: job.bytes (job.span turns) ∧
      Breaks r.2.output.calls ∧ ∀ more, (job.runWithin (turns + more) o monitored).run w = r := by
  intro o r
  have hFeeds := World.feeds_outlet writer.logged readings spell logger
  obtain ⟨hOutcome, hOutput⟩ := hFeeds.runWithin hCheck turns monitored w
  obtain ⟨calls, hCalls, hDelivers⟩ := writer.adds_feed (job.transcript (job.span turns)) w.output
  rw [hNew, List.nil_append, ← hOutput] at hCalls
  rw [← hCalls] at hDelivers
  cases hFed : (writer.logged.emit.feed (job.transcript (job.span turns)) w.output).1 with
  | ok _ =>
    rw [hFed] at hOutcome hDelivers
    exact .inl ⟨hOutcome, hDelivers⟩
  | error fault =>
    obtain ⟨cause, rfl⟩ := Writer.io_of_feed hFed
    rw [hFed] at hOutcome hDelivers
    obtain ⟨hPrefix, hBreaks⟩ := hDelivers
    exact .inr ⟨cause, hOutcome, hPrefix, hBreaks,
      Job.run_add_of_refused hFeeds hCheck monitored hFed⟩

end Worker

namespace Program

variable {σ : Type} (writer : Writer σ) (readings : Nat → Option Reading) (spell : Figure → String)

/-- Whether a run exits with a code and leaves a world, in all numbers of turns that are large
enough. -/
def Exits (run : Nat → Ending × World (Logged σ)) (code : UInt8) (last : World (Logged σ)) : Prop :=
  ∃ n, ∀ turns, n ≤ turns → run turns = (.exited code, last)

def Completes (job : Job) (run : Nat → Ending × World (Logged σ)) : Prop :=
  ∃ last limit, Exits run 0 last ∧ job.limit? = some limit ∧
    delivered last.output.calls = job.bytes limit ∧ ∀ c ∈ last.output.calls, ¬ c.Fails

def BreaksOff (job : Job) (run : Nat → Ending × World (Logged σ)) : Prop :=
  ∃ last n, Exits run 74 last ∧ (∀ limit, job.limit? = some limit → n = limit) ∧
    delivered last.output.calls <+: job.bytes n ∧ Breaks last.output.calls

def GoesOn (job : Job) (run : Nat → Ending × World (Logged σ)) : Prop :=
  ∀ turns, (run turns).1 = .running ∧ delivered (run turns).2.output.calls = job.bytes turns ∧
    ∀ c ∈ (run turns).2.output.calls, ¬ c.Fails

/-- The run of a worker by itself, after its program has said that it starts. -/
def workerRun (job : Job) (logger : Logger) (monitored : Bool) (w : World σ) (turns : Nat) :
    Outcome × World (Logged σ) :=
  (job.runWithin turns ((World.host writer.logged readings spell).outlet logger) monitored).run
    (((World.host writer.logged readings spell).log logger (starting job)).run w.logged).2

theorem breaksOff_of_failed (p : Program) {logger : Logger} {monitored : Bool} {job : Job} {w : World σ}
    {turns : Nat} {cause : IoCause} {v : World (Logged σ)}
    (h : ∀ more, workerRun writer readings spell job logger monitored w (turns + more) =
      (.failed (.io cause), v))
    (hPrefix : delivered v.output.calls <+: job.bytes (job.span turns))
    (hBreaks : Breaks v.output.calls) :
    BreaksOff job fun turns =>
      (p.work turns (World.host writer.logged readings spell) logger monitored job).run w.logged := by
  obtain ⟨hExit, hOutput, -⟩ := run_abort writer.logged readings spell p logger (.io cause) v
  let last := ((p.abort (World.host writer.logged readings spell) logger (.io cause)).run v).2
  refine ⟨last, job.span turns, ⟨turns, fun later hLe => ?_⟩, ?_, ?_⟩
  · obtain ⟨more, rfl⟩ := Nat.exists_eq_add_of_le hLe
    exact (run_work_of_failed (h more)).trans (Prod.ext hExit rfl)
  · intro limit hSome
    rw [Job.span, hSome, Option.getD_some]
  · simp only [last]
    rw [hOutput]
    exact ⟨hPrefix, hBreaks⟩

theorem completes_of_limit (p : Program) {logger : Logger} {monitored : Bool} {job : Job} {w : World σ}
    {limit : Nat} (hSome : job.limit? = some limit) {v : World (Logged σ)}
    (h : workerRun writer readings spell job logger monitored w 0 = (job.target, v))
    (hDelivered : delivered v.output.calls = job.bytes limit ∧ ∀ c ∈ v.output.calls, ¬ c.Fails) :
    Completes job fun turns =>
      (p.work turns (World.host writer.logged readings spell) logger monitored job).run w.logged := by
  have hTarget : job.target = .finished (job.progress limit).summary := by rw [Job.target, hSome]
  -- all numbers of turns are alike where there is a limit
  have hSame (turns : Nat) : workerRun writer readings spell job logger monitored w turns =
      (.finished (job.progress limit).summary, v) := by
    rw [← hTarget, ← h]
    simp only [workerRun, Job.runWithin_eq_perform, Job.course_of_limit hSome monitored turns 0]
  refine ⟨_, limit, ⟨0, fun turns _ => run_work_of_finished (hSame turns)⟩, hSome, ?_⟩
  rw [World.run_log]
  exact hDelivered

theorem work_cases (p : Program) (logger : Logger) (monitored : Bool) {job : Job}
    (hCheck : job.check = .ok ()) (w : World σ) :
    let run turns :=
      (p.work turns (World.host writer.logged readings spell) logger monitored job).run w.logged
    Completes job run ∨ BreaksOff job run ∨ job.limit? = none ∧ GoesOn job run := by
  intro run
  let r (turns : Nat) := workerRun writer readings spell job logger monitored w turns
  have hNew : (((World.host writer.logged readings spell).log logger
      (starting job)).run w.logged).2.output.calls = [] := by
    rw [World.run_log]
    rfl
  have hRun (turns : Nat) := job.run_on_host writer readings spell hCheck logger monitored hNew turns
  by_cases hFailed : ∃ turns cause, (r turns).1 = .failed (.io cause) ∧
      delivered (r turns).2.output.calls <+: job.bytes (job.span turns) ∧
      Breaks (r turns).2.output.calls ∧ ∀ more, r (turns + more) = r turns
  · obtain ⟨turns, cause, hOutcome, hPrefix, hBreaks, hMore⟩ := hFailed
    have hAll (more : Nat) : r (turns + more) = (.failed (.io cause), (r turns).2) :=
      (hMore more).trans (Prod.ext hOutcome rfl)
    exact .inr (.inl (breaksOff_of_failed writer readings spell p hAll hPrefix hBreaks))
  · have hAll (turns : Nat) : r turns = (job.target, (r turns).2) ∧
        delivered (r turns).2.output.calls = job.bytes (job.span turns) ∧
        ∀ c ∈ (r turns).2.output.calls, ¬ c.Fails := by
      obtain ⟨hOutcome, hDelivered⟩ | hRefused := hRun turns
      · exact ⟨Prod.ext hOutcome rfl, hDelivered⟩
      · exact absurd ⟨turns, hRefused⟩ hFailed
    cases hSome : job.limit? with
    | some limit =>
      obtain ⟨hOutcome, hDelivered⟩ := hAll 0
      rw [Job.span, hSome, Option.getD_some] at hDelivered
      exact .inl (completes_of_limit writer readings spell p hSome hOutcome hDelivered)
    | none =>
      refine .inr (.inr ⟨rfl, fun turns => ?_⟩)
      obtain ⟨hOutcome, hDelivered⟩ := hAll turns
      rw [Job.target, hSome] at hOutcome
      rw [Job.span, hSome, Option.getD_none] at hDelivered
      simp only [run]
      rw [run_work_of_running hOutcome]
      exact ⟨rfl, hDelivered⟩

theorem run_refuse (p : Program) (coloured : Bool) (refusal : Refusal) (w : World σ) :
    let r := (p.refuse (World.host writer.logged readings spell) coloured refusal).run w.logged
    r.1 = .exited refusal.exitCode ∧
      ∀ line : Line, ¬ line.bytes <:+: delivered r.2.output.calls := by
  intro r
  by_cases hHelp : refusal = .help
  · obtain rfl := hHelp
    refine ⟨rfl, fun line hLine => ?_⟩
    let text := Help.bytes (p.help coloured)
    let written := writer.logged.writeAll text w.logged.output
    obtain ⟨calls, hCalls, hDelivers⟩ := writer.adds_writeAll text w.logged.output
    obtain ⟨more, hMore, hNothing⟩ := writer.adds_flush written.2
    have hAll : r.2.output.calls = calls ++ more := hMore.trans (congrArg (· ++ more) hCalls)
    rw [hAll, Writer.delivered_append, List.prefix_nil.mp hNothing.isPrefix, List.append_nil] at hLine
    exact Help.not_infix_help coloured p line (hLine.trans hDelivers.isPrefix.isInfix)
  · have hRun : r = (.exited refusal.exitCode,
        { w.logged with errors := (refusal.output coloured p ++ "\n") :: w.errors }) := by
      simp only [r, refuse, if_neg hHelp]
      rfl
    rw [hRun]
    refine ⟨rfl, fun line hLine => ?_⟩
    exact line.bytes_ne_nil (List.infix_nil.mp hLine)

/-- The job that a command line, variables and files come to, if they come to one. -/
def setup (p : Program) (args : List Bytes) (env : Environment) (fs : FileSystem) :
    Except Refusal (Except Fault Job) :=
  (Flags.read p args).map fun flags => flags.load env fs >>= flags.job p

theorem plan_of_setup (p : Program) (args : List Bytes) (env : Environment) (fs : FileSystem) :
    match p.setup args env fs with
    | .error refusal => ∃ coloured, p.plan args env fs = .refuse coloured refusal
    | .ok (.error fault) => ∃ logger, p.plan args env fs = .abort logger fault
    | .ok (.ok job) => job.check = .ok () ∧ (job.limit? = none → p = .runaway) ∧
        ∃ logger monitored, p.plan args env fs = .work logger monitored job := by
  rw [setup, plan]
  cases Flags.read p args with
  | error refusal => exact ⟨_, rfl⟩
  | ok flags =>
    simp only [Except.map]
    cases flags.load env fs with
    | error fault => exact ⟨_, rfl⟩
    | ok config =>
      have hBind : (Except.ok config >>= flags.job p) = flags.job p config := rfl
      simp only [hBind, Launch.of]
      cases hJob : flags.job p config with
      | error fault => exact ⟨_, rfl⟩
      | ok job =>
        obtain ⟨hCheck, hUnlimited⟩ := Flags.check_of_job hJob
        exact ⟨hCheck, hUnlimited, _, _, rfl⟩

inductive Fate
  | refused (refusal : Refusal)
  | stopped (fault : Fault)
  | complete (job : Job)
  | broken (job : Job)
  | endless (job : Job)

def Meets (p : Program) (given : Except Refusal (Except Fault Job))
    (run : Nat → Ending × World (Logged σ)) : Fate → Prop
  | .refused refusal => given = .error refusal ∧
      ∀ turns, (run turns).1 = .exited (if refusal = .help then 0 else 2) ∧
        ∀ line : Line, ¬ line.bytes <:+: delivered (run turns).2.output.calls
  | .stopped fault => given = .ok (.error fault) ∧
      ∀ turns, (run turns).1 = .exited (match fault with
          | .io _ => 74
          | .config _ => 1
          | .value _ _ _ => 1) ∧
        (run turns).2.output.calls = [] ∧
        ∃ before, (run turns).2.errorText = before ++ (p.name ++ ": " ++ fault.message ++ "\n")
  | .complete job => given = .ok (.ok job) ∧ job.check = .ok () ∧ Completes job run
  | .broken job => given = .ok (.ok job) ∧ job.check = .ok () ∧ BreaksOff job run
  | .endless job => given = .ok (.ok job) ∧ job.check = .ok () ∧
      (p = .runaway ∧ job.limit? = none) ∧ GoesOn job run

def Fate.of : Except Refusal (Except Fault Job) → Ending → Fate
  | .error refusal, _ => .refused refusal
  | .ok (.error fault), _ => .stopped fault
  | .ok (.ok job), .exited code => if code = 0 then .complete job else .broken job
  | .ok (.ok job), .running => .endless job

/-- A fate shows in all numbers of turns that are large enough. -/
theorem Meets.eq_of {p : Program} {given : Except Refusal (Except Fault Job)}
    {run : Nat → Ending × World (Logged σ)} {fate : Fate} (h : Meets p given run fate) :
    ∃ n, ∀ turns, n ≤ turns → fate = .of given (run turns).1 := by
  cases fate with
  | refused refusal =>
    obtain ⟨rfl, -⟩ := h
    exact ⟨0, fun _ _ => rfl⟩
  | stopped fault =>
    obtain ⟨rfl, -⟩ := h
    exact ⟨0, fun _ _ => rfl⟩
  | complete job =>
    obtain ⟨rfl, -, last, -, ⟨n, hExits⟩, -⟩ := h
    exact ⟨n, fun turns hLe => by rw [hExits turns hLe]; rfl⟩
  | broken job =>
    obtain ⟨rfl, -, last, -, ⟨n, hExits⟩, -⟩ := h
    exact ⟨n, fun turns hLe => by rw [hExits turns hLe]; rfl⟩
  | endless job =>
    obtain ⟨rfl, -, -, hRunning⟩ := h
    exact ⟨0, fun turns _ => by rw [(hRunning turns).1]; rfl⟩

theorem Meets.unique {p : Program} {given : Except Refusal (Except Fault Job)}
    {run : Nat → Ending × World (Logged σ)} {fate other : Fate} (h : Meets p given run fate)
    (hOther : Meets p given run other) : fate = other := by
  obtain ⟨n, hFate⟩ := h.eq_of
  obtain ⟨k, hOther⟩ := hOther.eq_of
  rw [hFate (max n k) (Nat.le_max_left n k), hOther (max n k) (Nat.le_max_right n k)]

end Program

end WorkerSim
