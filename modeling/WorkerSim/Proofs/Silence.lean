import WorkerSim.Proofs.Endings
import WorkerSim.Proofs.Muting
import WorkerSim.Writer.Script

/-!
# Diagnostics and the output

What a program writes to its standard output, how it ends and what it reports of its work depends on
what is left of its command line and of its document without switches, and on the variables that the
document asks for. Nothing else that is given to it can be seen there.
-/

set_option autoImplicit false

namespace WorkerSim

open Text (Bytes)
open Writer (Logged)

namespace Job

theorem transcript_mute (job : Job) (n : Nat) : job.mute.transcript n = job.transcript n := by
  cases job <;> rfl

theorem span_mute (turns : Nat) (job : Job) : job.mute.span turns = job.span turns := by
  cases job <;> rfl

theorem target_mute (job : Job) : job.mute.target = job.target := by
  cases job <;> rfl

end Job

section Runs

variable {σ : Type}

/-- What the worker of a plan comes to; without a worker, it is what stops the program. -/
def Plan.outcome? (turns : Nat) (h : Host (StateM (World σ))) (w : World σ) : Plan → Option Outcome
  | .refuse _ _ => none
  | .abort _ fault => some (.failed fault)
  | .work logger monitored job =>
    some ((job.runWithin turns (h.outlet logger) monitored).run
      ((h.log logger (Program.starting job)).run w).2).1

def Outcome.ending : Outcome → Ending
  | .finished _ => .exited 0
  | .failed fault => .exited fault.exitCode
  | .running => .running

/-- The outcome of a job, or of a fault in its place, and the output after it. -/
def Writer.outcome (writer : Writer σ) (turns : Nat) (s : σ) : Except Fault Job → Outcome × σ
  | .error fault => (.failed fault, s)
  | .ok job =>
    let fed := writer.emit.feed (job.transcript (job.span turns)) s
    (job.target.given fed.1, fed.2)

/-- All that can be seen of a run, diagnostics apart, is in the outcome of its job. -/
structure Shows (p : Program) (outcome : Outcome × σ) (run : Ending × World σ) : Prop where
  ending : run.1 = outcome.1.ending
  output : run.2.output = outcome.2
  error : ∀ fault, outcome.1 = .failed fault →
    ∃ before, run.2.errorText = before ++ (p.name ++ ": " ++ fault.message ++ "\n")

/-- Jobs of which the same is left, or alike faults, come to the same, but for what is wrong with how
a configuration is written. -/
theorem Writer.outcome_of_alike (writer : Writer σ) {result result' : Except Fault Job}
    (h : Alike Fault.Alike Job.mute result result') (turns : Nat) (s : σ) :
    writer.outcome turns s result = writer.outcome turns s result' ∨
      ∃ cause cause', writer.outcome turns s result = (.failed (.config cause), s) ∧
        writer.outcome turns s result' = (.failed (.config cause'), s) := by
  cases h with
  | ok hJobs =>
    rename_i job job'
    left
    simp only [Writer.outcome]
    rw [← job.transcript_mute, ← job.span_mute, ← job.target_mute, hJobs, job'.transcript_mute,
      job'.span_mute, job'.target_mute]
  | error hFaults =>
    cases hFaults with
    | same fault => exact .inl rfl
    | config cause cause' => exact .inr ⟨cause, cause', rfl, rfl⟩

namespace Program

variable (writer : Writer σ) (readings : Nat → Option Reading) (spell : Figure → String)

theorem shows_abort (p : Program) (logger : Logger) (fault : Fault) (w : World σ) :
    Shows p (.failed fault, w.output)
      ((p.abort (World.host writer readings spell) logger fault).run w) := by
  obtain ⟨hEnding, hOutput, hError⟩ := run_abort writer readings spell p logger fault w
  refine ⟨hEnding, hOutput, ?_⟩
  rintro _ ⟨⟩
  exact hError

theorem shows_work (p : Program) (turns : Nat) (logger : Logger) (monitored : Bool) {job : Job}
    (hCheck : job.check = .ok ()) (w : World σ) :
    let host := World.host writer readings spell
    let outcome := writer.outcome turns w.output (.ok job)
    (Plan.work logger monitored job).outcome? turns host w = some outcome.1 ∧
      Shows p outcome ((p.work turns host logger monitored job).run w) := by
  intro host outcome
  let v := ((host.log logger (starting job)).run w).2
  have hOutput : v.output = w.output := World.keeps_log writer readings spell logger _ w
  have hFeeds := World.feeds_outlet writer readings spell logger
  obtain ⟨hOutcome, hFed⟩ := hFeeds.runWithin hCheck turns monitored v
  rw [hOutput] at hOutcome hFed
  refine ⟨congrArg some hOutcome, ?_⟩
  generalize hRun : (job.runWithin turns (host.outlet logger) monitored).run v = r at hOutcome hFed
  obtain ⟨result, u⟩ := r
  have hSame : outcome = (result, u.output) := Prod.ext hOutcome.symm hFed.symm
  rw [hSame]
  cases result with
  | finished summary =>
    rw [run_work_of_finished hRun]
    exact ⟨rfl, World.keeps_log writer readings spell logger _ u, nofun⟩
  | failed fault =>
    rw [run_work_of_failed hRun]
    exact p.shows_abort writer readings spell logger fault u
  | running =>
    rw [run_work_of_running hRun]
    exact ⟨rfl, rfl, nofun⟩

theorem shows_of_setup {p : Program} {args : List Bytes} {env : Environment} {fs : FileSystem}
    {result : Except Fault Job} (h : p.setup args env fs = .ok result) (turns : Nat) (w : World σ) :
    let host := World.host writer readings spell
    let outcome := writer.outcome turns w.output result
    (p.plan args env fs).outcome? turns host w = some outcome.1 ∧
      Shows p outcome ((p.runWithin turns host args env fs).run w) := by
  intro host outcome
  have hPlan := p.plan_of_setup args env fs
  rw [h] at hPlan
  cases result with
  | error fault =>
    obtain ⟨logger, hAbort⟩ := hPlan
    rw [runWithin, hAbort]
    exact ⟨rfl, p.shows_abort writer readings spell logger fault w⟩
  | ok job =>
    obtain ⟨hCheck, -, logger, monitored, hWork⟩ := hPlan
    rw [runWithin, hWork]
    exact p.shows_work writer readings spell turns logger monitored hCheck w

variable {p : Program} {args args' : List Bytes} {f f' : Flags} {env env' : Environment}
  {fs fs' : FileSystem}

theorem alike_setup (hRead : Flags.read p args = .ok f) (hRead' : Flags.read p args' = .ok f')
    (hArgs : Flags.muteArgs args = Flags.muteArgs args')
    (hFile : ∀ path, f.config = some path → Config.SameFile path env env' fs fs') :
    ∃ result result', p.setup args env fs = .ok result ∧ p.setup args' env' fs' = .ok result' ∧
      Alike Fault.Alike Job.mute result result' := by
  have hFlags : f.mute = f'.mute := by
    have hMute := Flags.read_muteArgs hRead
    rw [hArgs, Flags.read_muteArgs hRead'] at hMute
    exact (Except.ok.inj hMute).symm
  have hJob := (Flags.alike_load hFlags hFile).bind fun c c' hConfig => Flags.alike_job hFlags hConfig p
  rw [setup, setup, hRead, hRead']
  exact ⟨_, _, rfl, rfl, hJob⟩

end Program

end Runs

end WorkerSim
