import WorkerSim.Launch
import WorkerSim.Worker.Recovered
import WorkerSim.Worker.Runaway

/-!
# Running a job

A job is the run of either worker with its settings. Where nothing limits a job, its run is followed
for a number of turns; unless another number is asked for, there are as many turns as a counter has
values.
-/

set_option autoImplicit false

namespace WorkerSim.Job

variable {m : Type → Type} [Monad m]

def runWithin (turns : Nat) (o : Outlet m) (job : Job) (monitored : Bool) : m Outcome :=
  match job with
  | .runaway s => Runaway.run turns o s monitored
  | .recovered s => Recovered.run o s monitored

def run (o : Outlet m) (job : Job) (monitored : Bool) : m Outcome :=
  job.runWithin UInt64.size o monitored

end WorkerSim.Job
