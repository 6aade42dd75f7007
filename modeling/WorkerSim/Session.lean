import WorkerSim.Worker.Trial

/-!
# Sessions

A session holds variables, a configuration and perhaps a job, and answers requests one after
another. A configuration is replaced only by one that can be read; a job is made of flags on top of
the configuration, and running it uses it up.
-/

set_option autoImplicit false

namespace WorkerSim

structure Session where
  env : Environment := []
  config : Config := {}
  job : Option Job := none

namespace Session

inductive Request
  | setVariable (name : List Char) (value : Text.Bytes)
  | unsetVariable (name : List Char)
  | load (text : List Char)
  | check
  | isDefault
  | document
  | apply (program : Program) (args : List Text.Bytes)
  | run (script : Script) (monitored : Bool)

inductive Answer
  | count (n : Nat)
  | config (c : Except Fault Config)
  | checked (r : Except Fault Unit)
  | truth (b : Bool)
  | document (text : List Char)
  | refused (program : Program) (r : Refusal)
  | launched (l : Launch)
  | ran (t : Trial)
  | nothingToRun

def step (s : Session) : Request → Answer × Session
  | .setVariable name value =>
    let env := s.env.set name value
    (.count env.length, { s with env := env })
  | .unsetVariable name =>
    let env := s.env.unset name
    (.count env.length, { s with env := env })
  | .load text =>
    match Config.ofText s.env text with
    | .ok c => (.config (.ok c), { s with config := c })
    | .error f => (.config (.error f), s)
  | .check => (.checked s.config.check, s)
  | .isDefault => (.truth (s.config = {}), s)
  | .document => (.document s.config.toDocument, s)
  | .apply program args =>
    match Flags.read program args with
    | .error refusal => (.refused program refusal, s)
    | .ok flags =>
      let launch := Launch.of program flags s.config
      (.launched launch, { s with job := launch.job.toOption })
  | .run script monitored =>
    match s.job with
    | none => (.nothingToRun, s)
    | some job => (.ran (Trial.run script job monitored), { s with job := none })

/-- The answers to a row of requests. -/
def answers (s : Session) : List Request → List Answer
  | [] => []
  | r :: rs => (s.step r).1 :: answers (s.step r).2 rs

end Session

end WorkerSim
