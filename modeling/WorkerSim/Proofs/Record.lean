import WorkerSim.Program
import WorkerSim.Proofs.Delivery

/-!
# Worlds with a record

In a modelled world, a program is run on a writer. If the writer keeps a record of its calls, the
program does the same as without one, so that what the record tells is true of the program itself.
-/

set_option autoImplicit false

namespace WorkerSim

open Writer (Logged)

theorem run_bind_of_eq {τ α β : Type} {x : StateM τ α} {f : α → StateM τ β} {w v : τ} {a : α}
    (h : x.run w = (a, v)) : (x >>= f).run w = (f a).run v := by
  rw [StateT.run_bind, h]
  rfl

namespace World

variable {σ : Type} (writer : Writer σ) (readings : Nat → Option Reading) (spell : Figure → String)

/-- The same world with a record of what is done with its output. -/
def logged (w : World σ) : World (Logged σ) := ⟨⟨w.output, []⟩, w.errors, w.monitor, w.looks⟩

theorem run_log (logger : Logger) (e : Event) (w : World σ) :
    ((host writer readings spell).log logger e).run w =
      ((), { w with errors := (logger.line? spell e).toList ++ w.errors }) := by
  have hSpell : (host writer readings spell).spell.run w = (spell, w) := rfl
  unfold Host.log
  rw [StateT.run_bind, hSpell]
  change StateT.run (_ : StateM (World σ) Unit) w = _
  generalize logger.line? spell e = line
  cases line <;> rfl

def Keeps {α : Type} (x : StateM (World σ) α) : Prop := ∀ w, (x.run w).2.output = w.output

theorem Keeps.bind {α β : Type} {x : StateM (World σ) α} {f : α → StateM (World σ) β} (h : Keeps x)
    (hNext : ∀ a, Keeps (f a)) : Keeps (x >>= f) := fun w => (hNext _ _).trans (h w)

theorem keeps_log (logger : Logger) (e : Event) :
    Keeps ((host writer readings spell).log logger e) := by
  intro w
  rw [run_log]

theorem keeps_note (logger : Logger) (n : Note) :
    Keeps ((host writer readings spell).note logger n) := by
  unfold Host.note
  cases n with
  | sample phase =>
    refine Keeps.bind (fun _ => rfl) fun stats => ?_
    dsimp only
    generalize (Note.sample phase).event? stats = e
    cases e with
    | none => exact fun _ => rfl
    | some e => exact keeps_log writer readings spell logger e
  | _ => exact keeps_log writer readings spell logger _

theorem feeds_outlet (logger : Logger) :
    ((host writer readings spell).outlet logger).Feeds World.output writer.emit where
  emit _ _ := ⟨rfl, rfl⟩
  pause _ _ := rfl
  burn _ _ := rfl
  note n := keeps_note writer readings spell logger n

def plain (w : World (Logged σ)) : World σ := ⟨w.output.state, w.errors, w.monitor, w.looks⟩

/-- Whether something is done in the same way with a record and without. -/
def Agrees {α : Type} (x : StateM (World (Logged σ)) α) (y : StateM (World σ) α) : Prop :=
  ∀ w, y.run w.plain = ((x.run w).1, (x.run w).2.plain)

theorem Agrees.bind {α β : Type} {x : StateM (World (Logged σ)) α} {y : StateM (World σ) α}
    {f : α → StateM (World (Logged σ)) β} {g : α → StateM (World σ) β} (h : Agrees x y)
    (hNext : ∀ a, Agrees (f a) (g a)) : Agrees (x >>= f) (y >>= g) := by
  intro w
  rw [StateT.run_bind, StateT.run_bind, h w]
  exact hNext _ _

theorem agrees_pure {α : Type} (a : α) :
    Agrees (pure a : StateM (World (Logged σ)) α) (pure a) := fun _ => rfl

theorem agrees_emit (line : Line) : Agrees ((host writer.logged readings spell).emit line)
    ((host writer readings spell).emit line) := by
  intro w
  change ((writer.emit line w.output.state).1,
    { w.plain with output := (writer.emit line w.output.state).2 }) = _
  rw [writer.emit_logged line w.output]
  rfl

theorem agrees_printOut (text : String) :
    Agrees ((host writer.logged readings spell).printOut text)
      ((host writer readings spell).printOut text) := by
  intro w
  let bytes := Text.Utf8.encode text.toList
  change ((), { w.plain with
    output := (writer.flush (writer.writeAll bytes w.output.state).2).2 }) = _
  rw [writer.writeAll_logged bytes w.output]
  rfl

theorem agrees_log (logger : Logger) (e : Event) :
    Agrees ((host writer.logged readings spell).log logger e)
      ((host writer readings spell).log logger e) := by
  intro w
  rw [run_log, run_log]
  rfl

theorem agrees_note (logger : Logger) (n : Note) :
    Agrees ((host writer.logged readings spell).note logger n)
      ((host writer readings spell).note logger n) := by
  unfold Host.note
  cases n with
  | sample phase =>
    refine Agrees.bind (fun _ => rfl) fun stats => ?_
    dsimp only
    generalize (Note.sample phase).event? stats = e
    cases e with
    | none => exact agrees_pure ()
    | some e => exact agrees_log writer readings spell logger e
  | _ => exact agrees_log writer readings spell logger _

theorem agrees_perform (logger : Logger) (as : List Action) (last : Outcome) :
    Agrees (((host writer.logged readings spell).outlet logger).perform as (pure last))
      (((host writer readings spell).outlet logger).perform as (pure last)) := by
  induction as with
  | nil => exact agrees_pure last
  | cons a as ih =>
    cases a with
    | emit line =>
      refine (agrees_emit writer readings spell line).bind fun result => ?_
      cases result with
      | error fault => exact agrees_pure _
      | ok _ => exact ih
    | pause time => exact Agrees.bind (fun _ => rfl) fun _ => ih
    | burn size => exact Agrees.bind (fun _ => rfl) fun _ => ih
    | note n => exact (agrees_note writer readings spell logger n).bind fun _ => ih

end World

namespace Program

variable {σ : Type} (writer : Writer σ) (readings : Nat → Option Reading) (spell : Figure → String)

theorem agrees_abort (p : Program) (logger : Logger) (fault : Fault) :
    World.Agrees (p.abort (World.host writer.logged readings spell) logger fault)
      (p.abort (World.host writer readings spell) logger fault) := by
  refine (World.agrees_log writer readings spell logger _).bind fun _ => ?_
  refine (World.agrees_log writer readings spell logger _).bind fun _ => ?_
  exact fun _ => rfl

theorem agrees_carryOut (p : Program) (turns : Nat) (plan : Plan) :
    World.Agrees (p.carryOut turns (World.host writer.logged readings spell) plan)
      (p.carryOut turns (World.host writer readings spell) plan) := by
  cases plan with
  | refuse coloured refusal =>
    by_cases hHelp : refusal = .help
    · simp only [carryOut, refuse, if_pos hHelp]
      exact (World.agrees_printOut writer readings spell _).bind fun _ _ => rfl
    · simp only [carryOut, refuse, if_neg hHelp]
      exact fun _ => rfl
  | abort logger fault => exact p.agrees_abort writer readings spell logger fault
  | work logger monitored job =>
    refine (World.agrees_log writer readings spell logger _).bind fun _ => ?_
    refine World.Agrees.bind ?_ fun outcome => ?_
    · rw [Job.runWithin_eq_perform, Job.runWithin_eq_perform]
      cases job.check with
      | error fault => exact World.agrees_pure _
      | ok _ => exact World.agrees_perform writer readings spell logger _ _
    · cases outcome with
      | finished summary => exact (World.agrees_log writer readings spell logger _).bind fun _ _ => rfl
      | failed fault => exact p.agrees_abort writer readings spell logger fault
      | running => exact World.agrees_pure _

end Program

end WorkerSim
