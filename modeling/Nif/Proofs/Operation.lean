import Nif.Proofs.Growth
import Nif.Proofs.Loading
import Nif.Session

/-!
**Whole runs: every operation on a host, its environments and its modules, in any order.**

* `Operation`: what can be done. `Session.step` does one, `Session.after` a whole sequence; an
  operation that names no environment or module that is there does nothing.
* `Session.GrowsTo`: every environment, at its place, and the atom table are continuations of what
  they were.
* `Session.step_grows`, `Session.after_grows`: one operation, and so any run, only adds.
-/

namespace Nif

/-- What can be done with a host, its environments and its modules. -/
inductive Operation where
  | openEnvironment
  /-- Terms are built by the host's own builders. -/
  | build (env : Nat) (draft : Draft)
  /-- The host raises `badarg`. -/
  | raise (env : Nat)
  /-- The host takes the pending exception. -/
  | clearException (env : Nat)
  /-- Native code runs: symbols, makers, readers, typed values and buffers, in an environment or
  with a null environment pointer. -/
  | run (env : Option Nat) (program : Program Unit)
  | load (entry : Option Module.Entry)
  | call (handle env : Nat) (name : String) (args : List Word)
  | drop (handle : Nat)

namespace Session

/-- A host that has just started. -/
def fresh : Session := {}

/-- The session after an operation that gives a result, or the same session if it could not be done.
-/
def settled {α : Type} (session : Session) (result : Option (α × Session)) : Session :=
  (result.map Prod.snd).getD session

/-- Does one operation. -/
def step (session : Session) : Operation → Session
  | .openEnvironment => session.openEnvironment.2
  | .build env draft =>
    session.settled (session.inEnvironment env fun frame => Draft.build frame draft)
  | .raise env => session.settled (session.inEnvironment env Frame.raise)
  | .clearException env => session.settled (session.inEnvironment env Frame.clearException)
  | .run env program => session.settled (session.run env program)
  | .load entry => (session.load entry).2
  | .call handle env name args => session.settled (session.call handle env name args)
  | .drop handle => (session.drop handle).getD session

/-- Does one operation after the other. -/
def after (session : Session) (operations : List Operation) : Session :=
  operations.foldl step session

/-- What every operation preserves, every run preserves. -/
theorem after_of_steps {R : Session → Session → Prop} (refl : ∀ session, R session session)
    (trans : ∀ {first second third}, R first second → R second third → R first third)
    (step : ∀ session operation, R session (session.step operation)) (session : Session)
    (operations : List Operation) : R session (session.after operations) := by
  induction operations generalizing session with
  | nil => exact refl session
  | cons operation rest ih => exact trans (step session operation) (ih _)

/-! ### Growth -/

/-- A later state of a session: the atom table and each environment are continuations of what they
were. -/
structure GrowsTo (before after : Session) : Prop where
  names : before.host.atoms.names <+: after.host.atoms.names
  envs : ∀ (place : Nat) (env : Environment), before.envs[place]? = some env →
    ∃ later, after.envs[place]? = some later ∧ env.GrowsTo later

namespace GrowsTo

variable {first second third : Session}

theorem refl (session : Session) : session.GrowsTo session :=
  ⟨List.prefix_rfl, fun _ env opened => ⟨env, opened, .refl env⟩⟩

theorem trans (early : first.GrowsTo second) (late : second.GrowsTo third) :
    first.GrowsTo third := by
  refine ⟨early.names.trans late.names, fun place env opened => ?_⟩
  obtain ⟨middle, there, sooner⟩ := early.envs place env opened
  obtain ⟨last, still, later⟩ := late.envs place middle there
  exact ⟨last, still, sooner.trans later⟩

/-- What is done to the host alone. -/
theorem of_host (names : first.host.atoms.names <+: second.host.atoms.names)
    (envs : second.envs = first.envs) : first.GrowsTo second :=
  ⟨names, fun _ env opened => ⟨env, envs ▸ opened, .refl env⟩⟩

/-- An environment, at its place in a later state. -/
theorem frame? (grown : first.GrowsTo second) {place : Nat} {frame : Frame}
    (opened : first.frame? place = some frame) :
    ∃ later, second.frame? place = some later ∧ frame.GrowsTo later := by
  obtain ⟨env, there, rfl⟩ := Option.map_eq_some_iff.mp opened
  obtain ⟨last, still, later⟩ := grown.envs place env there
  exact ⟨_, Option.map_eq_some_iff.mpr ⟨last, still, rfl⟩, later, grown.names⟩

end GrowsTo

/-- An operation that grows the frame of its environment grows the session. -/
theorem inEnvironment_grows {α : Type} {session later : Session} {env : Nat}
    {operation : Frame → α × Frame} {result : α}
    (grows : ∀ frame : Frame, frame.GrowsTo (operation frame).2)
    (done : session.inEnvironment env operation = some (result, later)) :
    session.GrowsTo later := by
  obtain ⟨frame, opened, same⟩ := Option.map_eq_some_iff.mp done
  obtain ⟨current, there, rfl⟩ := Option.map_eq_some_iff.mp opened
  obtain ⟨-, rfl⟩ := Prod.mk.inj same
  have grown := grows { env := current, host := session.host }
  refine ⟨grown.names, fun place env' found => ?_⟩
  by_cases own : env = place
  · subst own
    rw [there] at found
    obtain rfl := Option.some.inj found
    have inside := (Array.getElem?_eq_some_iff.mp there).1
    exact ⟨_, by rw [Array.getElem?_setIfInBounds_self_of_lt inside], grown.env⟩
  · exact ⟨env', by rw [Array.getElem?_setIfInBounds_ne own, found], .refl env'⟩

theorem settled_grows {α : Type} {session : Session} {result : Option (α × Session)}
    (grows : ∀ value later, result = some (value, later) → session.GrowsTo later) :
    session.GrowsTo (session.settled result) := by
  cases result with
  | none => exact .refl session
  | some pair => exact grows pair.1 pair.2 rfl

end Session

/-! ### The life of a module -/

namespace Module

/-- A callback runs in a frame of its own, over the same atom table. -/
theorem callback_names {α : Type} {program : Program α} {answer : α} {host : Host}
    {frame after : Frame}
    (ran : program.run frame = (answer, after)) (same : frame.host.atoms.names = host.atoms.names) :
    host.atoms.names <+: after.host.atoms.names := by
  rw [← same]
  exact (congrArg Prod.snd ran ▸ program.run_grows frame).names

theorem Loaded.load_names (entry : Option Entry) (host : Host) :
    host.atoms.names <+: (Loaded.load entry host).2.atoms.names := by
  obtain ⟨outcome, loads⟩ := Loaded.exists_loads host entry
  rw [Loaded.load_of_loads loads]
  cases loads with
  | null | refused | plain => exact List.prefix_rfl
  | declined _ _ ran _ | stored _ _ ran _ => exact callback_names ran rfl

theorem Loaded.drop_names (module : Loaded) (host : Host) :
    host.atoms.names <+: (module.drop host).atoms.names := by
  unfold Loaded.drop
  split
  · exact List.prefix_rfl
  · exact callback_names rfl rfl

theorem Loaded.clearStale_grows (module : Loaded) (name : String) (arity : Nat) (frame : Frame) :
    frame.GrowsTo (module.clearStale name arity frame) := by
  unfold Loaded.clearStale
  split <;> rename_i cleared <;> obtain ⟨-, rfl⟩ := Prod.mk.inj cleared <;> exact .of_eq rfl rfl rfl

theorem Loaded.conclude_grows (module : Loaded) (name : String) (arity : Nat) (result : Word)
    (frame : Frame) : frame.GrowsTo (module.conclude name arity result frame).2 := by
  simp only [Loaded.conclude]
  split <;> exact .of_eq rfl rfl rfl

theorem Loaded.call_grows (module : Loaded) (name : String) (args : List Word) (frame : Frame) :
    frame.GrowsTo (module.call name args frame).2 := by
  unfold Loaded.call
  split
  · exact .refl frame
  · exact ((module.clearStale_grows _ _ frame).trans (Program.run_grows _ _)).trans
      (module.conclude_grows _ _ _ _)

end Module

/-! ### One operation, and any run -/

namespace Session

theorem load_grows (session : Session) (entry : Option Module.Entry) :
    session.GrowsTo (session.load entry).2 := by
  have names := Module.Loaded.load_names entry session.host
  unfold load onHost
  cases loaded : Module.Loaded.load entry session.host with
  | mk result host =>
    rw [loaded] at names
    cases result <;> exact .of_host names rfl

/-- **One operation only adds.** -/
theorem step_grows (session : Session) (operation : Operation) :
    session.GrowsTo (session.step operation) := by
  cases operation with
  | openEnvironment =>
    refine ⟨List.prefix_rfl, fun place env opened => ⟨env, ?_, .refl env⟩⟩
    have inside := (Array.getElem?_eq_some_iff.mp opened).1
    show (session.envs.push _)[place]? = some env
    rw [Array.getElem?_push_lt inside, ← Array.getElem?_eq_getElem inside, opened]
  | build env draft =>
    exact settled_grows fun _ _ => inEnvironment_grows fun frame => Draft.build_grows frame draft
  | raise env => exact settled_grows fun _ _ => inEnvironment_grows Frame.raise_grows
  | clearException env =>
    exact settled_grows fun _ _ => inEnvironment_grows Frame.clearException_grows
  | run env program =>
    refine settled_grows fun _ _ ran => ?_
    cases env with
    | some env => exact inEnvironment_grows program.run_grows ran
    | none =>
      obtain ⟨-, rfl⟩ := Prod.mk.inj (Option.some.inj ran)
      refine .of_host ?_ rfl
      show _ <+: (program.runDetached session.host).2.atoms.names
      rw [program.runDetached_atoms]
  | load entry => exact session.load_grows entry
  | call handle env name args =>
    refine settled_grows fun _ _ called => ?_
    obtain ⟨module, -, ran⟩ := Option.bind_eq_some_iff.mp called
    exact inEnvironment_grows (module.call_grows name args) ran
  | drop handle =>
    simp only [step, drop]
    cases module? session handle with
    | none => exact .refl session
    | some module => exact .of_host (module.drop_names session.host) rfl

/-- **Any run only adds.** -/
theorem after_grows (session : Session) (operations : List Operation) :
    session.GrowsTo (session.after operations) :=
  after_of_steps GrowsTo.refl GrowsTo.trans step_grows session operations

end Session

end Nif
