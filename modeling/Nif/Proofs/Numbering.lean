import Mathlib.Data.List.Range
import Nif.Proofs.Books
import Nif.Proofs.Operation

/-!
**Environment numbers: each is given out once.**

* `Session.numbers`: the numbers of all environments that a run has opened, those in which callbacks
  ran among them.
* `Session.Numbering`: an operation opens no environment, or one, under the next number.
* `Session.after_numbered`: so after any run the numbers are the first ones, in some order.
* `Session.Numbered.nodup`: hence no two are alike, as long as fewer than 2 ^ 32 environments were
  opened.
-/

namespace Nif

/-- The number of the environment in which the callback ran. -/
def CallbackRun.env : CallbackRun → UInt32
  | .load _ env _ | .unload _ env _ => env

/-! ### Modules -/

namespace Module

/-- One more callback ran, in a fresh environment. -/
def OpensOne (before after : Host) : Prop :=
  after.nextEnv = before.nextEnv + 1 ∧
    ∃ ran : CallbackRun, after.callbacks = before.callbacks.push ran ∧ ran.env = before.nextEnv

theorem openings_eq {host later : Host} (same : later.openings = host.openings) :
    later.nextEnv = host.nextEnv ∧ later.callbacks = host.callbacks := Prod.mk.inj same

/-- A callback runs in one environment. -/
theorem opensOne_of_callback {α : Type} {program : Program α} {answer : α} {host : Host}
    {after : Frame} {run : UInt32 → CallbackRun} (own : (run host.nextEnv).env = host.nextEnv)
    (ran : program.run (callbackFrame host run) = (answer, after)) : OpensOne host after.host := by
  obtain ⟨next, callbacks⟩ := openings_eq (congrArg Prod.snd ran ▸ program.run_openings _)
  exact ⟨next, _, callbacks, own⟩

/-- Loading a module opens one environment if its load callback runs, and none otherwise. -/
theorem Loaded.load_opens (entry : Option Entry) (host : Host) :
    (Loaded.load entry host).2.openings = host.openings ∨
    OpensOne host (Loaded.load entry host).2 := by
  obtain ⟨outcome, loads⟩ := Loaded.exists_loads host entry
  rw [Loaded.load_of_loads loads]
  cases loads with
  | null | refused | plain => exact Or.inl rfl
  | declined _ _ ran _ | stored _ _ ran _ => exact Or.inr (opensOne_of_callback rfl ran)

/-- Dropping a module opens one environment if it has an unload callback, and none otherwise. -/
theorem Loaded.drop_opens (module : Loaded) (host : Host) :
    (module.drop host).openings = host.openings ∨ OpensOne host (module.drop host) := by
  cases unloads : module.unload with
  | none =>
    rw [Loaded.drop, unloads]
    exact Or.inl rfl
  | some callback =>
    rw [Loaded.drop_eq unloads]
    exact Or.inr (opensOne_of_callback rfl rfl)

/-- A call of a function opens no environment. -/
theorem Loaded.call_openings (module : Loaded) (name : String) (args : List Word) (frame : Frame) :
    (module.call name args frame).2.host.openings = frame.host.openings :=
  Loaded.call_of_body Prod.fst (fun _ _ _ => Program.run_openings _) frame

end Module

namespace Session

/-- The numbers of all environments that were opened: first those of the session's environments,
each at its environment's place, then those of the environments in which callbacks ran. -/
def numbers (session : Session) : List UInt32 :=
  session.envs.toList.map Environment.id ++ session.host.callbacks.toList.map CallbackRun.env

theorem numbers_of_envs {session : Session} {place : Nat} {env : Environment}
    (opened : session.envs[place]? = some env) : session.numbers[place]? = some env.id := by
  rw [← Array.getElem?_toList] at opened
  have inside := (List.getElem?_eq_some_iff.mp opened).1
  rw [numbers, List.getElem?_append_left (by simpa using inside), List.getElem?_map, opened]
  rfl

/-! ### One operation -/

/-- What an operation does to the numbers: it opens no environment, or one, under the next number.
-/
inductive Numbering (before after : Session) : Prop
  | kept (numbers : after.numbers = before.numbers)
      (next : after.host.nextEnv = before.host.nextEnv)
  | opened (numbers : after.numbers.Perm (before.host.nextEnv :: before.numbers))
      (next : after.host.nextEnv = before.host.nextEnv + 1)

namespace Numbering

variable {session later : Session}

/-- What opens nothing on the host and leaves the numbers of the environments keeps them all. -/
theorem of_openings
    (envs : later.envs.toList.map Environment.id = session.envs.toList.map Environment.id)
    (same : later.host.openings = session.host.openings) : session.Numbering later := by
  obtain ⟨next, callbacks⟩ := Module.openings_eq same
  exact .kept (by rw [numbers, numbers, envs, callbacks]) next

/-- What is done to the host alone opens no more than the environment of a callback. -/
theorem of_host (envs : later.envs = session.envs)
    (opens : later.host.openings = session.host.openings ∨
      Module.OpensOne session.host later.host) :
    session.Numbering later := by
  rcases opens with none | ⟨next, ran, callbacks, number⟩
  · exact .of_openings (by rw [envs]) none
  · refine .opened ?_ next
    rw [numbers, numbers, envs, callbacks, Array.toList_push, List.map_append, ← List.append_assoc,
      List.map_singleton, number]
    exact List.perm_append_singleton _ _

end Numbering

/-- An operation in an environment that opens no other keeps the numbers. -/
theorem inEnvironment_numbering {α : Type} {session later : Session} {env : Nat}
    {operation : Frame → α × Frame} {result : α}
    (id : ∀ frame : Frame, (operation frame).2.env.id = frame.env.id)
    (openings : ∀ frame : Frame, (operation frame).2.host.openings = frame.host.openings)
    (done : session.inEnvironment env operation = some (result, later)) :
    session.Numbering later := by
  obtain ⟨frame, opened, same⟩ := Option.map_eq_some_iff.mp done
  obtain ⟨current, there, rfl⟩ := Option.map_eq_some_iff.mp opened
  obtain ⟨-, rfl⟩ := Prod.mk.inj same
  refine .of_openings ?_ (openings _)
  -- The number that is set is the one that stands there.
  obtain ⟨inside, rfl⟩ := Array.getElem?_eq_some_iff.mp there
  have number : (session.envs.toList.map Environment.id)[env]? = some session.envs[env].id := by
    rw [List.getElem?_map, Array.getElem?_toList, there]
    rfl
  obtain ⟨within, stands⟩ := List.getElem?_eq_some_iff.mp number
  rw [Array.toList_setIfInBounds, List.map_set, id, ← stands, List.set_getElem_self]

/-- Loading a module is done to the host alone. -/
theorem load_host (session : Session) (entry : Option Module.Entry) :
    (session.load entry).2.host = (Module.Loaded.load entry session.host).2 ∧
      (session.load entry).2.envs = session.envs := by
  unfold load onHost
  cases loaded : Module.Loaded.load entry session.host with
  | mk result host => cases result <;> exact ⟨rfl, rfl⟩

theorem settled_numbering {α : Type} {session : Session} {result : Option (α × Session)}
    (numbering : ∀ value later, result = some (value, later) → session.Numbering later) :
    session.Numbering (session.settled result) := by
  cases result with
  | none => exact .kept rfl rfl
  | some pair => exact numbering pair.1 pair.2 rfl

/-- **One operation opens at most one environment, under the next number.** -/
theorem step_numbering (session : Session) (operation : Operation) :
    session.Numbering (session.step operation) := by
  cases operation with
  | openEnvironment =>
    refine .opened ?_ rfl
    show (List.map Environment.id (session.envs.push _).toList ++ _).Perm _
    rw [Array.toList_push, List.map_append, List.append_assoc]
    exact List.perm_middle
  | build env draft =>
    exact settled_numbering fun _ _ => inEnvironment_numbering
      (fun frame => (Draft.build_grows frame draft).env.id)
      (fun frame => Host.openings_of_books (Draft.build_books frame draft))
  | raise env =>
    exact settled_numbering fun _ _ =>
      inEnvironment_numbering (fun frame => frame.raise_grows.env.id)
      (fun frame => Host.openings_of_books frame.raise_books)
  | clearException env =>
    exact settled_numbering fun _ _ => inEnvironment_numbering (fun _ => rfl) (fun _ => rfl)
  | run env program =>
    refine settled_numbering fun _ _ ran => ?_
    cases env with
    | some env =>
      exact inEnvironment_numbering (fun frame => (program.run_grows frame).env.id)
        program.run_openings ran
    | none =>
      obtain ⟨-, rfl⟩ := Prod.mk.inj (Option.some.inj ran)
      exact .of_openings rfl (program.runDetached_openings session.host)
  | load entry =>
    obtain ⟨host, envs⟩ := session.load_host entry
    refine .of_host envs ?_
    show (session.load entry).2.host.openings = _ ∨ Module.OpensOne _ (session.load entry).2.host
    rw [host]
    exact Module.Loaded.load_opens entry session.host
  | call handle env name args =>
    refine settled_numbering fun _ _ called => ?_
    obtain ⟨module, -, ran⟩ := Option.bind_eq_some_iff.mp called
    exact inEnvironment_numbering (fun frame => (module.call_grows name args frame).env.id)
      (module.call_openings name args) ran
  | drop handle =>
    simp only [step, drop]
    cases module? session handle with
    | none => exact .kept rfl rfl
    | some module => exact .of_host rfl (module.drop_opens session.host)

/-! ### Any run -/

/-- The numbers given out are the first ones, and the next one is the one after them. -/
structure Numbered (session : Session) : Prop where
  numbers : session.numbers.Perm
    ((List.range session.numbers.length).map fun earlier => UInt32.ofNat (earlier + 1))
  next : session.host.nextEnv = UInt32.ofNat (session.numbers.length + 1)

theorem Numbered.step {session later : Session} (numbered : session.Numbered)
    (numbering : session.Numbering later) : later.Numbered := by
  cases numbering with
  | kept same next =>
    refine ⟨?_, ?_⟩
    · rw [same]
      exact numbered.numbers
    · rw [same, next]
      exact numbered.next
  | opened more next =>
    have length : later.numbers.length = session.numbers.length + 1 := more.length_eq
    refine ⟨?_, ?_⟩
    · rw [length, List.range_succ, List.map_append, List.map_singleton, ← numbered.next]
      exact (more.trans (numbered.numbers.cons _)).trans (List.perm_append_singleton _ _).symm
    · rw [length, next, numbered.next]
      simp

/-- **After any run the numbers given out are the first ones.** -/
theorem after_numbered (operations : List Operation) : (fresh.after operations).Numbered := by
  have start : fresh.Numbered := ⟨.refl _, rfl⟩
  exact after_of_steps (R := fun before after => before.Numbered → after.Numbered) (fun _ => id)
    (fun early late numbered => late (early numbered))
    (fun session operation numbered => numbered.step (session.step_numbering operation)) fresh
      operations start

/-- **No two environments have the same number**, as long as the numbers suffice. -/
theorem Numbered.nodup {session : Session} (numbered : session.Numbered)
    (few : session.numbers.length < 0x100000000) : session.numbers.Nodup := by
  refine numbered.numbers.nodup_iff.mpr (List.Nodup.map_on ?_ List.nodup_range)
  intro first inside second within same
  rw [List.mem_range] at inside within
  rw [← UInt32.toNat_inj, UInt32.toNat_ofNat', UInt32.toNat_ofNat'] at same
  omega

end Session

end Nif
