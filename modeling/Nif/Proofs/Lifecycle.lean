import Nif.Proofs.Entries
import Nif.Proofs.Grounding
import Nif.Proofs.Numbering

/-!
**Load and unload callbacks pair up over every run.**

* `Session.callback?`: the callback that an operation runs; `Session.trace`: all of a run, each with
  the operation that ran it.
* `Session.step_recorded`: an operation takes one environment number for the environment that it
  opens or the callback that it runs, and records the callback.
* `Session.Loading`, `Session.Dropping`: all that an attempt to load, and the end of a module, can
  do.
* `Session.exists_load_of_lt`, `Session.module?_after`: a handle comes from one successful load, and
  keeps its module until it is dropped.
* `Session.Life`: from the load of a module to its end.
* `Session.callbacks_pair_up`: so every unload callback follows the load of its own handle, once,
  with what the load callback stored.
-/

namespace Nif

open Nif.Module (Entry Loaded LoadFailure)

/-! ### Which callbacks run -/

/-- The operation opens an environment for its caller. -/
def Operation.opens : Operation → Bool
  | openEnvironment => true
  | _ => false

/-- The operation drops this handle. -/
def Operation.drops (handle : Nat) : Operation → Bool
  | drop other => other == handle
  | _ => false

theorem Operation.drops_eq_true_iff {handle : Nat} {operation : Operation} :
    operation.drops handle = true ↔ operation = .drop handle := by
  cases operation <;> simp [drops]

theorem Operation.any_drops_eq_false_iff {handle : Nat} {operations : List Operation} :
    operations.any (drops handle) = false ↔ .drop handle ∉ operations := by
  rw [List.any_eq_false]
  constructor
  · intro none member
    exact none _ member (drops_eq_true_iff.mpr rfl)
  · intro absent operation member drops
    exact absent (drops_eq_true_iff.mp drops ▸ member)

/-- The private data that the load callback of an entry stores on this host, null without a
callback. -/
def Module.Entry.stored (entry : Entry) (module : Loaded) (host : Host) : UInt64 :=
  match entry.load with
  | none => 0
  | some callback => (Module.runLoad module callback host).1.privData

theorem Program.openings_of_run {α : Type} {program : Program α} {frame later : Frame} {answer : α}
    (ran : program.run frame = (answer, later)) : later.host.openings = frame.host.openings := by
  rw [← program.run_openings frame, ran]

namespace Session

/-- The callback that the operation runs, in an environment with the next number: the load callback
of an entry that is accepted, with no load information, or the unload callback of a module that is
still there, with its private data. -/
def callback? (session : Session) : Operation → Option CallbackRun
  | .load (some entry) =>
    match entry.accept, entry.load with
    | .ok module, some _ => some (.load module.name session.host.nextEnv Word.nil)
    | _, _ => none
  | .drop handle =>
    (session.module? handle).bind fun module =>
      module.unload.map fun _ => .unload module.name session.host.nextEnv module.privData
  | _ => none

/-- The callbacks of a run, oldest first, each with the operation that ran it. -/
def trace (session : Session) : List Operation → List (Operation × CallbackRun)
  | [] => []
  | operation :: rest =>
    ((session.callback? operation).map (operation, ·)).toList ++ (session.step operation).trace rest

/-- The callbacks that ran where a handle was dropped. -/
def unloads (handle : Nat) (session : Session) (operations : List Operation) : List CallbackRun :=
  ((session.trace operations).filter fun ran => ran.1.drops handle).map Prod.snd

/-! ### Attempts to load, and the end of a module -/

/-- A loaded module is announced and kept. -/
def keep (session : Session) (module : Loaded) (host : Host) : Session :=
  { session with
    host := Module.announce module host
    modules := session.modules.push (some module) }

/-- What an attempt to load can do, and what it answers. Until the entry is accepted nothing happens
at all. Then its load callback runs, once, in a fresh environment and with no load information. A
callback that refuses leaves no module behind. -/
inductive Loading (session : Session) : Option Entry → Except LoadFailure Nat → Session → Prop
  | null : Loading session none (.error .nullEntry) session
  | refused {entry : Entry} {failure : LoadFailure} (refused : entry.accept = .error failure) :
      Loading session (some entry) (.error failure) session
  | plain {entry : Entry} {module : Loaded} (accepted : entry.accept = .ok module)
      (silent : entry.load = none) :
      Loading session (some entry) (.ok session.modules.size)
        (session.keep module session.host)
  | declined {entry : Entry} {module : Loaded} {callback : Module.LoadCallback}
      {answer : Module.LoadAnswer} {frame : Frame} (accepted : entry.accept = .ok module)
      (loads : entry.load = some callback)
      (ran : (callback Word.nil).run
        (Module.callbackFrame session.host (.load module.name · Word.nil)) = (answer, frame))
      (status : answer.status ≠ 0) :
      Loading session (some entry) (.error (.loadCallbackFailed answer.status))
        { session with host := frame.host }
  | stored {entry : Entry} {module : Loaded} {callback : Module.LoadCallback}
      {answer : Module.LoadAnswer} {frame : Frame} (accepted : entry.accept = .ok module)
      (loads : entry.load = some callback)
      (ran : (callback Word.nil).run
        (Module.callbackFrame session.host (.load module.name · Word.nil)) = (answer, frame))
      (status : answer.status = 0) :
      Loading session (some entry) (.ok session.modules.size)
        (session.keep { module with privData := answer.privData } frame.host)

/-- **Loading does nothing else.** -/
theorem load_spec (session : Session) (entry : Option Entry) :
    session.Loading entry (session.load entry).1 (session.load entry).2 := by
  obtain ⟨outcome, loads⟩ := Loaded.exists_loads session.host entry
  unfold load onHost
  rw [Loaded.load_of_loads loads]
  cases loads with
  | null => exact .null
  | refused refused => exact .refused refused
  | plain accepted silent => exact .plain accepted silent
  | declined accepted loads ran status => exact .declined accepted loads ran status
  | stored accepted loads ran status => exact .stored accepted loads ran status

/-- What dropping a handle can do. The unload callback of a module that is there runs, once, in a
fresh environment and with the private data of the module; then the module is gone. -/
inductive Dropping (session : Session) (handle : Nat) : Session → Prop
  | absent (absent : session.module? handle = none) : Dropping session handle session
  | plain {module : Loaded} (present : session.module? handle = some module)
      (silent : module.unload = none) :
      Dropping session handle { session with modules := session.modules.setIfInBounds handle none }
  | unloaded {module : Loaded} {callback : Module.UnloadCallback} {frame : Frame}
      (present : session.module? handle = some module) (unloads : module.unload = some callback)
      (ran : (callback module.privData).run
        (Module.callbackFrame session.host (.unload module.name · module.privData)) = ((), frame)) :
      Dropping session handle
        { session with
          host := frame.host.note (.moduleUnloaded module.name)
          modules := session.modules.setIfInBounds handle none }

/-- **Dropping does nothing else.** -/
theorem drop_spec (session : Session) (handle : Nat) :
    session.Dropping handle ((session.drop handle).getD session) := by
  unfold drop
  cases present : session.module? handle with
  | none => exact .absent present
  | some module =>
    cases unloads : module.unload with
    | none =>
      have same : module.drop session.host = session.host := by rw [Loaded.drop, unloads]
      simp only [Option.map_some, Option.getD_some, same]
      exact .plain present unloads
    | some callback =>
      simp only [Option.map_some, Option.getD_some, Loaded.drop_eq unloads]
      exact .unloaded present unloads rfl

/-! ### The records of the host -/

/-- What the host knows after an operation: one environment more for each that was opened and for
the callback that ran, and the callback. -/
structure Recorded (before : Session) (operation : Operation) (after : Session) : Prop where
  callbacks : after.host.callbacks.toList =
    before.host.callbacks.toList ++ (before.callback? operation).toList
  next : after.host.nextEnv =
    before.host.nextEnv + UInt32.ofNat
      (operation.opens.toNat + (before.callback? operation).toList.length)

namespace Recorded

variable {before after : Session} {operation : Operation}

/-- An operation that opens nothing and runs no callback. -/
theorem of_openings (opens : operation.opens = false) (none : before.callback? operation = none)
    (same : after.host.openings = before.host.openings) : before.Recorded operation after := by
  obtain ⟨next, callbacks⟩ := Module.openings_eq same
  refine ⟨?_, ?_⟩
  · rw [none, callbacks]
    exact (List.append_nil _).symm
  · rw [none, opens, next]
    exact (UInt32.add_zero _).symm

/-- An operation that runs a callback. -/
theorem of_callback (run : UInt32 → CallbackRun) (opens : operation.opens = false)
    (some : before.callback? operation = some (run before.host.nextEnv))
    (same : after.host.openings = (Module.callbackFrame before.host run).host.openings) :
    before.Recorded operation after := by
  obtain ⟨next, callbacks⟩ := Module.openings_eq same
  refine ⟨?_, ?_⟩
  · rw [some, callbacks]
    exact Array.toList_push
  · rw [some, opens, next]
    rfl

/-- An operation in an environment. -/
theorem of_inEnvironment {α : Type} {env : Nat} {work : Frame → α × Frame}
    (opens : operation.opens = false) (none : before.callback? operation = none)
    (openings : ∀ frame : Frame, (work frame).2.host.openings = frame.host.openings) :
    before.Recorded operation (before.settled (before.inEnvironment env work)) := by
  refine of_openings opens none ?_
  unfold inEnvironment
  cases opened : before.frame? env with
  | none => rfl
  | some frame =>
    obtain ⟨current, -, rfl⟩ := Option.map_eq_some_iff.mp opened
    exact openings _

theorem of_loading {entry : Option Entry} {answer : Except LoadFailure Nat}
    (loading : before.Loading entry answer after) : before.Recorded (.load entry) after := by
  cases loading with
  | null => exact of_openings rfl rfl rfl
  | refused refused => exact of_openings rfl (by rw [callback?, refused]) rfl
  | plain accepted silent => exact of_openings rfl (by rw [callback?, accepted, silent]) rfl
  | declined accepted loads ran status | stored accepted loads ran status =>
    exact of_callback (.load _ · Word.nil) rfl (by rw [callback?, accepted, loads])
      (Program.openings_of_run ran)

theorem of_dropping {handle : Nat} (dropping : before.Dropping handle after) :
    before.Recorded (.drop handle) after := by
  cases dropping with
  | absent absent => exact of_openings rfl (by rw [callback?, absent]; rfl) rfl
  | plain present silent =>
    exact of_openings rfl (by rw [callback?, present, Option.bind_some, silent]; rfl) rfl
  | unloaded present unloads ran =>
    exact of_callback (.unload _ · _) rfl
      (by rw [callback?, present, Option.bind_some, unloads]; rfl)
      (Program.openings_of_run ran)

end Recorded

/-- **One operation takes one number for the environment that it opens or the callback that it
runs.** -/
theorem step_recorded (session : Session) (operation : Operation) :
    session.Recorded operation (session.step operation) := by
  cases operation with
  | openEnvironment => exact ⟨(List.append_nil _).symm, rfl⟩
  | build env draft =>
    exact .of_inEnvironment rfl rfl fun frame =>
      Host.openings_of_books (Draft.build_books frame draft)
  | raise env =>
    exact .of_inEnvironment rfl rfl fun frame => Host.openings_of_books frame.raise_books
  | clearException env => exact .of_inEnvironment rfl rfl fun _ => rfl
  | run env program =>
    cases env with
    | some env => exact .of_inEnvironment rfl rfl program.run_openings
    | none => exact .of_openings rfl rfl (program.runDetached_openings session.host)
  | load entry => exact .of_loading (session.load_spec entry)
  | call handle env name args =>
    simp only [step, call]
    cases session.module? handle with
    | none => exact .of_openings rfl rfl rfl
    | some module => exact .of_inEnvironment rfl rfl (module.call_openings name args)
  | drop handle => exact .of_dropping (session.drop_spec handle)

theorem trace_append (session : Session) (first second : List Operation) :
    session.trace (first ++ second) =
      session.trace first ++ (session.after first).trace second := by
  induction first generalizing session with
  | nil => rfl
  | cons operation rest ih =>
    rw [List.cons_append, trace, trace, ih, List.append_assoc]
    rfl

/-- The callbacks of a run, without the operations. -/
theorem map_trace_cons (session : Session) (operation : Operation) (rest : List Operation) :
    (session.trace (operation :: rest)).map Prod.snd =
      (session.callback? operation).toList ++
        ((session.step operation).trace rest).map Prod.snd := by
  rw [trace, List.map_append]
  cases session.callback? operation <;> rfl

/-- The host keeps a record of every callback of a run, in order. -/
theorem callbacks_after (session : Session) (operations : List Operation) :
    (session.after operations).host.callbacks.toList =
      session.host.callbacks.toList ++ (session.trace operations).map Prod.snd := by
  induction operations generalizing session with
  | nil => exact (List.append_nil _).symm
  | cons operation rest ih =>
    rw [map_trace_cons, ← List.append_assoc, ← (session.step_recorded operation).callbacks]
    exact ih _

/-- A number is taken for every environment that was opened and every callback that ran, and no
other. -/
theorem nextEnv_after (session : Session) (operations : List Operation) :
    (session.after operations).host.nextEnv = session.host.nextEnv +
      UInt32.ofNat (operations.countP Operation.opens + (session.trace operations).length) := by
  induction operations generalizing session with
  | nil => exact (UInt32.add_zero _).symm
  | cons operation rest ih =>
    refine (ih _).trans ?_
    have ran : (session.trace (operation :: rest)).length =
        (session.callback? operation).toList.length +
          ((session.step operation).trace rest).length := by
      rw [← List.length_map Prod.snd, map_trace_cons, List.length_append, List.length_map]
    have opened : (operation :: rest).countP Operation.opens =
        rest.countP Operation.opens + operation.opens.toNat := by
      rw [List.countP_cons]
      cases operation.opens <;> rfl
    rw [(session.step_recorded operation).next, UInt32.add_assoc, ← UInt32.ofNat_add, ran, opened]
    congr 2
    omega

/-! ### Which modules are there -/

section Modules

variable {session later : Session} {entry : Option Entry} {answer : Except LoadFailure Nat}
  {handle : Nat} {operation : Operation} {operations : List Operation}

theorem module?_of_size_le (beyond : session.modules.size ≤ handle) :
    session.module? handle = none := by
  rw [module?, Array.getElem?_eq_none beyond]
  rfl

/-- An attempt that gives a handle gives the next one, and keeps a module there; any other keeps
none. -/
theorem Loading.modules (loading : session.Loading entry answer later) :
    (∃ failure, answer = .error failure ∧ later.modules = session.modules) ∨
      ∃ module, answer = .ok session.modules.size ∧
        later.modules = session.modules.push (some module) := by
  cases loading with
  | null | refused | declined => exact Or.inl ⟨_, rfl, rfl⟩
  | plain | stored => exact Or.inr ⟨_, rfl, rfl⟩

/-- Where one place is emptied, the others keep their modules. -/
theorem module?_emptied (session : Session) (host : Host) (handle other : Nat) :
    module? { session with host, modules := session.modules.setIfInBounds handle none } other =
      if handle = other then none else session.module? other := by
  show ((session.modules.setIfInBounds handle none)[other]?).join = _
  rw [Array.getElem?_setIfInBounds]
  by_cases same : handle = other
  · rw [if_pos same, if_pos same]
    split <;> rfl
  · rw [if_neg same, if_neg same]
    rfl

/-- A dropped module is gone, and no other. -/
theorem Dropping.module? (dropping : session.Dropping handle later) (other : Nat) :
    later.modules.size = session.modules.size ∧
      later.module? other = if handle = other then none else session.module? other := by
  cases dropping with
  | absent absent =>
    refine ⟨rfl, ?_⟩
    by_cases same : handle = other
    · rw [if_pos same, ← same, absent]
    · rw [if_neg same]
  | plain | unloaded => exact ⟨Array.size_setIfInBounds, session.module?_emptied _ handle other⟩

/-- An operation in an environment touches no module. -/
theorem settled_modules {α : Type} {env : Nat} {work : Frame → α × Frame} :
    (session.settled (session.inEnvironment env work)).modules = session.modules := by
  unfold inEnvironment
  cases session.frame? env <;> rfl

/-- What an operation does to the modules. -/
inductive Shelving (session : Session) : Operation → Session → Prop
  | kept {operation : Operation} {later : Session}
      (keeps : ∀ handle, operation.drops handle = false)
      (modules : later.modules = session.modules) : Shelving session operation later
  | loaded {entry : Option Entry} {later : Session} {module : Loaded}
      (answered : (session.load entry).1 = .ok session.modules.size)
      (modules : later.modules = session.modules.push (some module)) :
      Shelving session (.load entry) later
  | dropped {handle : Nat} {later : Session} (size : later.modules.size = session.modules.size)
      (modules : ∀ other,
        later.module? other = if handle = other then none else session.module? other) :
      Shelving session (.drop handle) later

/-- **Only loading and dropping touch the modules.** -/
theorem step_shelving (session : Session) (operation : Operation) :
    session.Shelving operation (session.step operation) := by
  cases operation with
  | openEnvironment => exact .kept (fun _ => rfl) rfl
  | build | raise | clearException => exact .kept (fun _ => rfl) settled_modules
  | run env program =>
    cases env with
    | some env => exact .kept (fun _ => rfl) settled_modules
    | none => exact .kept (fun _ => rfl) rfl
  | load entry =>
    rcases (session.load_spec entry).modules with ⟨_, -, same⟩ | ⟨module, answered, pushed⟩
    · exact .kept (fun _ => rfl) same
    · exact .loaded answered pushed
  | call handle env name args =>
    simp only [step, call]
    cases session.module? handle with
    | none => exact .kept (fun _ => rfl) rfl
    | some module => exact .kept (fun _ => rfl) settled_modules
  | drop handle =>
    have dropping := session.drop_spec handle
    exact .dropped (dropping.module? handle).1 fun other => (dropping.module? other).2

theorem Shelving.size_le (shelving : session.Shelving operation later) :
    session.modules.size ≤ later.modules.size := by
  cases shelving with
  | kept keeps modules => exact Nat.le_of_eq (congrArg Array.size modules.symm)
  | loaded answered modules =>
    rw [modules, Array.size_push]
    exact Nat.le_succ _
  | dropped size modules => exact Nat.le_of_eq size.symm

/-- A handle that was given out keeps its module, until it is dropped. -/
theorem Shelving.module? (shelving : session.Shelving operation later)
    (given : handle < session.modules.size) :
    later.module? handle = if operation.drops handle then none else session.module? handle := by
  cases shelving with
  | kept keeps modules =>
    rw [keeps, Session.module?, modules]
    rfl
  | loaded answered modules =>
    rw [Session.module?, modules, Array.getElem?_push_lt given, Session.module?,
      Array.getElem?_eq_getElem given]
    rfl
  | dropped size modules => simpa [Operation.drops] using modules handle

theorem after_size_le (session : Session) (operations : List Operation) :
    session.modules.size ≤ (session.after operations).modules.size :=
  after_of_steps (R := fun before after => before.modules.size ≤ after.modules.size)
    (fun _ => Nat.le_refl _)
    (fun early late => Nat.le_trans early late)
    (fun session operation => (session.step_shelving operation).size_le) session operations

/-- **A handle keeps its module until it is dropped**, whatever happens to others, and never has one
again. -/
theorem module?_after (given : handle < session.modules.size) :
    (session.after operations).module? handle =
      if operations.any (Operation.drops handle) then none else session.module? handle := by
  induction operations generalizing session with
  | nil => rfl
  | cons operation rest ih =>
    have shelving := session.step_shelving operation
    refine (ih (given.trans_le shelving.size_le)).trans ?_
    rw [shelving.module? given, List.any_cons]
    cases operation.drops handle <;> cases rest.any (Operation.drops handle) <;> rfl

/-- **Every handle comes from a successful load**, which gave it out. -/
theorem exists_load_of_lt (new : session.modules.size ≤ handle)
    (given : handle < (session.after operations).modules.size) :
    ∃ before entry rest, operations = before ++ .load entry :: rest ∧
      ((session.after before).load entry).1 = .ok handle := by
  induction operations generalizing session with
  | nil => exact absurd given (Nat.not_lt.mpr new)
  | cons operation rest ih =>
    rcases Nat.lt_or_ge handle (session.step operation).modules.size with here | later
    · generalize after : session.step operation = next at here
      have shelving := session.step_shelving operation
      rw [after] at shelving
      cases shelving with
      | kept keeps modules => exact absurd (modules ▸ here) (Nat.not_lt.mpr new)
      | @loaded entry _ module answered modules =>
        rw [modules, Array.size_push] at here
        obtain rfl : handle = session.modules.size := by omega
        exact ⟨[], entry, rest, rfl, answered⟩
      | dropped size modules => exact absurd (size ▸ here) (Nat.not_lt.mpr new)
    · obtain ⟨before, entry, others, rfl, answered⟩ := ih later given
      exact ⟨operation :: before, entry, others, rfl, answered⟩

end Modules

/-! ### The unload callbacks of one handle -/

section Unloads

variable {session : Session} {handle : Nat} {operations : List Operation}

theorem unloads_cons (handle : Nat) (session : Session) (operation : Operation)
    (rest : List Operation) :
    session.unloads handle (operation :: rest) =
      (if operation.drops handle then (session.callback? operation).toList else []) ++
        (session.step operation).unloads handle rest := by
  rw [unloads, trace, List.filter_append, List.map_append]
  congr 1
  cases session.callback? operation <;> cases drops : operation.drops handle <;> simp [drops]

theorem unloads_append (handle : Nat) (session : Session) (first second : List Operation) :
    session.unloads handle (first ++ second) =
      session.unloads handle first ++ (session.after first).unloads handle second := by
  rw [unloads, trace_append, List.filter_append, List.map_append]
  rfl

/-- Nothing is unloaded for a handle that is not dropped. -/
theorem unloads_of_kept (kept : operations.any (Operation.drops handle) = false) :
    session.unloads handle operations = [] := by
  induction operations generalizing session with
  | nil => rfl
  | cons operation rest ih =>
    obtain ⟨here, later⟩ := Bool.or_eq_false_iff.mp ((List.any_cons ..).symm.trans kept)
    rw [unloads_cons, here, ih later]
    rfl

/-- Nothing is unloaded for a handle that has no module. -/
theorem unloads_of_absent
    (absent : ∀ early, early <+: operations → (session.after early).module? handle = none) :
    session.unloads handle operations = [] := by
  induction operations generalizing session with
  | nil => rfl
  | cons operation rest ih =>
    have later : (session.step operation).unloads handle rest = [] :=
      ih fun early start => absent (operation :: early) (List.cons_prefix_cons.mpr ⟨rfl, start⟩)
    rw [unloads_cons, later, List.append_nil]
    split
    · rename_i drops
      obtain rfl := Operation.drops_eq_true_iff.mp drops
      have none : session.module? handle = none := absent [] List.nil_prefix
      rw [callback?, none]
      rfl
    · rfl

/-- Nothing is unloaded for a handle that was not given out. -/
theorem unloads_of_size_le (beyond : (session.after operations).modules.size ≤ handle) :
    session.unloads handle operations = [] := by
  refine unloads_of_absent fun early start => module?_of_size_le ?_
  obtain ⟨rest, rfl⟩ := start
  rw [after, List.foldl_append] at beyond
  exact (after_size_le (session.after early) rest).trans beyond

/-- **A handle that is dropped runs the unload callback of its module once**, when it is dropped
first. -/
theorem unloads_of_dropped {module : Loaded} (given : handle < session.modules.size)
    (present : session.module? handle = some module) {middle last : List Operation}
    (kept : middle.any (Operation.drops handle) = false) :
    session.unloads handle (middle ++ .drop handle :: last) =
      (module.unload.map fun _ =>
        .unload module.name (session.after middle).host.nextEnv module.privData).toList := by
  have still : (session.after middle).module? handle = some module := by
    rw [module?_after given, kept]
    exact present
  -- After its first drop the handle has no module any more, so that a second one runs nothing.
  have given' := given.trans_le (session.after_size_le middle)
  have shelving := (session.after middle).step_shelving (.drop handle)
  have gone : ((session.after middle).step (.drop handle)).unloads handle last = [] := by
    refine unloads_of_absent fun early _ => ?_
    rw [module?_after (given'.trans_le shelving.size_le), shelving.module? given',
      if_pos (Operation.drops_eq_true_iff.mpr rfl), ite_self]
  rw [unloads_append, unloads_of_kept kept, unloads_cons, gone,
    if_pos (Operation.drops_eq_true_iff.mpr rfl), callback?, still]
  simp

end Unloads

/-! ### Whole runs -/

/-- A handle that an attempt gives is the next one, and keeps what the entry describes, with the
private data that its load callback stored. -/
theorem Loading.module {session later : Session} {entry : Entry} {handle : Nat}
    (loading : session.Loading (some entry) (.ok handle) later) :
    ∃ module, entry.Accepted module ∧ handle = session.modules.size ∧
      later.modules =
        session.modules.push
          (some { module with privData := entry.stored module session.host }) := by
  cases loading with
  | @plain _ module accepted silent =>
    have described := Entry.accepted_of_accept accepted
    have stored : entry.stored module session.host = module.privData := by
      rw [Entry.stored, silent, described.privData]
    exact ⟨module, described, rfl, by rw [stored]; rfl⟩
  | @stored _ module callback answer frame accepted loads ran status =>
    have stored : entry.stored module session.host = answer.privData := by
      rw [Entry.stored, loads]
      dsimp only
      rw [Module.runLoad_eq ran]
    exact ⟨module, Entry.accepted_of_accept accepted, rfl, by rw [stored]; rfl⟩

/-- The life of a module that a run loads as this handle: after the operations `before` its entry is
loaded, and the operations `rest` follow. -/
structure Life (before : List Operation) (entry : Entry) (rest : List Operation) (handle : Nat)
    (module : Loaded) : Prop where
  accepted : entry.Accepted module
  /-- Until it is dropped it is there, with what its own load callback stored. -/
  present : ∀ middle, .drop handle ∉ middle →
    (fresh.after (before ++ .load (some entry) :: middle)).module? handle =
      some { module with privData := entry.stored module (fresh.after before).host }
  /-- As long as it is not dropped, nothing is unloaded. -/
  kept : .drop handle ∉ rest → fresh.unloads handle (before ++ .load (some entry) :: rest) = []
  /-- Where it is dropped first, the unload callback of its entry runs; it never runs again. -/
  dropped : ∀ middle last, rest = middle ++ .drop handle :: last → .drop handle ∉ middle →
    fresh.unloads handle (before ++ .load (some entry) :: rest) =
      (entry.unload.map fun _ =>
        .unload module.name (fresh.after (before ++ .load (some entry) :: middle)).host.nextEnv
          (entry.stored module (fresh.after before).host)).toList

/-- Every successful attempt begins such a life. -/
theorem exists_life {before : List Operation} {entry : Entry} {handle : Nat} (rest : List Operation)
    (loaded : ((fresh.after before).load (some entry)).1 = .ok handle) :
    ∃ module, Life before entry rest handle module := by
  have loading := (fresh.after before).load_spec (some entry)
  rw [loaded] at loading
  obtain ⟨module, accepted, rfl, modules⟩ := loading.module
  let session := fresh.after before
  let next := session.step (.load (some entry))
  let owned : Loaded := { module with privData := entry.stored module session.host }
  have given : session.modules.size < next.modules.size := by
    show _ < (session.load (some entry)).2.modules.size
    rw [modules, Array.size_push]
    exact Nat.lt_succ_self _
  have there : next.module? session.modules.size = some owned := by
    show (session.load (some entry)).2.module? _ = _
    rw [module?, modules, Array.getElem?_push_size]
    rfl
  have continues : ∀ later,
      fresh.after (before ++ .load (some entry) :: later) = next.after later :=
    fun later => List.foldl_append
  -- Before the attempt the handle was not given out, and the attempt itself drops nothing.
  have unloaded : ∀ later,
      fresh.unloads session.modules.size (before ++ .load (some entry) :: later) =
      next.unloads session.modules.size later := by
    intro later
    rw [unloads_append, unloads_of_size_le (Nat.le_refl _), unloads_cons]
    rfl
  refine ⟨module, accepted, fun middle absent => ?_, fun absent => ?_,
    fun middle last split absent => ?_⟩
  · rw [continues, module?_after given, Operation.any_drops_eq_false_iff.mpr absent]
    exact there
  · rw [unloaded, unloads_of_kept (Operation.any_drops_eq_false_iff.mpr absent)]
  · rw [unloaded, split, continues,
      unloads_of_dropped given there (Operation.any_drops_eq_false_iff.mpr absent),
      ← accepted.unload]

/-- Where callbacks run: a load callback where its entry is loaded, once the entry was accepted, and
an unload callback where a handle is dropped. -/
inductive Origin : Operation → CallbackRun → Prop
  | load {entry : Entry} {module : Loaded} (accepted : entry.Accepted module) (env : UInt32) :
      Origin (.load (some entry)) (.load module.name env Word.nil)
  | unload (handle : Nat) (name : String) (env : UInt32) (privData : UInt64) :
      Origin (.drop handle) (.unload name env privData)

theorem origin_of_mem_trace {session : Session} {operations : List Operation}
    {ran : Operation × CallbackRun}
    (member : ran ∈ session.trace operations) : Origin ran.1 ran.2 := by
  induction operations generalizing session with
  | nil => cases member
  | cons operation rest ih =>
    rcases List.mem_append.mp member with here | later
    · obtain ⟨run, runs, rfl⟩ := Option.map_eq_some_iff.mp (Option.mem_toList.mp here)
      unfold callback? at runs
      split at runs
      · split at runs
        · rename_i accepted _
          cases runs
          exact .load (Entry.accepted_of_accept accepted) _
        · cases runs
      · obtain ⟨module, -, unloads⟩ := Option.bind_eq_some_iff.mp runs
        obtain ⟨_, -, rfl⟩ := Option.map_eq_some_iff.mp unloads
        exact .unload _ _ _ _
      · cases runs
    · exact ih later

/-- How the callbacks of a run pair up. -/
structure PairsUp (operations : List Operation) : Prop where
  /-- The host keeps a record of every callback that ran. -/
  recorded : (fresh.after operations).host.callbacks.toList = (fresh.trace operations).map Prod.snd
  /-- Numbers are taken for the environments that were opened and for the callbacks, one for each.
  -/
  numbered : (fresh.after operations).host.nextEnv =
    UInt32.ofNat (1 + operations.countP Operation.opens + (fresh.trace operations).length)
  /-- Attempts to load run load callbacks only, and unload callbacks run where handles are dropped.
  -/
  origin : ∀ ran ∈ fresh.trace operations, Origin ran.1 ran.2
  /-- What the next attempt does. -/
  attempt : ∀ entry, (fresh.after operations).Loading entry ((fresh.after operations).load entry).1
    ((fresh.after operations).load entry).2
  /-- What dropping a handle does next. -/
  drop : ∀ handle, (fresh.after operations).Dropping handle
    ((fresh.after operations).step (.drop handle))
  /-- Every successful attempt begins the life of a handle. -/
  life : ∀ before entry rest handle, operations = before ++ .load (some entry) :: rest →
    ((fresh.after before).load (some entry)).1 = .ok handle →
      ∃ module, Life before entry rest handle module
  /-- Nothing is unloaded that was not loaded. -/
  unloaded : ∀ handle, (∀ before entry rest, operations = before ++ .load entry :: rest →
    ((fresh.after before).load entry).1 ≠ .ok handle) → fresh.unloads handle operations = []

/-- **Load and unload callbacks pair up over every run.** -/
theorem callbacks_pair_up (operations : List Operation) : PairsUp operations where
  recorded := callbacks_after fresh operations
  numbered := by
    rw [nextEnv_after, Nat.add_assoc]
    exact (UInt32.ofNat_add 1 _).symm
  origin := fun _ => origin_of_mem_trace
  attempt := load_spec _
  drop := drop_spec _
  life := fun _ _ rest _ _ => exists_life rest
  unloaded := fun handle never => by
    refine unloads_of_size_le (Nat.not_lt.mp fun given => ?_)
    obtain ⟨before, entry, rest, split, answered⟩ := exists_load_of_lt (Nat.zero_le handle) given
    exact never before entry rest split answered

/-- Two modules that are dropped in the other order, one of them twice, and a third that refuses in
between. -/
example :
    let loads (name : String) (answer : Module.LoadAnswer) : Operation := .load <| some {
      name := some (utf8Bytes name), count := 0, functions := none
      load := some fun _ => .done answer, unload := some fun _ => .done () }
    (fresh.after [loads "a" { privData := 7 }, loads "b" { status := -1, privData := 9 },
        loads "c" {}, .drop 1, .drop 0, .drop 1, .drop 2]).host.callbacks =
      #[.load "a" 1 Word.nil, .load "b" 2 Word.nil, .load "c" 3 Word.nil, .unload "c" 4 0,
        .unload "a" 5 7] := by
  decide +kernel

end Session

end Nif
