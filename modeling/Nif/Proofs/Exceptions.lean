import Nif.Proofs.Growth

/-!
**The pending exception: what raises it, and what else touches it.**

* `Request.Raises`: the calls of symbols that raise.
* `Program.calls`: the calls that a program makes, each with the frame that it meets.
* `Request.perform_exception`: a call that raises leaves an exception pending, and any other call
  leaves the pending exception as it is.
* `Program.run_exception`: after a run an exception is pending exactly if there was one before or
  some call raised.
* `Program.run_silent`: no program can tell what has been reported.
-/

namespace Nif

/-! ### Raising -/

/-- The calls of symbols that raise: the request to raise, a float that is not finite, a null
pointer where a name, elements or a buffer is needed, and a name that the atom table refuses. -/
def Request.Raises : Request → Frame → Prop
  | makeBadarg, _ => True
  | makeDouble value, _ => ¬ value.isFinite
  | makeAtom none, _ => True
  | makeAtom (some name), frame => frame.host.atoms.Refuses name.terminated
  | makeTuple none count, _ => count ≠ 0
  | makeBinary none, _ => True
  | _, _ => False

namespace Frame

variable {frame : Frame}

theorem push_exception (frame : Frame) (cell : Cell) :
    (frame.push cell).2.env.exception = frame.env.exception := by
  simp only [push]
  split <;> rfl

theorem makeInt_exception (frame : Frame) (value : Int64) :
    (frame.makeInt value).2.env.exception = frame.env.exception := by
  unfold makeInt
  split
  · rfl
  · exact push_exception frame _

/-- A name that was admitted in the end was admitted before. -/
theorem GrowsTo.admits {before after : Frame} {names : Finset Bytes} (grown : before.GrowsTo after)
    (room : after.host.atoms.Admits names) : before.host.atoms.Admits names :=
  room.of_prefix grown.names (after.host.limit_eq.trans before.host.limit_eq.symm)

/-- **Raising gives no value and leaves an exception pending**, as long as its reason can be an
atom. -/
theorem raise_of_admits (room : frame.host.atoms.Admits {badarg}) :
    frame.raise.1 = Word.nonValue ∧ frame.raise.2.env.exception.isSome := by
  obtain ⟨reason, host, entered⟩ :=
    Host.intern_of_admits room (Finset.mem_singleton_self badarg) (by decide)
  rw [raise, entered]
  exact ⟨rfl, rfl⟩

theorem raise_exception (room : frame.raise.2.host.atoms.Admits {badarg}) :
    frame.raise.2.env.exception.isSome :=
  (raise_of_admits (frame.raise_grows.admits room)).2

/-- Making an atom raises exactly if the table refuses its name. -/
theorem makeAtom_exception {name : Bytes}
    (room : (frame.makeAtom name).2.host.atoms.Admits {badarg}) :
    ((frame.makeAtom name).2.env.exception.isSome ↔
      frame.env.exception.isSome ∨ frame.host.atoms.Refuses name) := by
  unfold makeAtom at room ⊢
  split
  · rename_i entered
    obtain ⟨index, inTable, -⟩ := Host.intern_cases entered
    simp [AtomTable.not_refuses_of_intern inTable]
  · rename_i refused
    have refuses := AtomTable.intern_error (Host.intern_error refused)
    rw [refused] at room
    simp [refuses, raise_exception room]

end Frame

namespace Request

variable {frame : Frame}

/-- **A call that raises leaves an exception pending, and any other leaves it alone.** -/
theorem perform_exception (request : Request)
    (room : (request.perform frame).2.host.atoms.Admits {Frame.badarg}) :
    ((request.perform frame).2.env.exception.isSome ↔
      frame.env.exception.isSome ∨ request.Raises frame) := by
  cases request with
  | makeBadarg => simp [Raises, perform, Frame.raise_exception room]
  | makeInt value => simp [Raises, perform, Frame.makeInt_exception]
  | makeLong value => simp [Raises, perform, Frame.makeInt_exception]
  | makeDouble value =>
    by_cases finite : value.isFinite
    · simp [Raises, perform, finite, Frame.makeFloat, Frame.push_exception]
    · simp only [perform, if_neg finite] at room
      simp [Raises, perform, finite, Frame.raise_exception room]
  | makeAtom name =>
    cases name with
    | none => simp [Raises, perform, Frame.raise_exception room]
    | some name => exact Frame.makeAtom_exception room
  | makeTuple elements count =>
    simp only [perform, makeTupleFrom] at room ⊢
    by_cases empty : count = 0
    · cases elements <;> simp [Raises, empty, Frame.makeTuple, Frame.push_exception]
    · rw [if_neg empty] at room ⊢
      cases elements with
      | none => simp [Raises, empty, Frame.raise_exception room]
      | some words => simp [Raises, Frame.makeTuple, Frame.push_exception]
  | makeBinary bin =>
    rcases bin with _ | ⟨_ | bytes⟩
    · simp [Raises, perform, makeBinaryFrom, Frame.raise_exception room]
    · simp [Raises, perform, makeBinaryFrom, Frame.makeBinary, Frame.push_exception]
    · simp [Raises, perform, makeBinaryFrom, Frame.makeBinary, Frame.push_exception]
  | _ => simp [Raises, perform, Frame.note]

end Request

namespace Program

variable {α : Type}

/-- The calls that a program makes, each with the frame that it meets. -/
def calls : Program α → Frame → List (Request × Frame)
  | done _, _ => []
  | call request next, frame =>
    (request, frame) :: (next (request.perform frame).1).calls (request.perform frame).2

/-- The calls of programs that run one after the other. -/
theorem calls_bind {β : Type} (program : Program α) (next : α → Program β) (frame : Frame) :
    (program >>= next).calls frame =
      program.calls frame ++ (next (program.run frame).1).calls (program.run frame).2 := by
  show (program.bind next).calls frame = _
  induction program generalizing frame with
  | done result => rfl
  | call request rest ih => exact congrArg ((request, frame) :: ·) (ih _ _)

/-- Some call of the program raises. -/
def Raises (program : Program α) (frame : Frame) : Prop :=
  ∃ made ∈ program.calls frame, made.1.Raises made.2

/-- **After a run an exception is pending exactly if there was one before or some call raised**: no
call clears it. -/
theorem run_exception (program : Program α) (frame : Frame)
    (room : (program.run frame).2.host.atoms.Admits {Frame.badarg}) :
    ((program.run frame).2.env.exception.isSome ↔
      frame.env.exception.isSome ∨ program.Raises frame) := by
  induction program generalizing frame with
  | done result => simp [run, runWith, Raises, calls]
  | call request next ih =>
    have rest := ih _ _ room
    have first := request.perform_exception ((run_grows _ _).admits room)
    rw [Raises, calls, List.exists_mem_cons_iff, ← or_assoc, ← first]
    exact rest

end Program

/-! ### What has been reported -/

/-- The host with all its reports forgotten. -/
def Host.silent (host : Host) : Host := { host with log := #[] }

/-- The frame with all reports forgotten. -/
def Frame.silent (frame : Frame) : Frame := { frame with host := frame.host.silent }

/-- The frame with another pending exception, or with none. -/
def Frame.withException (frame : Frame) (exception : Option Word) : Frame :=
  { frame with env := { frame.env with exception } }

/-- What the tails of a list lead to does not depend on the pending exception. -/
theorem Environment.spineWithin_exception (env : Environment) (exception : Option Word)
    (bound : Nat)
    (word : Word) : { env with exception }.spineWithin bound word = env.spineWithin bound word := by
  induction bound generalizing word with
  | zero => rfl
  | succ bound ih =>
    simp only [spineWithin, ih]
    rfl

/-- Nor does the meaning of a word. -/
theorem Environment.decodeWithin_exception (env : Environment) (exception : Option Word)
    (atoms : AtomTable) (depth : Nat) (word : Word) :
    { env with exception }.decodeWithin atoms depth word = env.decodeWithin atoms depth word := by
  induction depth generalizing word with
  | zero => rfl
  | succ depth ih =>
    have parts : { env with exception }.decodeWithin atoms depth = env.decodeWithin atoms depth :=
      funext ih
    have spine : { env with exception }.spine word = env.spine word :=
      env.spineWithin_exception exception _ word
    simp only [decodeWithin, parts, spine]
    rfl

/-- **What can be read of a frame** depends neither on the pending exception nor on the reports. -/
theorem Frame.decode?_of_silent {frame later : Frame} {exception : Option Word}
    (same : later.silent = (frame.withException exception).silent) (word : Word) :
    later.decode? word = frame.decode? word := by
  have read : later.silent.decode? word = (frame.withException exception).silent.decode? word := by
    rw [same]
  exact read.trans (frame.env.decodeWithin_exception exception frame.host.atoms _ word)

/-- An operation that cannot tell what has been reported. -/
def Frame.Silent {α : Type} (operation : Frame → α × Frame) : Prop :=
  ∀ frame, (operation frame.silent).1 = (operation frame).1 ∧
    (operation frame.silent).2.silent = (operation frame).2.silent

theorem Host.intern_silent (host : Host) (name : Bytes) :
    host.silent.intern name = (host.intern name).map fun entered =>
      (entered.1, entered.2.silent) := by
  cases entered : host.atoms.intern name with
  | error refusal =>
    have refused : host.silent.atoms.intern name = .error refusal := entered
    rw [intern_of_refusal entered, intern_of_refusal refused]
    rfl
  | ok result =>
    have enteredToo : host.silent.atoms.intern name = .ok (result.1, result.2) := entered
    rw [intern_of_table entered, intern_of_table enteredToo]
    rfl

namespace Frame

/-- Operations in which equal frames but for the reports cannot be told apart. -/
theorem Silent.congr {α : Type} {operation : Frame → α × Frame} (silent : Silent operation)
    {frame other : Frame} (same : frame.silent = other.silent) :
    (operation frame).1 = (operation other).1 ∧
      (operation frame).2.silent = (operation other).2.silent := by
  obtain ⟨first, second⟩ := silent frame
  rw [← first, ← second, same]
  exact silent other

theorem push_silent (cell : Cell) : Silent fun frame => frame.push cell := by
  intro frame
  by_cases room : frame.env.heap.size < Interface.slotLimit
  · have roomToo : frame.silent.env.heap.size < Interface.slotLimit := room
    simp only [push, dif_pos room, dif_pos roomToo]
    exact ⟨rfl, rfl⟩
  · have roomToo : ¬ frame.silent.env.heap.size < Interface.slotLimit := room
    simp only [push, dif_neg room, dif_neg roomToo]
    exact ⟨trivial, rfl⟩

theorem raise_silent : Silent raise := by
  intro frame
  unfold raise
  rw [show frame.silent.host = frame.host.silent from rfl, Host.intern_silent]
  cases frame.host.intern badarg <;> exact ⟨rfl, rfl⟩

theorem makeInt_silent (value : Int64) : Silent fun frame => frame.makeInt value := by
  intro frame
  dsimp only [makeInt]
  split
  · exact ⟨rfl, rfl⟩
  · exact push_silent _ frame

theorem makeAtom_silent (name : Bytes) : Silent fun frame => frame.makeAtom name := by
  intro frame
  simp only [makeAtom]
  rw [show frame.silent.host = frame.host.silent from rfl, Host.intern_silent]
  cases frame.host.intern name with
  | ok entered => exact ⟨rfl, rfl⟩
  | error refusal => exact raise_silent.congr rfl

end Frame

/-- **No symbol can tell what has been reported.** -/
theorem Request.perform_silent (request : Request) : Frame.Silent request.perform := by
  intro frame
  cases request with
  | makeBadarg => exact Frame.raise_silent frame
  | makeInt value => exact Frame.makeInt_silent _ frame
  | makeLong value => exact Frame.makeInt_silent _ frame
  | makeDouble value =>
    simp only [perform]
    split
    · exact Frame.push_silent _ frame
    · exact Frame.raise_silent frame
  | makeAtom name =>
    cases name with
    | none => exact Frame.raise_silent frame
    | some name => exact Frame.makeAtom_silent _ frame
  | makeTuple elements count =>
    simp only [perform, makeTupleFrom]
    split
    · exact Frame.push_silent _ frame
    · cases elements with
      | none => exact Frame.raise_silent frame
      | some words => exact Frame.push_silent _ frame
  | makeBinary bin =>
    rcases bin with _ | ⟨_ | bytes⟩
    · exact Frame.raise_silent frame
    · exact Frame.push_silent _ frame
    · exact (Frame.push_silent (.binary bytes)).congr rfl
  | allocBinary size bin =>
    cases bin with
    | none => exact ⟨rfl, rfl⟩
    | some bin =>
      by_cases fits : size < Interface.allocationLimit <;>
        simp [perform, Host.allocBinary, fits, Frame.silent, Host.silent, Host.note]
  | releaseBinary bin => rcases bin with _ | ⟨_ | bytes⟩ <;> exact ⟨rfl, rfl⟩
  | _ => exact ⟨rfl, rfl⟩

/-- **No program can tell what has been reported.** -/
theorem Program.run_silent {α : Type} (program : Program α) : Frame.Silent program.run := by
  intro frame
  induction program generalizing frame with
  | done result => exact ⟨rfl, rfl⟩
  | call request next ih =>
    obtain ⟨reply, after⟩ := request.perform_silent frame
    show ((next (request.perform frame.silent).1).run _).1 = _ ∧
      ((next (request.perform frame.silent).1).run _).2.silent = _
    rw [reply]
    exact Frame.Silent.congr (ih _) after

end Nif
