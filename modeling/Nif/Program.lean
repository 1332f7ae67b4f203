import Nif.Request

/-!
**Native code as finite programs of requests.**

A program ends with a result, or makes a request and goes on in a way that depends on the reply.
Nothing else can happen in it, so what holds for every request holds for every native function.

* `run`: a program in a live environment; `runDetached`: with a null environment pointer.
* `run_bind`: programs run one after the other.
* `Attempt`: a program that may fail; `Attempt.outcome` runs it.
* `outcome_bind`: attempts run one after the other up to the first failure.
-/

namespace Nif

/-- A finite program of requests. -/
inductive Program (α : Type) where
  | done (result : α)
  | call (request : Request) (next : request.Reply → Program α)

namespace Program

variable {α β σ : Type}

/-- One program after the other. -/
def bind : Program α → (α → Program β) → Program β
  | done result, next => next result
  | call request rest, next => call request fun reply => (rest reply).bind next

instance : Monad Program where
  pure := done
  bind := bind

/-- The program of one request. -/
def ofRequest (request : Request) : Program request.Reply := call request done

/-- Runs a program with an answer to each request. -/
def runWith (answer : (request : Request) → σ → request.Reply × σ) : Program α → σ → α × σ
  | done result, state => (result, state)
  | call request next, state =>
    let (reply, state) := answer request state
    (next reply).runWith answer state

/-- Runs a program in a live environment. -/
def run (program : Program α) (frame : Frame) : α × Frame := program.runWith Request.perform frame

/-- Runs a program with a null environment pointer. -/
def runDetached (program : Program α) (host : Host) : α × Host :=
  program.runWith Request.refuse host

theorem runWith_bind (answer : (request : Request) → σ → request.Reply × σ) (program : Program α)
    (next : α → Program β) (state : σ) :
    (program >>= next).runWith answer state =
      (next (program.runWith answer state).1).runWith answer (program.runWith answer state).2 := by
  show (program.bind next).runWith answer state = _
  induction program generalizing state with
  | done result => rfl
  | call request rest ih => exact ih _ _

/-- **Programs run one after the other.** -/
theorem run_bind (program : Program α) (next : α → Program β) (frame : Frame) :
    (program >>= next).run frame = (next (program.run frame).1).run (program.run frame).2 :=
  runWith_bind Request.perform program next frame

end Program

/-- A program that may fail. -/
abbrev Attempt := ExceptT Fault Program

namespace Attempt

variable {α β : Type}

/-- Runs an attempt in a live environment. -/
def outcome (attempt : Attempt α) (frame : Frame) : Except Fault α × Frame := attempt.run.run frame

@[simp] theorem outcome_pure (result : α) (frame : Frame) :
    outcome (pure result) frame = (.ok result, frame) := rfl

@[simp] theorem outcome_throw (fault : Fault) (frame : Frame) :
    outcome (throw fault : Attempt α) frame = (.error fault, frame) := rfl

/-- A program that cannot fail. -/
@[simp] theorem outcome_lift (program : Program α) (frame : Frame) :
    outcome (liftM program : Attempt α) frame =
      (.ok (program.run frame).1, (program.run frame).2) :=
  Program.run_bind program (fun result => pure (Except.ok result : Except Fault α)) frame

/-- A result that is known without a request. -/
@[simp] theorem outcome_ofExcept (result : Except Fault α) (frame : Frame) :
    outcome (liftM result : Attempt α) frame = (result, frame) := rfl

/-- **One attempt after the other: the first failure ends both.** -/
@[simp] theorem outcome_bind (attempt : Attempt α) (next : α → Attempt β) (frame : Frame) :
    outcome (attempt >>= next) frame =
      match outcome attempt frame with
      | (.ok result, after) => outcome (next result) after
      | (.error fault, after) => (.error fault, after) := by
  rw [outcome, ExceptT.run_bind, Program.run_bind, outcome]
  rcases attempt.run.run frame with ⟨_ | _, after⟩ <;> rfl

end Attempt

end Nif
