import Nif.Module.Loaded
import Nif.Proofs.Books
import Nif.Proofs.Makers
import Nif.Proofs.TypedCalls
import Nif.Proofs.Untouched

/-!
**Making terms and calling typed functions leaves the count of buffers as it was.**

* `Program.Balanced`, `Attempt.Balanced`: a program after which native code holds as many buffers as
  before, whatever it ends with.
* `Make.tryBinary_balanced`: a binary takes one buffer and gives it up again, or takes none.
* `Data.encode_balanced`, `Param.decode_balanced`, `Handler.native_balanced`: so does every value,
  every argument and every typed function, the failing ones among them.
* `Module.Loaded.call_balanced`: and every call of a typed function.
-/

namespace Nif

/-- Native code holds as many buffers after the program as before. -/
def Program.Balanced {α : Type} (program : Program α) : Prop :=
  ∀ frame : Frame, (program.run frame).2.host.outstanding = frame.host.outstanding

/-- Native code holds as many buffers after the attempt as before, whether it failed or not. -/
def Attempt.Balanced {α : Type} (attempt : Attempt α) : Prop := Program.Balanced attempt.run

namespace Program.Balanced

variable {α β : Type}

theorem pure (result : α) : Balanced (Pure.pure result) := fun _ => rfl

theorem bind {program : Program α} {next : α → Program β} (first : program.Balanced)
    (rest : ∀ result, (next result).Balanced) : (program >>= next).Balanced := by
  intro frame
  rw [run_bind]
  exact (rest _ _).trans (first frame)

theorem ofRequest {request : Request} (other : request.dealsWithBuffers = false) :
    (Program.ofRequest request).Balanced := fun frame =>
  Host.outstanding_of_books (request.perform_books other frame)

end Program.Balanced

theorem Program.balanced_of_reads {α : Type} {program : Program α} (reads : program.Reads) :
    program.Balanced := by
  intro frame
  rw [Program.run_of_reads reads]

namespace Attempt.Balanced

variable {α β : Type}

theorem of_outcome {attempt : Attempt α}
    (same : ∀ frame, (attempt.outcome frame).2.host.outstanding = frame.host.outstanding) :
    attempt.Balanced := same

theorem pure (result : α) : Balanced (Pure.pure result : Attempt α) := fun _ => rfl

theorem throw (fault : Fault) : Balanced (MonadExcept.throw fault : Attempt α) := fun _ => rfl

/-- Nothing follows a failure. -/
theorem throw_bind (fault : Fault) (next : β → Attempt α) :
    Balanced ((MonadExcept.throw fault : Attempt β) >>= next) := fun _ => rfl

theorem ofExcept (result : Except Fault α) : Balanced (liftM result : Attempt α) := fun _ => rfl

theorem lift {program : Program α} (balanced : program.Balanced) :
    Balanced (liftM program : Attempt α) := by
  refine of_outcome fun frame => ?_
  rw [outcome_lift]
  exact balanced frame

theorem bind {attempt : Attempt α} {next : α → Attempt β} (first : attempt.Balanced)
    (rest : ∀ result, (next result).Balanced) : Balanced (attempt >>= next) := by
  refine of_outcome fun frame => ?_
  have before : (attempt.outcome frame).2.host.outstanding = frame.host.outstanding := first frame
  rw [outcome_bind]
  generalize attempt.outcome frame = ending at before ⊢
  rcases ending with ⟨_ | result, after⟩
  · exact before
  · exact (rest result after).trans before

end Attempt.Balanced

/-! ### Making terms -/

namespace Make

theorem badarg_balanced : badarg.Balanced := .ofRequest rfl

theorem orRaise_balanced {attempt : Attempt Word} (balanced : attempt.Balanced) :
    (orRaise attempt).Balanced := by
  refine .bind balanced fun ending => ?_
  cases ending with
  | ok word => exact .pure word
  | error fault => exact .bind (.ofRequest rfl) fun _ => badarg_balanced

theorem int_balanced (value : Int32) : (int value).Balanced := .ofRequest rfl

theorem tryLong_balanced (value : Int64) : (tryLong value).Balanced := .lift (.ofRequest rfl)

theorem double_balanced (value : Float) : (double value).Balanced := .ofRequest rfl

theorem tryDouble_balanced (value : Float) : (tryDouble value).Balanced := by
  unfold tryDouble
  split
  · exact .lift (double_balanced value)
  · exact .throw _

theorem tryAtom_balanced (name : String) : (tryAtom name).Balanced := by
  unfold tryAtom
  split
  · exact .lift (.ofRequest rfl)
  · exact .throw _

theorem bool_balanced (value : Bool) : (bool value).Balanced :=
  orRaise_balanced (tryAtom_balanced _)

theorem tryTuple_balanced (elements : List Word) : (tryTuple elements).Balanced := by
  unfold tryTuple
  split
  · exact .lift (.ofRequest rfl)
  · exact .throw _

/-- A pair of an atom and a word. -/
theorem tagged_balanced (tag : String) (value : Word) :
    Program.Balanced (do tuple [← atom tag, value]) :=
  .bind (orRaise_balanced (tryAtom_balanced tag)) fun _ => orRaise_balanced (tryTuple_balanced _)

/-- **The buffer of a binary is counted only while it is filled**; where there is no memory for it,
it is not counted at all. -/
theorem tryBinary_balanced (bytes : Bytes) : (tryBinary bytes).Balanced := by
  refine .of_outcome fun frame => ?_
  by_cases fits : bytes.length < Interface.allocationLimit
  · rw [outcome_tryBinary frame fits]
    exact Host.outstanding_of_books (frame.push_books _)
  · rw [outcome_tryBinary_of_large frame fits]
    rfl

theorem text_balanced (text : String) : (Make.text text).Balanced :=
  orRaise_balanced (tryBinary_balanced _)

end Make

/-- A constructor of terms with its arguments. -/
inductive Maker where
  | badarg
  | int (value : Int32)
  | long (value : Int64)
  | tryLong (value : Int64)
  | double (value : Float)
  | tryDouble (value : Float)
  | atom (name : String)
  | tryAtom (name : String)
  | bool (value : Bool)
  | tuple (elements : List Word)
  | tryTuple (elements : List Word)
  | ok (value : Word)
  | error (reason : Word)
  | binary (bytes : Bytes)
  | tryBinary (bytes : Bytes)
  | text (content : String)

namespace Maker

def attempt : Maker → Attempt Word
  | badarg => Make.badarg
  | int value => Make.int value
  | long value => Make.long value
  | tryLong value => Make.tryLong value
  | double value => Make.double value
  | tryDouble value => Make.tryDouble value
  | atom name => Make.atom name
  | tryAtom name => Make.tryAtom name
  | bool value => Make.bool value
  | tuple elements => Make.tuple elements
  | tryTuple elements => Make.tryTuple elements
  | ok value => Make.ok value
  | error reason => Make.error reason
  | binary bytes => Make.binary bytes
  | tryBinary bytes => Make.tryBinary bytes
  | text content => Make.text content

/-- **Every constructor leaves the count as it was.** -/
theorem attempt_balanced (maker : Maker) : maker.attempt.Balanced := by
  cases maker with
  | badarg => exact .lift Make.badarg_balanced
  | int value => exact .lift (Make.int_balanced value)
  | long value => exact .lift (Make.orRaise_balanced (Make.tryLong_balanced value))
  | tryLong value => exact Make.tryLong_balanced value
  | double value => exact .lift (Make.double_balanced value)
  | tryDouble value => exact Make.tryDouble_balanced value
  | atom name => exact .lift (Make.orRaise_balanced (Make.tryAtom_balanced name))
  | tryAtom name => exact Make.tryAtom_balanced name
  | bool value => exact .lift (Make.bool_balanced value)
  | tuple elements => exact .lift (Make.orRaise_balanced (Make.tryTuple_balanced elements))
  | tryTuple elements => exact Make.tryTuple_balanced elements
  | ok value => exact .lift (Make.tagged_balanced "ok" value)
  | error reason => exact .lift (Make.tagged_balanced "error" reason)
  | binary bytes => exact .lift (Make.orRaise_balanced (Make.tryBinary_balanced bytes))
  | tryBinary bytes => exact Make.tryBinary_balanced bytes
  | text content => exact .lift (Make.text_balanced content)

end Maker

/-- **Every value leaves the count as it was**, also when a part fails after others were made. -/
theorem Data.encode_balanced (data : Data) : data.encode.Balanced := by
  induction data with
  | i32 value => exact .lift (Make.int_balanced value)
  | u32 value => exact Make.tryLong_balanced _
  | i64 value => exact Make.tryLong_balanced value
  | f64 value => exact Make.tryDouble_balanced value
  | bool value => exact .lift (Make.bool_balanced value)
  | text value => exact Make.tryBinary_balanced _
  | bytes value => exact Make.tryBinary_balanced value
  | atom name => exact Make.tryAtom_balanced name
  | unit => exact Make.tryAtom_balanced _
  | pair first second firstIh secondIh =>
    exact .bind firstIh fun _ => .bind secondIh fun _ => Make.tryTuple_balanced _
  | triple first second third firstIh secondIh thirdIh =>
    exact .bind firstIh fun _ => .bind secondIh fun _ => .bind thirdIh fun _ =>
      Make.tryTuple_balanced _
  | success value ih => exact ih
  | failure fault => exact .throw fault

/-! ### Reading arguments -/

/-- **Reading an argument leaves the count as it was**, as it changes nothing. -/
theorem Param.decode_balanced (param : Param) (word : Word) : (param.decode word).Balanced :=
  Program.balanced_of_reads (param.decode_reads word)

theorem decodeArguments_balanced (params : List Param) (words : List Word) :
    (decodeArguments params words).Balanced := by
  induction params generalizing words with
  | nil => exact .pure _
  | cons param params ih =>
    cases words with
    | nil => exact .throw _
    | cons word words =>
      exact .bind (param.decode_balanced word) fun _ => .bind (ih words) fun _ => .pure _

/-! ### Typed functions -/

namespace Handler

theorem call_balanced (handler : Handler) (words : List Word) : (handler.call words).Balanced := by
  unfold call
  split
  · exact .throw_bind _ _
  · refine .bind (decodeArguments_balanced _ words) fun values => ?_
    split
    · exact .bind (Data.encode_balanced _) fun _ => .pure _
    · exact .pure _

/-- **A typed function leaves the count as it was**, whether it returns, fails or panics. -/
theorem native_balanced (handler : Handler) (count : Int32) (array : Option (List Word)) :
    (handler.native count array).Balanced := by
  have attempt : Attempt.Balanced (do
      handler.call (← argumentWords count array (some handler.arity))) :=
    .bind (.ofExcept _) fun words => handler.call_balanced words
  refine Program.Balanced.bind attempt fun ending => ?_
  have raises : ∀ note, Program.Balanced (do Symbol.report note; Make.badarg) := fun note =>
    .bind (.ofRequest rfl) fun _ => Make.badarg_balanced
  rcases ending with fault | (word | _)
  · exact raises _
  · exact .pure word
  · exact raises _

end Handler

/-- **So does every call of a typed function.** -/
theorem Module.Loaded.call_balanced {module : Loaded} {name : String} {args : List Word}
    (typed : ∀ function, module.function? name args.length = some function →
      ∃ handler : Handler, function.body = handler.native) (frame : Frame) :
    (module.call name args frame).2.host.outstanding = frame.host.outstanding := by
  refine call_of_body Prod.snd (fun function found count frame => ?_) frame
  obtain ⟨handler, body⟩ := typed function found
  rw [body]
  exact handler.native_balanced count (some args) frame

end Nif
