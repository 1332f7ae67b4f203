import Nif.Example.Kind
import Nif.NativeFunction
import Nif.Proofs.Exceptions

/-!
**Readings leave everything as it was.**

* `Program.Every`, `Attempt.Every`: programs and attempts all of whose requests, whatever the
  replies, are of a certain kind.
* `Request.Reads`, `Program.Reads`, `Attempt.Reads`: requests, programs and attempts that change
  nothing, whatever they find.
* `Program.run_of_reads`, `Program.calls_of_reads`: such a program ends where it began, and so does
  each of its calls.
* `Param.decode_reads`, `Example.Kind.probe_reads`, and one such lemma for each reading of a word:
  none of them changes anything, also where it fails or meets a list without an end.
-/

namespace Nif

/-! ### Programs of one kind of requests -/

/-- Every request of the program is allowed, whatever the replies. -/
inductive Program.Every {α : Type} (allowed : Request → Prop) : Program α → Prop
  | done (result : α) : Every allowed (.done result)
  | call {request : Request} {next : request.Reply → Program α} (fits : allowed request)
      (rest : ∀ reply, Every allowed (next reply)) : Every allowed (.call request next)

/-- So is every request of the attempt, whether it fails or not. -/
def Attempt.Every {α : Type} (allowed : Request → Prop) (attempt : Attempt α) : Prop :=
  Program.Every allowed attempt.run

section Rules

variable {α β : Type} {allowed : Request → Prop}

namespace Program.Every

theorem pure (result : α) : Every allowed (Pure.pure result) := .done result

theorem bind {program : Program α} {next : α → Program β} (first : program.Every allowed)
    (rest : ∀ result, (next result).Every allowed) : (program >>= next).Every allowed := by
  show (program.bind next).Every allowed
  induction first with
  | done result => exact rest result
  | call fits _ ih => exact .call fits ih

theorem ofRequest {request : Request} (fits : allowed request) :
    (Program.ofRequest request).Every allowed :=
  .call fits fun reply => .done reply

/-- Every call that such a program makes is allowed. -/
theorem calls {program : Program α} (every : program.Every allowed) (frame : Frame) :
    ∀ made ∈ program.calls frame, allowed made.1 := by
  induction every generalizing frame with
  | done result => exact List.forall_mem_nil _
  | call fits _ ih => exact List.forall_mem_cons.mpr ⟨fits, ih _ _⟩

end Program.Every

namespace Attempt.Every

theorem pure (result : α) : Every allowed (Pure.pure result : Attempt α) := .done _

theorem throw (fault : Fault) : Every allowed (MonadExcept.throw fault : Attempt α) := .done _

/-- Nothing follows a failure. -/
theorem throw_bind (fault : Fault) (next : β → Attempt α) :
    Every allowed ((MonadExcept.throw fault : Attempt β) >>= next) := .done _

theorem bind {attempt : Attempt α} {next : α → Attempt β} (first : attempt.Every allowed)
    (rest : ∀ result, (next result).Every allowed) : (attempt >>= next).Every allowed := by
  refine Program.Every.bind first fun ending => ?_
  cases ending with
  | error fault => exact .done _
  | ok result => exact rest result

theorem ofExcept (result : Except Fault α) : Every allowed (liftM result : Attempt α) := .done _

/-- A program that cannot fail. -/
theorem lift {program : Program α} (every : program.Every allowed) :
    Every allowed (liftM program : Attempt α) :=
  Program.Every.bind every fun _ => .done _

/-- One request, and what follows its reply. -/
theorem ask {request : Request} {next : request.Reply → Attempt α} (fits : allowed request)
    (rest : ∀ reply, (next reply).Every allowed) :
    Every allowed ((liftM (Program.ofRequest request) : Attempt request.Reply) >>= next) :=
  bind (lift (.ofRequest fits)) rest

end Attempt.Every

end Rules

/-! ### Requests that change nothing -/

/-- The request changes nothing, in any frame. -/
def Request.Reads (request : Request) : Prop := ∀ frame, (request.perform frame).2 = frame

namespace Program

variable {α : Type}

/-- Every request of the program changes nothing. -/
def Reads (program : Program α) : Prop := program.Every Request.Reads

/-- **A program that only reads ends where it began.** -/
theorem run_of_reads {program : Program α} (reads : program.Reads) (frame : Frame) :
    (program.run frame).2 = frame := by
  induction reads with
  | done result => rfl
  | @call request next unchanged _ ih =>
    show ((next (request.perform frame).1).run (request.perform frame).2).2 = frame
    rw [unchanged frame]
    exact ih _

/-- Each of its calls meets the frame that it began with. -/
theorem calls_of_reads {program : Program α} (reads : program.Reads) {frame : Frame} :
    ∀ made ∈ program.calls frame, made.2 = frame := by
  induction reads with
  | done result => exact List.forall_mem_nil _
  | @call request next unchanged _ ih =>
    refine List.forall_mem_cons.mpr ⟨rfl, ?_⟩
    rw [unchanged frame]
    exact ih _

end Program

/-- The attempt changes nothing, whether it fails or not. -/
def Attempt.Reads {α : Type} (attempt : Attempt α) : Prop := attempt.Every Request.Reads

theorem Attempt.outcome_of_reads {α : Type} {attempt : Attempt α} (reads : attempt.Reads)
    (frame : Frame) :
    (attempt.outcome frame).2 = frame := Program.run_of_reads reads frame

/-! ### The readings of a word -/

namespace Read

theorem int_reads (word : Word) : (int word).Reads :=
  .ask (fun _ => rfl) fun _ => .bind (.ofExcept _) fun _ => .pure _

theorem long_reads (word : Word) : (long word).Reads :=
  .ask (fun _ => rfl) fun _ => .bind (.ofExcept _) fun _ => .pure _

theorem double_reads (word : Word) : (double word).Reads :=
  .ask (fun _ => rfl) fun _ => .bind (.ofExcept _) fun _ => .pure _

theorem binary_reads (word : Word) : (binary word).Reads :=
  .ask (fun _ => rfl) fun _ => .bind (.ofExcept _) fun _ => .pure _

theorem atomLength_reads (word : Word) : (atomLength word).Reads :=
  .ask (fun _ => rfl) fun _ => .bind (.ofExcept _) fun _ => .pure _

theorem listLength_reads (word : Word) : (listLength word).Reads :=
  .ask (fun _ => rfl) fun _ => .bind (.ofExcept _) fun _ => .pure _

theorem atom_reads (word : Word) : (atom word).Reads := by
  refine .bind (atomLength_reads word) fun _ => ?_
  refine .bind (.ofExcept _) fun _ => .ask (fun _ => rfl) fun reply => ?_
  show Attempt.Reads (if reply.1 ≤ 0 then _ else _)
  split
  · exact .throw_bind _ _
  · exact .pure _

theorem charlist_reads (word : Word) : (charlist word).Reads := by
  refine .bind (listLength_reads word) fun _ => ?_
  refine .bind (.ofExcept _) fun _ => .ask (fun _ => rfl) fun reply => ?_
  show Attempt.Reads (if reply.1 = 0 then _ else _)
  split
  · exact .throw_bind _ _
  · show Attempt.Reads (if reply.1 < 0 then _ else _)
    split
    · exact .throw_bind _ _
    · exact .pure _

end Read

/-! ### Arguments -/

namespace Param

theorem decodeUnsigned_reads (word : Word) : (decodeUnsigned word).Reads := by
  refine .bind (Read.long_reads word) fun value => ?_
  split
  · exact .pure _
  · exact .throw _

theorem decodeBool_reads (word : Word) : (decodeBool word).Reads := by
  refine .bind (Read.atom_reads word) fun name => ?_
  split
  · exact .pure _
  · exact .pure _
  · exact .throw _

theorem decodeText_reads (word : Word) : (decodeText word).Reads := by
  refine Program.Every.bind (Read.binary_reads word) fun shown => ?_
  cases shown with
  | ok held =>
    dsimp only
    split <;> exact .pure _
  | error fault =>
    refine .bind (Read.charlist_reads word) fun read => ?_
    cases read <;> exact .pure _

/-- **Reading an argument changes nothing.** -/
theorem decode_reads (param : Param) (word : Word) : (param.decode word).Reads := by
  cases param with
  | i32 => exact Read.int_reads word
  | u32 => exact decodeUnsigned_reads word
  | i64 => exact Read.long_reads word
  | f64 => exact Read.double_reads word
  | bool => exact decodeBool_reads word
  | text => exact decodeText_reads word
  | bytes => exact Read.binary_reads word
  | atom => exact Read.atom_reads word

end Param

/-! ### The kind of a word -/

namespace Example.Kind

theorem succeeds_reads {α : Type} {reading : Attempt α} (reads : reading.Reads) :
    (succeeds reading).Reads := .bind reads fun _ => .pure _

/-- **Telling the kind of a word changes nothing.** -/
theorem probe_reads (word : Word) : (probe word).Reads := by
  -- One reading after the other: each either names the kind or leaves it to the next.
  have next : ∀ {α : Type} {reading : Attempt α} (kind : Kind) {others : Program Kind},
      reading.Reads → others.Reads →
      Program.Reads (do if ← succeeds reading then return kind else others) := by
    intro α reading kind others reads rest
    refine .bind (succeeds_reads reads) fun found => ?_
    split
    · exact .pure kind
    · exact rest
  exact next _ (Read.long_reads word) <| next _ (Read.double_reads word) <|
    next _ (Read.atomLength_reads word) <| next _ (Read.binary_reads word) <|
    next _ (Read.listLength_reads word) <| .pure other

end Example.Kind

end Nif
