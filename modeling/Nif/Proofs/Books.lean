import Nif.Module.Loaded
import Nif.Proofs.Growth

/-!
**The books of a host: what is counted, and what the making of terms leaves alone.**

* `Host.books`: the next environment number, the runs of callbacks, and the count of the buffers
  that native code holds.
* `Frame.push_books`, `Draft.build_books`, and one such lemma for each builder: making a term
  touches none of them.
* `Request.perform_books`: neither does a symbol, unless it deals with buffers.
* `Program.run_openings`: no program opens an environment or runs a callback.
-/

namespace Nif

/-- The environments that were opened and the callbacks that ran, as far as the host knows of them:
the number of the next environment, and the runs. -/
def Host.openings (host : Host) : UInt32 × Array CallbackRun := (host.nextEnv, host.callbacks)

/-- What the host counts. -/
def Host.books (host : Host) : (UInt32 × Array CallbackRun) × Nat :=
  (host.openings, host.outstanding)

theorem Host.openings_of_books {host later : Host} (same : later.books = host.books) :
    later.openings = host.openings := congrArg Prod.fst same

theorem Host.outstanding_of_books {host later : Host} (same : later.books = host.books) :
    later.outstanding = host.outstanding := congrArg Prod.snd same

/-! ### The builders -/

theorem Host.intern_books {host later : Host} {name : Bytes} {word : Word}
    (entered : host.intern name = .ok (word, later)) : later.books = host.books := by
  obtain ⟨-, -, -, next, outstanding, -, callbacks⟩ := intern_cases entered
  rw [books, books, openings, openings, next, outstanding, callbacks]

namespace Frame

theorem push_books (frame : Frame) (cell : Cell) :
    (frame.push cell).2.host.books = frame.host.books := by
  simp only [push]
  split <;> rfl

theorem raise_books (frame : Frame) : frame.raise.2.host.books = frame.host.books := by
  unfold raise
  split
  · rename_i entered
    exact Host.intern_books entered
  · rfl

theorem makeInt_books (frame : Frame) (value : Int64) :
    (frame.makeInt value).2.host.books = frame.host.books := by
  unfold makeInt
  split
  · rfl
  · exact frame.push_books _

theorem makeAtom_books (frame : Frame) (name : Bytes) :
    (frame.makeAtom name).2.host.books = frame.host.books := by
  unfold makeAtom
  split
  · rename_i entered
    exact Host.intern_books entered
  · exact raise_books _

theorem makeImproper_books (frame : Frame) (elements : List Word) (tail : Word) :
    (frame.makeImproper elements tail).2.host.books = frame.host.books := by
  induction elements with
  | nil => rfl
  | cons head rest ih => exact (push_books _ _).trans ih

theorem makeInts_books (frame : Frame) (values : List Int64) :
    (frame.makeInts values).2.host.books = frame.host.books := by
  induction values generalizing frame with
  | nil => rfl
  | cons value rest ih => exact (ih _).trans (frame.makeInt_books value)

theorem makeCharlist_books (frame : Frame) (text : String) :
    (frame.makeCharlist text).2.host.books = frame.host.books :=
  (makeImproper_books _ _ _).trans (frame.makeInts_books _)

end Frame

mutual

/-- Building a term touches nothing that is counted. -/
theorem Draft.build_books (frame : Frame) (draft : Draft) :
    (Draft.build frame draft).2.host.books = frame.host.books :=
  match draft with
  | .existing _ => rfl
  | .int value => frame.makeInt_books value
  | .float _ => frame.push_books _
  | .atomText name => frame.makeAtom_books (utf8Bytes name)
  | .atom name => frame.makeAtom_books name
  | .tuple elements => (Frame.push_books _ _).trans (Draft.buildAll_books frame elements)
  | .list elements => (Frame.makeImproper_books _ _ _).trans (Draft.buildAll_books frame elements)
  | .improper elements tail =>
    ((Frame.makeImproper_books _ _ _).trans (Draft.build_books _ tail)).trans
      (Draft.buildAll_books frame elements)
  | .charlist text => frame.makeCharlist_books text
  | .binary _ => frame.push_books _

/-- Nor does building several terms. -/
theorem Draft.buildAll_books (frame : Frame) (drafts : List Draft) :
    (Draft.buildAll frame drafts).2.host.books = frame.host.books :=
  match drafts with
  | [] => rfl
  | draft :: rest => (Draft.buildAll_books _ rest).trans (Draft.build_books frame draft)

end

/-! ### Requests and programs -/

namespace Request

/-- The symbols that deal with the buffers of native code. -/
def dealsWithBuffers : Request → Bool
  | makeBinary _ | allocBinary .. | releaseBinary _ => true
  | _ => false

theorem makeTupleFrom_books (frame : Frame) (elements : Option (List Word)) (count : UInt32) :
    (makeTupleFrom frame elements count).2.host.books = frame.host.books := by
  unfold makeTupleFrom
  split
  · exact frame.push_books _
  · split
    · exact frame.push_books _
    · exact frame.raise_books

/-- **A symbol that does not deal with buffers touches nothing that is counted.** -/
theorem perform_books {request : Request} (other : request.dealsWithBuffers = false)
    (frame : Frame) :
    (request.perform frame).2.host.books = frame.host.books := by
  cases request with
  | makeBadarg => exact frame.raise_books
  | makeInt value => exact frame.makeInt_books _
  | makeLong value => exact frame.makeInt_books _
  | makeDouble value =>
    simp only [perform]
    split
    · exact frame.push_books _
    · exact frame.raise_books
  | makeAtom name =>
    cases name with
    | none => exact frame.raise_books
    | some name => exact frame.makeAtom_books _
  | makeTuple elements count => exact makeTupleFrom_books frame elements count
  | makeBinary _ | allocBinary _ _ | releaseBinary _ => cases other
  | _ => rfl

end Request

theorem Host.allocBinary_openings (host : Host) (size : Nat) (bin : Option Descriptor) :
    (host.allocBinary size bin).2.openings = host.openings := by
  unfold allocBinary
  split
  · rfl
  · split <;> rfl

theorem Host.releaseBinary_openings (host : Host) (bin : Option Descriptor) :
    (host.releaseBinary bin).2.openings = host.openings := by
  unfold releaseBinary
  split <;> rfl

namespace Request

/-- **No symbol opens an environment or runs a callback.** -/
theorem perform_openings (request : Request) (frame : Frame) :
    (request.perform frame).2.host.openings = frame.host.openings := by
  cases deals : request.dealsWithBuffers with
  | false => exact Host.openings_of_books (perform_books deals frame)
  | true =>
    cases request with
    | allocBinary size bin => exact Host.allocBinary_openings frame.host size bin
    | releaseBinary bin => exact Host.releaseBinary_openings frame.host bin
    | makeBinary bin =>
      rcases bin with _ | ⟨_ | bytes⟩
      · exact Host.openings_of_books frame.raise_books
      · exact Host.openings_of_books (frame.push_books _)
      · exact (Host.openings_of_books (Frame.push_books _ (.binary bytes))).trans rfl
    | _ => cases deals

/-- Nor does one that is called without an environment. -/
theorem refuse_openings (request : Request) (host : Host) :
    (request.refuse host).2.openings = host.openings := by
  cases request with
  | allocBinary size bin => exact host.allocBinary_openings size bin
  | releaseBinary bin => exact host.releaseBinary_openings bin
  | getAtomLength word out encoding => simp only [refuse]; split <;> rfl
  | getAtom word buffer encoding => simp only [refuse]; split <;> rfl
  | getString word buffer encoding => simp only [refuse]; split <;> rfl
  | _ => rfl

end Request

namespace Program

variable {α : Type}

theorem run_openings (program : Program α) (frame : Frame) :
    (program.run frame).2.host.openings = frame.host.openings :=
  runWith_of_steps (R := fun before after : Frame => after.host.openings = before.host.openings)
    (fun _ => rfl) (fun early late => late.trans early) Request.perform_openings program frame

theorem runDetached_openings (program : Program α) (host : Host) :
    (program.runDetached host).2.openings = host.openings :=
  runWith_of_steps (R := fun before after : Host => after.openings = before.openings)
    (fun _ => rfl) (fun early late => late.trans early) Request.refuse_openings program host

end Program

/-! ### Calls -/

namespace Module.Loaded

theorem clearStale_books (module : Loaded) (name : String) (arity : Nat) (frame : Frame) :
    (module.clearStale name arity frame).host.books = frame.host.books := by
  unfold clearStale
  split <;> rename_i cleared <;> obtain ⟨-, rfl⟩ := Prod.mk.inj cleared <;> rfl

theorem conclude_books (module : Loaded) (name : String) (arity : Nat) (result : Word)
    (frame : Frame) :
    (module.conclude name arity result frame).2.host.books = frame.host.books := by
  simp only [conclude]
  split <;> rfl

/-- **A call changes what is counted only as far as the called function does.** -/
theorem call_of_body {β : Type} (part : (UInt32 × Array CallbackRun) × Nat → β) {module : Loaded}
    {name : String} {args : List Word}
    (same : ∀ function, module.function? name args.length = some function →
      ∀ (count : Int32) (frame : Frame),
        part ((function.body count (some args)).run frame).2.host.books = part frame.host.books)
    (frame : Frame) :
    part (module.call name args frame).2.host.books = part frame.host.books := by
  unfold call
  cases found : module.function? name args.length with
  | none => rfl
  | some function =>
    dsimp only
    rw [conclude_books, same function found, clearStale_books]

end Module.Loaded

end Nif
