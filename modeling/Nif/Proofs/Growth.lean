import Nif.Draft
import Nif.Program
import Nif.Proofs.Atoms

/-!
**Nothing that was made is ever changed.**

* `Frame.GrowsTo`: a later state of an environment and its host: the same environment number, the
  heap and the atom table each a continuation of what they were.
* `Request.perform_grows`, `Draft.build_grows`, and one such lemma for each builder: a single step
  grows.
* `Program.run_of_steps`: what every request preserves, a whole program preserves.
* `Program.run_grows`: so a whole program grows, with an environment or without one.
-/

namespace Nif

/-- A later state of an environment: objects were only added. -/
structure Environment.GrowsTo (before after : Environment) : Prop where
  id : after.id = before.id
  heap : before.heap.toList <+: after.heap.toList

/-- A later state of an environment and of the atom table. -/
structure Frame.GrowsTo (before after : Frame) : Prop where
  env : before.env.GrowsTo after.env
  names : before.host.atoms.names <+: after.host.atoms.names

namespace Environment.GrowsTo

variable {first second third : Environment}

theorem refl (env : Environment) : env.GrowsTo env := ⟨rfl, List.prefix_rfl⟩

theorem trans (early : first.GrowsTo second) (late : second.GrowsTo third) : first.GrowsTo third :=
  ⟨late.id.trans early.id, early.heap.trans late.heap⟩

theorem size_le (grown : first.GrowsTo second) : first.heap.size ≤ second.heap.size := by
  simpa using grown.heap.length_le

/-- A slot keeps its object. -/
theorem slot (grown : first.GrowsTo second) {place : Nat} {cell : Cell}
    (stored : first.heap[place]? = some cell) : second.heap[place]? = some cell := by
  rw [← Array.getElem?_toList] at stored ⊢
  obtain ⟨more, same⟩ := grown.heap
  rw [← same, List.getElem?_append_left (List.getElem?_eq_some_iff.mp stored).1]
  exact stored

/-- A reference keeps its object. -/
theorem cell? (grown : first.GrowsTo second) {word : Word} {cell : Cell}
    (stored : first.cell? word = some cell) : second.cell? word = some cell := by
  unfold Environment.cell? at stored ⊢
  cases reference : word.boxed? with
  | none =>
    rw [reference] at stored
    cases stored
  | some place =>
    rw [reference] at stored
    simp only [grown.id] at stored ⊢
    split at stored
    · rename_i own
      rw [if_pos own]
      exact grown.slot stored
    · cases stored

end Environment.GrowsTo

namespace Frame.GrowsTo

variable {first second third : Frame}

theorem refl (frame : Frame) : frame.GrowsTo frame := ⟨.refl _, List.prefix_rfl⟩

theorem trans (early : first.GrowsTo second) (late : second.GrowsTo third) : first.GrowsTo third :=
  ⟨early.env.trans late.env, early.names.trans late.names⟩

/-- Reports, exceptions and counts are no part of growth. -/
theorem of_eq (id : second.env.id = first.env.id) (heap : second.env.heap = first.env.heap)
    (names : second.host.atoms.names = first.host.atoms.names) : first.GrowsTo second := by
  refine ⟨⟨id, ?_⟩, ?_⟩
  · rw [heap]
  · rw [names]

end Frame.GrowsTo

/-! ### The builders -/

namespace Frame

theorem push_grows (frame : Frame) (cell : Cell) : frame.GrowsTo (frame.push cell).2 := by
  simp only [push]
  split
  · refine ⟨⟨rfl, ?_⟩, List.prefix_rfl⟩
    simp only [Array.toList_push]
    exact List.prefix_append _ _
  · exact .of_eq rfl rfl rfl

theorem raise_grows (frame : Frame) : frame.GrowsTo frame.raise.2 := by
  unfold raise
  split
  · rename_i entered
    exact ⟨⟨rfl, List.prefix_rfl⟩, Host.prefix_of_intern entered⟩
  · exact .of_eq rfl rfl rfl

theorem clearException_grows (frame : Frame) : frame.GrowsTo frame.clearException.2 :=
  .of_eq rfl rfl rfl

theorem makeInt_grows (frame : Frame) (value : Int64) : frame.GrowsTo (frame.makeInt value).2 := by
  unfold makeInt
  split
  · exact .refl frame
  · exact push_grows frame _

theorem makeAtom_grows (frame : Frame) (name : Bytes) : frame.GrowsTo (frame.makeAtom name).2 := by
  unfold makeAtom
  split
  · rename_i entered
    exact ⟨⟨rfl, List.prefix_rfl⟩, Host.prefix_of_intern entered⟩
  · exact (GrowsTo.of_eq rfl rfl rfl : frame.GrowsTo (frame.note _)).trans (raise_grows _)

theorem makeImproper_grows (frame : Frame) (elements : List Word) (tail : Word) :
    frame.GrowsTo (frame.makeImproper elements tail).2 := by
  induction elements with
  | nil => exact .refl frame
  | cons head rest ih => exact ih.trans (push_grows _ _)

theorem makeInts_grows (frame : Frame) (values : List Int64) :
    frame.GrowsTo (frame.makeInts values).2 := by
  induction values generalizing frame with
  | nil => exact .refl frame
  | cons value rest ih => exact (makeInt_grows frame value).trans (ih _)

theorem makeCharlist_grows (frame : Frame) (text : String) :
    frame.GrowsTo (frame.makeCharlist text).2 :=
  (makeInts_grows frame _).trans (makeImproper_grows _ _ _)

end Frame

mutual

/-- Building a term grows the frame. -/
theorem Draft.build_grows (frame : Frame) (draft : Draft) :
    frame.GrowsTo (Draft.build frame draft).2 :=
  match draft with
  | .existing _ => .refl frame
  | .int value => frame.makeInt_grows value
  | .float _ => frame.push_grows _
  | .atomText name => frame.makeAtom_grows (utf8Bytes name)
  | .atom name => frame.makeAtom_grows name
  | .tuple elements => (Draft.buildAll_grows frame elements).trans (Frame.push_grows _ _)
  | .list elements => (Draft.buildAll_grows frame elements).trans (Frame.makeImproper_grows _ _ _)
  | .improper elements tail =>
    ((Draft.buildAll_grows frame elements).trans (Draft.build_grows _ tail)).trans
      (Frame.makeImproper_grows _ _ _)
  | .charlist text => frame.makeCharlist_grows text
  | .binary _ => frame.push_grows _

/-- Building several terms grows the frame. -/
theorem Draft.buildAll_grows (frame : Frame) (drafts : List Draft) :
    frame.GrowsTo (Draft.buildAll frame drafts).2 :=
  match drafts with
  | [] => .refl frame
  | draft :: rest => (Draft.build_grows frame draft).trans (Draft.buildAll_grows _ rest)

end

/-! ### Requests and programs -/

/-- The buffers of native code are no part of the atom table. -/
theorem Host.allocBinary_atoms (host : Host) (size : Nat) (bin : Option Descriptor) :
    (host.allocBinary size bin).2.atoms = host.atoms := by
  unfold allocBinary
  split
  · rfl
  · split <;> rfl

theorem Host.releaseBinary_atoms (host : Host) (bin : Option Descriptor) :
    (host.releaseBinary bin).2.atoms = host.atoms := by
  unfold releaseBinary
  split <;> rfl

namespace Request

theorem makeTupleFrom_grows (frame : Frame) (elements : Option (List Word)) (count : UInt32) :
    frame.GrowsTo (makeTupleFrom frame elements count).2 := by
  unfold makeTupleFrom
  split
  · exact frame.push_grows _
  · split
    · exact frame.push_grows _
    · exact frame.raise_grows

theorem makeBinaryFrom_grows (frame : Frame) (bin : Option Descriptor) :
    frame.GrowsTo (makeBinaryFrom frame bin).2 := by
  unfold makeBinaryFrom
  split
  · exact frame.raise_grows
  · exact frame.push_grows _
  · have reclaimed : frame.GrowsTo { frame with host := frame.host.reclaim } := .of_eq rfl rfl rfl
    exact reclaimed.trans (Frame.push_grows _ _)

/-- **Every symbol only adds.** -/
theorem perform_grows (request : Request) (frame : Frame) :
    frame.GrowsTo (request.perform frame).2 := by
  cases request with
  | makeBadarg => exact frame.raise_grows
  | makeInt value => exact frame.makeInt_grows _
  | makeLong value => exact frame.makeInt_grows _
  | makeDouble value =>
    simp only [perform]
    split
    · exact frame.push_grows _
    · exact frame.raise_grows
  | makeAtom name =>
    cases name with
    | none => exact frame.raise_grows
    | some name => exact frame.makeAtom_grows _
  | makeTuple elements count => exact makeTupleFrom_grows frame elements count
  | makeBinary bin => exact makeBinaryFrom_grows frame bin
  | allocBinary size bin =>
    exact .of_eq rfl rfl (congrArg _ (Host.allocBinary_atoms frame.host size bin))
  | releaseBinary bin =>
    exact .of_eq rfl rfl (congrArg _ (Host.releaseBinary_atoms frame.host bin))
  | _ => exact .of_eq rfl rfl rfl

/-- Without an environment no symbol reaches the atom table. -/
theorem refuse_atoms (request : Request) (host : Host) :
    (request.refuse host).2.atoms = host.atoms := by
  cases request with
  | allocBinary size bin => exact Host.allocBinary_atoms host size bin
  | releaseBinary bin => exact Host.releaseBinary_atoms host bin
  | getAtomLength word out encoding => simp only [refuse]; split <;> rfl
  | getAtom word buffer encoding => simp only [refuse]; split <;> rfl
  | getString word buffer encoding => simp only [refuse]; split <;> rfl
  | _ => rfl

end Request

namespace Program

variable {α σ : Type}

/-- **What every answer preserves, a whole program preserves.** -/
theorem runWith_of_steps {R : σ → σ → Prop} (refl : ∀ state, R state state)
    (trans : ∀ {first second third}, R first second → R second third → R first third)
    {answer : (request : Request) → σ → request.Reply × σ}
    (step : ∀ request state, R state (answer request state).2) (program : Program α) (state : σ) :
    R state (program.runWith answer state).2 := by
  induction program generalizing state with
  | done result => exact refl state
  | call request next ih => exact trans (step request state) (ih _ _)

/-- **Every native program only adds.** -/
theorem run_grows (program : Program α) (frame : Frame) : frame.GrowsTo (program.run frame).2 :=
  runWith_of_steps Frame.GrowsTo.refl Frame.GrowsTo.trans Request.perform_grows program frame

theorem runDetached_atoms (program : Program α) (host : Host) :
    (program.runDetached host).2.atoms = host.atoms :=
  runWith_of_steps (R := fun before after : Host => after.atoms = before.atoms) (fun _ => rfl)
    (fun early late => late.trans early) Request.refuse_atoms program host

end Program

end Nif
