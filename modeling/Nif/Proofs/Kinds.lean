import Nif.Example.Kind
import Nif.Proofs.Makers
import Nif.Proofs.Reading

/-!
**The kind of a term is the form of its meaning.**

* `Example.Kind.ofValue`: the kind of a value.
* `Example.Kind.run_probe`: probing a word finds the kind of the value that the word shows.
* `Example.run_describe`: given one word, `describe` makes the pair of `ok` and that kind; given any
  other number of words, it wants `badarg` raised.
-/

namespace Nif.Example

namespace Kind

/-- The kind of a value: tuples, and words that mean nothing, have none of their own. -/
def ofValue : Value → Kind
  | .int _ => integer
  | .float _ => float
  | .atom _ => atom
  | .binary _ => binary
  | .list _ => list
  | .tuple _ | .invalid _ => other

theorem isAtomName_name (kind : Kind) : IsAtomName kind.name := by
  cases kind <;> decide

variable {frame : Frame} {word : Word} {value : Value}

/-- One reading that touches nothing: it names the kind, or leaves that to what comes next. -/
theorem run_next {α : Type} {reading : Attempt α} {found : Option α} {fault : Fault} {kind : Kind}
    {others : Program Kind} (outcome : reading.outcome frame = (expect found fault, frame)) :
    Program.run (do if ← succeeds reading then return kind else others) frame =
      if found.isSome then (kind, frame) else others.run frame := by
  have success : (succeeds reading).run frame = (found.isSome, frame) := by
    rw [Attempt.outcome] at outcome
    rw [succeeds, Program.run_bind, outcome]
    cases found <;> rfl
  rw [Program.run_bind, success]
  cases found <;> rfl

/-- **Probing finds the kind of what the word shows, and touches nothing.** -/
theorem run_probe (shows : frame.Shows word value) :
    (probe word).run frame = (ofValue value, frame) := by
  -- The name and the elements themselves are not read, only how many bytes or elements there are.
  have name : ((frame.atom? word).map List.length).isSome = value.atom?.isSome := by
    rw [← shows.atom, Option.isSome_map, Option.isSome_map]
    rfl
  have elements : ((frame.env.list? word).map List.length).isSome = value.list?.isSome := by
    rw [shows.length, Option.isSome_map]
  unfold probe
  rw [run_next (Read.outcome_long shows), run_next (Read.outcome_double shows),
    run_next Read.outcome_atomLength, run_next (Read.outcome_binary shows),
    run_next Read.outcome_listLength, name, elements]
  cases value <;> rfl

end Kind

variable {frame : Frame} {word : Word} {value : Value}

/-- What `describe` makes for a value: the pair of `ok` and the kind. -/
def description (value : Value) : Value := .tuple [.atom "ok", .atom (Kind.ofValue value).name]

/-- The names of the atoms in a description. -/
def descriptionNames (value : Value) : Finset Bytes :=
  {Value.nameBytes (Kind.ofValue value).name} ∪ {Value.nameBytes "ok"}

/-- **Given one word, `describe` makes the description of what it shows.** -/
theorem run_describe (shows : frame.Shows word value)
    (room : frame.Room 1 (descriptionNames value)) :
    ∃ term after, (describe [word]).run frame = (.returned (.term term), after) ∧
      frame.Makes (term, after) (description value) 1 (descriptionNames value) := by
  have valid := Kind.isAtomName_name (Kind.ofValue value)
  have kind := Frame.makeAtom_makes_of_isAtomName valid
    (room.mono (Nat.zero_le _) Finset.subset_union_left)
  rcases named : frame.makeAtom (Value.nameBytes (Kind.ofValue value).name) with ⟨name, middle⟩
  rw [named] at kind
  have left := kind.built.room (room.mono (Nat.zero_add 1).le subset_rfl)
  have pair := Make.ok_makes kind.meaning (.atom _) left
  rcases paired : (Make.ok name).run middle with ⟨term, after⟩
  rw [paired] at pair
  refine ⟨term, after, ?_, kind.built.trans pair.built, pair.proper, pair.meaning⟩
  rw [describe, Program.run_bind, Kind.run_probe shows]
  dsimp only
  rw [Program.run_bind, Make.run_atom valid, named]
  dsimp only
  rw [Program.run_bind, paired]
  rfl

/-- Given any other number of words, it makes nothing. -/
theorem run_describe_of_length_ne_one {words : List Word} (count : words.length ≠ 1)
    (frame : Frame) :
    (describe words).run frame = (.returned .badarg, frame) := by
  match words, count with
  | [], _ => rfl
  | [_], count => exact absurd rfl count
  | _ :: _ :: _, _ => rfl

end Nif.Example
