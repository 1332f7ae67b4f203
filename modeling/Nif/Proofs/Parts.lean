import Nif.Proofs.Inspection

/-!
**The parts of a word, and what its meaning depends on.**

* `Environment.part?`, `Value.part?`: what stands at the end of a path into a word, and into a
  meaning.
* `Environment.decodeWithin_part?`: the part of a meaning is the meaning of the part.
* `Environment.decode?_congr`: a meaning depends on the atom table only through the atoms that the
  word reaches.
-/

namespace Nif

/-! ### The parts of a word and of its meaning -/

/-- The elements of a tuple or a list. -/
def Value.parts : Value → List Value
  | .tuple elements | .list elements => elements
  | _ => []

/-- The value at the end of a path, which gives a position on each level. -/
def Value.part? : List Nat → Value → Option Value
  | [], value => some value
  | position :: path, value => value.parts[position]?.bind (Value.part? path)

namespace Environment

/-- The words that stand in a tuple or a list. -/
def parts (env : Environment) (word : Word) : List Word :=
  match env.tuple? word with
  | some elements => elements
  | none => (env.list? word).getD []

/-- The word at the end of a path, which gives a position on each level. -/
def part? (env : Environment) : List Nat → Word → Option Word
  | [], word => some word
  | position :: path, word => (env.parts word)[position]?.bind (env.part? path)

section Parts

variable {env : Environment} {atoms : AtomTable} {word : Word}

theorem tuple?_of_cell? {cell : Cell} (stored : env.cell? word = some cell)
    (other : ∀ elements, cell ≠ .tuple elements) : env.tuple? word = none := by
  rw [tuple?, stored]
  split
  · rename_i elements same
    exact absurd (Option.some.inj same) (other elements)
  · rfl

/-- A word without an object holds no words. -/
theorem parts_of_missing (missing : env.cell? word = none) : env.parts word = [] := by
  have single : env.tuple? word = none := by rw [tuple?, missing]
  rw [parts, single]
  by_cases nil : word = Word.nil
  · subst nil
    have ends : env.spine Word.nil = .proper [] := spineWithin_nil _
    rw [list?, ends]
    rfl
  · have broken : env.spine word = .improper :=
      spineWithin_other nil (fun head tail stored => by rw [missing] at stored; cases stored) _
    rw [(list?_of_improper broken).1]
    rfl

/-- **The parts of a meaning are the meanings of the parts.** -/
theorem decodeWithin_parts {depth : Nat} {value : Value}
    (decoded : env.decodeWithin atoms (depth + 1) word = some value) :
    List.Forall₂ (fun part meaning => env.decodeWithin atoms depth part = some meaning)
      (env.parts word) value.parts := by
  -- Only tuples and lists have parts, on both sides.
  have bare : env.cell? word = none → value.parts = [] →
      List.Forall₂ (fun part meaning => env.decodeWithin atoms depth part = some meaning)
        (env.parts word) value.parts := by
    intro missing none
    rw [parts_of_missing missing, none]
    exact .nil
  cases env.kind atoms word with
  | small tag =>
    rw [decodeWithin_of_isSmall tag] at decoded
    cases decoded
    refine bare (Option.eq_none_iff_forall_ne_some.mpr fun cell stored => ?_) rfl
    rw [isSmall_of_cell? stored] at tag
    cases tag
  | atom name named =>
    rw [decodeWithin_of_atom? named] at decoded
    cases decoded
    exact bare (cell?_of_atom? named) rfl
  | empty nil =>
    subst nil
    rw [decodeWithin_nil] at decoded
    cases decoded
    exact bare cell?_nil rfl
  | nothing tag unnamed missing filled =>
    rw [decodeWithin_nothing tag unnamed missing filled] at decoded
    cases decoded
    exact bare missing rfl
  | object cell stored =>
    rw [decodeWithin_of_cell? stored] at decoded
    -- An object that is neither a tuple nor a list cell.
    have leaf : (∀ elements, cell ≠ .tuple elements) → env.spine word = .improper →
        env.parts word = [] := by
      intro single broken
      rw [parts, tuple?_of_cell? stored single, (list?_of_improper broken).1]
      rfl
    cases cell with
    | integer _ | float _ | binary _ =>
      cases decoded
      rw [leaf (by simp) (spine_of_cell? stored (by simp))]
      exact .nil
    | tuple elements =>
      obtain ⟨values, read, rfl⟩ := Option.map_eq_some_iff.mp decoded
      have single : env.tuple? word = some elements := by rw [tuple?, stored]
      rw [parts, single]
      exact mapM_eq_some_iff.mp read
    | cons head tail =>
      cases ends : env.spine word with
      | endless =>
        rw [ends] at decoded
        cases decoded
      | improper =>
        rw [ends] at decoded
        cases decoded
        rw [leaf (by simp) ends]
        exact .nil
      | proper elements =>
        rw [ends] at decoded
        obtain ⟨values, read, rfl⟩ := Option.map_eq_some_iff.mp decoded
        rw [parts, tuple?_of_cell? stored (by simp), list?, ends]
        exact mapM_eq_some_iff.mp read

/-- The part of a meaning at the end of a path is the meaning of the part there. -/
theorem decodeWithin_part? {path : List Nat} {depth : Nat} {value : Value} {part : Word}
    (decoded : env.decodeWithin atoms depth word = some value)
    (reached : env.part? path word = some part) :
    ∃ meaning level, value.part? path = some meaning ∧
      env.decodeWithin atoms (level + 1) part = some meaning := by
  induction path generalizing word depth value with
  | nil =>
    cases reached
    cases depth with
    | zero => cases decoded
    | succ depth => exact ⟨value, depth, rfl, decoded⟩
  | cons position path ih =>
    cases depth with
    | zero => cases decoded
    | succ depth =>
      obtain ⟨next, stands, further⟩ := Option.bind_eq_some_iff.mp reached
      have parts := decodeWithin_parts decoded
      obtain ⟨inside, rfl⟩ := List.getElem?_eq_some_iff.mp stands
      have within : position < value.parts.length := parts.length_eq ▸ inside
      have means := parts.get inside within
      obtain ⟨meaning, level, found, final⟩ := ih means further
      refine ⟨meaning, level, ?_, final⟩
      rw [Value.part?, List.getElem?_eq_getElem within, Option.bind_some]
      exact found

end Parts

/-! ### Meanings and the atom table -/

/-- Reading a list depends on the readings of its elements alone. -/
theorem mapM_congr {read again : Word → Option Value} {words : List Word}
    (same : ∀ word ∈ words, read word = again word) : words.mapM read = words.mapM again := by
  induction words with
  | nil => rfl
  | cons word rest ih =>
    rw [List.mapM_cons, List.mapM_cons, same word List.mem_cons_self,
      ih fun other member => same other (List.mem_cons_of_mem _ member)]

/-- **A meaning depends on the atom table only through the atoms that the word reaches.** -/
theorem decodeWithin_congr {env : Environment} {atoms others : AtomTable} {depth : Nat}
    {word : Word}
    (same : ∀ path part, env.part? path word = some part → others.atom? part = atoms.atom? part) :
    env.decodeWithin others depth word = env.decodeWithin atoms depth word := by
  induction depth generalizing word with
  | zero => rfl
  | succ depth ih =>
    have each : ∀ elements, env.parts word = elements →
        elements.mapM (env.decodeWithin others depth) =
          elements.mapM (env.decodeWithin atoms depth) := by
      rintro elements rfl
      refine mapM_congr fun part member => ih fun path inner reached => ?_
      obtain ⟨position, stands⟩ := List.mem_iff_getElem?.mp member
      exact same (position :: path) inner (by rw [part?, stands, Option.bind_some, reached])
    simp only [decodeWithin, same [] word rfl]
    cases int : env.int? word with
    | some value => rfl
    | none =>
      cases atoms.atom? word with
      | some name => rfl
      | none =>
        cases env.float? word with
        | some value => rfl
        | none =>
          cases single : env.tuple? word with
          | some elements =>
            simp only [each elements (by rw [parts, single])]
          | none =>
            cases ends : env.spine word with
            | proper elements =>
              simp only [each elements (by rw [parts, single, list?, ends]; rfl)]
            | improper => rfl
            | endless => rfl

/-- Every atom that the word reaches stands within the first names of the table. -/
def AtomsWithin (env : Environment) (size : Nat) (word : Word) : Prop :=
  ∀ path part index, env.part? path word = some part → part.atomIndex? = some index → index < size

/-- **New names change no meaning**, except where a word reaches an atom that was not in the table.
-/
theorem decode?_congr {env : Environment} {atoms more : AtomTable} {word : Word}
    (known : env.AtomsWithin atoms.size word) (names : atoms.names <+: more.names) :
    env.decode? more word = env.decode? atoms word := by
  refine decodeWithin_congr fun path part reached => ?_
  rw [AtomTable.atom?, AtomTable.atom?]
  cases tag : part.atomIndex? with
  | none => rfl
  | some index =>
    have inside : index < atoms.names.length := known path part index reached tag
    obtain ⟨added, appended⟩ := names
    rw [Option.bind_some, Option.bind_some, AtomTable.name?, AtomTable.name?, ← appended,
      List.getElem?_append_left inside]

end Environment

end Nif
