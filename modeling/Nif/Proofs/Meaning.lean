import Mathlib.Data.List.Forall2
import Nif.Proofs.Growth

/-!
**What a word means, kind by kind, and that a meaning stays.**

* `decodeWithin_of_isSmall`, `decodeWithin_of_atom?`, `decodeWithin_of_cell?`, `decodeWithin_nil`:
  the meaning of a word of each kind; `Environment.Kind` says that there is no further kind with a
  meaning.
* `Value.Whole`: a meaning in which no word stands that means nothing.
* `decodeWithin_mono`: a whole meaning found within some depth is found within any greater depth,
  and in every later state.
* `Frame.decode?_grows`: so a word keeps its whole meaning whatever is made afterwards.
-/

namespace Nif

/-- Reading a list gives the readings of its elements, one by one. -/
theorem mapM_eq_some_iff {α β : Type} {read : α → Option β} {items : List α} {results : List β} :
    items.mapM read = some results ↔
      List.Forall₂ (fun item result => read item = some result) items results := by
  induction items generalizing results with
  | nil => simp [eq_comm]
  | cons item rest ih =>
    rw [List.mapM_cons]
    cases results with
    | nil => simp [Option.bind_eq_some_iff]
    | cons result others => simp [Option.bind_eq_some_iff, ih]

/-- No word in the meaning means nothing. -/
inductive Value.Whole : Value → Prop
  | int (value : Int64) : Whole (.int value)
  | float (value : Float) : Whole (.float value)
  | atom (name : String) : Whole (.atom name)
  | tuple {elements : List Value} (parts : ∀ part ∈ elements, Whole part) : Whole (.tuple elements)
  | list {elements : List Value} (parts : ∀ part ∈ elements, Whole part) : Whole (.list elements)
  | binary (bytes : Bytes) : Whole (.binary bytes)

theorem Spine.cons_eq_proper_iff {head : Word} {spine : Spine} {elements : List Word} :
    spine.cons head = .proper elements ↔
      ∃ rest, spine = .proper rest ∧ elements = head :: rest := by
  cases spine <;> simp [Spine.cons, eq_comm]

namespace Environment

/-! ### The kinds of words -/

section Kinds

variable {env : Environment} {atoms : AtomTable} {word : Word} {cell : Cell}

/-- What a word is in an environment and a table of atoms. -/
inductive Kind (env : Environment) (atoms : AtomTable) (word : Word) : Prop
  | small (tag : word.isSmall = true)
  | atom (name : Bytes) (named : atoms.atom? word = some name)
  | object (cell : Cell) (stored : env.cell? word = some cell)
  | empty (nil : word = Word.nil)
  | nothing (tag : word.isSmall = false) (unnamed : atoms.atom? word = none)
      (missing : env.cell? word = none) (filled : word ≠ Word.nil)

theorem kind (env : Environment) (atoms : AtomTable) (word : Word) : env.Kind atoms word := by
  by_cases tag : word.isSmall = true
  · exact .small tag
  cases named : atoms.atom? word with
  | some name => exact .atom name named
  | none =>
    cases stored : env.cell? word with
    | some cell => exact .object cell stored
    | none =>
      by_cases nil : word = Word.nil
      · exact .empty nil
      · exact .nothing (Bool.eq_false_iff.mpr tag) named stored nil

/-- Where the object behind a word is stored. -/
theorem cell?_eq_some_iff {cell : Cell} :
    env.cell? word = some cell ↔
      ∃ slot, word.boxed? = some (env.id, slot) ∧ env.heap[slot]? = some cell := by
  unfold cell?
  constructor
  · intro stored
    split at stored
    · rename_i id slot reference
      split at stored
      · rename_i own
        exact ⟨slot, own ▸ reference, stored⟩
      · cases stored
    · cases stored
  · rintro ⟨slot, reference, stored⟩
    rw [reference]
    exact (if_pos rfl).trans stored

theorem boxed?_of_cell? (stored : env.cell? word = some cell) :
    ∃ place, word.boxed? = some place := by
  obtain ⟨slot, reference, -⟩ := cell?_eq_some_iff.mp stored
  exact ⟨_, reference⟩

theorem isSmall_of_cell? (stored : env.cell? word = some cell) : word.isSmall = false := by
  obtain ⟨place, reference⟩ := boxed?_of_cell? stored
  exact Word.isSmall_of_boxed? reference

theorem atom?_of_cell? (stored : env.cell? word = some cell) : atoms.atom? word = none := by
  obtain ⟨place, reference⟩ := boxed?_of_cell? stored
  rw [AtomTable.atom?, Word.atomIndex?_of_boxed? reference, Option.bind_none]

theorem ne_nil_of_cell? (stored : env.cell? word = some cell) : word ≠ Word.nil := by
  obtain ⟨place, reference⟩ := boxed?_of_cell? stored
  exact Word.ne_nil_of_boxed? reference

theorem cell?_of_atom? {name : Bytes} (named : atoms.atom? word = some name) :
    env.cell? word = none := by
  obtain ⟨index, tag, -⟩ := Option.bind_eq_some_iff.mp named
  rw [cell?, Word.boxed?_of_atomIndex? tag]

theorem isSmall_of_atom? {name : Bytes} (named : atoms.atom? word = some name) :
    word.isSmall = false := by
  obtain ⟨index, tag, -⟩ := Option.bind_eq_some_iff.mp named
  exact Word.isSmall_of_atomIndex? tag

theorem cell?_nil : env.cell? Word.nil = none := by
  rw [cell?, Word.boxed?_nil]

theorem atom?_nil : atoms.atom? Word.nil = none := by
  rw [AtomTable.atom?, Word.atomIndex?_nil, Option.bind_none]

end Kinds

/-! ### The tails of a list -/

section Tails

variable {env later : Environment} {word : Word} {elements : List Word}

theorem spineWithin_nil (bound : Nat) : env.spineWithin (bound + 1) Word.nil = .proper [] := by
  rw [spineWithin, if_pos rfl]

theorem spineWithin_cons {head tail : Word} (stored : env.cell? word = some (.cons head tail))
    (bound : Nat) :
    env.spineWithin (bound + 1) word = (env.spineWithin bound tail).cons head := by
  rw [spineWithin, if_neg (ne_nil_of_cell? stored), stored]

theorem spineWithin_other (filled : word ≠ Word.nil)
    (other : ∀ head tail, env.cell? word ≠ some (.cons head tail)) (bound : Nat) :
    env.spineWithin (bound + 1) word = .improper := by
  rw [spineWithin, if_neg filled]
  split
  · rename_i head tail stored
    exact absurd stored (other head tail)
  · rfl

/-- **A list that ends within some bound ends the same way within any greater one, and ever after.**
-/
theorem spineWithin_mono (grown : env.GrowsTo later) {bound further : Nat} (more : bound ≤ further)
    (ends : env.spineWithin bound word = .proper elements) :
    later.spineWithin further word = .proper elements := by
  induction bound generalizing word elements further with
  | zero => cases ends
  | succ bound ih =>
    obtain ⟨further, rfl⟩ : ∃ rest, further = rest + 1 := ⟨further - 1, by omega⟩
    by_cases empty : word = Word.nil
    · subst empty
      rw [spineWithin_nil] at ends ⊢
      exact ends
    · by_cases cons : ∃ head tail, env.cell? word = some (.cons head tail)
      · obtain ⟨head, tail, stored⟩ := cons
        rw [spineWithin_cons stored, Spine.cons_eq_proper_iff] at ends
        obtain ⟨rest, tailEnds, rfl⟩ := ends
        rw [spineWithin_cons (grown.cell? stored), ih (by omega) tailEnds]
        rfl
      · rw [spineWithin_other empty fun head tail stored => cons ⟨head, tail, stored⟩] at ends
        cases ends

theorem spine_mono (grown : env.GrowsTo later) (ends : env.spine word = .proper elements) :
    later.spine word = .proper elements :=
  spineWithin_mono grown (Nat.succ_le_succ grown.size_le) ends

/-- A word that is neither a list cell nor the empty list starts no list. -/
theorem spine_of_cell? {cell : Cell} (stored : env.cell? word = some cell)
    (other : ∀ head tail, cell ≠ .cons head tail) : env.spine word = .improper := by
  refine spineWithin_other (ne_nil_of_cell? stored) (fun head tail same => ?_) _
  rw [stored] at same
  exact other head tail (Option.some.inj same)

end Tails

/-! ### The meaning of each kind -/

section Meaning

variable {env : Environment} {atoms : AtomTable} {word : Word}

theorem decodeWithin_of_isSmall (tag : word.isSmall = true) (depth : Nat) :
    env.decodeWithin atoms (depth + 1) word = some (.int word.payload) := by
  simp [decodeWithin, int?, tag]

theorem decodeWithin_of_atom? {name : Bytes} (named : atoms.atom? word = some name) (depth : Nat) :
    env.decodeWithin atoms (depth + 1) word = some (.atom name.latin1) := by
  have missing : env.cell? word = none := cell?_of_atom? named
  simp [decodeWithin, int?, isSmall_of_atom? named, missing, named]

/-- The meaning of a reference, from the object behind it. -/
theorem decodeWithin_of_cell? {cell : Cell} (stored : env.cell? word = some cell) (depth : Nat) :
    env.decodeWithin atoms (depth + 1) word =
      match cell with
      | .integer value => some (.int value)
      | .float value => some (.float value)
      | .tuple elements => (elements.mapM (env.decodeWithin atoms depth)).map .tuple
      | .cons _ _ =>
        match env.spine word with
        | .endless => none
        | .proper elements => (elements.mapM (env.decodeWithin atoms depth)).map .list
        | .improper => some (.invalid word)
      | .binary bytes => some (.binary bytes) := by
  have tag := isSmall_of_cell? stored
  have unnamed : atoms.atom? word = none := atom?_of_cell? stored
  cases cell with
  | integer value => simp [decodeWithin, int?, tag, stored]
  | float value => simp [decodeWithin, int?, float?, tag, unnamed, stored]
  | tuple elements => simp [decodeWithin, int?, float?, tuple?, tag, unnamed, stored]
  | cons head tail =>
    cases ends : env.spine word <;>
      simp [decodeWithin, int?, float?, tuple?, binary?, tag, unnamed, stored, ends]
  | binary bytes =>
    have broken := spine_of_cell? stored (by simp)
    simp [decodeWithin, int?, float?, tuple?, binary?, tag, unnamed, stored, broken]

theorem decodeWithin_list {head tail : Word} {elements : List Word}
    (stored : env.cell? word = some (.cons head tail)) (ends : env.spine word = .proper elements)
    (depth : Nat) :
    env.decodeWithin atoms (depth + 1) word =
      (elements.mapM (env.decodeWithin atoms depth)).map .list := by
  rw [decodeWithin_of_cell? stored, ends]

theorem decodeWithin_nil (depth : Nat) :
    env.decodeWithin atoms (depth + 1) Word.nil = some (.list []) := by
  have ends : env.spine Word.nil = .proper [] := spineWithin_nil _
  simp [decodeWithin, int?, float?, tuple?, Word.isSmall_nil, cell?_nil, atom?_nil, ends]

theorem decodeWithin_nothing (tag : word.isSmall = false) (unnamed : atoms.atom? word = none)
    (missing : env.cell? word = none) (filled : word ≠ Word.nil) (depth : Nat) :
    env.decodeWithin atoms (depth + 1) word = some (.invalid word) := by
  have broken : env.spine word = .improper := by
    refine spineWithin_other filled (fun head tail stored => ?_) _
    rw [missing] at stored
    cases stored
  simp [decodeWithin, int?, float?, tuple?, binary?, tag, unnamed, missing, broken]

/-- **A whole meaning stays**, at any greater depth and in every later state. -/
theorem decodeWithin_mono {later : Environment} {more : AtomTable} (grown : env.GrowsTo later)
    (names : atoms.names <+: more.names) {depth deeper : Nat} (le : depth ≤ deeper) {value : Value}
    (decoded : env.decodeWithin atoms depth word = some value) (whole : value.Whole) :
    later.decodeWithin more deeper word = some value := by
  induction depth generalizing word value deeper with
  | zero => cases decoded
  | succ depth ih =>
    obtain ⟨deeper, rfl⟩ : ∃ rest, deeper = rest + 1 := ⟨deeper - 1, by omega⟩
    -- The parts of a whole meaning are whole, so the induction hypothesis carries each of them
    -- over.
    have parts : ∀ {elements : List Word} {values : List Value},
        elements.mapM (env.decodeWithin atoms depth) = some values →
        (∀ part ∈ values, part.Whole) →
        elements.mapM (later.decodeWithin more deeper) = some values := by
      intro elements values read wholes
      rw [mapM_eq_some_iff] at read ⊢
      induction read with
      | nil => exact .nil
      | cons head _ rest =>
        exact .cons (ih (by omega) head (wholes _ List.mem_cons_self))
          (rest fun part member => wholes part (List.mem_cons_of_mem _ member))
    cases env.kind atoms word with
    | small tag =>
      rw [decodeWithin_of_isSmall tag] at decoded ⊢
      exact decoded
    | atom name named =>
      rw [decodeWithin_of_atom? named] at decoded
      rw [decodeWithin_of_atom? (AtomTable.atom?_of_prefix names named)]
      exact decoded
    | empty nil =>
      subst nil
      rw [decodeWithin_nil] at decoded ⊢
      exact decoded
    | nothing tag unnamed missing filled =>
      rw [decodeWithin_nothing tag unnamed missing filled] at decoded
      obtain rfl := Option.some.inj decoded
      cases whole
    | object cell stored =>
      rw [decodeWithin_of_cell? stored] at decoded
      rw [decodeWithin_of_cell? (grown.cell? stored)]
      cases cell with
      | integer value => exact decoded
      | float value => exact decoded
      | binary bytes => exact decoded
      | tuple elements =>
        obtain ⟨values, read, rfl⟩ := Option.map_eq_some_iff.mp decoded
        cases whole with
        | tuple wholes => exact Option.map_eq_some_iff.mpr ⟨values, parts read wholes, rfl⟩
      | cons head tail =>
        cases ends : env.spine word with
        | endless =>
          rw [ends] at decoded
          cases decoded
        | improper =>
          rw [ends] at decoded
          obtain rfl := Option.some.inj decoded
          cases whole
        | proper elements =>
          rw [ends] at decoded
          rw [spine_mono grown ends]
          obtain ⟨values, read, rfl⟩ := Option.map_eq_some_iff.mp decoded
          cases whole with
          | list wholes => exact Option.map_eq_some_iff.mpr ⟨values, parts read wholes, rfl⟩

end Meaning

end Environment

theorem Frame.decode?_nil (frame : Frame) : frame.decode? Word.nil = some (.list []) := by
  rw [Frame.decode?, Environment.decode?, Environment.decodeWithin_nil]

/-- **A word keeps its whole meaning, whatever is made afterwards.** -/
theorem Frame.decode?_grows {before after : Frame} (grown : before.GrowsTo after) {word : Word}
    {value : Value} (decoded : before.decode? word = some value) (whole : value.Whole) :
    after.decode? word = some value :=
  Environment.decodeWithin_mono grown.env grown.names
    (Nat.succ_le_succ grown.env.size_le) decoded whole

end Nif
