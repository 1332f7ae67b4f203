import Nif.Proofs.Meaning

/-!
**What the builders make, as long as there is room.**

* `Frame.Room`: room for a number of objects and a set of atom names; `Frame.Spare`: room for one of
  each.
* `Frame.Built`: exactly so many objects were added and no names but these; the pending exception
  and the count of buffers are as before.
* `Frame.Makes`: in addition, the word that came out is a term with a known meaning.
* `Frame.makeInt_makes`, `makeFloat_makes`, `makeAtom_makes`, `makeTuple_makes`, `makeList_makes`,
  `makeBinary_makes`: one rule for each builder.
* `Value.build_makes`: building a whole value bottom-up makes a word that means this value.
-/

namespace Nif

namespace Frame

/-! ### Room, and what building does -/

/-- Room for so many more objects, and for these names. -/
structure Room (frame : Frame) (cells : Nat) (names : Finset Bytes) : Prop where
  slots : frame.env.heap.size + cells ≤ Interface.slotLimit
  atoms : frame.host.atoms.Admits names

/-- There is a slot left on the heap and a place in the atom table. -/
structure Spare (frame : Frame) : Prop where
  slot : frame.env.heap.size < Interface.slotLimit
  name : frame.host.atoms.size < frame.host.atoms.limit

/-- What building does: so many objects are added and at most these names; nothing else is touched.
-/
structure Built (before after : Frame) (cells : Nat) (names : Finset Bytes) : Prop where
  grows : before.GrowsTo after
  size : after.env.heap.size = before.env.heap.size + cells
  atoms : after.host.atoms.names.toFinset ⊆ before.host.atoms.names.toFinset ∪ names
  exception : after.env.exception = before.env.exception
  outstanding : after.host.outstanding = before.host.outstanding

/-- A word was built that means this value. -/
structure Makes (before : Frame) (made : Word × Frame) (value : Value) (cells : Nat)
    (names : Finset Bytes) : Prop where
  built : before.Built made.2 cells names
  proper : made.1 ≠ Word.nonValue
  meaning : made.2.decode? made.1 = some value

theorem Room.mono {frame : Frame} {cells fewer : Nat} {names part : Finset Bytes}
    (room : frame.Room cells names) (le : fewer ≤ cells) (subset : part ⊆ names) :
    frame.Room fewer part :=
  ⟨(Nat.add_le_add_left le _).trans room.slots, room.atoms.mono subset⟩

namespace Spare

variable {frame : Frame}

/-- A place in the table is enough for any one name. -/
theorem admits (spare : frame.Spare) (name : Bytes) : frame.host.atoms.Admits {name} :=
  AtomTable.admits_singleton_iff.mpr (Or.inr spare.name)

theorem cell (spare : frame.Spare) : frame.Room 1 ∅ :=
  ⟨spare.slot, (spare.admits Frame.badarg).mono (Finset.empty_subset _)⟩

end Spare

namespace Built

variable {first second third : Frame} {cells more : Nat} {names others : Finset Bytes}

theorem refl (frame : Frame) : frame.Built frame 0 ∅ :=
  ⟨.refl frame, rfl, Finset.subset_union_left, rfl, rfl⟩

/-- A report touches nothing. -/
theorem note (frame : Frame) (note : Note) : frame.Built (frame.note note) 0 ∅ :=
  ⟨.of_eq rfl rfl rfl, rfl, Finset.subset_union_left, rfl, rfl⟩

theorem trans (early : first.Built second cells names) (late : second.Built third more others) :
    first.Built third (cells + more) (names ∪ others) where
  grows := early.grows.trans late.grows
  size := by rw [late.size, early.size, Nat.add_assoc]
  atoms := by
    refine late.atoms.trans ?_
    rw [← Finset.union_assoc]
    exact Finset.union_subset_union_left early.atoms
  exception := late.exception.trans early.exception
  outstanding := late.outstanding.trans early.outstanding

/-- What is left of the room after a part of the work. -/
theorem room (early : first.Built second cells names)
    (all : first.Room (cells + more) (names ∪ others)) :
    second.Room more others where
  slots := by
    rw [early.size, Nat.add_assoc]
    exact all.slots
  atoms := by
    have limit : second.host.atoms.limit = first.host.atoms.limit :=
      second.host.limit_eq.trans first.host.limit_eq.symm
    have new : second.host.atoms.names.toFinset ⊆ first.host.atoms.names.toFinset ∪
        (names ∪ others) :=
      early.atoms.trans (Finset.union_subset_union_right Finset.subset_union_left)
    exact (all.atoms.of_subset new limit).mono Finset.subset_union_right

/-- The same where the last part of the work needs no names. -/
theorem trans_cells (early : first.Built second cells names) (late : second.Built third more ∅) :
    first.Built third (cells + more) names := by
  have both := early.trans late
  rwa [Finset.union_empty] at both

theorem room_cells (early : first.Built second cells names)
    (all : first.Room (cells + more) names) :
    second.Room more ∅ :=
  early.room (all.mono le_rfl (Finset.union_empty names).subset)

end Built

/-! ### One object -/

section Push

variable {frame : Frame} {cell : Cell}

theorem push_cell? (space : frame.env.heap.size < Interface.slotLimit) (cell : Cell) :
    (frame.push cell).2.env.cell? (frame.push cell).1 = some cell := by
  simp only [push, dif_pos space]
  rw [Environment.cell?, Word.boxed?_boxed _ space]
  simp

theorem size_push (space : frame.env.heap.size < Interface.slotLimit) (cell : Cell) :
    (frame.push cell).2.env.heap.size = frame.env.heap.size + 1 := by
  simp only [push, dif_pos space, Array.size_push]

/-- Nothing but the heap and the log sees a new object. -/
theorem push_frame (frame : Frame) (cell : Cell) :
    (frame.push cell).2.host.atoms = frame.host.atoms ∧
      (frame.push cell).2.env.exception = frame.env.exception ∧
      (frame.push cell).2.host.outstanding = frame.host.outstanding := by
  simp only [push]
  split <;> exact ⟨rfl, rfl, rfl⟩

/-- With room for one object, the next slot takes it. -/
theorem push_built (room : frame.Room 1 ∅) (cell : Cell) :
    frame.Built (frame.push cell).2 1 ∅ ∧
      (frame.push cell).2.env.cell? (frame.push cell).1 = some cell := by
  obtain ⟨atoms, exception, outstanding⟩ := frame.push_frame cell
  refine ⟨⟨frame.push_grows cell, size_push room.slots cell, ?_, exception, outstanding⟩,
    push_cell? room.slots cell⟩
  rw [atoms]
  exact Finset.subset_union_left

/-- An object without parts means what it holds. -/
theorem push_makes (room : frame.Room 1 ∅) {value : Value}
    (means : ∀ (env : Environment) (atoms : AtomTable) (word : Word), env.cell? word = some cell →
      ∀ depth, env.decodeWithin atoms (depth + 1) word = some value) :
    frame.Makes (frame.push cell) value 1 ∅ := by
  obtain ⟨built, stored⟩ := push_built room cell
  obtain ⟨place, reference⟩ := Environment.boxed?_of_cell? stored
  exact ⟨built, Word.ne_nonValue_of_boxed? reference, means _ _ _ stored _⟩

theorem makeFloat_makes (room : frame.Room 1 ∅) (value : Float) :
    frame.Makes (frame.makeFloat value) (.float value) 1 ∅ :=
  push_makes room fun _ _ _ stored depth => Environment.decodeWithin_of_cell? stored depth

theorem makeBinary_makes (room : frame.Room 1 ∅) (bytes : Bytes) :
    frame.Makes (frame.makeBinary bytes) (.binary bytes) 1 ∅ :=
  push_makes room fun _ _ _ stored depth => Environment.decodeWithin_of_cell? stored depth

end Push

/-! ### Integers and atoms -/

/-- The objects that an integer takes: none if it fits into 60 bits. -/
def integerCells (value : Int64) : Nat :=
  if -0x800000000000000 ≤ value.toInt ∧ value.toInt < 0x800000000000000 then 0 else 1

theorem makeInt_makes {frame : Frame} {value : Int64} (room : frame.Room (integerCells value) ∅) :
    frame.Makes (frame.makeInt value) (.int value) (integerCells value) ∅ := by
  unfold makeInt
  cases small : Word.ofSmall? value with
  | some word =>
    obtain ⟨-, lower, upper⟩ := Word.eq_of_ofSmall? small
    have tag := Word.isSmall_of_ofSmall? small
    rw [integerCells, if_pos ⟨lower, upper⟩]
    refine ⟨.refl frame, Word.ne_nonValue_of_isSmall tag, ?_⟩
    rw [← Word.payload_of_ofSmall? small]
    exact Environment.decodeWithin_of_isSmall tag _
  | none =>
    have large := Word.ofSmall?_eq_none_iff.mp small
    have one : integerCells value = 1 := by
      rw [integerCells, if_neg]
      omega
    rw [one] at room ⊢
    exact push_makes room fun _ _ _ stored depth => Environment.decodeWithin_of_cell? stored depth

theorem makeAtom_makes {frame : Frame} {name : Bytes} (room : frame.Room 0 {name})
    (short : name.length ≤ Interface.maxAtomLength) :
    frame.Makes (frame.makeAtom name) (.atom name.latin1) 0 {name} := by
  obtain ⟨word, host, entered⟩ :=
    Host.intern_of_admits room.atoms (Finset.mem_singleton_self name) short
  have grows := frame.makeAtom_grows name
  simp only [makeAtom, entered] at grows ⊢
  have named := Host.atom?_of_intern entered
  obtain ⟨index, inTable, same, -, outstanding, -⟩ := Host.intern_cases entered
  refine ⟨⟨grows, rfl, ?_, rfl, outstanding⟩, ?_, Environment.decodeWithin_of_atom? named _⟩
  · show host.atoms.names.toFinset ⊆ frame.host.atoms.names.toFinset ∪ {name}
    rcases AtomTable.names_of_intern inTable with same | appended
    · rw [same]
      exact Finset.subset_union_left
    · rw [appended, List.toFinset_append]
      simp
  · obtain ⟨index, tag, -⟩ := Option.bind_eq_some_iff.mp named
    exact Word.ne_nonValue_of_atomIndex? tag

/-! ### Tuples and lists -/

/-- The words mean these values, one by one. -/
def Means (frame : Frame) (words : List Word) (values : List Value) : Prop :=
  List.Forall₂ (fun word value => frame.decode? word = some value) words values

section Compound

variable {frame : Frame} {words : List Word} {values : List Value}

/-- Once the heap has grown, one level less of unfolding still finds the parts. -/
theorem Means.mapM {later : Frame} (means : frame.Means words values)
    (grown : frame.GrowsTo later) (whole : ∀ value ∈ values, value.Whole)
    (larger : frame.env.heap.size < later.env.heap.size) :
    words.mapM (later.env.decodeWithin later.host.atoms later.env.heap.size) = some values := by
  rw [mapM_eq_some_iff]
  induction means with
  | nil => exact .nil
  | cons head _ rest =>
    exact .cons
      (Environment.decodeWithin_mono grown.env grown.names larger head (whole _ List.mem_cons_self))
      (rest fun value member => whole value (List.mem_cons_of_mem _ member))

theorem makeTuple_makes (room : frame.Room 1 ∅) (means : frame.Means words values)
    (whole : ∀ value ∈ values, value.Whole) :
    frame.Makes (frame.makeTuple words) (.tuple values) 1 ∅ := by
  obtain ⟨built, stored⟩ := push_built room (.tuple words)
  obtain ⟨place, reference⟩ := Environment.boxed?_of_cell? stored
  refine ⟨built, Word.ne_nonValue_of_boxed? reference, ?_⟩
  have parts := means.mapM built.grows whole (built.size ▸ Nat.lt_succ_self _)
  refine (Environment.decodeWithin_of_cell? stored _).trans ?_
  exact Option.map_eq_some_iff.mpr ⟨values, parts, rfl⟩

/-- The cells of a list: the last one leads to the tail. -/
theorem makeImproper_built {tail : Word} {rest : List Word} (room : frame.Room words.length ∅)
    (ends : frame.env.spine tail = .proper rest) :
    frame.Built (frame.makeImproper words tail).2 words.length ∅ ∧
      (frame.makeImproper words tail).2.env.spine (frame.makeImproper words tail).1 =
        .proper (words ++ rest) ∧
      (words ≠ [] → ∃ head next, (frame.makeImproper words tail).2.env.cell?
        (frame.makeImproper words tail).1 = some (.cons head next)) := by
  induction words with
  | nil => exact ⟨.refl frame, ends, fun filled => absurd rfl filled⟩
  | cons head others ih =>
    obtain ⟨built, othersEnd, -⟩ := ih (room.mono (Nat.le_succ _) subset_rfl)
    obtain ⟨pushed, stored⟩ := push_built (built.room_cells room)
      (.cons head (frame.makeImproper others tail).1)
    refine ⟨built.trans pushed, ?_, fun _ => ⟨_, _, stored⟩⟩
    have tailEnds := Environment.spineWithin_mono pushed.grows.env pushed.size.ge othersEnd
    exact (Environment.spineWithin_cons stored _).trans (congrArg (Spine.cons head) tailEnds)

theorem makeList_makes (room : frame.Room words.length ∅) (means : frame.Means words values)
    (whole : ∀ value ∈ values, value.Whole) :
    frame.Makes (frame.makeList words) (.list values) words.length ∅ := by
  have empty : frame.env.spine Word.nil = .proper [] := Environment.spineWithin_nil _
  obtain ⟨built, ends, first⟩ := makeImproper_built room empty
  rw [List.append_nil] at ends
  by_cases none : words = []
  · subst none
    cases means
    exact ⟨built, (by decide : Word.nil ≠ Word.nonValue), frame.decode?_nil⟩
  · obtain ⟨head, next, stored⟩ := first none
    obtain ⟨place, reference⟩ := Environment.boxed?_of_cell? stored
    have larger : frame.env.heap.size < (frame.makeList words).2.env.heap.size := by
      rw [makeList, built.size]
      exact Nat.lt_add_of_pos_right (List.length_pos_iff.mpr none)
    refine ⟨built, Word.ne_nonValue_of_boxed? reference, ?_⟩
    refine (Environment.decodeWithin_list stored ends _).trans ?_
    exact Option.map_eq_some_iff.mpr ⟨values, means.mapM built.grows whole larger, rfl⟩

end Compound

end Frame

/-! ### Whole values -/

namespace Value

/-- A value that the builders can make: each atom has a name of at most 255 bytes. -/
inductive Buildable : Value → Prop
  | int (value : Int64) : Buildable (.int value)
  | float (value : Float) : Buildable (.float value)
  | atom {name : Bytes} (short : name.length ≤ Interface.maxAtomLength) :
      Buildable (.atom name.latin1)
  | tuple {elements : List Value} (parts : ∀ part ∈ elements, Buildable part) :
      Buildable (.tuple elements)
  | list {elements : List Value} (parts : ∀ part ∈ elements, Buildable part) :
      Buildable (.list elements)
  | binary (bytes : Bytes) : Buildable (.binary bytes)

/-- The bytes of a name, one for each character. -/
def nameBytes (name : String) : Bytes := (latin1? name).getD []

mutual

/-- The value as a term to be built, with the builder that belongs to each form. -/
def draft : Value → Draft
  | .int value => .int value
  | .float value => .float value
  | .atom name => .atom (nameBytes name)
  | .tuple elements => .tuple (draftAll elements)
  | .list elements => .list (draftAll elements)
  | .binary bytes => .binary bytes
  | .invalid word => .existing word

/-- The values as terms to be built. -/
def draftAll : List Value → List Draft
  | [] => []
  | value :: rest => value.draft :: draftAll rest

end

mutual

/-- The number of objects that the value takes on a heap. -/
def cells : Value → Nat
  | .int value => Frame.integerCells value
  | .float _ | .binary _ => 1
  | .atom _ | .invalid _ => 0
  | .tuple elements => cellsAll elements + 1
  | .list elements => cellsAll elements + elements.length

/-- The number of objects that the values take together. -/
def cellsAll : List Value → Nat
  | [] => 0
  | value :: rest => value.cells + cellsAll rest

end

mutual

/-- The names of the atoms in the value. -/
def names : Value → Finset Bytes
  | .atom name => {nameBytes name}
  | .tuple elements | .list elements => namesAll elements
  | .int _ | .float _ | .binary _ | .invalid _ => ∅

/-- The names of the atoms in the values. -/
def namesAll : List Value → Finset Bytes
  | [] => ∅
  | value :: rest => value.names ∪ namesAll rest

end

theorem Buildable.whole {value : Value} (buildable : value.Buildable) : value.Whole := by
  induction buildable with
  | int value => exact .int value
  | float value => exact .float value
  | atom short => exact .atom _
  | tuple _ parts => exact .tuple parts
  | list _ parts => exact .list parts
  | binary bytes => exact .binary bytes

end Value

end Nif
