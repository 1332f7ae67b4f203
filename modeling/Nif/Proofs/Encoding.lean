import Mathlib.Data.Finset.Option
import Mathlib.Data.List.TakeWhile
import Nif.Data
import Nif.Proofs.Makers

/-!
**Encoding a value is all or nothing.**

A value has parts, and their terms are made from left to right and inner ones before outer ones.

* `Data.parts`: the parts in this order; `Data.fault?`: why a part has no term.
* `Parts.firstFault`, `Parts.cells`, `Parts.names`: the first fault among parts, and what the parts
  before it put on the heap and into the atom table.
* `Data.image`: the term of a value.
* `Attempt.Follows`: an attempt that makes the terms of parts and stops at the first fault;
  `Attempt.Follows.bind`: one such attempt after the other.
* `Data.encode_all_or_nothing`: encoding gives the image of the value, or the first fault among its
  parts, and nothing but the new objects can be seen afterwards.
-/

namespace Nif

/-! ### The parts of a value -/

/-- Parts of values, in the order in which their terms are made. -/
abbrev Parts := List Data

namespace Data

/-- The parts of a value: a tuple comes after its elements, and a success is what it holds. -/
def parts : Data → Parts
  | pair first second => first.parts ++ (second.parts ++ [pair first second])
  | triple first second third =>
    first.parts ++ (second.parts ++ (third.parts ++ [triple first second third]))
  | success value => value.parts
  | leaf => [leaf]

/-- Why a binary with so many bytes cannot be had. -/
def sizeFault? (size : Nat) : Option Fault :=
  if size < Interface.allocationLimit then none else some (.allocationFailed size)

/-- Why a part has no term of its own: a float that is not finite, a text that is no name of an
atom, a failure, and bytes for which the host has no memory. -/
def fault? : Data → Option Fault
  | f64 value => if value.isFinite then none else some (.shapeMismatch "finite float")
  | atom name => if IsAtomName name then none else some (.invalidName name)
  | failure fault => some fault
  | text value => sizeFault? (utf8Bytes value).length
  | bytes value => sizeFault? value.length
  | _ => none

/-- The term of a part is an object on the heap: an integer beyond 60 bits, a float, a binary, a
tuple. -/
def isBoxed : Data → Bool
  | i64 value => ¬(-0x800000000000000 ≤ value.toInt ∧ value.toInt < 0x800000000000000)
  | f64 _ | text _ | bytes _ | pair .. | triple .. => true
  | _ => false

/-- The name of a part that is an atom. -/
def name? : Data → Option Bytes
  | bool value => some (Value.nameBytes (if value then "true" else "false"))
  | unit => some (Value.nameBytes "ok")
  | atom name => some (Value.nameBytes name)
  | _ => none

/-- The objects that a part itself puts on the heap. -/
def cells (part : Data) : Nat := if part.isBoxed then 1 else 0

/-- The names that a part itself puts into the atom table. -/
def names (part : Data) : Finset Bytes := part.name?.toFinset

/-- The term that a value stands for. -/
def image : Data → Value
  | i32 value => .int value.toInt64
  | u32 value => .int (Int64.ofNat value.toNat)
  | i64 value => .int value
  | f64 value => .float value
  | bool value => .atom (if value then "true" else "false")
  | text value => .binary (utf8Bytes value)
  | bytes value => .binary value
  | atom name => .atom name
  | unit => .atom "ok"
  | pair first second => .tuple [first.image, second.image]
  | triple first second third => .tuple [first.image, second.image, third.image]
  | success value => value.image
  | failure _ => .invalid Word.nonValue

end Data

namespace Parts

/-- The first fault, from left to right. -/
def firstFault (parts : Parts) : Option Fault := parts.findSome? Data.fault?

/-- The parts whose terms are made: those before the first fault. -/
def made (parts : Parts) : Parts := parts.takeWhile (·.fault?.isNone)

/-- The number of objects that the parts put on the heap. -/
def cells (parts : Parts) : Nat := parts.made.countP Data.isBoxed

/-- The names of the atoms among the parts. -/
def names (parts : Parts) : Finset Bytes := (parts.made.filterMap Data.name?).toFinset

variable {early late : Parts} {fault : Fault}

theorem firstFault_eq_none_iff {parts : Parts} :
    parts.firstFault = none ↔ ∀ part ∈ parts, part.fault? = none := List.findSome?_eq_none_iff

theorem firstFault_singleton_of_none {part : Data} (clean : part.fault? = none) :
    firstFault [part] = none :=
  firstFault_eq_none_iff.mpr fun _ member => List.mem_singleton.mp member ▸ clean

theorem firstFault_append_of_none (clean : early.firstFault = none) :
    firstFault (early ++ late) = late.firstFault := by
  rw [firstFault, List.findSome?_append]
  exact (congrArg (Option.or · _) clean).trans Option.none_or

theorem firstFault_append_of_some (faulty : early.firstFault = some fault) :
    firstFault (early ++ late) = some fault := by
  rw [firstFault, List.findSome?_append]
  exact (congrArg (Option.or · _) faulty).trans Option.some_or

theorem made_of_none (clean : early.firstFault = none) : early.made = early := by
  refine List.takeWhile_eq_self_iff.mpr fun part member => ?_
  rw [firstFault_eq_none_iff.mp clean part member, Option.isNone_none]

theorem made_append_of_none (clean : early.firstFault = none) :
    made (early ++ late) = early.made ++ late.made := by
  rw [made_of_none clean]
  refine List.takeWhile_append_of_pos fun part member => ?_
  rw [firstFault_eq_none_iff.mp clean part member, Option.isNone_none]

/-- Nothing is made after a fault. -/
theorem made_append_of_some (faulty : early.firstFault = some fault) :
    made (early ++ late) = early.made := by
  induction early with
  | nil => cases faulty
  | cons part rest ih =>
    show List.takeWhile _ (part :: (rest ++ late)) = List.takeWhile _ (part :: rest)
    rw [List.takeWhile_cons, List.takeWhile_cons]
    cases own : part.fault? with
    | some _ => rfl
    | none =>
      have later : firstFault rest = some fault := by
        rwa [firstFault, List.findSome?_cons_of_isNone (by rw [own]; rfl)] at faulty
      simp only [Option.isNone_none, if_true]
      exact congrArg (part :: ·) (ih later)

theorem cells_singleton {part : Data} (clean : part.fault? = none) : cells [part] = part.cells := by
  rw [cells, made_of_none (firstFault_singleton_of_none clean), List.countP_singleton]
  rfl

theorem names_singleton {part : Data} (clean : part.fault? = none) : names [part] = part.names := by
  rw [names, made_of_none (firstFault_singleton_of_none clean), Data.names]
  cases named : part.name? <;> simp [named]

theorem cells_append_of_none (clean : early.firstFault = none) :
    cells (early ++ late) = early.cells + late.cells := by
  rw [cells, made_append_of_none clean, List.countP_append]
  rfl

theorem names_append_of_none (clean : early.firstFault = none) :
    names (early ++ late) = early.names ∪ late.names := by
  rw [names, made_append_of_none clean, List.filterMap_append, List.toFinset_append]
  rfl

theorem cells_append_of_some (faulty : early.firstFault = some fault) :
    cells (early ++ late) = early.cells := by
  rw [cells, made_append_of_some faulty]
  rfl

theorem names_append_of_some (faulty : early.firstFault = some fault) :
    names (early ++ late) = early.names := by
  rw [names, made_append_of_some faulty]
  rfl

end Parts

/-! ### Attempts that make the terms of parts -/

/-- The word is a term with this meaning. -/
structure Frame.Term (frame : Frame) (value : Value) (word : Word) : Prop where
  proper : word ≠ Word.nonValue
  meaning : frame.decode? word = some value

namespace Attempt

variable {α β : Type} {frame : Frame} {good : α → Frame → Prop} {fine : β → Frame → Prop}

/-- The attempt does what the parts ask for, up to their first fault, and nothing else. It ends with
that fault or, if there is none, with a good result. -/
def Follows (attempt : Attempt α) (frame : Frame) (parts : Parts)
    (good : α → Frame → Prop) : Prop :=
  frame.Built (attempt.outcome frame).2 parts.cells parts.names ∧
    match parts.firstFault with
    | none =>
      ∃ result, (attempt.outcome frame).1 = .ok result ∧ good result (attempt.outcome frame).2
    | some fault => (attempt.outcome frame).1 = .error fault

namespace Follows

/-- How an attempt that follows parts ends. -/
theorem of_outcome {attempt : Attempt α} {parts : Parts} {result : Except Fault α} {after : Frame}
    (follows : attempt.Follows frame parts good)
    (outcome : attempt.outcome frame = (result, after)) :
    frame.Built after parts.cells parts.names ∧
      ((∃ value, result = .ok value ∧ parts.firstFault = none ∧ good value after) ∨
        ∃ fault, result = .error fault ∧ parts.firstFault = some fault) := by
  obtain ⟨built, ending⟩ := follows
  rw [outcome] at built ending
  refine ⟨built, ?_⟩
  cases first : parts.firstFault with
  | none =>
    rw [first] at ending
    obtain ⟨value, done, holds⟩ := ending
    exact Or.inl ⟨value, done, rfl, holds⟩
  | some fault =>
    rw [first] at ending
    exact Or.inr ⟨fault, ending, rfl⟩

/-- **One attempt after the other.** The second one may count on the first one's result, and on the
room that is left. -/
theorem bind {attempt : Attempt α} {next : α → Attempt β} {early late : Parts}
    (room : frame.Room (Parts.cells (early ++ late)) (Parts.names (early ++ late)))
    (first : frame.Room early.cells early.names → attempt.Follows frame early good)
    (second : ∀ result after, early.firstFault = none → frame.GrowsTo after → good result after →
      after.Room late.cells late.names → (next result).Follows after late fine) :
    (attempt >>= next).Follows frame (early ++ late) fine := by
  unfold Follows
  rw [outcome_bind]
  cases clean : early.firstFault with
  | some fault =>
    rw [Parts.firstFault_append_of_some clean]
    rw [Parts.cells_append_of_some clean, Parts.names_append_of_some clean] at room ⊢
    rcases outcome : attempt.outcome frame with ⟨result, after⟩
    obtain ⟨built, ⟨_, -, none, -⟩ | ⟨_, rfl, some⟩⟩ := (first room).of_outcome outcome
    · cases clean.symm.trans none
    · cases clean.symm.trans some
      exact ⟨built, rfl⟩
  | none =>
    rw [Parts.firstFault_append_of_none clean]
    rw [Parts.cells_append_of_none clean, Parts.names_append_of_none clean] at room ⊢
    have follows := first (room.mono (Nat.le_add_right _ _) Finset.subset_union_left)
    rcases outcome : attempt.outcome frame with ⟨result, after⟩
    obtain ⟨built, ⟨_, rfl, -, holds⟩ | ⟨_, -, some⟩⟩ := follows.of_outcome outcome
    · obtain ⟨rest, ending⟩ := second _ after clean built.grows holds (built.room room)
      exact ⟨built.trans rest, ending⟩
    · cases clean.symm.trans some

variable {attempt : Attempt Word} {part : Data}

/-- A maker that makes one part. -/
theorem of_makes {made : Word × Frame} (room : frame.Room (Parts.cells [part]) (Parts.names [part]))
    (clean : part.fault? = none) (done : attempt.outcome frame = (.ok made.1, made.2))
    (makes : frame.Room part.cells part.names → frame.Makes made part.image part.cells part.names) :
    attempt.Follows frame [part] (fun word after => after.Term part.image word) := by
  rw [Parts.cells_singleton clean, Parts.names_singleton clean] at room
  unfold Follows
  rw [done, Parts.firstFault_singleton_of_none clean, Parts.cells_singleton clean,
    Parts.names_singleton clean]
  exact ⟨(makes room).built, _, rfl, (makes room).proper, (makes room).meaning⟩

/-- A maker that refuses a part. -/
theorem of_fault {fault : Fault} {after : Frame} (faulty : part.fault? = some fault)
    (done : attempt.outcome frame = (.error fault, after)) (built : frame.Built after 0 ∅)
    (good : Word → Frame → Prop) :
    attempt.Follows frame [part] good := by
  have first : Parts.firstFault [part] = some fault := by
    rw [Parts.firstFault, List.findSome?_cons, faulty]
  have nothing : Parts.made [part] = [] := by
    rw [Parts.made, List.takeWhile_cons, faulty]
    rfl
  unfold Follows
  rw [done, first, Parts.cells, Parts.names, nothing]
  exact ⟨built, rfl⟩

end Follows

end Attempt

namespace Data

/-- **Without a fault among the parts, the image is a term without a hole.** -/
theorem image_whole {value : Data} (clean : value.parts.firstFault = none) : value.image.Whole := by
  rw [Parts.firstFault_eq_none_iff] at clean
  induction value with
  | i32 _ | u32 _ | i64 _ => exact .int _
  | f64 value => exact .float value
  | bool _ | atom _ | unit => exact .atom _
  | text _ | bytes _ => exact .binary _
  | failure fault => cases clean (failure fault) List.mem_cons_self
  | success value ih => exact ih clean
  | pair first second ih₁ ih₂ =>
    simp only [parts, List.forall_mem_append] at clean
    refine .tuple ?_
    simp only [List.forall_mem_cons]
    exact ⟨ih₁ clean.1, ih₂ clean.2.1, List.forall_mem_nil _⟩
  | triple first second third ih₁ ih₂ ih₃ =>
    simp only [parts, List.forall_mem_append] at clean
    refine .tuple ?_
    simp only [List.forall_mem_cons]
    exact ⟨ih₁ clean.1, ih₂ clean.2.1, ih₃ clean.2.2.1, List.forall_mem_nil _⟩

/-! ### Encoding -/

/-- An integer takes an object of its own exactly if it does not fit into 60 bits. -/
theorem cells_i64 (value : Int64) : (i64 value).cells = Frame.integerCells value := by
  by_cases small : -0x800000000000000 ≤ value.toInt ∧ value.toInt < 0x800000000000000
  · rw [cells, isBoxed, Frame.integerCells, if_pos small, if_neg]
    exact fun large => of_decide_eq_true large small
  · rw [cells, isBoxed, Frame.integerCells, if_neg small, if_pos]
    exact decide_eq_true small

theorem integerCells_of_i32 (value : Int32) : Frame.integerCells value.toInt64 = 0 := by
  have lower := value.le_toInt
  have upper := value.toInt_lt
  rw [Frame.integerCells, if_pos]
  rw [Int32.toInt_toInt64]
  omega

theorem integerCells_of_u32 (value : UInt32) :
    Frame.integerCells (Int64.ofNat value.toNat) = 0 := by
  have upper := value.toNat_lt
  rw [Frame.integerCells, if_pos]
  rw [Int64.toInt_ofNat_of_lt (by omega)]
  omega

theorem makeInt_makes_of_small {frame : Frame} {value : Int64}
    (small : Frame.integerCells value = 0)
    (room : frame.Room 0 ∅) : frame.Makes (frame.makeInt value) (.int value) 0 ∅ := by
  have made : frame.Room (Frame.integerCells value) ∅ →
      frame.Makes (frame.makeInt value) (.int value) (Frame.integerCells value) ∅ :=
        Frame.makeInt_makes
  rw [small] at made
  exact made room

theorem isAtomName_bool (value : Bool) : IsAtomName (if value then "true" else "false") := by
  cases value <;> decide

/-- The binary of a text or of bytes, or the finding that there is no memory for it. -/
theorem tryBinary_follows {part : Data} {content : Bytes} {frame : Frame}
    (room : frame.Room (Parts.cells [part]) (Parts.names [part]))
    (fault : part.fault? = sizeFault? content.length) (image : part.image = .binary content)
    (cells : part.cells = 1) (names : part.names = ∅) :
    (Make.tryBinary content).Follows frame [part]
    (fun word after => after.Term part.image word) := by
  rw [sizeFault?] at fault
  by_cases fits : content.length < Interface.allocationLimit
  · rw [if_pos fits] at fault
    refine .of_makes room fault (Make.outcome_tryBinary frame fits) fun room => ?_
    rw [cells, names] at room ⊢
    rw [image]
    exact Frame.makeBinary_makes room content
  · rw [if_neg fits] at fault
    exact .of_fault fault (Make.outcome_tryBinary_of_large frame fits) (.note frame _) _

/-- The tuple of terms whose meanings are the images of the elements. -/
theorem tryTuple_follows {part : Data} {words : List Word} {images : List Value} {frame : Frame}
    (room : frame.Room (Parts.cells [part]) (Parts.names [part])) (means : frame.Means words images)
    (whole : ∀ image ∈ images, image.Whole) (few : images.length < 0x100000000)
    (clean : part.fault? = none) (image : part.image = .tuple images) (cells : part.cells = 1)
    (names : part.names = ∅) :
    (Make.tryTuple words).Follows frame [part] (fun word after => after.Term part.image word) := by
  rw [← means.length_eq] at few
  refine .of_makes room clean (Make.outcome_tryTuple frame few) fun room => ?_
  rw [cells, names] at room ⊢
  rw [image]
  exact Frame.makeTuple_makes room means whole

/-- **Encoding makes the terms of the parts, up to the first fault.** -/
theorem encode_follows (value : Data) {frame : Frame}
    (room : frame.Room value.parts.cells value.parts.names) :
    value.encode.Follows frame value.parts (fun word after => after.Term value.image word) := by
  induction value generalizing frame with
  | i32 value =>
    refine .of_makes room rfl (Attempt.outcome_lift (Make.int value) frame) fun room => ?_
    exact makeInt_makes_of_small (integerCells_of_i32 value) room
  | u32 value =>
    refine .of_makes room rfl (Make.outcome_tryLong frame _) fun room => ?_
    exact makeInt_makes_of_small (integerCells_of_u32 value) room
  | i64 value =>
    refine .of_makes room rfl (Make.outcome_tryLong frame value) fun room => ?_
    rw [cells_i64] at room ⊢
    exact Frame.makeInt_makes room
  | f64 value =>
    have outcome := Make.outcome_tryDouble frame value
    by_cases finite : value.isFinite
    · rw [if_pos finite] at outcome
      exact .of_makes room (if_pos finite) outcome fun room => Frame.makeFloat_makes room value
    · rw [if_neg finite] at outcome
      have faulty : (f64 value).fault? = some (.shapeMismatch "finite float") := if_neg finite
      exact .of_fault faulty outcome (.refl frame) _
  | bool value =>
    have valid := isAtomName_bool value
    refine .of_makes room rfl (Attempt.outcome_lift (Make.bool value) frame) fun room => ?_
    rw [Make.bool, Make.run_atom valid]
    exact Frame.makeAtom_makes_of_isAtomName valid room
  | unit =>
    have valid : IsAtomName "ok" := by decide
    have outcome := Make.outcome_tryAtom frame "ok"
    rw [if_pos valid] at outcome
    exact .of_makes room rfl outcome (Frame.makeAtom_makes_of_isAtomName valid)
  | atom name =>
    have outcome := Make.outcome_tryAtom frame name
    by_cases valid : IsAtomName name
    · rw [if_pos valid] at outcome
      exact .of_makes room (if_pos valid) outcome (Frame.makeAtom_makes_of_isAtomName valid)
    · rw [if_neg valid] at outcome
      have faulty : (atom name).fault? = some (.invalidName name) := if_neg valid
      exact .of_fault faulty outcome (.refl frame) _
  | text value => exact tryBinary_follows room rfl rfl rfl rfl
  | bytes value => exact tryBinary_follows room rfl rfl rfl rfl
  | failure fault => exact .of_fault rfl rfl (.refl frame) _
  | success value ih => exact ih room
  | pair first second ih₁ ih₂ =>
    refine .bind room ih₁ fun a afterA cleanA _ termA room => ?_
    refine .bind room ih₂ fun b afterB cleanB grownB termB room => ?_
    have wholeA := image_whole cleanA
    have means : afterB.Means [a, b] [first.image, second.image] :=
      .cons (Frame.decode?_grows grownB termA.meaning wholeA) (.cons termB.meaning .nil)
    refine tryTuple_follows room means ?_ (by simp) rfl rfl rfl rfl
    simp only [List.forall_mem_cons]
    exact ⟨wholeA, image_whole cleanB, List.forall_mem_nil _⟩
  | triple first second third ih₁ ih₂ ih₃ =>
    refine .bind room ih₁ fun a afterA cleanA _ termA room => ?_
    refine .bind room ih₂ fun b afterB cleanB grownB termB room => ?_
    refine .bind room ih₃ fun c afterC cleanC grownC termC room => ?_
    have wholeA := image_whole cleanA
    have wholeB := image_whole cleanB
    have means : afterC.Means [a, b, c] [first.image, second.image, third.image] :=
      .cons (Frame.decode?_grows (grownB.trans grownC) termA.meaning wholeA)
        (.cons (Frame.decode?_grows grownC termB.meaning wholeB) (.cons termC.meaning .nil))
    refine tryTuple_follows room means ?_ (by simp) rfl rfl rfl rfl
    simp only [List.forall_mem_cons]
    exact ⟨wholeA, wholeB, image_whole cleanC, List.forall_mem_nil _⟩

/-- **Encoding is all or nothing**: it gives the image of the value, with no hole in it, exactly if
no part has a fault, and the leftmost fault otherwise. Either way only new objects are added to the
heap, one for each boxed part before that fault, and neither the pending exception nor the count of
buffers is touched. -/
theorem encode_all_or_nothing (value : Data) (frame : Frame)
    (room : frame.Room value.parts.cells value.parts.names) :
    ∃ result after, value.encode.outcome frame = (result, after) ∧
      ((∃ word, result = .ok word) ↔ ∀ part ∈ value.parts, part.fault? = none) ∧
      (∀ word, result = .ok word →
        word ≠ Word.nonValue ∧ after.decode? word = some value.image ∧ value.image.Whole) ∧
      (∀ fault, result = .error fault ↔ value.parts.firstFault = some fault) ∧
      after.env.exception = frame.env.exception ∧
      after.host.outstanding = frame.host.outstanding ∧
      frame.env.heap.toList <+: after.env.heap.toList ∧
      after.env.heap.size = frame.env.heap.size + value.parts.cells := by
  have follows := value.encode_follows room
  rcases outcome : value.encode.outcome frame with ⟨result, after⟩
  obtain ⟨built, ending⟩ := follows.of_outcome outcome
  refine ⟨result, after, rfl, ?_, ?_, ?_, built.exception, built.outstanding, built.grows.env.heap,
    built.size⟩
  · rw [← Parts.firstFault_eq_none_iff]
    rcases ending with ⟨word, rfl, clean, -⟩ | ⟨fault, rfl, first⟩ <;> simp [*]
  · rintro word rfl
    obtain ⟨_, ⟨⟩, clean, term⟩ | ⟨_, ⟨⟩, -⟩ := ending
    exact ⟨term.proper, term.meaning, image_whole clean⟩
  · rcases ending with ⟨word, rfl, clean, -⟩ | ⟨fault, rfl, first⟩ <;> simp [*]

/-- In a fresh environment: a failure behind an integer that has been put on the heap, and before a
text that is no name of an atom. -/
theorem encode_all_or_nothing_pair :
    ∃ (value : Data) (frame after : Frame),
      value = pair (i64 Int64.maxValue) (pair (failure .invalidUtf8) (atom "π")) ∧
      frame.env.heap.size = 0 ∧ frame.Room value.parts.cells value.parts.names ∧
      value.encode.outcome frame = (.error .invalidUtf8, after) ∧
      after.env.exception = none ∧ after.env.heap.size = 1 := by
  have room : Frame.Room ⟨{ id := 1 }, {}⟩
      (pair (i64 Int64.maxValue) (pair (failure .invalidUtf8) (atom "π"))).parts.cells
      (pair (i64 Int64.maxValue) (pair (failure .invalidUtf8) (atom "π"))).parts.names :=
    ⟨by decide, AtomTable.Admits.of_card (by decide)⟩
  obtain ⟨result, after, outcome, -, -, faults, exception, -, -, size⟩ :=
    encode_all_or_nothing _ _ room
  obtain rfl := (faults .invalidUtf8).mpr rfl
  exact ⟨_, _, after, rfl, rfl, room, outcome, exception, size⟩

end Data

end Nif
