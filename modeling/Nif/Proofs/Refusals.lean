import Nif.Proofs.Isolation
import Nif.Proofs.Makers
import Nif.Proofs.Untouched

/-!
**No value and a raised `badarg` go together.**

* `Program.Gives`, `Program.Refuses`: the two ways in which a constructor can end, with a term and
  nothing raised, or with no value, `badarg` raised and the heap as it was.
* `Attempt.Gives`, `Attempt.Declines`: the same for a maker that reports; `Make.orRaise_gives` and
  `Make.orRaise_refuses` lead from one to the other.
* `Constructor`, `Twins`, `Inspection`: all constructors, the pairs of a maker that reports and its
  form that raises, and all readings.
* `Frame.nonValue_iff_raises`: each constructor and each pair ends in one of the two ways, and
  readings change nothing.
-/

namespace Nif

namespace Frame

/-- The reason of the pending exception is the atom `badarg`. -/
def BadargPending (frame : Frame) : Prop :=
  ∃ reason, frame.env.exception = some reason ∧ frame.atom? reason = some badarg

end Frame

/-! ### How a constructor ends -/

namespace Program

variable {α β : Type} {frame : Frame}

/-- The program ends with a term, raises nothing and leaves the pending exception as it was. -/
structure Gives (program : Program Word) (frame : Frame) : Prop where
  proper : (program.run frame).1 ≠ Word.nonValue
  quiet : ¬ program.Raises frame
  exception : (program.run frame).2.env.exception = frame.env.exception

/-- The program ends without a value, raises `badarg` and leaves the heap as it was. -/
structure Refuses (program : Program Word) (frame : Frame) : Prop where
  missing : (program.run frame).1 = Word.nonValue
  raises : program.Raises frame
  heap : (program.run frame).2.env.heap = frame.env.heap
  pending : (program.run frame).2.BadargPending

theorem raises_ofRequest {request : Request} :
    (ofRequest request).Raises frame ↔ request.Raises frame := by
  rw [Raises, ofRequest, calls, List.exists_mem_cons_iff]
  refine or_iff_left ?_
  rintro ⟨_, member, _⟩
  cases member

/-- One of two programs that run one after the other raises. -/
theorem raises_bind (program : Program α) (next : α → Program β) :
    (program >>= next).Raises frame ↔
      program.Raises frame ∨ (next (program.run frame).1).Raises (program.run frame).2 := by
  rw [Raises, calls_bind]
  simp only [List.mem_append, or_and_right, exists_or]
  rfl

/-- A program that ends at once raises nothing. -/
theorem not_raises_pure (result : α) : ¬ (pure result : Program α).Raises frame := by
  rintro ⟨_, member, _⟩
  cases member

/-- One program after the other, if the first raises nothing. -/
theorem Gives.bind {program : Program α} {next : α → Program Word} (quiet : ¬ program.Raises frame)
    (exception : (program.run frame).2.env.exception = frame.env.exception)
    (rest : (next (program.run frame).1).Gives (program.run frame).2) :
    (program >>= next).Gives frame := by
  refine ⟨?_, (raises_bind program next).not.mpr (not_or.mpr ⟨quiet, rest.quiet⟩), ?_⟩
  · rw [run_bind]
    exact rest.proper
  · rw [run_bind]
    exact rest.exception.trans exception

/-- A program all of whose requests never raise. -/
theorem Every.not_raises {program : Program α}
    (every : program.Every fun request => ∀ frame, ¬ request.Raises frame) :
    ¬ program.Raises frame := by
  rintro ⟨made, member, raises⟩
  exact every.calls frame made member made.2 raises

end Program

namespace Attempt

theorem Every.not_raises {α : Type} {attempt : Attempt α} {frame : Frame}
    (every : attempt.Every fun request => ∀ frame, ¬ request.Raises frame) :
    ¬ Program.Raises attempt.run frame := Program.Every.not_raises every

/-- The attempt ends with a term, raises nothing and leaves the pending exception as it was. -/
def Gives (attempt : Attempt Word) (frame : Frame) : Prop :=
  ¬ Program.Raises attempt.run frame ∧ ∃ word after, attempt.outcome frame = (.ok word, after) ∧
    word ≠ Word.nonValue ∧ after.env.exception = frame.env.exception

/-- The attempt fails, and nothing but reports tells the frame afterwards from the one before. -/
def Declines (attempt : Attempt Word) (frame : Frame) : Prop :=
  ∃ fault after, attempt.outcome frame = (.error fault, after) ∧ after.env = frame.env ∧
    after.host.silent = frame.host.silent

end Attempt

/-! ### Raising, and one object -/

namespace Frame

variable {frame : Frame}

theorem raise_refuses (room : frame.host.atoms.Admits {badarg}) :
    frame.raise.1 = Word.nonValue ∧ frame.raise.2.env.heap = frame.env.heap ∧
      frame.raise.2.BadargPending := by
  obtain ⟨reason, host, entered⟩ :=
    Host.intern_of_admits room (Finset.mem_singleton_self badarg) (by decide)
  rw [raise, entered]
  exact ⟨rfl, rfl, reason, rfl, Host.atom?_of_intern entered⟩

theorem push_gives (room : frame.Room 1 ∅) (cell : Cell) :
    (frame.push cell).1 ≠ Word.nonValue ∧
    (frame.push cell).2.env.exception = frame.env.exception := by
  obtain ⟨built, stored⟩ := push_built room cell
  obtain ⟨place, reference⟩ := Environment.boxed?_of_cell? stored
  exact ⟨Word.ne_nonValue_of_boxed? reference, built.exception⟩

theorem makeInt_gives (room : frame.Room 1 ∅) (value : Int64) :
    (frame.makeInt value).1 ≠ Word.nonValue ∧
      (frame.makeInt value).2.env.exception = frame.env.exception := by
  have few : integerCells value ≤ 1 := by
    unfold integerCells
    split <;> decide
  have made := makeInt_makes (room.mono few subset_rfl)
  exact ⟨made.proper, made.built.exception⟩

/-- A name that is too long is refused, and any other gets its atom. -/
theorem makeAtom_cases (spare : frame.Spare) (name : Bytes) :
    ((frame.makeAtom name).1 ≠ Word.nonValue ∧ ¬ frame.host.atoms.Refuses name ∧
        (frame.makeAtom name).2.env.exception = frame.env.exception) ∨
      ((frame.makeAtom name).1 = Word.nonValue ∧ frame.host.atoms.Refuses name ∧
        (frame.makeAtom name).2.env.heap = frame.env.heap ∧
        (frame.makeAtom name).2.BadargPending) := by
  by_cases short : name.length ≤ Interface.maxAtomLength
  · have made := makeAtom_makes ⟨spare.slot.le, spare.admits name⟩ short
    obtain ⟨index, table, entered⟩ :=
      AtomTable.intern_of_admits (spare.admits name) (Finset.mem_singleton_self name) short
    exact Or.inl ⟨made.proper, AtomTable.not_refuses_of_intern entered, made.built.exception⟩
  · have refuses : frame.host.atoms.Refuses name := Or.inl (Nat.not_le.mp short)
    unfold makeAtom
    split
    · rename_i entered
      obtain ⟨index, inTable, -⟩ := Host.intern_cases entered
      exact absurd refuses (AtomTable.not_refuses_of_intern inTable)
    · rename_i refusal _
      have room : (frame.note (.atomRejected refusal)).host.atoms.Admits {badarg} :=
        spare.admits badarg
      obtain ⟨missing, heap, pending⟩ := raise_refuses room
      exact Or.inr ⟨missing, refuses, heap, pending⟩

end Frame

/-! ### The makers that report -/

namespace Make

section Reports

variable {frame : Frame}

theorem tryLong_gives (room : frame.Room 1 ∅) (value : Int64) : (tryLong value).Gives frame := by
  obtain ⟨proper, exception⟩ := Frame.makeInt_gives room value
  exact ⟨Attempt.Every.not_raises (.lift (.ofRequest fun _ => id)), _, _,
    outcome_tryLong frame value, proper, exception⟩

theorem tryDouble_gives (room : frame.Room 1 ∅) {value : Float} (finite : value.isFinite) :
    (tryDouble value).Gives frame := by
  have outcome := outcome_tryDouble frame value
  rw [if_pos finite] at outcome
  obtain ⟨proper, exception⟩ := Frame.push_gives room (.float value)
  refine ⟨Attempt.Every.not_raises ?_, _, _, outcome, proper, exception⟩
  unfold tryDouble
  rw [if_pos finite]
  exact .lift (.ofRequest fun _ => not_not.mpr finite)

theorem tryDouble_declines (frame : Frame) {value : Float} (infinite : ¬ value.isFinite) :
    (tryDouble value).Declines frame := by
  have outcome := outcome_tryDouble frame value
  rw [if_neg infinite] at outcome
  exact ⟨_, _, outcome, rfl, rfl⟩

theorem tryAtom_gives (spare : frame.Spare) {name : String} (valid : IsAtomName name) :
    (tryAtom name).Gives frame := by
  have outcome := outcome_tryAtom frame name
  rw [if_pos valid] at outcome
  obtain ⟨-, whole, short⟩ := nameBytes_facts valid
  have found : atomName? name = some (Value.nameBytes name) :=
    atomName?_eq_some_iff.mpr ⟨valid, rfl⟩
  obtain ⟨proper, taken, exception⟩ | ⟨missing, -⟩ :=
    Frame.makeAtom_cases spare (Value.nameBytes name)
  · refine ⟨?_, _, _, outcome, proper, exception⟩
    unfold tryAtom
    rw [found]
    show ¬ Program.Raises (Program.ofRequest _ >>= _) frame
    rw [Program.raises_bind, Program.raises_ofRequest]
    refine not_or.mpr ⟨?_, Program.not_raises_pure _⟩
    show ¬ frame.host.atoms.Refuses (Value.nameBytes name).terminated
    rwa [whole]
  · have made := Frame.makeAtom_makes ⟨spare.slot.le, spare.admits (Value.nameBytes name)⟩ short
    exact absurd missing made.proper

theorem tryAtom_declines (frame : Frame) {name : String} (invalid : ¬ IsAtomName name) :
    (tryAtom name).Declines frame := by
  have outcome := outcome_tryAtom frame name
  rw [if_neg invalid] at outcome
  exact ⟨_, _, outcome, rfl, rfl⟩

theorem tryTuple_gives (room : frame.Room 1 ∅) {elements : List Word}
    (few : elements.length < 0x100000000) :
    (tryTuple elements).Gives frame := by
  obtain ⟨proper, exception⟩ := Frame.push_gives room (.tuple elements)
  refine ⟨Attempt.Every.not_raises ?_, _, _, outcome_tryTuple frame few, proper, exception⟩
  unfold tryTuple
  split
  · exact .lift (.ofRequest fun _ => id)
  · exact .throw _

theorem tryTuple_declines (frame : Frame) {elements : List Word}
    (many : ¬ elements.length < 0x100000000) :
    (tryTuple elements).Declines frame := by
  have none : Request.length? elements.length = none := if_neg many
  refine ⟨.shapeMismatch "tuple with a C unsigned int element count", frame, ?_, rfl, rfl⟩
  rw [tryTuple, none]
  exact Attempt.outcome_throw _ frame

theorem tryBinary_gives (room : frame.Room 1 ∅) {bytes : Bytes}
    (fits : bytes.length < Interface.allocationLimit) : (tryBinary bytes).Gives frame := by
  obtain ⟨proper, exception⟩ := Frame.push_gives room (.binary bytes)
  refine ⟨Attempt.Every.not_raises ?_, _, _, outcome_tryBinary frame fits, proper, exception⟩
  refine .bind ?_ fun buffer => .lift (.ofRequest fun _ => id)
  refine .bind (.ask (fun _ => id) fun _ => ?_) fun _ => .pure _
  exact .bind (.ofExcept _) fun _ => .pure _

theorem tryBinary_declines (frame : Frame) {bytes : Bytes}
    (large : ¬ bytes.length < Interface.allocationLimit) : (tryBinary bytes).Declines frame :=
  ⟨_, _, outcome_tryBinary_of_large frame large, rfl, rfl⟩

/-! ### The makers that raise -/

/-- The form that raises does the same where the one that reports gives a term. -/
theorem orRaise_gives {attempt : Attempt Word} (gives : attempt.Gives frame) :
    (orRaise attempt).Gives frame ∧
      ∃ word after, attempt.outcome frame = (.ok word, after) ∧
        (orRaise attempt).run frame = (word, after) := by
  obtain ⟨quiet, word, after, outcome, proper, exception⟩ := gives
  have run := run_orRaise attempt frame
  rw [outcome] at run
  refine ⟨⟨?_, ?_, ?_⟩, word, after, outcome, run⟩
  · rw [run]
    exact proper
  · rw [orRaise, Program.raises_bind]
    refine not_or.mpr ⟨quiet, ?_⟩
    rw [show attempt.run.run frame = _ from outcome]
    exact Program.not_raises_pure word
  · rw [run]
    exact exception

/-- It raises where the one that reports fails. -/
theorem orRaise_refuses {attempt : Attempt Word} (declines : attempt.Declines frame)
    (room : frame.host.atoms.Admits {Frame.badarg}) : (orRaise attempt).Refuses frame := by
  obtain ⟨fault, after, outcome, env, host⟩ := declines
  have run := run_orRaise attempt frame
  rw [outcome] at run
  have left : (after.note (.raising fault)).host.atoms.Admits {Frame.badarg} := by
    show after.host.silent.atoms.Admits {Frame.badarg}
    rw [host]
    exact room
  obtain ⟨missing, heap, pending⟩ := Frame.raise_refuses left
  refine ⟨?_, ?_, ?_, ?_⟩
  · rw [run]
    exact missing
  · rw [orRaise, Program.raises_bind, show attempt.run.run frame = _ from outcome]
    refine Or.inr ((Program.raises_bind _ _).mpr (Or.inr ?_))
    exact Program.raises_ofRequest.mpr trivial
  · rw [run]
    exact heap.trans (congrArg (fun env : Environment => env.heap) env)
  · rw [run]
    exact pending

theorem atom_gives (spare : frame.Spare) {name : String} (valid : IsAtomName name) :
    (atom name).Gives frame :=
  (orRaise_gives (tryAtom_gives spare valid)).1

theorem double_gives (room : frame.Room 1 ∅) {value : Float} (finite : value.isFinite) :
    (double value).Gives frame := by
  have run : (double value).run frame = frame.makeFloat value := if_pos finite
  obtain ⟨proper, exception⟩ := Frame.push_gives room (.float value)
  exact ⟨run ▸ proper, Program.raises_ofRequest.not.mpr (not_not.mpr finite), run ▸ exception⟩

/-- Here the host itself raises. -/
theorem double_refuses (room : frame.host.atoms.Admits {Frame.badarg}) {value : Float}
    (infinite : ¬ value.isFinite) : (double value).Refuses frame := by
  have run : (double value).run frame = frame.raise := if_neg infinite
  obtain ⟨missing, heap, pending⟩ := Frame.raise_refuses room
  exact ⟨run ▸ missing, Program.raises_ofRequest.mpr infinite, run ▸ heap, run ▸ pending⟩

/-- A pair of a name and a value takes one slot. -/
theorem tagged_gives (spare : frame.Spare) {name : String} (valid : IsAtomName name)
    (value : Word) :
    Program.Gives (do tuple [← atom name, value]) frame := by
  have made :=
    Frame.makeAtom_makes_of_isAtomName valid ⟨spare.slot.le, spare.admits (Value.nameBytes name)⟩
  have left : (frame.makeAtom (Value.nameBytes name)).2.Room 1 ∅ :=
    made.built.room_cells ⟨by rw [Nat.zero_add]; exact spare.slot, spare.admits _⟩
  rw [← run_atom valid] at left
  have named := atom_gives spare valid
  exact .bind named.quiet named.exception (orRaise_gives (tryTuple_gives left (by simp))).1

end Reports

end Make

/-! ### All constructors and readings -/

/-- The symbols that make a term, and the makers that raise. -/
inductive Constructor : Program Word → Prop
  | symbolBadarg : Constructor Symbol.makeBadarg
  | symbolInt (value : Int32) : Constructor (Symbol.makeInt value)
  | symbolLong (value : Int64) : Constructor (Symbol.makeLong value)
  | symbolDouble (value : Float) : Constructor (Symbol.makeDouble value)
  /-- The name may be a null pointer. -/
  | symbolAtom (name : Option Bytes) : Constructor (.ofRequest (.makeAtom name))
  | symbolTuple (elements : Option (List Word)) (count : UInt32) :
      Constructor (Symbol.makeTuple elements count)
  | symbolBinary (bin : Option Descriptor) : Constructor (Symbol.makeBinary bin)
  | badarg : Constructor Make.badarg
  | int (value : Int32) : Constructor (Make.int value)
  | long (value : Int64) : Constructor (Make.long value)
  | double (value : Float) : Constructor (Make.double value)
  | atom (name : String) : Constructor (Make.atom name)
  | bool (value : Bool) : Constructor (Make.bool value)
  | tuple (elements : List Word) : Constructor (Make.tuple elements)
  | ok (value : Word) : Constructor (Make.ok value)
  | error (reason : Word) : Constructor (Make.error reason)
  | binary (bytes : Bytes) : Constructor (Make.binary bytes)
  | text (text : String) : Constructor (Make.text text)

/-- A maker that reports, and its form that raises. -/
inductive Twins : Attempt Word → Program Word → Prop
  | long (value : Int64) : Twins (Make.tryLong value) (Make.long value)
  | double (value : Float) : Twins (Make.tryDouble value) (Make.double value)
  | atom (name : String) : Twins (Make.tryAtom name) (Make.atom name)
  | tuple (elements : List Word) : Twins (Make.tryTuple elements) (Make.tuple elements)
  | binary (bytes : Bytes) : Twins (Make.tryBinary bytes) (Make.binary bytes)

/-- The readings of a word: by a symbol, by native code, as a parameter, and for its kind. -/
inductive Inspection : {α : Type} → Attempt α → Prop
  | symbol {request : Request} {word : Word} {reply : request.Reply}
      (inspects : request.inspection? = some (word, reply)) :
      Inspection (liftM (Program.ofRequest request) : Attempt request.Reply)
  | int (word : Word) : Inspection (Read.int word)
  | long (word : Word) : Inspection (Read.long word)
  | double (word : Word) : Inspection (Read.double word)
  | atomLength (word : Word) : Inspection (Read.atomLength word)
  | atom (word : Word) : Inspection (Read.atom word)
  | listLength (word : Word) : Inspection (Read.listLength word)
  | charlist (word : Word) : Inspection (Read.charlist word)
  | binary (word : Word) : Inspection (Read.binary word)
  | decode (param : Param) (word : Word) : Inspection (param.decode word)
  | kind (word : Word) : Inspection (liftM (Example.Kind.probe word) : Attempt Example.Kind)

section Endings

variable {frame : Frame} {program : Program Word} {attempt : Attempt Word}

/-- **Each pair ends in one of two ways**: both give the same term and the same frame, or the one
declines and the other refuses. -/
theorem Twins.ends (twins : Twins attempt program) (spare : frame.Spare) :
    (attempt.Gives frame ∧ program.Gives frame ∧
        ∃ word after, attempt.outcome frame = (.ok word, after) ∧
          program.run frame = (word, after)) ∨
      (attempt.Declines frame ∧ program.Refuses frame) := by
  have given : ∀ {attempt : Attempt Word}, attempt.Gives frame → attempt.Gives frame ∧
      (Make.orRaise attempt).Gives frame ∧ ∃ word after, attempt.outcome frame = (.ok word, after) ∧
        (Make.orRaise attempt).run frame = (word, after) :=
    fun gives => ⟨gives, Make.orRaise_gives gives⟩
  have declined : ∀ {attempt : Attempt Word}, attempt.Declines frame →
      attempt.Declines frame ∧ (Make.orRaise attempt).Refuses frame :=
    fun declines => ⟨declines, Make.orRaise_refuses declines (spare.admits Frame.badarg)⟩
  cases twins with
  | long value => exact Or.inl (given (Make.tryLong_gives spare.cell value))
  | atom name =>
    by_cases valid : IsAtomName name
    · exact Or.inl (given (Make.tryAtom_gives spare valid))
    · exact Or.inr (declined (Make.tryAtom_declines frame valid))
  | tuple elements =>
    by_cases few : elements.length < 0x100000000
    · exact Or.inl (given (Make.tryTuple_gives spare.cell few))
    · exact Or.inr (declined (Make.tryTuple_declines frame few))
  | binary bytes =>
    by_cases fits : bytes.length < Interface.allocationLimit
    · exact Or.inl (given (Make.tryBinary_gives spare.cell fits))
    · exact Or.inr (declined (Make.tryBinary_declines frame fits))
  | double value =>
    -- The raising form does not go through the one that reports: the host checks the value itself.
    by_cases finite : value.isFinite
    · have outcome := Make.outcome_tryDouble frame value
      rw [if_pos finite] at outcome
      exact Or.inl ⟨Make.tryDouble_gives spare.cell finite, Make.double_gives spare.cell finite,
        _, _, outcome, if_pos finite⟩
    · exact Or.inr ⟨Make.tryDouble_declines frame finite,
        Make.double_refuses (spare.admits Frame.badarg) finite⟩

/-- **Every constructor ends in one of two ways**: it gives a term, or it refuses. -/
theorem Constructor.ends (constructor : Constructor program) (spare : frame.Spare) :
    program.Gives frame ∨ program.Refuses frame := by
  have raised := Frame.raise_refuses (spare.admits Frame.badarg)
  cases constructor with
  | symbolBadarg | badarg =>
    obtain ⟨missing, heap, pending⟩ := raised
    exact Or.inr ⟨missing, Program.raises_ofRequest.mpr trivial, heap, pending⟩
  | symbolInt value | int value =>
    obtain ⟨proper, exception⟩ := Frame.makeInt_gives spare.cell value.toInt64
    exact Or.inl ⟨proper, Program.raises_ofRequest.not.mpr id, exception⟩
  | symbolLong value =>
    obtain ⟨proper, exception⟩ := Frame.makeInt_gives spare.cell value
    exact Or.inl ⟨proper, Program.raises_ofRequest.not.mpr id, exception⟩
  | symbolDouble value | double value => exact (Twins.double value |>.ends spare).imp (·.2.1) (·.2)
  | symbolAtom name =>
    cases name with
    | none =>
      obtain ⟨missing, heap, pending⟩ := raised
      exact Or.inr ⟨missing, Program.raises_ofRequest.mpr trivial, heap, pending⟩
    | some name =>
      obtain ⟨proper, taken, exception⟩ | ⟨missing, refuses, heap, pending⟩ :=
        Frame.makeAtom_cases spare name.terminated
      · exact Or.inl ⟨proper, Program.raises_ofRequest.not.mpr taken, exception⟩
      · exact Or.inr ⟨missing, Program.raises_ofRequest.mpr refuses, heap, pending⟩
  | symbolTuple elements count =>
    by_cases empty : count = 0
    · have run : (Symbol.makeTuple elements count).run frame = frame.makeTuple [] := if_pos empty
      obtain ⟨proper, exception⟩ := Frame.push_gives spare.cell (.tuple [])
      refine Or.inl ⟨run ▸ proper, Program.raises_ofRequest.not.mpr ?_, run ▸ exception⟩
      cases elements with
      | none => exact fun raises => raises empty
      | some words => exact id
    · cases elements with
      | none =>
        have run : (Symbol.makeTuple none count).run frame = frame.raise := if_neg empty
        obtain ⟨missing, heap, pending⟩ := raised
        exact Or.inr ⟨run ▸ missing, Program.raises_ofRequest.mpr empty, run ▸ heap, run ▸ pending⟩
      | some words =>
        have run : (Symbol.makeTuple (some words) count).run frame =
            frame.makeTuple (words.take count.toNat) := if_neg empty
        obtain ⟨proper, exception⟩ := Frame.push_gives spare.cell (.tuple (words.take count.toNat))
        exact Or.inl ⟨run ▸ proper, Program.raises_ofRequest.not.mpr id, run ▸ exception⟩
  | symbolBinary bin =>
    rcases bin with _ | ⟨_ | bytes⟩
    · obtain ⟨missing, heap, pending⟩ := raised
      exact Or.inr ⟨missing, Program.raises_ofRequest.mpr trivial, heap, pending⟩
    · obtain ⟨proper, exception⟩ := Frame.push_gives spare.cell (.binary [])
      exact Or.inl ⟨proper, Program.raises_ofRequest.not.mpr id, exception⟩
    · have reclaimed : { frame with host := frame.host.reclaim }.Room 1 ∅ :=
        ⟨spare.cell.slots, spare.cell.atoms⟩
      obtain ⟨proper, exception⟩ := Frame.push_gives reclaimed (.binary bytes)
      exact Or.inl ⟨proper, Program.raises_ofRequest.not.mpr id, exception⟩
  | long value => exact (Twins.long value |>.ends spare).imp (·.2.1) (·.2)
  | atom name => exact (Twins.atom name |>.ends spare).imp (·.2.1) (·.2)
  | bool value => exact (Twins.atom _ |>.ends spare).imp (·.2.1) (·.2)
  | tuple elements => exact (Twins.tuple elements |>.ends spare).imp (·.2.1) (·.2)
  | ok value => exact Or.inl (Make.tagged_gives spare (by decide) value)
  | error reason => exact Or.inl (Make.tagged_gives spare (by decide) reason)
  | binary bytes => exact (Twins.binary bytes |>.ends spare).imp (·.2.1) (·.2)
  | text text => exact (Twins.binary _ |>.ends spare).imp (·.2.1) (·.2)

/-- **A reading changes nothing.** -/
theorem Inspection.reads {α : Type} {attempt : Attempt α} (inspection : Inspection attempt) :
    attempt.Reads := by
  cases inspection with
  | @symbol request word reply inspects =>
    refine .lift (.ofRequest fun frame => ?_)
    cases request with
    | makeBadarg | makeInt _ | makeLong _ | makeDouble _ | makeAtom _ | makeTuple _ _ | makeBinary _
    | allocBinary _ _ | releaseBinary _ | report _ => cases inspects
    | _ => rfl
  | int word => exact Read.int_reads word
  | long word => exact Read.long_reads word
  | double word => exact Read.double_reads word
  | atomLength word => exact Read.atomLength_reads word
  | atom word => exact Read.atom_reads word
  | listLength word => exact Read.listLength_reads word
  | charlist word => exact Read.charlist_reads word
  | binary word => exact Read.binary_reads word
  | decode param word => exact param.decode_reads word
  | kind word => exact .lift (Example.Kind.probe_reads word)

end Endings

namespace Frame

/-- **No value and a raised `badarg` go together.** While neither the heap nor the atom table is
exhausted, and whatever exception is pending: each constructor gives no value exactly if it raises
itself, and then `badarg` is pending and the heap as it was; a maker that reports gives a term and
leaves the pending exception alone, and its form that raises gives the same term in the same frame,
or it fails, at most with a report, and its form that raises refuses. A reading leaves any frame as
it was. -/
theorem nonValue_iff_raises {frame : Frame} (spare : frame.Spare) :
    (∀ program, Constructor program →
      ((program.run frame).1 = Word.nonValue ↔ program.Raises frame) ∧
      (program.Raises frame → (program.run frame).2.env.heap = frame.env.heap ∧
        (program.run frame).2.BadargPending) ∧
      (¬ program.Raises frame → (program.run frame).2.env.exception = frame.env.exception)) ∧
    (∀ attempt program, Twins attempt program →
      (∃ word after, attempt.outcome frame = (.ok word, after) ∧ word ≠ Word.nonValue ∧
        after.env.exception = frame.env.exception ∧ program.run frame = (word, after)) ∨
      (∃ fault after, attempt.outcome frame = (.error fault, after) ∧ after.env = frame.env ∧
        after.host.silent = frame.host.silent ∧ (program.run frame).1 = Word.nonValue ∧
        (program.run frame).2.BadargPending ∧ (program.run frame).2.env.heap = frame.env.heap)) ∧
    ∀ (α : Type) (attempt : Attempt α), Inspection attempt → ∀ other : Frame,
      (attempt.outcome other).2 = other := by
  refine ⟨fun program constructor => ?_, fun attempt program twins => ?_,
    fun α attempt inspection => Attempt.outcome_of_reads inspection.reads⟩
  · obtain ⟨proper, quiet, exception⟩ | ⟨missing, raises, heap, pending⟩ := constructor.ends spare
    · exact ⟨iff_of_false proper quiet, fun raises => absurd raises quiet, fun _ => exception⟩
    · exact ⟨iff_of_true missing raises, fun _ => ⟨heap, pending⟩, fun quiet => absurd raises quiet⟩
  · obtain ⟨⟨-, word, after, outcome, proper, exception⟩, -, _, _, same, run⟩ |
      ⟨⟨fault, after, outcome, env, host⟩, refuses⟩ := twins.ends spare
    · cases outcome.symm.trans same
      exact Or.inl ⟨word, after, outcome, proper, exception, run⟩
    · exact Or.inr
        ⟨fault, after, outcome, env, host, refuses.missing, refuses.pending, refuses.heap⟩

/-- With an exception pending already: a name that no atom can have fails without a trace, and
raises in the other form; the pair of `ok` and nothing at all is still a term. -/
theorem nonValue_iff_raises_snowman :
    ∃ frame : Frame, frame.Spare ∧ frame.env.exception = some Word.nil ∧
      (Make.atom "☃").Raises frame ∧ ((Make.atom "☃").run frame).1 = Word.nonValue ∧
      ((Make.atom "☃").run frame).2.BadargPending ∧
      ((Make.ok Word.nonValue).run frame).1 ≠ Word.nonValue := by
  let frame : Frame := ⟨{ id := 1, exception := some Word.nil }, {}⟩
  have spare : frame.Spare := ⟨by decide, by decide⟩
  obtain ⟨constructors, -, -⟩ := nonValue_iff_raises spare
  obtain ⟨snowman, refused, -⟩ := constructors _ (.atom "☃")
  have missing : ((Make.atom "☃").run frame).1 = Word.nonValue := rfl
  have proper : ((Make.ok Word.nonValue).run frame).1 ≠ Word.nonValue := by decide
  exact ⟨frame, spare, rfl, snowman.mp missing, missing, (refused (snowman.mp missing)).2, proper⟩

end Frame

end Nif
