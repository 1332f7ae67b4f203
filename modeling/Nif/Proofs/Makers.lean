import Nif.Make
import Nif.Proofs.Building

/-!
**What each maker does in a live environment.**

* `IsAtomName`: the texts that are names of atoms, and `Make.atomName?_eq_some_iff`: they are the
  ones whose bytes are handed to the host.
* `Make.outcome_tryLong`, `outcome_tryDouble`, `outcome_tryAtom`, `outcome_tryTuple`,
  `outcome_tryBinary`: a maker that reports either reports, and touches nothing, or does what one
  builder does.
* `Make.run_atom`, `Make.ok_makes`: what the makers that raise do where nothing is raised.
-/

namespace Nif

/-! ### The names of atoms -/

/-- A text that can be the name of an atom. -/
structure IsAtomName (name : String) : Prop where
  latin1 : ∀ c ∈ name.toList, c.toNat ≤ 0xFF
  noZero : '\x00' ∉ name.toList
  short : name.length ≤ Interface.maxAtomLength

instance (name : String) : Decidable (IsAtomName name) :=
  decidable_of_iff ((name.toList.all fun c => c.toNat ≤ 0xFF && c != '\x00') ∧
      name.length ≤ Interface.maxAtomLength) <| by
    constructor
    · rintro ⟨each, short⟩
      simp only [List.all_eq_true, Bool.and_eq_true, decide_eq_true_eq, bne_iff_ne] at each
      exact ⟨fun c member => (each c member).1, fun zero => (each _ zero).2 rfl, short⟩
    · rintro ⟨latin1, noZero, short⟩
      simp only [List.all_eq_true, Bool.and_eq_true, decide_eq_true_eq, bne_iff_ne]
      exact ⟨fun c member => ⟨latin1 c member, fun zero => noZero (zero ▸ member)⟩, short⟩

theorem latin1Byte?_eq_some_iff {c : Char} {byte : UInt8} :
    latin1Byte? c = some byte ↔ c.toNat = byte.toNat := by
  have below : byte.toNat < 256 := byte.toNat_lt
  simp only [latin1Byte?, Option.ite_none_right_eq_some, Option.some.injEq, ← UInt8.toNat_inj,
    UInt8.toNat_ofNat']
  omega

theorem latin1?_eq_some_iff {text : String} {bytes : Bytes} :
    latin1? text = some bytes ↔
      List.Forall₂ (fun c byte => c.toNat = byte.toNat) text.toList bytes := by
  simp only [latin1?, mapM_eq_some_iff, latin1Byte?_eq_some_iff]

/-- A text has Latin-1 bytes exactly if no character is beyond U+00FF. -/
theorem latin1?_isSome_iff {text : String} :
    (latin1? text).isSome ↔ ∀ c ∈ text.toList, c.toNat ≤ 0xFF := by
  rw [latin1?]
  induction text.toList with
  | nil => simp
  | cons c rest ih =>
    simp only [List.mapM_cons, List.forall_mem_cons, ← ih]
    by_cases low : c.toNat ≤ 0xFF
    · have byte : latin1Byte? c = some (UInt8.ofNat c.toNat) := if_pos (by omega)
      cases rest.mapM latin1Byte? <;> simp [byte, low]
    · have none : latin1Byte? c = none := if_neg (by omega)
      simp [none, low]

/-- The bytes of a text, and what they say about it. -/
theorem latin1?_facts {text : String} {bytes : Bytes} (read : latin1? text = some bytes) :
    bytes.length = text.length ∧ (0 ∈ bytes ↔ '\x00' ∈ text.toList) := by
  have pairs := latin1?_eq_some_iff.mp read
  refine ⟨by rw [← pairs.length_eq, String.length_toList], ?_⟩
  clear read
  generalize text.toList = chars at pairs
  induction pairs with
  | nil => simp
  | @cons c byte rest others same _ ih =>
    have zero : 0 = byte ↔ '\x00' = c := by
      rw [← UInt8.toNat_inj, ← Char.toNat_inj, same]
      rfl
    simp [zero, ih]

/-- Reading bytes as Latin-1 loses nothing, and gives one character for each byte. -/
theorem Bytes.latin1_injective : Function.Injective Bytes.latin1 := by
  intro one two same
  have read := latin1?_latin1 one
  rw [same, latin1?_latin1] at read
  exact (Option.some.inj read).symm

namespace Make

theorem nameBytes_of_isAtomName {name : String} (valid : IsAtomName name) :
    latin1? name = some (Value.nameBytes name) := by
  obtain ⟨bytes, read⟩ := Option.isSome_iff_exists.mp (latin1?_isSome_iff.mpr valid.latin1)
  rw [Value.nameBytes, read, Option.getD_some]

/-- **The bytes of exactly the names of atoms are handed on.** -/
theorem atomName?_eq_some_iff {name : String} {bytes : Bytes} :
    atomName? name = some bytes ↔ IsAtomName name ∧ bytes = Value.nameBytes name := by
  rw [atomName?, Option.filter_eq_some_iff]
  constructor
  · rintro ⟨read, kept⟩
    obtain ⟨length, zero⟩ := latin1?_facts read
    simp only [Bool.and_eq_true, decide_eq_true_eq, Bool.not_eq_true', List.contains_eq_mem,
      decide_eq_false_iff_not] at kept
    refine ⟨⟨latin1?_isSome_iff.mp (by rw [read]; rfl), fun member => kept.2 (zero.mpr member),
      length ▸ kept.1⟩, ?_⟩
    rw [Value.nameBytes, read, Option.getD_some]
  · rintro ⟨valid, rfl⟩
    have read := nameBytes_of_isAtomName valid
    obtain ⟨length, zero⟩ := latin1?_facts read
    refine ⟨read, ?_⟩
    simp only [Bool.and_eq_true, decide_eq_true_eq, Bool.not_eq_true', List.contains_eq_mem,
      decide_eq_false_iff_not, length, zero]
    exact ⟨valid.short, valid.noZero⟩

theorem atomName?_eq_none_iff {name : String} : atomName? name = none ↔ ¬ IsAtomName name := by
  rw [Option.eq_none_iff_forall_ne_some]
  exact ⟨fun none valid => none _ (atomName?_eq_some_iff.mpr ⟨valid, rfl⟩),
    fun invalid _ found => invalid (atomName?_eq_some_iff.mp found).1⟩

/-- The bytes of a name are the name again, end before their first zero byte, and are not too many.
-/
theorem nameBytes_facts {name : String} (valid : IsAtomName name) :
    (Value.nameBytes name).latin1 = name ∧
    (Value.nameBytes name).terminated = Value.nameBytes name ∧
      (Value.nameBytes name).length ≤ Interface.maxAtomLength := by
  have read := nameBytes_of_isAtomName valid
  obtain ⟨length, zero⟩ := latin1?_facts read
  exact ⟨Bytes.latin1_of_latin1? read,
    Bytes.terminated_of_not_mem fun member => valid.noZero (zero.mp member), length ▸ valid.short⟩

end Make

/-- **The atom of a name is a term that means this name.** -/
theorem Frame.makeAtom_makes_of_isAtomName {frame : Frame} {name : String} (valid : IsAtomName name)
    (room : frame.Room 0 {Value.nameBytes name}) :
    frame.Makes (frame.makeAtom (Value.nameBytes name)) (.atom name) 0 {Value.nameBytes name} := by
  obtain ⟨same, -, short⟩ := Make.nameBytes_facts valid
  have made := makeAtom_makes room short
  rwa [same] at made

namespace Make

/-! ### The makers that report -/

section Outcomes

variable (frame : Frame)

theorem outcome_tryLong (value : Int64) :
    (tryLong value).outcome frame = (.ok (frame.makeInt value).1, (frame.makeInt value).2) := by
  rw [tryLong, Attempt.outcome_lift, Symbol.run_makeLong]

theorem outcome_tryDouble (value : Float) :
    (tryDouble value).outcome frame =
      if value.isFinite then (.ok (frame.makeFloat value).1, (frame.makeFloat value).2)
      else (.error (.shapeMismatch "finite float"), frame) := by
  unfold tryDouble double
  split
  · rename_i finite
    rw [Attempt.outcome_lift, Symbol.run_makeDouble, if_pos finite]
  · exact Attempt.outcome_throw _ frame

theorem outcome_tryAtom (name : String) :
    (tryAtom name).outcome frame =
      if IsAtomName name then
        (.ok (frame.makeAtom (Value.nameBytes name)).1, (frame.makeAtom (Value.nameBytes name)).2)
      else (.error (.invalidName name), frame) := by
  unfold tryAtom
  split
  · rename_i bytes found
    obtain ⟨valid, rfl⟩ := atomName?_eq_some_iff.mp found
    rw [if_pos valid, Attempt.outcome_lift, Symbol.run_makeAtom, (nameBytes_facts valid).2.1]
  · rename_i missing
    rw [if_neg (atomName?_eq_none_iff.mp missing), Attempt.outcome_throw]

theorem outcome_tryTuple {elements : List Word} (few : elements.length < 0x100000000) :
    (tryTuple elements).outcome frame =
      (.ok (frame.makeTuple elements).1, (frame.makeTuple elements).2) := by
  have count : Request.length? elements.length = some (UInt32.ofNat elements.length) := if_pos few
  have size : (UInt32.ofNat elements.length).toNat = elements.length := by
    rw [UInt32.toNat_ofNat', Nat.mod_eq_of_lt few]
  unfold tryTuple
  rw [count]
  simp only [Attempt.outcome_lift, Symbol.run_makeTuple, Request.makeTupleFrom]
  split
  · rename_i zero
    have empty : elements = [] := by
      rw [← List.length_eq_zero_iff, ← size, zero]
      rfl
    rw [empty]
  · rw [size, List.take_length]

/-- A buffer that takes a copy shows that copy. -/
theorem write?_zeros (bytes : Bytes) :
    Buffer.write? ⟨List.replicate bytes.length 0⟩ 0 bytes = some ⟨bytes⟩ := by
  simp [Buffer.write?, Buffer.descriptor, Descriptor.write?, Descriptor.bytes]

/-- The buffer is counted while it is filled, and no longer once it is a term. -/
theorem outcome_tryBinary {bytes : Bytes} (fits : bytes.length < Interface.allocationLimit) :
    (tryBinary bytes).outcome frame =
      (.ok (frame.makeBinary bytes).1, (frame.makeBinary bytes).2) := by
  have allocated : (Buffer.ofBytes bytes).outcome frame = (.ok ⟨bytes⟩,
      { frame with host := { frame.host with outstanding := frame.host.outstanding + 1 } }) := by
    simp [Buffer.ofBytes, Buffer.allocate, Host.allocBinary, fits, ensure, Descriptor.bytes,
      write?_zeros]
  unfold tryBinary
  rw [Attempt.outcome_bind, allocated]
  rfl

/-- Where there is no memory for the bytes, the host reports that and nothing is made. -/
theorem outcome_tryBinary_of_large {bytes : Bytes}
    (large : ¬ bytes.length < Interface.allocationLimit) :
    (tryBinary bytes).outcome frame =
      (.error (.allocationFailed bytes.length), frame.note (.allocationRefused bytes.length)) := by
  have refused : (Buffer.ofBytes bytes).outcome frame =
      (.error (.allocationFailed bytes.length), frame.note (.allocationRefused bytes.length)) := by
    simp [Buffer.ofBytes, Buffer.allocate, Host.allocBinary, large, ensure, Frame.note]
  unfold tryBinary
  rw [Attempt.outcome_bind, refused]

end Outcomes

/-! ### The makers that raise -/

/-- The term, or a report of the cause and `badarg`. -/
theorem run_orRaise (attempt : Attempt Word) (frame : Frame) :
    (orRaise attempt).run frame =
      match attempt.outcome frame with
      | (.ok word, after) => (word, after)
      | (.error fault, after) => (after.note (.raising fault)).raise := by
  rw [orRaise, Program.run_bind, Attempt.outcome]
  rcases attempt.run.run frame with ⟨_ | _, after⟩ <;> rfl

theorem run_atom {name : String} (valid : IsAtomName name) (frame : Frame) :
    (atom name).run frame = frame.makeAtom (Value.nameBytes name) := by
  rw [atom, run_orRaise, outcome_tryAtom, if_pos valid]

/-- The pair of `ok` and a term. -/
theorem ok_makes {frame : Frame} {word : Word} {value : Value}
    (meaning : frame.decode? word = some value) (whole : value.Whole)
    (room : frame.Room 1 {Value.nameBytes "ok"}) :
    frame.Makes ((ok word).run frame) (.tuple [.atom "ok", value]) 1 {Value.nameBytes "ok"} := by
  have valid : IsAtomName "ok" := by decide
  have name := Frame.makeAtom_makes_of_isAtomName valid (room.mono (Nat.zero_le _) subset_rfl)
  have means : (frame.makeAtom (Value.nameBytes "ok")).2.Means
      [(frame.makeAtom (Value.nameBytes "ok")).1, word] [.atom "ok", value] :=
    .cons name.meaning (.cons (Frame.decode?_grows name.built.grows meaning whole) .nil)
  have pair := Frame.makeTuple_makes (name.built.room_cells (room.mono le_rfl subset_rfl)) means (by
    simp only [List.forall_mem_cons]
    exact ⟨.atom _, whole, List.forall_mem_nil _⟩)
  have run : (ok word).run frame = (frame.makeAtom (Value.nameBytes "ok")).2.makeTuple
      [(frame.makeAtom (Value.nameBytes "ok")).1, word] := by
    rw [ok, Program.run_bind, run_atom valid, tuple, run_orRaise, outcome_tryTuple _ (by simp)]
  rw [run]
  exact ⟨name.built.trans_cells pair.built, pair.proper, pair.meaning⟩

end Make

end Nif
