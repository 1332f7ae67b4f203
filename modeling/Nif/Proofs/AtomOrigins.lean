import Nif.Proofs.CanonicalAtoms
import Nif.Proofs.Description
import Nif.Proofs.Refusals

/-!
**Where the host's atoms and those of native code agree.**

The host makes the atom of a text from its UTF-8 bytes, native code from its Latin-1 bytes. Names in
the table are Latin-1, so that the host's way is right only where both encodings are the same.

* `latin1?_eq_utf8Bytes_iff`: the two encodings of a text are the same exactly if it is ASCII.
* `AtomOrigin.bytes?`: the bytes that either side enters for a text, `AtomOrigin.make_spec`: what it
  gives.
* `Frame.origins_differ_accented`: for the text é the two sides give different atoms.
* `Frame.origins_agree_iff`: they agree exactly on ASCII texts without a zero character, and on
  texts that both refuse.
-/

namespace Nif

/-! ### Two encodings -/

theorem utf8Size_eq_one_iff {c : Char} : c.utf8Size = 1 ↔ c.toNat < 0x80 := by
  rw [Char.utf8Size_eq_one_iff, UInt32.le_iff_toNat_le]
  exact Nat.lt_succ_iff.symm

/-- A text takes no fewer bytes than it has characters, and as many only if each takes one. -/
theorem length_le_utf8 (chars : List Char) :
    chars.length ≤ (chars.flatMap String.utf8EncodeChar).length ∧
      ((chars.flatMap String.utf8EncodeChar).length = chars.length →
        ∀ c ∈ chars, c.toNat < 0x80) := by
  induction chars with
  | nil => simp
  | cons c rest ih =>
    obtain ⟨le, ascii⟩ := ih
    have size := c.utf8Size_pos
    simp only [List.flatMap_cons, List.length_append, List.length_cons,
      String.length_utf8EncodeChar]
    refine ⟨by omega, fun same => List.forall_mem_cons.mpr ⟨?_, ascii (by omega)⟩⟩
    exact utf8Size_eq_one_iff.mp (by omega)

/-- **Both encodings of a text are the same exactly if it is ASCII.** -/
theorem latin1?_eq_utf8Bytes_iff {text : String} :
    latin1? text = some (utf8Bytes text) ↔ ∀ c ∈ text.toList, c.toNat < 0x80 := by
  rw [utf8Bytes_eq]
  constructor
  · intro read
    refine (length_le_utf8 text.toList).2 ?_
    rw [(latin1?_facts read).1, String.length_toList]
  · rw [latin1?_eq_some_iff]
    generalize text.toList = chars
    intro ascii
    induction chars with
    | nil => exact .nil
    | cons c rest ih =>
      obtain ⟨low, others⟩ := List.forall_mem_cons.mp ascii
      rw [List.flatMap_cons, String.utf8EncodeChar_eq_singleton (utf8Size_eq_one_iff.mpr low)]
      refine .cons ?_ (ih others)
      show c.toNat = c.toNat % 256
      omega

/-- All characters are ASCII, and none is zero. -/
def IsPlain (text : String) : Prop := ∀ c ∈ text.toList, 0 < c.toNat ∧ c.toNat < 0x80

theorem latin1?_of_isPlain {text : String} (plain : IsPlain text) :
    latin1? text = some (utf8Bytes text) :=
  latin1?_eq_utf8Bytes_iff.mpr fun c member => (plain c member).2

/-- A plain text is the name of an atom unless it is too long. -/
theorem isAtomName_iff_of_isPlain {text : String} (plain : IsPlain text) :
    IsAtomName text ↔ (utf8Bytes text).length ≤ Interface.maxAtomLength := by
  have length := (latin1?_facts (latin1?_of_isPlain plain)).1
  refine ⟨fun valid => length ▸ valid.short,
    fun short => ⟨fun c member => ?_, fun zero => ?_, length ▸ short⟩⟩
  · have low := (plain c member).2
    omega
  · exact absurd (plain _ zero).1 (by decide)

/-! ### Two sides -/

/-- Who makes the atom of a text: the host, or native code at the boundary. -/
inductive AtomOrigin where
  | host
  | boundary

namespace AtomOrigin

/-- Makes the atom of a text. -/
def make : AtomOrigin → String → Frame → Word × Frame
  | host, name, frame => frame.makeAtomText name
  | boundary, name, frame => (Make.atom name).run frame

/-- The bytes that are entered for a text, if it is not refused. -/
def bytes? : AtomOrigin → String → Option Bytes
  | host, name =>
    if (utf8Bytes name).length ≤ Interface.maxAtomLength then some (utf8Bytes name) else none
  | boundary, name => Make.atomName? name

/-- The names that may be entered for a text, that of the exception included. -/
def names (name : String) : Finset Bytes := {utf8Bytes name, Value.nameBytes name, Frame.badarg}

/-- How making an atom ends: with the word of the bytes that were entered, or with `badarg`. -/
inductive Ends : Option Bytes → Word × Frame → Prop
  | entered {bytes : Bytes} {made : Word × Frame} (named : made.2.atom? made.1 = some bytes) :
    Ends (some bytes) made
  | refused {made : Word × Frame} (missing : made.1 = Word.nonValue)
      (pending : made.2.BadargPending) :
    Ends none made

section Makes

variable {frame : Frame} {name : String}

/-- What the table has room for, it has room for still when one of these names was entered. -/
theorem admits_of_intern {host after : Host} {names : Finset Bytes} {bytes : Bytes} {word : Word}
    (room : host.atoms.Admits names) (member : bytes ∈ names)
    (entered : host.intern bytes = .ok (word, after)) : after.atoms.Admits names := by
  obtain ⟨index, inTable, -⟩ := Host.intern_cases entered
  refine room.of_subset ?_ (AtomTable.limit_of_intern inTable)
  rcases AtomTable.names_of_intern inTable with same | appended
  · rw [same]
    exact Finset.subset_union_left
  · rw [appended, List.toFinset_append]
    refine Finset.union_subset_union_right ?_
    simpa using member

theorem raise_admits (frame : Frame) {names : Finset Bytes} (room : frame.host.atoms.Admits names)
    (member : Frame.badarg ∈ names) : frame.raise.2.host.atoms.Admits names := by
  unfold Frame.raise
  split
  · rename_i entered
    exact admits_of_intern room member entered
  · exact room

theorem makeAtom_admits {names : Finset Bytes} {bytes : Bytes}
    (room : frame.host.atoms.Admits names)
    (member : bytes ∈ names) (badarg : Frame.badarg ∈ names) :
    (frame.makeAtom bytes).2.host.atoms.Admits names := by
  unfold Frame.makeAtom
  split
  · rename_i entered
    exact admits_of_intern room member entered
  · exact raise_admits (frame.note _) room badarg

/-- A name of an admitted set gets its atom, unless it is too long. -/
theorem makeAtom_ends {names : Finset Bytes} {bytes : Bytes} (room : frame.host.atoms.Admits names)
    (member : bytes ∈ names) (badarg : Frame.badarg ∈ names) :
    Ends (if bytes.length ≤ Interface.maxAtomLength then some bytes else none)
      (frame.makeAtom bytes) := by
  by_cases short : bytes.length ≤ Interface.maxAtomLength
  · obtain ⟨word, host, entered⟩ := Host.intern_of_admits room member short
    rw [if_pos short, Frame.makeAtom, entered]
    exact .entered (Host.atom?_of_intern entered)
  · rw [if_neg short, Frame.makeAtom]
    split
    · rename_i entered
      obtain ⟨index, inTable, -⟩ := Host.intern_cases entered
      exact absurd (Or.inl (Nat.not_le.mp short)) (AtomTable.not_refuses_of_intern inTable)
    · rename_i refusal _
      have left : (frame.note (.atomRejected refusal)).host.atoms.Admits {Frame.badarg} :=
        room.mono (Finset.singleton_subset_iff.mpr badarg)
      obtain ⟨missing, -, pending⟩ := Frame.raise_refuses left
      exact .refused missing pending

/-- **What either side gives for a text**, and that there is room for the other side afterwards. -/
theorem make_spec (origin : AtomOrigin) (room : frame.host.atoms.Admits (names name)) :
    Ends (origin.bytes? name) (origin.make name frame) ∧
      (origin.make name frame).2.host.atoms.Admits (names name) := by
  have badarg : Frame.badarg ∈ names name := by simp [names]
  cases origin with
  | host =>
    have member : utf8Bytes name ∈ names name := by simp [names]
    exact ⟨makeAtom_ends room member badarg, makeAtom_admits room member badarg⟩
  | boundary =>
    have member : Value.nameBytes name ∈ names name := by simp [names]
    have run := Make.run_orRaise (Make.tryAtom name) frame
    rw [Make.outcome_tryAtom] at run
    by_cases valid : IsAtomName name
    · have bytes : Make.atomName? name = some (Value.nameBytes name) :=
        Make.atomName?_eq_some_iff.mpr ⟨valid, rfl⟩
      have ends := makeAtom_ends room member badarg
      rw [if_pos (Make.nameBytes_facts valid).2.2] at ends
      rw [make, Make.run_atom valid, bytes?, bytes]
      exact ⟨ends, makeAtom_admits room member badarg⟩
    · have bytes : Make.atomName? name = none := Make.atomName?_eq_none_iff.mpr valid
      rw [if_neg valid] at run
      have left : (frame.note (.raising (.invalidName name))).host.atoms.Admits {Frame.badarg} :=
        room.mono (Finset.singleton_subset_iff.mpr badarg)
      obtain ⟨missing, -, pending⟩ := Frame.raise_refuses left
      rw [make, bytes?, bytes, Make.atom, run]
      exact ⟨.refused missing pending, raise_admits (frame.note _) room badarg⟩

theorem make_grows (origin : AtomOrigin) (name : String) (frame : Frame) :
    frame.GrowsTo (origin.make name frame).2 := by
  cases origin with
  | host => exact frame.makeAtom_grows _
  | boundary => exact Program.run_grows _ frame

end Makes

end AtomOrigin

/-! ### Agreement -/

/-- Two attempts at the atom of a text agree: both gave the same word, which means the text, or both
gave no value and left `badarg` pending. -/
def AgreeOn (name : String) (made again : Word × Frame) : Prop :=
  (made.1 = again.1 ∧ made.2.decode? made.1 = some (.atom name) ∧
      again.2.decode? again.1 = some (.atom name)) ∨
    (made.1 = Word.nonValue ∧ made.2.BadargPending ∧ again.1 = Word.nonValue ∧
      again.2.BadargPending)

namespace Frame

/-- The atom of a text is made by one side and then by the other, and the two agree. -/
def OriginsAgree (frame : Frame) (first second : AtomOrigin) (name : String) : Prop :=
  AgreeOn name (first.make name frame) (second.make name (first.make name frame).2)

/-- The first environment of a host that has just started. -/
def lone : Frame := ⟨Session.fresh.host.openEnvironment.1, Session.fresh.host.openEnvironment.2⟩

/-- **The two sides do not always agree**: for é the host enters two bytes, which mean another text,
and native code enters one. -/
theorem origins_differ_accented :
    lone.host.atoms.Admits (AtomOrigin.names "é") ∧
      (AtomOrigin.host.make "é" lone).2.decode? (AtomOrigin.host.make "é" lone).1 =
        some (.atom "Ã©") ∧
      (AtomOrigin.boundary.make "é" lone).2.decode? (AtomOrigin.boundary.make "é" lone).1 =
        some (.atom "é") ∧
      ¬ lone.OriginsAgree .host .boundary "é" := by
  have other : (AtomOrigin.host.make "é" lone).2.decode? (AtomOrigin.host.make "é" lone).1 =
      some (.atom "Ã©") := rfl
  refine ⟨AtomTable.Admits.of_card (by decide), other, rfl, ?_⟩
  rintro (⟨-, means, -⟩ | ⟨missing, -⟩)
  · rw [other] at means
    have same : "Ã©" = "é" := Value.atom.inj (Option.some.inj means)
    exact absurd same (by decide)
  · exact absurd missing (by decide)

end Frame

section Agreement

variable {frame : Frame} {name : String}

/-- Attempts agree exactly if both entered the same bytes, or both none. -/
theorem agreeOn_iff {made again : Word × Frame} {one other : Option Bytes}
    (ends : AtomOrigin.Ends one made)
    (next : AtomOrigin.Ends other again) (grows : made.2.GrowsTo again.2)
    (text : ∀ bytes, one = some bytes → other = some bytes → bytes.latin1 = name) :
    AgreeOn name made again ↔ one = other := by
  have proper : ∀ {frame : Frame} {word : Word} {bytes : Bytes}, frame.atom? word = some bytes →
      word ≠ Word.nonValue := by
    intro frame word bytes named
    obtain ⟨index, tag, -⟩ := Option.bind_eq_some_iff.mp named
    exact Word.ne_nonValue_of_atomIndex? tag
  unfold AgreeOn
  cases ends with
  | entered named =>
    cases next with
    | refused missing => simp [missing, proper named]
    | entered second =>
      have still := AtomTable.atom?_of_prefix grows.names named
      constructor
      · rintro (⟨same, -⟩ | ⟨missing, -⟩)
        · rw [← same] at second
          exact still.symm.trans second
        · exact absurd missing (proper named)
      · intro same
        obtain rfl := Option.some.inj same
        have means := text _ rfl rfl
        refine Or.inl ⟨AtomTable.atom?_injective still second, ?_, ?_⟩
        · rw [← means]
          exact Environment.decodeWithin_of_atom? named _
        · rw [← means]
          exact Environment.decodeWithin_of_atom? second _
  | refused missing pending =>
    cases next with
    | entered second => simp [missing, (proper second).symm, proper second]
    | refused none raised => simp [missing, pending, none, raised]

/-- The bytes that the boundary enters mean the text. -/
theorem AtomOrigin.latin1_of_boundary {bytes : Bytes}
    (entered : boundary.bytes? name = some bytes) :
    bytes.latin1 = name := by
  obtain ⟨valid, rfl⟩ := Make.atomName?_eq_some_iff.mp entered
  exact (Make.nameBytes_facts valid).1

/-- **Both sides enter the same exactly for plain texts, and for texts that both refuse.** -/
theorem AtomOrigin.bytes?_eq_iff :
    host.bytes? name = boundary.bytes? name ↔
      IsPlain name ∨ (Interface.maxAtomLength < (utf8Bytes name).length ∧ ¬ IsAtomName name) := by
  by_cases valid : IsAtomName name
  · have entered : boundary.bytes? name = some (Value.nameBytes name) :=
      Make.atomName?_eq_some_iff.mpr ⟨valid, rfl⟩
    have read := Make.nameBytes_of_isAtomName valid
    rw [entered, bytes?, Option.ite_none_right_eq_some, Option.some.injEq]
    simp only [valid, not_true_eq_false, and_false, or_false]
    constructor
    · rintro ⟨-, same⟩
      have ascii := latin1?_eq_utf8Bytes_iff.mp (same ▸ read)
      refine fun c member => ⟨Nat.pos_of_ne_zero fun zero => ?_, ascii c member⟩
      have null : c = '\x00' := Char.toNat_inj.mp zero
      exact valid.noZero (null ▸ member)
    · intro plain
      have same := Option.some.inj (read.symm.trans (latin1?_of_isPlain plain))
      rw [← same]
      exact ⟨(Make.nameBytes_facts valid).2.2, rfl⟩
  · have refused : boundary.bytes? name = none := Make.atomName?_eq_none_iff.mpr valid
    rw [refused, bytes?, ite_eq_right_iff]
    simp only [reduceCtorEq, imp_false, Nat.not_le, valid, not_false_eq_true, and_true]
    refine ⟨Or.inr, ?_⟩
    rintro (plain | long)
    · by_contra short
      exact valid ((isAtomName_iff_of_isPlain plain).mpr (Nat.not_lt.mp short))
    · exact long

/-- **Where the two sides agree.** Whichever side comes first, they agree exactly on ASCII texts
without a zero character, and on texts that are no names of atoms and too long in UTF-8 as well. -/
theorem Frame.origins_agree_iff (room : frame.host.atoms.Admits (AtomOrigin.names name)) :
    (frame.OriginsAgree .host .boundary name ↔
      (∀ c ∈ name.toList, 0 < c.toNat ∧ c.toNat < 0x80) ∨
        (255 < (utf8Bytes name).length ∧ ¬ IsAtomName name)) ∧
    (frame.OriginsAgree .boundary .host name ↔
      (∀ c ∈ name.toList, 0 < c.toNat ∧ c.toNat < 0x80) ∨
        (255 < (utf8Bytes name).length ∧ ¬ IsAtomName name)) := by
  have agree : ∀ first second : AtomOrigin,
      (∀ bytes, first.bytes? name = some bytes → second.bytes? name = some bytes →
        bytes.latin1 = name) →
      (frame.OriginsAgree first second name ↔ first.bytes? name = second.bytes? name) := by
    intro first second text
    obtain ⟨ends, left⟩ := AtomOrigin.make_spec first room
    obtain ⟨next, -⟩ := AtomOrigin.make_spec second left
    exact agreeOn_iff ends next (second.make_grows name _) text
  have same : AtomOrigin.host.bytes? name = AtomOrigin.boundary.bytes? name ↔ _ :=
    AtomOrigin.bytes?_eq_iff
  refine ⟨?_, ?_⟩
  · rw [agree .host .boundary fun bytes _ entered => AtomOrigin.latin1_of_boundary entered]
    exact same
  · rw [agree .boundary .host fun bytes entered _ => AtomOrigin.latin1_of_boundary entered]
    exact eq_comm.trans same

/-- They agree on a word of ASCII, and on a text of 86 snowmen, which takes 258 bytes. -/
theorem Frame.origins_agree_iff_snowmen :
    lone.host.atoms.Admits (AtomOrigin.names "ok") ∧
      lone.host.atoms.Admits (AtomOrigin.names (String.ofList (List.replicate 86 '☃'))) ∧
      lone.OriginsAgree .host .boundary "ok" ∧ lone.OriginsAgree .boundary .host "ok" ∧
      lone.OriginsAgree .host .boundary (String.ofList (List.replicate 86 '☃')) := by
  have room : ∀ name, lone.host.atoms.Admits (AtomOrigin.names name) := fun name =>
    AtomTable.Admits.of_card ((Nat.add_le_add_left Finset.card_le_three _).trans (by decide))
  obtain ⟨early, late⟩ := origins_agree_iff (room "ok")
  obtain ⟨long, -⟩ := origins_agree_iff (room (String.ofList (List.replicate 86 '☃')))
  have plain : ∀ c ∈ "ok".toList, 0 < c.toNat ∧ c.toNat < 0x80 := by simp
  refine ⟨room _, room _, early.mpr (Or.inl plain), late.mpr (Or.inl plain),
    long.mpr (Or.inr ⟨?_, fun valid => ?_⟩)⟩
  · have size : ('☃').utf8Size = 3 := by decide
    rw [utf8Bytes_eq, String.toList_ofList, List.length_flatMap]
    simp [size]
  · have low := valid.latin1 '☃'
    rw [String.toList_ofList] at low
    exact absurd (low (List.mem_replicate.mpr ⟨by decide, rfl⟩)) (by decide)

end Agreement

end Nif
