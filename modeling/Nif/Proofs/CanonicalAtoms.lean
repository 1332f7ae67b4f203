import Nif.Proofs.Interning
import Nif.Proofs.Makers
import Nif.Proofs.Permanence
import Nif.Proofs.Reading

/-!
**One atom for each name, in every environment and for good.**

* `AtomTable.atom?_injective`: a name has one word only.
* `Frame.makeAtom_of_atom?`: making the atom of a name that is in the table gives this word again,
  and changes nothing.
* `Frame.Canonical`: in an environment the word is read as the name, and is what this name and no
  other is made into.
* `Session.atoms_canonical`: an atom made in one environment is canonical in every environment, then
  and after any further run.
-/

namespace Nif

/-! ### Names in the table -/

/-- A name has one word only. -/
theorem AtomTable.atom?_injective {table : AtomTable} {first second : Word} {name : Bytes}
    (one : table.atom? first = some name) (other : table.atom? second = some name) :
    first = second := by
  obtain ⟨index, tag, named⟩ := Option.bind_eq_some_iff.mp one
  obtain ⟨place, otherTag, again⟩ := Option.bind_eq_some_iff.mp other
  have same : some index = some place :=
    (name?_eq_some_iff.mp named).symm.trans (name?_eq_some_iff.mp again)
  rw [← Word.ofAtomIndex_of_atomIndex? tag, Option.some.inj same,
    Word.ofAtomIndex_of_atomIndex? otherTag]

/-- A name that is in the table is found there. -/
theorem AtomTable.intern_of_index? {table : AtomTable} {name : Bytes} {index : Nat}
    (found : table.index? name = some index) : table.intern name = .ok (index, table) := by
  have short := table.short name (List.mem_of_getElem? (name?_of_index? found))
  rw [intern, dif_pos short]
  split
  · rename_i place again
    rw [Option.some.inj (again.symm.trans found)]
  · rename_i missing
    cases missing.symm.trans found

/-- The atom of a name that is in the table is the word that is there. -/
theorem Host.intern_of_atom? {host : Host} {word : Word} {name : Bytes}
    (named : host.atoms.atom? word = some name) : host.intern name = .ok (word, host) := by
  obtain ⟨index, tag, stands⟩ := Option.bind_eq_some_iff.mp named
  have found := AtomTable.intern_of_index? (AtomTable.name?_eq_some_iff.mp stands)
  rw [intern_of_table found, Word.ofAtomIndex_of_atomIndex? tag]

namespace Frame

variable {frame : Frame} {word : Word} {name : String}

/-- **Making an atom again gives the same word**, and changes nothing. -/
theorem makeAtom_of_atom? {bytes : Bytes} (named : frame.atom? word = some bytes) :
    frame.makeAtom bytes = (word, frame) := by
  rw [makeAtom, Host.intern_of_atom? named]

/-- A valid name is entered and gets a word that names it. -/
theorem tryAtom_enters (valid : IsAtomName name)
    (room : frame.host.atoms.size < frame.host.atoms.limit) :
    ∃ made after, (Make.tryAtom name).outcome frame = (.ok made, after) ∧
      after.atom? made = some (Value.nameBytes name) ∧ frame.GrowsTo after := by
  have admits : frame.host.atoms.Admits {Value.nameBytes name} :=
    AtomTable.admits_singleton_iff.mpr (Or.inr room)
  obtain ⟨made, host, entered⟩ :=
    Host.intern_of_admits admits (Finset.mem_singleton_self _) (Make.nameBytes_facts valid).2.2
  have grows := frame.makeAtom_grows (Value.nameBytes name)
  have outcome := Make.outcome_tryAtom frame name
  rw [if_pos valid] at outcome
  simp only [makeAtom, entered] at grows outcome
  exact ⟨made, _, outcome, Host.atom?_of_intern entered, grows⟩

/-- In this environment the word is read as the name, and is what this name and no other is made
into. -/
structure Canonical (frame : Frame) (word : Word) (name : String) : Prop where
  read : (Read.atom word).outcome frame = (.ok name, frame)
  length : (Read.atomLength word).outcome frame = (.ok name.length, frame)
  meaning : frame.decode? word = some (.atom name)
  /-- Of the atoms that can be made here, that of the same name has the same word, and no other has.
  -/
  only : ∀ other, IsAtomName other → frame.host.atoms.size < frame.host.atoms.limit →
    ∃ made after, (Make.tryAtom other).outcome frame = (.ok made, after) ∧
      (made = word ↔ other = name)

/-- A word that stands for a text's bytes in the table is the canonical atom of this text. -/
theorem canonical_of_atom? (valid : IsAtomName name)
    (named : frame.atom? word = some (Value.nameBytes name)) : frame.Canonical word name := by
  obtain ⟨text, -, -⟩ := Make.nameBytes_facts valid
  have meaning : frame.decode? word = some (.atom name) := by
    have decoded : frame.decode? word = some (.atom (Value.nameBytes name).latin1) :=
      Environment.decodeWithin_of_atom? named _
    rwa [text] at decoded
  refine ⟨Read.outcome_atom (Frame.shows meaning), ?_, meaning, fun other fine room => ?_⟩
  · have length := (latin1?_facts (Make.nameBytes_of_isAtomName valid)).1
    rw [Read.outcome_atomLength, named, Option.map_some, expect, length]
  · obtain ⟨made, after, outcome, names, grows⟩ := tryAtom_enters fine room
    refine ⟨made, after, outcome, ?_, ?_⟩
    · rintro rfl
      -- The word still has its name, and has the other one as well.
      have still := AtomTable.atom?_of_prefix grows.names named
      have same := Option.some.inj (names.symm.trans still)
      rw [← (Make.nameBytes_facts fine).1, same, text]
    · rintro rfl
      exact AtomTable.atom?_injective names (AtomTable.atom?_of_prefix grows.names named)

/-- An atom without a zero byte is read as the Latin-1 text of its name, and this text is made into
it. -/
theorem remade_of_atom? {bytes : Bytes} (named : frame.atom? word = some bytes)
    (noZero : 0 ∉ bytes) :
    (Read.atom word).outcome frame = (.ok bytes.latin1, frame) ∧
      (Make.tryAtom bytes.latin1).outcome frame = (.ok word, frame) := by
  obtain ⟨index, tag, stands⟩ := Option.bind_eq_some_iff.mp named
  have short := frame.host.atoms.short bytes (List.mem_of_getElem? stands)
  have read := Bytes.latin1?_latin1 bytes
  obtain ⟨length, zero⟩ := latin1?_facts read
  have valid : IsAtomName bytes.latin1 :=
    ⟨latin1?_isSome_iff.mp (by rw [read]; rfl), fun member => noZero (zero.mpr member),
      length ▸ short⟩
  have same : Value.nameBytes bytes.latin1 = bytes := by
    rw [Value.nameBytes, read, Option.getD_some]
  refine ⟨(canonical_of_atom? valid (by rwa [same])).read, ?_⟩
  rw [Make.outcome_tryAtom, if_pos valid, same, makeAtom_of_atom? named]

end Frame

/-! ### Any run -/

namespace Session

/-- An environment shares the host of its session. -/
theorem host_of_frame? {session : Session} {env : Nat} {frame : Frame}
    (opened : session.frame? env = some frame) : frame.host = session.host := by
  obtain ⟨current, -, rfl⟩ := Option.map_eq_some_iff.mp opened
  rfl

/-- **Atoms are canonical.** -/
theorem atoms_canonical {session : Session} {env : Nat} {frame : Frame}
    (opened : session.frame? env = some frame)
    (room : session.host.atoms.size < session.host.atoms.limit) (name : String) :
    (∃ result made,
      session.inEnvironment env (Make.tryAtom name).outcome = some (result, made) ∧
      (¬ IsAtomName name → result = .error (.invalidName name)) ∧
      (IsAtomName name → ∃ word, result = .ok word ∧
        ∀ operations other later, (made.after operations).frame? other = some later →
          later.Canonical word name)) ∧
    ∀ word bytes, frame.atom? word = some bytes → 0 ∉ bytes →
      (Read.atom word).outcome frame = (.ok bytes.latin1, frame) ∧
        (Make.tryAtom bytes.latin1).outcome frame = (.ok word, frame) := by
  refine ⟨?_, fun word bytes => Frame.remade_of_atom?⟩
  obtain ⟨made, done, there⟩ := inEnvironment_eq_some opened (Make.tryAtom name).outcome
  refine ⟨_, made, done, fun invalid => ?_, fun valid => ?_⟩
  · rw [Make.outcome_tryAtom, if_neg invalid]
  · rw [← host_of_frame? opened] at room
    obtain ⟨word, after, outcome, named, -⟩ := Frame.tryAtom_enters valid room
    rw [outcome] at there
    refine ⟨word, by rw [outcome], fun operations other later opens => ?_⟩
    -- Wherever the later environment is, it shares the table, which has only grown.
    have names := (made.after_grows operations).names
    rw [← host_of_frame? opens, ← host_of_frame? there] at names
    exact Frame.canonical_of_atom? valid (AtomTable.atom?_of_prefix names named)

/-- In the second of two environments the host has made an atom of one byte beyond ASCII. -/
def accented : Session := fresh.after [.openEnvironment, .openEnvironment, .build 1 (.atom [0xE9])]

/-- The text of this byte is made into the same atom in the first environment, and stays it in the
second after an exception was raised there. -/
theorem atoms_canonical_shared :
    ∃ (frame later : Frame) (made : Session), accented.frame? 0 = some frame ∧
      accented.host.atoms.size < accented.host.atoms.limit ∧
      accented.inEnvironment 0 (Make.tryAtom "é").outcome = some (.ok (Word.ofAtomIndex 0), made) ∧
      (made.after [.raise 1]).frame? 1 = some later ∧ later.Canonical (Word.ofAtomIndex 0) "é" ∧
      (Read.atom (Word.ofAtomIndex 0)).outcome frame = (.ok "é", frame) := by
  have room : accented.host.atoms.size < accented.host.atoms.limit := by decide
  obtain ⟨frame, opened⟩ : ∃ frame, accented.frame? 0 = some frame := ⟨_, rfl⟩
  obtain ⟨⟨result, made, done, -, valid⟩, again⟩ := atoms_canonical opened room "é"
  obtain ⟨word, rfl, canonical⟩ := valid (by decide)
  have named : frame.atom? (Word.ofAtomIndex 0) = some [0xE9] := by
    rw [← Option.some.inj opened]
    rfl
  obtain ⟨read, remade⟩ := again (Word.ofAtomIndex 0) [0xE9] named (by decide)
  rw [show Bytes.latin1 [0xE9] = "é" from rfl] at read remade
  obtain ⟨_, result, -⟩ := inEnvironment_eq_some opened (Make.tryAtom "é").outcome
  rw [remade] at result
  obtain ⟨same, -⟩ := Prod.mk.inj (Option.some.inj (done.symm.trans result))
  obtain rfl := Except.ok.inj same
  obtain ⟨second, other⟩ : ∃ second, accented.frame? 1 = some second := ⟨_, rfl⟩
  have grows : accented.GrowsTo made :=
    inEnvironment_grows (fun frame => Program.run_grows _ frame) done
  obtain ⟨later, there, -⟩ := (grows.trans (made.after_grows [.raise 1])).frame? other
  exact ⟨frame, later, made, opened, room, done, there, canonical _ 1 later there, read⟩

end Session

end Nif
