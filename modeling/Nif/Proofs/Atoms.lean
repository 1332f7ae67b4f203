import Mathlib.Data.Finset.Card
import Nif.Host
import Nif.Proofs.Tags
import Nif.Value

/-!
**Entering names into the atom table.**

* `AtomTable.intern_cases`: what entering a name can do, and `AtomTable.Refuses`: when it is
  refused.
* `AtomTable.Admits`: the table has room for a set of names. It is the exact condition: the names
  that stand in the table together with the set are no more than the limit.
* `Host.intern_of_admits`: a name of an admitted set gets its atom, and the table still admits the
  set.
-/

namespace Nif

namespace AtomTable

variable {table after : AtomTable} {name : Bytes} {index : Nat}

theorem name?_of_index? (found : table.index? name = some index) :
    table.name? index = some name := by
  rw [index?_eq_idxOf?] at found
  obtain ⟨inside, same, -⟩ := List.findIdx?_eq_some_iff_getElem.mp found
  rw [name?, List.getElem?_eq_getElem inside, eq_of_beq same]

/-- **What entering a name can do**: it is found, or it is put at the end. -/
theorem intern_cases (entered : table.intern name = .ok (index, after)) :
    (table.index? name = some index ∧ after = table) ∨
      (name ∉ table.names ∧ table.size < table.limit ∧ index = table.size ∧
        after.names = table.names ++ [name]) := by
  unfold intern at entered
  split at entered
  · split at entered
    · rename_i found
      obtain ⟨rfl, rfl⟩ := Prod.mk.inj (Except.ok.inj entered)
      exact Or.inl ⟨found, rfl⟩
    · rename_i missing
      split at entered
      · rename_i room
        obtain ⟨rfl, rfl⟩ := Prod.mk.inj (Except.ok.inj entered)
        exact Or.inr ⟨index?_eq_none_iff.mp missing, room, rfl, rfl⟩
      · cases entered
  · cases entered

/-- The table takes no such name: it is too long, or it is new and the table is full. -/
def Refuses (table : AtomTable) (name : Bytes) : Prop :=
  Interface.maxAtomLength < name.length ∨ (name ∉ table.names ∧ table.limit ≤ table.size)

/-- **When a name is refused.** -/
theorem intern_error {refusal : AtomRefusal} (refused : table.intern name = .error refusal) :
    table.Refuses name := by
  unfold intern at refused
  split at refused
  · split at refused
    · cases refused
    · rename_i missing
      split at refused
      · cases refused
      · rename_i full
        exact Or.inr ⟨index?_eq_none_iff.mp missing, Nat.not_lt.mp full⟩
  · rename_i long
    exact Or.inl (Nat.not_le.mp long)

theorem not_refuses_of_intern (entered : table.intern name = .ok (index, after)) :
    ¬ table.Refuses name := by
  rintro (long | ⟨absent, full⟩)
  · rw [intern, dif_neg (Nat.not_le.mpr long)] at entered
    cases entered
  · rcases intern_cases entered with ⟨found, -⟩ | ⟨-, room, -⟩
    · exact absent (List.mem_of_getElem? (name?_of_index? found))
    · omega

theorem names_of_intern (entered : table.intern name = .ok (index, after)) :
    after.names = table.names ∨ after.names = table.names ++ [name] := by
  rcases intern_cases entered with ⟨-, rfl⟩ | ⟨-, -, -, appended⟩
  · exact Or.inl rfl
  · exact Or.inr appended

theorem prefix_of_intern (entered : table.intern name = .ok (index, after)) :
    table.names <+: after.names := by
  rcases names_of_intern entered with same | appended
  · rw [same]
  · rw [appended]
    exact List.prefix_append _ _

theorem name?_of_intern (entered : table.intern name = .ok (index, after)) :
    after.name? index = some name := by
  rcases intern_cases entered with ⟨found, rfl⟩ | ⟨-, -, rfl, appended⟩
  · exact name?_of_index? found
  · rw [name?, appended, size, List.getElem?_concat_length]

theorem name?_of_prefix (grown : table.names <+: after.names)
    (named : table.name? index = some name) :
    after.name? index = some name := by
  obtain ⟨more, same⟩ := grown
  rw [name?, ← same, List.getElem?_append_left (List.getElem?_eq_some_iff.mp named).1]
  exact named

/-! ### Room for names -/

/-- The table has room for all of the names at once, those that it holds already included. -/
def Admits (table : AtomTable) (names : Finset Bytes) : Prop :=
  (table.names.toFinset ∪ names).card ≤ table.limit

theorem Admits.mono {names fewer : Finset Bytes} (room : table.Admits names)
    (part : fewer ⊆ names) :
    table.Admits fewer :=
  (Finset.card_le_card (Finset.union_subset_union_right part)).trans room

/-- A table that got only names of the set still admits it. -/
theorem Admits.of_subset {names : Finset Bytes} (room : table.Admits names)
    (new : after.names.toFinset ⊆ table.names.toFinset ∪ names)
    (limit : after.limit = table.limit) :
    after.Admits names := by
  have together : after.names.toFinset ∪ names ⊆ table.names.toFinset ∪ names :=
    Finset.union_subset new Finset.subset_union_right
  rw [Admits, limit]
  exact (Finset.card_le_card together).trans room

/-- What a later table still admits, the earlier one admitted. -/
theorem Admits.of_prefix {names : Finset Bytes} (room : after.Admits names)
    (grown : table.names <+: after.names) (limit : after.limit = table.limit) :
    table.Admits names := by
  have part : table.names.toFinset ⊆ after.names.toFinset := fun name member =>
    List.mem_toFinset.mpr (grown.subset (List.mem_toFinset.mp member))
  rw [Admits, ← limit]
  exact (Finset.card_le_card (Finset.union_subset_union_left part)).trans room

/-- Room for as many names as the set has is enough. -/
theorem Admits.of_card {names : Finset Bytes} (room : table.size + names.card ≤ table.limit) :
    table.Admits names := by
  refine (Finset.card_union_le _ _).trans (le_trans (Nat.add_le_add_right ?_ _) room)
  exact table.names.toFinset_card_le

/-- A full table admits only names that it holds. -/
theorem Admits.mem_or_lt {names : Finset Bytes} (room : table.Admits names)
    (member : name ∈ names) :
    name ∈ table.names ∨ table.size < table.limit := by
  by_cases present : name ∈ table.names
  · exact Or.inl present
  · have strict : table.names.toFinset ⊂ table.names.toFinset ∪ names := by
      refine Finset.ssubset_iff_subset_ne.mpr ⟨Finset.subset_union_left, fun same => present ?_⟩
      rw [← List.mem_toFinset, same]
      exact Finset.mem_union_right _ member
    have fewer := Finset.card_lt_card strict
    rw [List.toFinset_card_of_nodup table.nodup] at fewer
    exact Or.inr (fewer.trans_le room)

/-- One name is admitted exactly if it is in the table or the table is not full. -/
theorem admits_singleton_iff :
    table.Admits {name} ↔ name ∈ table.names ∨ table.size < table.limit := by
  refine ⟨fun room => room.mem_or_lt (Finset.mem_singleton_self name), fun one => ?_⟩
  have size : table.names.toFinset.card = table.names.length :=
    List.toFinset_card_of_nodup table.nodup
  rcases one with present | room
  · have same : table.names.toFinset ∪ {name} = table.names.toFinset :=
      Finset.union_eq_left.mpr (Finset.singleton_subset_iff.mpr (List.mem_toFinset.mpr present))
    rw [Admits, same, size]
    exact table.size_le
  · have bound := Finset.card_union_le table.names.toFinset {name}
    rw [size, Finset.card_singleton] at bound
    exact bound.trans room

/-- **A name of an admitted set is entered.** -/
theorem intern_of_admits {names : Finset Bytes} (room : table.Admits names) (member : name ∈ names)
    (short : name.length ≤ Interface.maxAtomLength) :
    ∃ index after, table.intern name = .ok (index, after) := by
  cases entered : table.intern name with
  | ok result => exact ⟨result.1, result.2, rfl⟩
  | error refusal =>
    rcases intern_error entered with long | ⟨absent, full⟩
    · omega
    · rcases room.mem_or_lt member with present | space
      · exact absurd present absent
      · omega

end AtomTable

/-! ### The words of atoms -/

theorem AtomTable.atom?_of_prefix {table after : AtomTable} {word : Word} {name : Bytes}
    (grown : table.names <+: after.names) (named : table.atom? word = some name) :
    after.atom? word = some name := by
  obtain ⟨index, tag, found⟩ := Option.bind_eq_some_iff.mp named
  exact Option.bind_eq_some_iff.mpr ⟨index, tag, name?_of_prefix grown found⟩

namespace Host

variable {host after : Host} {name : Bytes} {word : Word}

/-- An entered name gets the word of its position. -/
theorem intern_of_table {index : Nat} {table : AtomTable}
    (entered : host.atoms.intern name = .ok (index, table)) :
    host.intern name = .ok (Word.ofAtomIndex index,
      { host with
        atoms := table, limit_eq := (AtomTable.limit_of_intern entered).trans host.limit_eq }) := by
  unfold intern
  split
  · rename_i found
    cases entered.symm.trans found
    rfl
  · rename_i refused
    cases entered.symm.trans refused

/-- A refused name gets no word. -/
theorem intern_of_refusal {refusal : AtomRefusal}
    (refused : host.atoms.intern name = .error refusal) :
    host.intern name = .error refusal := by
  unfold intern
  split
  · rename_i found
    cases refused.symm.trans found
  · rename_i found
    cases refused.symm.trans found
    rfl

/-- **What giving a name its atom can do**: nothing changes but the table. -/
theorem intern_cases (entered : host.intern name = .ok (word, after)) :
    ∃ index, host.atoms.intern name = .ok (index, after.atoms) ∧ word = Word.ofAtomIndex index ∧
      after.nextEnv = host.nextEnv ∧ after.outstanding = host.outstanding ∧ after.log = host.log ∧
      after.callbacks = host.callbacks := by
  unfold intern at entered
  split at entered
  · rename_i index table found
    obtain ⟨rfl, rfl⟩ := Prod.mk.inj (Except.ok.inj entered)
    exact ⟨index, found, rfl, rfl, rfl, rfl, rfl⟩
  · cases entered

theorem intern_error {refusal : AtomRefusal} (refused : host.intern name = .error refusal) :
    host.atoms.intern name = .error refusal := by
  unfold intern at refused
  split at refused
  · cases refused
  · rename_i cause found
    rw [found, Except.error.inj refused]

theorem prefix_of_intern (entered : host.intern name = .ok (word, after)) :
    host.atoms.names <+: after.atoms.names := by
  obtain ⟨index, inTable, -⟩ := intern_cases entered
  exact AtomTable.prefix_of_intern inTable

/-- **The word of a name names it.** -/
theorem atom?_of_intern (entered : host.intern name = .ok (word, after)) :
    after.atoms.atom? word = some name := by
  obtain ⟨index, inTable, rfl, -⟩ := intern_cases entered
  have named := AtomTable.name?_of_intern inTable
  have inside : index < after.atoms.names.length := (List.getElem?_eq_some_iff.mp named).1
  have few : after.atoms.names.length ≤ 1048576 := after.atoms.size_le.trans_eq after.limit_eq
  rw [AtomTable.atom?, Word.atomIndex?_ofAtomIndex (by omega)]
  exact named

/-- **A name of an admitted set gets its atom.** -/
theorem intern_of_admits {names : Finset Bytes} (room : host.atoms.Admits names)
    (member : name ∈ names) (short : name.length ≤ Interface.maxAtomLength) :
    ∃ word after, host.intern name = .ok (word, after) := by
  cases entered : host.intern name with
  | ok result => exact ⟨result.1, result.2, rfl⟩
  | error refusal =>
    obtain ⟨index, table, inTable⟩ := AtomTable.intern_of_admits room member short
    rw [intern_error entered] at inTable
    cases inTable

end Host

end Nif
