import Nif.Proofs.Atoms

/-!
**The atom table over its own runs.**

* `AtomTable.Call`: what can be asked of a table, `AtomTable.after`: a run of such calls.
* `AtomTable.name?_eq_some_iff`: the two directions of a table are inverse to each other.
* `AtomTable.put_spec`: what putting a name does, by the first condition that holds.
* `AtomTable.names_after`: after any run the names are the first different ones that were put, as
  many as the limit allows.
* `AtomTable.exact_after`: so the table is a stable bijection after any run, with an exact limit.
-/

namespace Nif.AtomTable

/-! ### Calls and runs -/

/-- A call on a table. -/
inductive Call where
  /-- Enters a name, unless it is there. -/
  | put (name : Bytes)
  /-- Looks up the position of a name. -/
  | get (name : Bytes)
  /-- Looks up the name at a position. -/
  | nameAt (index : Nat)

namespace Call

/-- What a call is answered with. -/
@[reducible] def Reply : Call → Type
  | put _ => Except AtomRefusal Nat
  | get _ => Option Nat
  | nameAt _ => Option Bytes

/-- The reply to a call, and the table after it. -/
def perform : (call : Call) → AtomTable → call.Reply × AtomTable
  | put name, table =>
    match table.intern name with
    | .ok (index, after) => (.ok index, after)
    | .error refusal => (.error refusal, table)
  | get name, table => (table.index? name, table)
  | nameAt index, table => (table.name? index, table)

end Call

/-- One call after the other. -/
def after (table : AtomTable) (calls : List Call) : AtomTable :=
  calls.foldl (fun table call => (call.perform table).2) table

/-- The names that a run puts and that are not too long, in their order. -/
def offered (calls : List Call) : List Bytes :=
  calls.filterMap fun call =>
    match call with
    | .put name => if name.length ≤ Interface.maxAtomLength then some name else none
    | .get _ | .nameAt _ => none

/-! ### One call -/

section Step

variable {table : AtomTable} {name : Bytes} {index : Nat}

/-- **The name at a position is the one that is found there.** -/
theorem name?_eq_some_iff : table.name? index = some name ↔ table.index? name = some index := by
  refine ⟨fun named => ?_, name?_of_index?⟩
  obtain ⟨inside, stands⟩ := List.getElem?_eq_some_iff.mp named
  cases found : table.index? name with
  | none => exact absurd (stands ▸ List.getElem_mem inside) (index?_eq_none_iff.mp found)
  | some place =>
    have there := name?_of_index? found
    exact congrArg some ((List.getElem?_inj inside table.nodup).mp (named.trans there.symm)).symm

/-- The name is short enough and new, and there is a place for it. -/
structure Takes (table : AtomTable) (name : Bytes) : Prop where
  short : name.length ≤ Interface.maxAtomLength
  absent : table.index? name = none
  room : table.size < table.limit

/-- What putting a name does: the first condition that holds decides. -/
inductive Put (table : AtomTable) (name : Bytes) : Except AtomRefusal Nat × AtomTable → Prop
  | tooLong (long : Interface.maxAtomLength < name.length) :
    Put table name (.error (.tooLong name.length), table)
  | found {index : Nat} (short : name.length ≤ Interface.maxAtomLength)
    (present : table.index? name = some index) : Put table name (.ok index, table)
  | full (short : name.length ≤ Interface.maxAtomLength) (absent : table.index? name = none)
    (full : table.size = table.limit) : Put table name (.error (.tableFull table.limit), table)
  | entered {grown : AtomTable} (takes : table.Takes name) (limit : grown.limit = table.limit)
    (names : grown.names = table.names ++ [name]) : Put table name (.ok table.size, grown)

/-- **What putting a name does.** -/
theorem put_spec (table : AtomTable) (name : Bytes) :
    table.Put name ((Call.put name).perform table) := by
  simp only [Call.perform]
  cases put : table.intern name with
  | ok result =>
    obtain ⟨index, grown⟩ := result
    have short : name.length ≤ Interface.maxAtomLength := by
      by_contra long
      exact not_refuses_of_intern put (Or.inl (Nat.not_le.mp long))
    rcases intern_cases put with ⟨found, rfl⟩ | ⟨absent, room, rfl, names⟩
    · exact .found short found
    · exact .entered ⟨short, index?_eq_none_iff.mpr absent, room⟩ (limit_of_intern put) names
  | error refusal =>
    unfold intern at put
    split at put
    · rename_i short
      split at put
      · cases put
      · rename_i absent
        split at put
        · cases put
        · rename_i full
          cases put
          exact .full short absent (le_antisymm table.size_le (Nat.not_lt.mp full))
    · rename_i long
      cases put
      exact .tooLong (Nat.not_le.mp long)

theorem put_eq_tooLong_iff {bytes : Nat} :
    ((Call.put name).perform table).1 = .error (.tooLong bytes) ↔
      Interface.maxAtomLength < name.length ∧ bytes = name.length := by
  have spec := put_spec table name
  generalize (Call.put name).perform table = result at spec
  cases spec with
  | tooLong long => simp [long, eq_comm]
  | found short | full short => simp [Nat.not_lt.mpr short]
  | entered takes => simp [Nat.not_lt.mpr takes.short]

theorem put_eq_tableFull_iff {bound : Nat} :
    ((Call.put name).perform table).1 = .error (.tableFull bound) ↔
      name.length ≤ Interface.maxAtomLength ∧ table.index? name = none ∧ table.size = table.limit ∧
        bound = table.limit := by
  have spec := put_spec table name
  generalize (Call.put name).perform table = result at spec
  cases spec with
  | tooLong long => simp [Nat.not_le.mpr long]
  | found short present => simp [present]
  | full short absent full => simp [short, absent, full, eq_comm]
  | entered takes => simp [takes.room.ne]

/-- The table stays and the reply is a position exactly if the name is there, in a full table too.
-/
theorem put_eq_found_iff :
    (Call.put name).perform table = (.ok index, table) ↔
      name.length ≤ Interface.maxAtomLength ∧ table.index? name = some index := by
  have spec := put_spec table name
  generalize (Call.put name).perform table = result at spec
  cases spec with
  | tooLong long => simp [Nat.not_le.mpr long]
  | found short present => simp [short, present]
  | full _ absent => simp [absent]
  | entered takes _ names =>
    -- The table has grown by a name, so that it is another one.
    have other : ∀ grown : AtomTable, grown.names = table.names ++ [name] → grown ≠ table := by
      rintro grown more rfl
      simpa using congrArg List.length more
    simp [takes.absent, other _ names]

/-- The reply is the next position, and the table grows, exactly if the table takes the name. -/
theorem put_eq_entered_iff :
    ((Call.put name).perform table).1 = .ok table.size ∧
        ((Call.put name).perform table).2.size = table.size + 1 ↔ table.Takes name := by
  have spec := put_spec table name
  generalize (Call.put name).perform table = result at spec
  constructor
  · rintro ⟨reply, grown⟩
    cases spec with
    | entered takes => exact takes
    | found => exact absurd grown (Nat.ne_of_lt (Nat.lt_succ_self _))
    | tooLong | full => cases reply
  · intro takes
    cases spec with
    | entered _ _ names => exact ⟨rfl, by rw [size, names, List.length_append, size]; rfl⟩
    | tooLong long => exact absurd takes.short (Nat.not_le.mpr long)
    | found _ present => cases present.symm.trans takes.absent
    | full _ _ full => exact absurd full takes.room.ne

/-- A call enters a name that the table takes, or leaves the table as it is. -/
theorem perform_cases (call : Call) (table : AtomTable) :
    (call.perform table).2 = table ∨
      ∃ name, call = .put name ∧ table.Takes name ∧ (call.perform table).2.limit = table.limit ∧
        (call.perform table).2.names = table.names ++ [name] := by
  cases call with
  | get _ | nameAt _ => exact Or.inl rfl
  | put name =>
    have spec := put_spec table name
    generalize (Call.put name).perform table = result at spec
    cases spec with
    | tooLong | found | full => exact Or.inl rfl
    | entered takes limit names => exact Or.inr ⟨name, rfl, takes, limit, names⟩

theorem limit_perform (call : Call) (table : AtomTable) :
    (call.perform table).2.limit = table.limit := by
  rcases perform_cases call table with same | ⟨name, -, -, limit, -⟩
  · rw [same]
  · exact limit

theorem prefix_perform (call : Call) (table : AtomTable) :
    table.names <+: (call.perform table).2.names := by
  rcases perform_cases call table with same | ⟨name, -, -, -, names⟩
  · rw [same]
  · rw [names]
    exact List.prefix_append _ _

end Step

/-! ### Any run -/

theorem after_concat (table : AtomTable) (calls : List Call) (call : Call) :
    table.after (calls ++ [call]) = (call.perform (table.after calls)).2 := by
  simp [after]

theorem limit_after (table : AtomTable) (calls : List Call) :
    (table.after calls).limit = table.limit := by
  induction calls using List.reverseRecOn with
  | nil => rfl
  | append_singleton calls call ih => rw [after_concat, limit_perform, ih]

/-- **Names stay where they are.** -/
theorem prefix_after (table : AtomTable) (calls : List Call) :
    table.names <+: (table.after calls).names := by
  induction calls using List.reverseRecOn with
  | nil => exact List.prefix_rfl
  | append_singleton calls call ih =>
    rw [after_concat]
    exact ih.trans (prefix_perform call _)

/-- The different elements of a list with one more at its end. -/
theorem eraseDups_concat (names : List Bytes) (name : Bytes) :
    (names ++ [name]).eraseDups =
      if name ∈ names then names.eraseDups else names.eraseDups ++ [name] := by
  rw [List.eraseDups_append]
  split <;> rename_i member <;> simp [List.removeAll, List.eraseDups_cons, member]

/-- **After any run the names are the first different ones that were put**, as many as the limit
allows. -/
theorem names_after (limit : Nat) (calls : List Call) :
    ((empty limit).after calls).names = ((offered calls).eraseDups).take limit := by
  induction calls using List.reverseRecOn with
  | nil => simp [after, empty, offered]
  | append_singleton calls call ih =>
    have bound : ((empty limit).after calls).limit = limit := limit_after _ calls
    rw [after_concat]
    generalize (empty limit).after calls = table at ih bound
    cases call with
    | get _ | nameAt _ => simpa [offered, Call.perform] using ih
    | put name =>
      have spec := put_spec table name
      generalize (Call.put name).perform table = result at spec
      cases spec with
      | tooLong long =>
        have left : offered (calls ++ [.put name]) = offered calls := by
          simp [offered, Nat.not_le.mpr long]
        rw [left, ih]
      | found short present =>
        have right : offered (calls ++ [.put name]) = offered calls ++ [name] := by
          simp [offered, short]
        have old : name ∈ offered calls := by
          have member := List.mem_of_getElem? (name?_of_index? present)
          rw [ih] at member
          exact List.mem_eraseDups.mp (List.mem_of_mem_take member)
        rw [right, eraseDups_concat, if_pos old, ih]
      | full short absent full =>
        have right : offered (calls ++ [.put name]) = offered calls ++ [name] := by
          simp [offered, short]
        -- The first names fill the table, so that what comes after them is cut off.
        have enough : limit ≤ (offered calls).eraseDups.length := by
          rw [size, bound, ih, List.length_take] at full
          omega
        rw [right, eraseDups_concat]
        split
        · exact ih
        · rw [List.take_append_of_le_length enough]
          exact ih
      | entered takes _ names =>
        have right : offered (calls ++ [.put name]) = offered calls ++ [name] := by
          simp [offered, takes.short]
        have room : (offered calls).eraseDups.length < limit := by
          have few := takes.room
          rw [size, bound, ih, List.length_take] at few
          omega
        have all : table.names = (offered calls).eraseDups := by
          rw [ih, List.take_of_length_le room.le]
        have new : name ∉ offered calls := by
          have absent := index?_eq_none_iff.mp takes.absent
          rw [all] at absent
          exact fun member => absent (List.mem_eraseDups.mpr member)
        rw [names, right, eraseDups_concat, if_neg new, all, List.take_of_length_le]
        rw [List.length_append, List.length_singleton]
        exact room

/-- A stable bijection between names and positions, with an exact limit, as a run of calls leaves
it. -/
structure Exact (limit : Nat) (calls : List Call) (table : AtomTable) : Prop where
  names : table.names = ((offered calls).eraseDups).take limit
  few : table.size ≤ limit
  inverse : ∀ index name, ((Call.nameAt index).perform table).1 = some name ↔
    ((Call.get name).perform table).1 = some index
  positions : ∀ index, (((Call.nameAt index).perform table).1).isSome ↔ index < table.size
  distinct : ∀ first second name, ((Call.nameAt first).perform table).1 = some name →
    ((Call.nameAt second).perform table).1 = some name → first = second
  /-- A position once given to a name is that name's for good. -/
  stays : ∀ later index name, ((Call.get name).perform table).1 = some index →
    ((Call.get name).perform (table.after later)).1 = some index ∧
      ((Call.nameAt index).perform (table.after later)).1 = some name
  tooLong : ∀ name bytes, ((Call.put name).perform table).1 = .error (.tooLong bytes) ↔
    255 < name.length ∧ bytes = name.length
  full : ∀ name bound, ((Call.put name).perform table).1 = .error (.tableFull bound) ↔
    name.length ≤ 255 ∧ ((Call.get name).perform table).1 = none ∧ table.size = limit ∧
      bound = limit
  /-- A name that is there is found, in a full table too. -/
  found : ∀ name index, (Call.put name).perform table = (.ok index, table) ↔
    name.length ≤ 255 ∧ ((Call.get name).perform table).1 = some index
  /-- A new name gets the next position. -/
  entered : ∀ name, ((Call.put name).perform table).1 = .ok table.size ∧
      ((Call.put name).perform table).2.size = table.size + 1 ↔
    name.length ≤ 255 ∧ ((Call.get name).perform table).1 = none ∧ table.size < limit
  /-- Every other call leaves the table as it is. -/
  keeps : ∀ call : Call, (call.perform table).2 = table ∨
    ∃ name, call = .put name ∧ name.length ≤ 255 ∧ ((Call.get name).perform table).1 = none ∧
      table.size < limit

/-- **The atom table is a stable bijection with an exact limit**, whatever the limit is and whatever
was called. -/
theorem exact_after (limit : Nat) (calls : List Call) :
    Exact limit calls ((empty limit).after calls) := by
  have names := names_after limit calls
  have bound : ((empty limit).after calls).limit = limit := limit_after _ calls
  generalize (empty limit).after calls = table at names bound
  subst bound
  refine ⟨names, ?_, fun index name => name?_eq_some_iff, ?_, ?_, ?_, ?_, ?_, ?_, ?_, ?_⟩
  · rw [size, names]
    exact List.length_take_le _ _
  · intro index
    simp [Call.perform, name?, size]
  · intro first second name named again
    have same := name?_eq_some_iff.mp named
    rw [name?_eq_some_iff.mp again] at same
    exact (Option.some.inj same).symm
  · intro later index name found
    have named := name?_of_prefix (prefix_after table later) (name?_of_index? found)
    exact ⟨name?_eq_some_iff.mp named, named⟩
  · exact fun name bytes => put_eq_tooLong_iff
  · exact fun name bound => put_eq_tableFull_iff
  · exact fun name index => put_eq_found_iff
  · intro name
    refine put_eq_entered_iff.trans ⟨fun takes => ⟨takes.short, takes.absent, takes.room⟩, ?_⟩
    rintro ⟨short, absent, room⟩
    exact ⟨short, absent, room⟩
  · intro call
    refine (perform_cases call table).imp_right ?_
    rintro ⟨name, same, takes, -⟩
    exact ⟨name, same, takes.short, takes.absent, takes.room⟩

end Nif.AtomTable
