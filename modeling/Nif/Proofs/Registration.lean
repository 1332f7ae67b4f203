import Nif.Proofs.Entries
import Nif.Proofs.Offences

/-!
**The functions of a table are registered exactly, up to the first bad record.**

* `FunctionRecord.Offends`: what is wrong with a record, after the records before it.
* `register_of_registrable`, `register_of_offends`: the check of one record;
  `registerAll_of_flawless` and `registerAll_of_firstOffence`: of a table.
* `Entry.Registrable`, `Entry.Unregistrable`: an entry whose functions are registered, and why those
  of any other are not.
* `Loaded.Tabulates`: a module has one function for each record of an entry, and no other.
* `Loaded.registration_exact`: what comes of an entry whose header is accepted.
-/

namespace Nif.Module

/-! ### One record -/

/-- The function that a record describes, if its name can be read. -/
def FunctionRecord.registered? (record : FunctionRecord) : Option Registered :=
  (readText record.name).map fun name =>
    { name, arity := record.arity, flags := record.flags, body := record.body }

/-- The function has the name, the arity, the flags and the body of the record. -/
def FunctionRecord.Registers (record : FunctionRecord) (function : Registered) : Prop :=
  record.registered? = some function

/-- A record that can be registered after the records before it. -/
structure FunctionRecord.Registrable (earlier : List FunctionRecord)
    (record : FunctionRecord) : Prop where
  named : (readText record.name).isSome
  few : record.arity.toNat ≤ 255
  /-- No earlier record is called in the same way. -/
  new : ∀ name, readText record.name = some name →
    ∀ other ∈ earlier, ¬ other.Answers name record.arity.toNat

/-- What is wrong with a record, after the records before it. A missing or unreadable name counts
before too many parameters, and these before an earlier record that is called in the same way. -/
inductive FunctionRecord.Offends (earlier : List FunctionRecord) (record : FunctionRecord) :
    String → Prop
  | nameless (unread : readText record.name = none) :
      Offends earlier record s!"function #{earlier.length} has no valid name"
  | arity {name : String} (named : readText record.name = some name)
      (many : 255 < record.arity.toNat) :
      Offends earlier record (signature name record.arity ++ " exceeds the maximum arity")
  | repeated {name : String} (named : readText record.name = some name)
      (few : record.arity.toNat ≤ 255) {other : FunctionRecord} (before : other ∈ earlier)
      (same : other.Answers name record.arity.toNat) :
      Offends earlier record ("duplicate function " ++ signature name record.arity)

section Record

variable {earlier : List FunctionRecord} {made : List Registered} {record : FunctionRecord}
  {function : Registered} {name : String} {arity : Nat} {reason : String}

/-- A record can be registered, or something is wrong with it. -/
theorem FunctionRecord.registrable_or_offends (earlier : List FunctionRecord)
    (record : FunctionRecord) :
    record.Registrable earlier ∨ ∃ reason, record.Offends earlier reason := by
  cases named : readText record.name with
  | none => exact Or.inr ⟨_, .nameless named⟩
  | some name =>
    by_cases few : record.arity.toNat ≤ 255
    · by_cases taken : ∃ other ∈ earlier, other.Answers name record.arity.toNat
      · obtain ⟨other, before, same⟩ := taken
        exact Or.inr ⟨_, .repeated named few before same⟩
      · refine Or.inl ⟨Option.isSome_iff_exists.mpr ⟨name, named⟩, few, fun other read => ?_⟩
        obtain rfl := Option.some.inj (named.symm.trans read)
        exact fun other before same => taken ⟨other, before, same⟩
    · exact Or.inr ⟨_, .arity named (Nat.not_le.mp few)⟩

theorem FunctionRecord.clean_iff :
    (∀ reason, ¬ record.Offends earlier reason) ↔ record.Registrable earlier := by
  refine Nif.clean_iff (registrable_or_offends earlier record) ?_
  intro good reason offends
  cases offends with
  | nameless unread => exact absurd good.named (Option.not_isSome_iff_eq_none.mpr unread)
  | arity named many => exact Nat.not_le.mpr many good.few
  | repeated named few before same => exact good.new _ named _ before same

theorem FunctionRecord.registers_iff :
    record.Registers function ↔
      readText record.name = some function.name ∧ function.arity = record.arity ∧
        function.flags = record.flags ∧ function.body = record.body := by
  obtain ⟨name, arity, flags, body⟩ := function
  rw [Registers, registered?, Option.map_eq_some_iff]
  constructor
  · rintro ⟨_, named, ⟨⟩⟩
    exact ⟨named, rfl, rfl, rfl⟩
  · rintro ⟨named, rfl, rfl, rfl⟩
    exact ⟨name, named, rfl⟩

/-- Callers reach the function of a record as the record announces it. -/
theorem FunctionRecord.Registers.answers_iff (registers : record.Registers function) :
    record.Answers name arity ↔ function.name = name ∧ function.arity.toNat = arity := by
  obtain ⟨named, same, -, -⟩ := FunctionRecord.registers_iff.mp registers
  rw [FunctionRecord.Answers, named, same, Option.some.injEq]

/-- A name and a number of parameters are taken if an earlier record answers to them. -/
theorem lookup_isSome_iff (registers : List.Forall₂ FunctionRecord.Registers earlier made) :
    (lookup made name arity).isSome ↔ ∃ other ∈ earlier, other.Answers name arity := by
  induction registers with
  | nil => simp [lookup]
  | cons first rest ih =>
    rw [List.exists_mem_cons_iff, first.answers_iff, ← ih]
    simp [lookup]

/-- **A record that can be registered becomes its function.** -/
theorem register_of_registrable (registers : List.Forall₂ FunctionRecord.Registers earlier made)
    (good : record.Registrable earlier) :
    ∃ function, record.Registers function ∧ register made record = .ok function := by
  obtain ⟨name, named⟩ := Option.isSome_iff_exists.mp good.named
  have few : ¬ record.arity > Interface.maxArity := not_maxArity_lt_iff.mpr good.few
  have free : ¬ (lookup made name record.arity.toNat).isSome := by
    rw [lookup_isSome_iff registers]
    rintro ⟨other, before, same⟩
    exact good.new name named other before same
  refine ⟨{ name, arity := record.arity, flags := record.flags, body := record.body }, ?_, ?_⟩
  · exact FunctionRecord.registers_iff.mpr ⟨named, rfl, rfl, rfl⟩
  · simp only [register, named, if_neg few, if_neg free]
    rfl

/-- **Any other record ends the registration.** -/
theorem register_of_offends (registers : List.Forall₂ FunctionRecord.Registers earlier made)
    (offends : record.Offends earlier reason) :
    register made record = .error (.invalidEntry reason) := by
  cases offends with
  | nameless unread =>
    simp only [register, unread, ← registers.length_eq]
    rfl
  | arity named many =>
    simp only [register, named, if_pos (maxArity_lt_iff.mpr many)]
    rfl
  | repeated named few before same =>
    have taken := (lookup_isSome_iff registers).mpr ⟨_, before, same⟩
    simp only [register, named, if_neg (not_maxArity_lt_iff.mpr few), if_pos taken]
    rfl

end Record

/-! ### The whole table -/

section Table

variable {earlier records : List FunctionRecord} {made all : List Registered} {reason : String}

/-- **A table without an offence is registered as a whole**, in its order. -/
theorem registerAll_of_flawless (registers : List.Forall₂ FunctionRecord.Registers earlier made)
    (flawless : Flawless FunctionRecord.Offends earlier records) :
    ∃ all, registerAll made records = .ok all ∧
      List.Forall₂ FunctionRecord.Registers (earlier ++ records) all := by
  -- Along the table, the functions made so far are those of the records read so far.
  induction records generalizing earlier made with
  | nil => exact ⟨made, rfl, by rwa [List.append_nil]⟩
  | cons record rest ih =>
    obtain ⟨clean, later⟩ := flawless_cons.mp flawless
    obtain ⟨function, first, registered⟩ :=
      register_of_registrable registers (FunctionRecord.clean_iff.mp clean)
    obtain ⟨all, others, whole⟩ := ih (List.rel_append registers (.cons first .nil)) later
    refine ⟨all, ?_, by rwa [List.append_cons]⟩
    rw [registerAll, registered]
    exact others

/-- **The first offence ends the registration**, whatever follows it. -/
theorem registerAll_of_firstOffence (registers : List.Forall₂ FunctionRecord.Registers earlier made)
    (first : FirstOffence FunctionRecord.Offends earlier records reason) :
    registerAll made records = .error (.invalidEntry reason) := by
  induction records generalizing earlier made with
  | nil => exact absurd first not_firstOffence_nil
  | cons record rest ih =>
    rcases firstOffence_cons.mp first with offends | ⟨clean, later⟩
    · rw [registerAll, register_of_offends registers offends]
      rfl
    · obtain ⟨function, registered?, registered⟩ :=
        register_of_registrable registers (FunctionRecord.clean_iff.mp clean)
      rw [registerAll, registered]
      exact ih (List.rel_append registers (.cons registered? .nil)) later

end Table

/-! ### The entry -/

/-- An entry whose functions are all registered. -/
structure Entry.Registrable (entry : Entry) : Prop where
  count : 0 ≤ entry.count
  /-- Only an entry that announces no functions needs no table. -/
  table : entry.count ≠ 0 → entry.functions ≠ none
  records : ∀ (index : Nat) (record : FunctionRecord), entry.records[index]? = some record →
    record.Registrable (entry.records.take index)

/-- Why the functions of an entry are not registered: their number, a missing table, or the first
bad record. -/
inductive Entry.Unregistrable (entry : Entry) : String → Prop
  | count (negative : entry.count < 0) :
      Unregistrable entry s!"negative function count {entry.count}"
  | table (positive : 0 < entry.count) (missing : entry.functions = none) :
      Unregistrable entry "function table is null"
  | record {reason : String} (first : FirstOffence FunctionRecord.Offends [] entry.records reason) :
      Unregistrable entry reason

/-- The header is that of a module for this host. -/
structure Entry.HeaderAccepted (entry : Entry) : Prop where
  major : entry.major = Interface.major
  minor : entry.minor ≤ Interface.minor
  named : (readText entry.name).isSome
  flavour : ∀ variant, readText entry.vmVariant = some variant → variant = Interface.vmVariant

section Entries

variable {entry : Entry} {reason : String}

theorem Entry.registrable_iff :
    entry.Registrable ↔
      0 ≤ entry.count ∧ (entry.count ≠ 0 → entry.functions ≠ none) ∧
        Flawless FunctionRecord.Offends [] entry.records := by
  constructor
  · rintro ⟨count, table, records⟩
    exact ⟨count, table,
      fun index record found => FunctionRecord.clean_iff.mpr (records index record found)⟩
  · rintro ⟨count, table, flawless⟩
    exact ⟨count, table,
      fun index record found => FunctionRecord.clean_iff.mp (flawless index record found)⟩

/-- The functions of an entry are registered, or there is a reason why not. -/
theorem Entry.registrable_or_unregistrable (entry : Entry) :
    entry.Registrable ∨ ∃ reason, entry.Unregistrable reason := by
  by_cases negative : entry.count < 0
  · exact Or.inr ⟨_, .count negative⟩
  · have count := Int32.not_lt.mp negative
    by_cases table : entry.count ≠ 0 → entry.functions ≠ none
    · by_cases flawless : Flawless FunctionRecord.Offends [] entry.records
      · exact Or.inl (Entry.registrable_iff.mpr ⟨count, table, flawless⟩)
      · obtain ⟨reason, first⟩ := not_forall_not.mp (flawless_iff.not.mp flawless)
        exact Or.inr ⟨reason, .record first⟩
    · obtain ⟨filled, missing⟩ := Classical.not_imp.mp table
      exact Or.inr ⟨_, .table (Int32.lt_of_le_of_ne count (Ne.symm filled)) (not_not.mp missing)⟩

/-- An entry without announced records has none with an offence. -/
theorem Entry.records_eq_nil (empty : entry.count ≤ 0 ∨ entry.functions = none) :
    entry.records = [] := by
  rcases empty with few | missing
  · have zero : entry.count.toInt.toNat = 0 := Int.toNat_eq_zero.mpr (Int32.le_iff_toInt_le.mp few)
    rw [Entry.records, zero, List.take_zero]
  · rw [Entry.records, missing]
    exact List.take_nil

/-- The table of an entry that announces functions is registered record by record. -/
theorem Entry.registry_eq (count : 0 ≤ entry.count)
    (table : entry.count ≠ 0 → entry.functions ≠ none) :
    entry.registry = registerAll [] entry.records := by
  rw [Entry.registry, if_neg (Int32.not_lt.mpr count)]
  by_cases zero : entry.count = 0
  · rw [Entry.records_eq_nil (Or.inl (Int32.le_of_eq zero))]
    exact if_pos zero
  · obtain ⟨records, there⟩ := Option.ne_none_iff_exists'.mp (table zero)
    simp only [if_neg zero, there]
    rw [Entry.records, there]
    rfl

theorem Entry.registry_of_registrable (good : entry.Registrable) :
    ∃ functions, entry.registry = .ok functions ∧
      List.Forall₂ FunctionRecord.Registers entry.records functions := by
  obtain ⟨count, table, flawless⟩ := Entry.registrable_iff.mp good
  rw [Entry.registry_eq count table]
  exact registerAll_of_flawless .nil flawless

theorem Entry.registry_of_unregistrable (bad : entry.Unregistrable reason) :
    entry.registry = .error (.invalidEntry reason) := by
  cases bad with
  | count negative =>
    rw [Entry.registry, if_pos negative]
    rfl
  | table positive missing =>
    have nonneg : ¬ entry.count < 0 := Int32.not_lt.mpr (Int32.le_of_lt positive)
    have filled : entry.count ≠ 0 := (Int32.ne_of_lt positive).symm
    rw [Entry.registry, if_neg nonneg]
    simp only [if_neg filled, missing]
    rfl
  | record first =>
    -- A table with a record to stumble on is there and is not announced to be empty.
    have some : entry.records ≠ [] := by
      intro none
      rw [none] at first
      exact not_firstOffence_nil first
    have positive : ¬ entry.count ≤ 0 := fun few => some (Entry.records_eq_nil (Or.inl few))
    have table : entry.functions ≠ none :=
      fun missing => some (Entry.records_eq_nil (Or.inr missing))
    rw [Entry.registry_eq (Int32.le_of_lt (Int32.not_le.mp positive)) fun filled => table]
    exact registerAll_of_firstOffence .nil first

/-- Past the header only the functions decide. -/
theorem Entry.accept_of_headerAccepted (header : entry.HeaderAccepted) :
    ∃ name, readText entry.name = some name ∧
      entry.accept = entry.registry.map fun functions => {
        name, major := entry.major, minor := entry.minor, vmVariant := readText entry.vmVariant
        minErts := readText entry.minErts, options := entry.options, functions
        unload := entry.unload } := by
  obtain ⟨name, named⟩ := Option.isSome_iff_exists.mp header.named
  have version : ¬ (entry.major ≠ Interface.major ∨ entry.minor > Interface.minor) :=
    not_or.mpr ⟨not_not.mpr header.major, Int32.not_lt.mpr header.minor⟩
  refine ⟨name, named, ?_⟩
  rw [Entry.accept, if_neg version]
  cases flavour : readText entry.vmVariant with
  | none =>
    simp only [named]
    cases entry.registry <;> rfl
  | some variant =>
    have own : ¬ variant ≠ Interface.vmVariant := not_not.mpr (header.flavour variant flavour)
    simp only [named, if_neg own]
    cases entry.registry <;> rfl

end Entries

/-! ### The module -/

/-- The module has one function for each record of the entry, and no other. -/
structure Loaded.Tabulates (module : Loaded) (entry : Entry) : Prop where
  /-- Each record became its function, in the order of the table. -/
  functions : List.Forall₂ FunctionRecord.Registers entry.records module.functions
  /-- The function of a record is found under its name and number of parameters. -/
  found : ∀ record ∈ entry.records, ∀ name arity, record.Answers name arity →
    module.function? name arity = record.registered?
  /-- No two records are called in the same way. -/
  single : ∀ (first second : Nat) (one other : FunctionRecord) (name : String) (arity : Nat),
    entry.records[first]? = some one → entry.records[second]? = some other →
      one.Answers name arity → other.Answers name arity → first = second
  missing : ∀ name arity, (∀ record ∈ entry.records, ¬ record.Answers name arity) →
    module.function? name arity = none
  listed : module.listing.Perm module.functions
  count : (module.listing.length : Int) = entry.count.toInt

section Loading

variable {entry : Entry} {host : Host} {module : Loaded} {records : List FunctionRecord}
  {functions : List Registered} {record : FunctionRecord}

/-- The function of a record is among the registered ones. -/
theorem exists_registers (registers : List.Forall₂ FunctionRecord.Registers records functions)
    (member : record ∈ records) : ∃ function ∈ functions, record.Registers function := by
  induction registers with
  | nil => cases member
  | cons first rest ih =>
    rcases List.mem_cons.mp member with rfl | later
    · exact ⟨_, List.mem_cons_self, first⟩
    · obtain ⟨function, there, registered⟩ := ih later
      exact ⟨function, List.mem_cons_of_mem _ there, registered⟩

/-- Two records of a registrable entry are not called in the same way. -/
theorem Entry.Registrable.not_answers_of_lt (good : entry.Registrable) {first second : Nat}
    {one other : FunctionRecord} {name : String} {arity : Nat} (before : first < second)
    (here : entry.records[first]? = some one) (there : entry.records[second]? = some other)
    (answers : other.Answers name arity) : ¬ one.Answers name arity := by
  obtain ⟨named, rfl⟩ := answers
  have earlier : one ∈ entry.records.take second := by
    refine List.mem_of_getElem? (i := first) ?_
    rw [List.getElem?_take_of_lt before, here]
  exact (good.records second other there).new name named one earlier

/-- The announced records are as many as announced, if the table is that long. -/
theorem Entry.Registrable.length_records (good : entry.Registrable)
    (whole : ∀ table, entry.functions = some table → entry.count.toInt ≤ table.length) :
    (entry.records.length : Int) = entry.count.toInt := by
  have positive : 0 ≤ entry.count.toInt := Int32.le_iff_toInt_le.mp good.count
  by_cases zero : entry.count = 0
  · rw [Entry.records_eq_nil (Or.inl (Int32.le_of_eq zero)), zero]
    rfl
  · obtain ⟨table, there⟩ := Option.ne_none_iff_exists'.mp (good.table zero)
    have long := whole table there
    rw [Entry.records, there, Option.getD_some, List.length_take]
    omega

/-- **What is registered of an entry is what it announces.** -/
theorem Loaded.tabulates_of_registers (good : entry.Registrable)
    (whole : ∀ table, entry.functions = some table → entry.count.toInt ≤ table.length)
    (done : entry.registry = .ok module.functions)
    (registers : List.Forall₂ FunctionRecord.Registers entry.records module.functions) :
    module.Tabulates entry where
  functions := registers
  found record announced name arity answers := by
    obtain ⟨function, there, registered⟩ := exists_registers registers announced
    obtain ⟨rfl, rfl⟩ := registered.answers_iff.mp answers
    have distinct := nodup_of_registerAll (registerAll_of_registry done) List.nodup_nil
    exact (lookup_of_mem distinct there).trans registered.symm
  single first second one other name arity here there answers answersToo := by
    rcases Nat.lt_trichotomy first second with before | same | after
    · exact absurd answers (good.not_answers_of_lt before here there answersToo)
    · exact same
    · exact absurd answersToo (good.not_answers_of_lt after there here answers)
  missing name arity unanswered := lookup_of_none (registerAll_of_registry done) rfl unanswered
  listed := List.mergeSort_perm _ _
  count := by
    rw [Loaded.listing, List.length_mergeSort, ← registers.length_eq]
    exact good.length_records whole

/-- An entry that is refused leaves the host as it was: no callback runs. -/
theorem Loaded.load_of_refused {failure : LoadFailure} (refused : entry.accept = .error failure) :
    Loaded.load (some entry) host = (.error failure, host) :=
  Loaded.load_eq_iff.mpr (.refused refused)

/-- Once an entry is accepted, only its load callback can keep it from being loaded. -/
theorem Loaded.load_of_accepted (host : Host) {accepted : Loaded}
    (done : entry.accept = .ok accepted) :
    (∃ stored, (Loaded.load (some entry) host).1 = .ok { accepted with privData := stored }) ∨
      ∃ status, (Loaded.load (some entry) host).1 = .error (.loadCallbackFailed status) := by
  obtain ⟨outcome, loads⟩ := Loaded.exists_loads host (some entry)
  rw [Loaded.load_of_loads loads]
  cases loads with
  | refused refused => cases done.symm.trans refused
  | plain same =>
    obtain rfl := Except.ok.inj (done.symm.trans same)
    exact Or.inl ⟨accepted.privData, rfl⟩
  | declined => exact Or.inr ⟨_, rfl⟩
  | stored same =>
    obtain rfl := Except.ok.inj (done.symm.trans same)
    exact Or.inl ⟨_, rfl⟩

/-- A module that is loaded is the one that was accepted, with what its load callback stored. -/
theorem Loaded.accept_of_load (loaded : (Loaded.load (some entry) host).1 = .ok module) :
    ∃ accepted stored, entry.accept = .ok accepted ∧
      module = { accepted with privData := stored } := by
  cases outcome : entry.accept with
  | error failure =>
    rw [Loaded.load_of_refused outcome] at loaded
    cases loaded
  | ok accepted =>
    rcases Loaded.load_of_accepted host outcome with ⟨stored, kept⟩ | ⟨status, failed⟩
    · exact ⟨accepted, stored, rfl, Except.ok.inj (loaded.symm.trans kept)⟩
    · cases failed.symm.trans loaded

/-- A registrable entry with a header for this host is accepted, with a function for each of its
records. -/
theorem Entry.accept_of_registrable (header : entry.HeaderAccepted) (good : entry.Registrable) :
    ∃ accepted, entry.accept = .ok accepted ∧
      List.Forall₂ FunctionRecord.Registers entry.records accepted.functions := by
  obtain ⟨name, -, decided⟩ := Entry.accept_of_headerAccepted header
  obtain ⟨functions, done, registers⟩ := Entry.registry_of_registrable good
  rw [decided, done]
  exact ⟨_, rfl, registers⟩

/-- Any other entry with such a header is refused, and the reason is the first one. -/
theorem Entry.accept_of_unregistrable {reason : String} (header : entry.HeaderAccepted)
    (bad : entry.Unregistrable reason) : entry.accept = .error (.invalidEntry reason) := by
  obtain ⟨name, -, decided⟩ := Entry.accept_of_headerAccepted header
  rw [decided, Entry.registry_of_unregistrable bad]
  rfl

/-- An entry with such a header is accepted exactly if its functions can be registered. -/
theorem Entry.registrable_iff_accept (header : entry.HeaderAccepted) :
    entry.Registrable ↔ ∃ accepted, entry.accept = .ok accepted := by
  constructor
  · intro good
    obtain ⟨accepted, done, -⟩ := Entry.accept_of_registrable header good
    exact ⟨accepted, done⟩
  · rintro ⟨accepted, done⟩
    rcases entry.registrable_or_unregistrable with good | ⟨reason, bad⟩
    · exact good
    · cases done.symm.trans (Entry.accept_of_unregistrable header bad)

/-- It is refused only for the reason that its functions cannot be registered. -/
theorem Entry.accept_eq_error_iff {failure : LoadFailure} (header : entry.HeaderAccepted) :
    entry.accept = .error failure ↔
      ∃ reason, failure = .invalidEntry reason ∧ entry.Unregistrable reason := by
  constructor
  · intro refused
    rcases entry.registrable_or_unregistrable with good | ⟨reason, bad⟩
    · obtain ⟨accepted, done, -⟩ := Entry.accept_of_registrable header good
      cases refused.symm.trans done
    · have same := refused.symm.trans (Entry.accept_of_unregistrable header bad)
      exact ⟨reason, Except.error.inj same, bad⟩
  · rintro ⟨reason, rfl, bad⟩
    exact Entry.accept_of_unregistrable header bad

theorem Loaded.load_eq_invalidEntry_iff {reason : String} (header : entry.HeaderAccepted) :
    (Loaded.load (some entry) host).1 = .error (.invalidEntry reason) ↔
      entry.Unregistrable reason := by
  constructor
  · intro invalid
    cases outcome : entry.accept with
    | error failure =>
      obtain ⟨first, rfl, bad⟩ := (Entry.accept_eq_error_iff header).mp outcome
      rw [Loaded.load_of_refused outcome] at invalid
      cases invalid
      exact bad
    | ok accepted =>
      rcases Loaded.load_of_accepted host outcome with ⟨stored, kept⟩ | ⟨status, failed⟩
      · cases kept.symm.trans invalid
      · cases failed.symm.trans invalid
  · intro bad
    rw [Loaded.load_of_refused (Entry.accept_of_unregistrable header bad)]

/-- A module with the functions of one that was accepted has the functions of the entry. -/
theorem Loaded.tabulates_of_accept {accepted : Loaded} (header : entry.HeaderAccepted)
    (whole : ∀ table, entry.functions = some table → entry.count.toInt ≤ table.length)
    (done : entry.accept = .ok accepted) (same : accepted.functions = module.functions) :
    module.Tabulates entry := by
  have good := (Entry.registrable_iff_accept header).mpr ⟨accepted, done⟩
  obtain ⟨acceptedToo, doneToo, registers⟩ := Entry.accept_of_registrable header good
  obtain rfl := Except.ok.inj (done.symm.trans doneToo)
  rw [same] at registers
  refine Loaded.tabulates_of_registers good whole ?_ registers
  rw [← same]
  exact registry_of_accept done

/-- **Functions are registered exactly.** An entry whose header is accepted is accepted as a whole
exactly if its functions can be registered. The module then has one function for each record and no
other, whether or not a load callback runs before it is handed out. Any other entry is invalid for
the reason that comes first, and the host stays as it was. -/
theorem Loaded.registration_exact (header : entry.HeaderAccepted)
    (whole : ∀ table, entry.functions = some table → entry.count.toInt ≤ table.length) :
    (entry.Registrable ↔ ∃ accepted, entry.accept = .ok accepted) ∧
      (∀ failure, entry.accept = .error failure ↔
        ∃ reason, failure = .invalidEntry reason ∧ entry.Unregistrable reason) ∧
      ∀ host,
        (∀ module, entry.accept = .ok module ∨ (Loaded.load (some entry) host).1 = .ok module →
          module.Tabulates entry) ∧
        (∀ reason, (Loaded.load (some entry) host).1 = .error (.invalidEntry reason) ↔
          entry.Unregistrable reason) ∧
        ∀ reason, entry.Unregistrable reason →
          Loaded.load (some entry) host = (.error (.invalidEntry reason), host) := by
  refine ⟨Entry.registrable_iff_accept header, fun failure => Entry.accept_eq_error_iff header,
    fun host => ⟨?_, fun reason => Loaded.load_eq_invalidEntry_iff header, fun reason bad => ?_⟩⟩
  · rintro module (done | loaded)
    · exact Loaded.tabulates_of_accept header whole done rfl
    · obtain ⟨accepted, stored, done, rfl⟩ := Loaded.accept_of_load loaded
      exact Loaded.tabulates_of_accept header whole done rfl
  · exact Loaded.load_of_refused (Entry.accept_of_unregistrable header bad)

/-- One name with two numbers of parameters, then one of the two again and a record without a name:
the repetition is reported, and nothing runs. -/
theorem Loaded.registration_exact_repeated :
    ∃ (entry : Entry) (first second third fourth : FunctionRecord),
      entry.HeaderAccepted ∧ entry.functions = some [first, second, third, fourth] ∧
      entry.count.toInt ≤ [first, second, third, fourth].length ∧
      first.Answers "f" 1 ∧ second.Answers "f" 2 ∧ third.Answers "f" 1 ∧ fourth.name = none ∧
      ∀ host, Loaded.load (some entry) host =
        (.error (.invalidEntry "duplicate function f/1"), host) := by
  let body : NativeFunction := fun _ _ => return Word.nil
  let named (arity : UInt32) : FunctionRecord := { name := some (utf8Bytes "f"), arity, body }
  let nameless : FunctionRecord := { name := none, arity := 0, body }
  let table := [named 1, named 2, named 1, nameless]
  let entry : Entry := { name := some (utf8Bytes "m"), count := 4, functions := some table }
  have read : readText (some (utf8Bytes "f")) = some "f" := by decide
  have flavour : readText entry.vmVariant = some Interface.vmVariant := by decide
  have header : entry.HeaderAccepted :=
    ⟨rfl, Int32.le_refl _, by decide,
      fun variant named => Option.some.inj (named.symm.trans flavour)⟩
  have whole : ∀ records, entry.functions = some records → entry.count.toInt ≤ records.length := by
    rintro _ ⟨⟩
    decide
  have clean (earlier : List FunctionRecord) (arity : UInt32) (few : arity.toNat ≤ 255)
      (new : ∀ other ∈ earlier, other.arity ≠ arity) :
      ∀ reason, ¬ (named arity).Offends earlier reason :=
    FunctionRecord.clean_iff.mpr ⟨Option.isSome_of_eq_some read, few,
      fun name named other before same => new other before (UInt32.toNat_inj.mp same.2)⟩
  have text : "duplicate function " ++ signature "f" 1 = "duplicate function f/1" := by decide
  have bad : (named 1).Offends [named 1, named 2] "duplicate function f/1" := by
    rw [← text]
    exact .repeated read (show (named 1).arity.toNat ≤ 255 by decide) List.mem_cons_self ⟨read, rfl⟩
  have first : FirstOffence FunctionRecord.Offends [] entry.records "duplicate function f/1" :=
    firstOffence_cons.mpr (Or.inr ⟨clean [] 1 (by decide) (by simp),
      firstOffence_cons.mpr (Or.inr ⟨clean [named 1] 2 (by decide) (by simp [named]),
        firstOffence_cons.mpr (Or.inl bad)⟩)⟩)
  obtain ⟨-, -, outcome⟩ := Loaded.registration_exact header whole
  exact ⟨entry, named 1, named 2, named 1, nameless, header, rfl, whole table rfl, ⟨read, rfl⟩,
    ⟨read, rfl⟩, ⟨read, rfl⟩, rfl, fun host => (outcome host).2.2 _ (.record first)⟩

end Loading

end Nif.Module
