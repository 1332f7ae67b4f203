import Mathlib.Data.List.Nodup
import Nif.Module.Builder
import Nif.Proofs.Dispatch

/-!
**What a builder accepts, the host loads, and finds in it what was registered.**

* `readText_of_storedName`: a name that can stand before a terminator is read back from memory.
* `register_of_record`, `registerAll_of_records`: every record that the builder makes is registered.
* `Builder.accept_of_build`: the entry of a valid description is accepted, whatever its functions
  are.
* `Builder.Describes`: a loaded module is what a builder describes.
* `Builder.load_of_build`: how an entry that a builder made is loaded, and what it is refused for.
-/

namespace Nif

/-! ### Names in memory -/

/-- Only the character U+0000 is encoded with a zero byte. -/
theorem eq_of_zero_mem_utf8EncodeChar {c : Char} (member : 0 ∈ String.utf8EncodeChar c) :
    c = '\x00' := by
  have zero : c.val.toNat = 0 := by
    unfold String.utf8EncodeChar at member
    simp only at member
    generalize c.val.toNat = code at member ⊢
    -- The bytes of a longer encoding all have their highest bit set.
    split at member
    · simp [← UInt8.toNat_inj] at member
      omega
    · split at member
      · simp [← UInt8.toNat_inj] at member
        omega
      · split at member <;> simp [← UInt8.toNat_inj] at member <;> omega
  exact Char.ext (UInt32.toNat_inj.mp zero)

theorem utf8Bytes_eq (text : String) :
    utf8Bytes text = text.toList.flatMap String.utf8EncodeChar := by
  rw [utf8Bytes, ← String.utf8Encode_toList, List.utf8Encode]
  simp

namespace Module

/-- **A name that can stand before a terminator is read back.** -/
theorem readText_of_storedName {text : String} {bytes : Bytes}
    (stored : storedName text = .ok bytes) :
    readText (some bytes) = some text := by
  unfold storedName at stored
  split at stored
  · cases stored
  · rename_i plain
    cases stored
    have noZero : 0 ∉ utf8Bytes text := by
      intro zero
      rw [utf8Bytes_eq] at zero
      obtain ⟨c, member, inside⟩ := List.mem_flatMap.mp zero
      obtain rfl := eq_of_zero_mem_utf8EncodeChar inside
      exact plain (List.contains_iff_mem.mpr member)
    rw [readText, Option.bind_some, Bytes.terminated_of_not_mem noZero, Bytes.utf8?_utf8Bytes]

/-! ### Functions -/

/-- Two steps succeed if the first does and the second does on its result. -/
theorem bind_eq_ok_iff {ε α β : Type} {first : Except ε α} {next : α → Except ε β} {result : β} :
    first >>= next = .ok result ↔ ∃ middle, first = .ok middle ∧ next middle = .ok result := by
  cases first with
  | error failure =>
    constructor
    · intro impossible
      cases impossible
    · rintro ⟨middle, impossible, -⟩
      cases impossible
  | ok middle =>
    constructor
    · intro done
      exact ⟨middle, rfl, done⟩
    · rintro ⟨_, same, done⟩
      cases same
      exact done

/-- A check that fails ends everything. -/
theorem check_eq_ok_iff {ε α : Type} {bad : Prop} [Decidable bad] {failure : ε} {rest : Except ε α}
    {result : α} :
    (if bad then do (throw failure : Except ε PUnit); rest else rest) = .ok result ↔
      ¬ bad ∧ rest = .ok result := by
  by_cases holds : bad
  · rw [if_pos holds]
    constructor
    · intro impossible
      cases impossible
    · rintro ⟨not, -⟩
      exact absurd holds not
  · rw [if_neg holds]
    exact (and_iff_right holds).symm

/-- The function that callers find after a registration. -/
def Registration.registered (function : Registration) : Registered :=
  { name := function.name, arity := function.arity, flags := function.flags, body := function.body }

/-- How callers reach the function. -/
def Registered.key (function : Registered) : String × UInt32 := (function.name, function.arity)

section Functions

variable {earlier functions : List Registration} {function : Registration} {made : FunctionRecord}
  {table : List FunctionRecord}

/-- The limit on the number of parameters, as a machine word. -/
theorem not_maxArity_lt_iff {arity : UInt32} :
    ¬ arity > Interface.maxArity ↔ arity.toNat ≤ 255 := by
  rw [gt_iff_lt, UInt32.not_lt, UInt32.le_iff_toNat_le]
  rfl

theorem maxArity_lt_iff {arity : UInt32} : arity > Interface.maxArity ↔ 255 < arity.toNat := by
  rw [← Nat.not_le, ← not_maxArity_lt_iff, not_not]

/-- What the builder has checked of a function when it makes its record. -/
theorem record_eq_ok (done : record earlier function = .ok made) :
    function.arity ≤ Interface.maxArity ∧
      (∀ other ∈ earlier, other.registered.key ≠ function.registered.key) ∧
      ∃ bytes, storedName function.name = .ok bytes ∧
        made = { name := some bytes, arity := function.arity, body := function.body,
                 flags := function.flags } := by
  unfold record at done
  rw [check_eq_ok_iff] at done
  obtain ⟨few, done⟩ := done
  have last :
      ¬ (earlier.any fun other => other.name == function.name && other.arity == function.arity) ∧
      (do
        let stored ← storedName function.name
        return { name := some stored, arity := function.arity, body := function.body,
                 flags := function.flags }) = Except.ok made := by
    cases handler : function.handlerArity with
    | none =>
      simp only [handler, check_eq_ok_iff] at done
      exact done
    | some expected =>
      simp only [handler, check_eq_ok_iff] at done
      exact done.2
  obtain ⟨new, stored⟩ := last
  refine ⟨UInt32.not_lt.mp few, ?_, ?_⟩
  · intro other member same
    obtain ⟨name, arity⟩ := Prod.mk.inj same
    refine new (List.any_eq_true.mpr ⟨other, member, ?_⟩)
    simpa [Registration.registered] using ⟨name, arity⟩
  · obtain ⟨bytes, read, same⟩ := bind_eq_ok_iff.mp stored
    exact ⟨bytes, read, (Except.ok.inj same).symm⟩

/-- **The host registers every record that the builder makes**, whatever was registered before. -/
theorem register_of_record (done : record earlier function = .ok made) :
    register (earlier.map Registration.registered) made = .ok function.registered := by
  obtain ⟨few, new, bytes, stored, rfl⟩ := record_eq_ok done
  have free : lookup (earlier.map Registration.registered) function.name
      function.arity.toNat = none := by
    refine List.find?_eq_none.mpr fun other member same => ?_
    obtain ⟨before, registered, rfl⟩ := List.mem_map.mp member
    simp only [Bool.and_eq_true, beq_iff_eq, UInt32.toNat_inj] at same
    exact new before registered (Prod.ext same.1 same.2)
  unfold register
  simp only [readText_of_storedName stored, if_neg (UInt32.not_lt.mpr few), free]
  rfl

/-- The records are made one after the other. -/
theorem records_cons (done : records earlier (function :: functions) = .ok table) :
    ∃ made others, record earlier function = .ok made ∧
      records (earlier ++ [function]) functions = .ok others ∧ table = made :: others := by
  rw [records] at done
  obtain ⟨made, first, done⟩ := bind_eq_ok_iff.mp done
  obtain ⟨others, later, same⟩ := bind_eq_ok_iff.mp done
  exact ⟨made, others, first, later, (Except.ok.inj same).symm⟩

/-- The table that the builder makes is registered function by function, each under its own key. -/
theorem registerAll_of_records (done : records earlier functions = .ok table) :
    registerAll (earlier.map Registration.registered) table =
      .ok ((earlier ++ functions).map Registration.registered) := by
  induction functions generalizing earlier table with
  | nil =>
    cases done
    rw [List.append_nil]
    rfl
  | cons function rest ih =>
    obtain ⟨made, others, first, later, rfl⟩ := records_cons done
    rw [registerAll, register_of_record first]
    have registered := ih later
    rw [List.map_append, List.append_assoc] at registered
    exact registered

/-- No two functions that the builder accepts are called in the same way. -/
theorem nodup_of_records (done : records earlier functions = .ok table)
    (distinct : (earlier.map fun function => function.registered.key).Nodup) :
    ((earlier ++ functions).map fun function => function.registered.key).Nodup := by
  induction functions generalizing earlier table with
  | nil => rwa [List.append_nil]
  | cons function rest ih =>
    obtain ⟨made, others, first, later, -⟩ := records_cons done
    obtain ⟨-, new, -⟩ := record_eq_ok first
    rw [List.append_cons]
    refine ih later ?_
    rw [List.map_append, List.map_singleton, ← List.concat_eq_append]
    refine distinct.concat fun taken => ?_
    obtain ⟨other, member, same⟩ := List.mem_map.mp taken
    exact new other member same

end Functions

/-! ### Finding functions -/

section Lookup

variable {all : List Registered} {function : Registered}

/-- A function is found where no other is called in the same way. -/
theorem lookup_of_mem (distinct : (all.map Registered.key).Nodup) (member : function ∈ all) :
    lookup all function.name function.arity.toNat = some function := by
  induction all with
  | nil => cases member
  | cons head rest ih =>
    rw [List.map_cons, List.nodup_cons] at distinct
    rcases List.mem_cons.mp member with rfl | later
    · exact List.find?_cons_of_pos (by simp)
    · rw [lookup, List.find?_cons_of_neg]
      · exact ih distinct.2 later
      · intro same
        simp only [Bool.and_eq_true, beq_iff_eq, UInt32.toNat_inj] at same
        exact distinct.1 (List.mem_map.mpr ⟨function, later, (Prod.ext same.1 same.2).symm⟩)

/-- Nothing is found where no function is called so. -/
theorem lookup_of_not_mem {name : String} {arity : Nat}
    (none : ∀ function ∈ all, ¬ (function.name = name ∧ function.arity.toNat = arity)) :
    lookup all name arity = .none := by
  refine List.find?_eq_none.mpr fun function member same => none function member ?_
  simpa using same

end Lookup

/-! ### The entry -/

section Loading

variable {builder : Builder} {description : Description} {entry : Entry} {host : Host}

/-- What a builder lays out. -/
theorem Builder.entry_of_build (built : builder.build = .ok description) :
    ∃ name vmVariant minErts table,
      storedName builder.name = .ok name ∧ storedName builder.vmVariant = .ok vmVariant ∧
      storedName builder.minErts = .ok minErts ∧ records [] builder.functions = .ok table ∧
      table.length ≤ Int32.maxValue.toInt.toNat ∧
      description.entry = {
        name := some name
        count := Int32.ofNat table.length
        functions := if table.isEmpty then none else some table
        load := builder.load
        reload := builder.reload
        upgrade := builder.upgrade
        unload := builder.unload
        vmVariant := some vmVariant
        options := builder.options
        minErts := some minErts } := by
  unfold Builder.build at built
  obtain ⟨name, named, built⟩ := bind_eq_ok_iff.mp built
  obtain ⟨vmVariant, flavour, built⟩ := bind_eq_ok_iff.mp built
  obtain ⟨minErts, oldest, built⟩ := bind_eq_ok_iff.mp built
  obtain ⟨table, made, built⟩ := bind_eq_ok_iff.mp built
  obtain ⟨few, laid⟩ := check_eq_ok_iff.mp built
  cases laid
  exact ⟨name, vmVariant, minErts, table, named, flavour, oldest, made, Nat.not_lt.mp few, rfl⟩

/-- A table whose length is announced is registered as a whole, an empty one without being looked
at. -/
theorem registry_of_table {table : List FunctionRecord}
    (few : table.length ≤ Int32.maxValue.toInt.toNat)
    (count : entry.count = Int32.ofNat table.length)
    (functions : entry.functions = if table.isEmpty then none else some table) :
    entry.registry = registerAll [] table := by
  have most : Int32.maxValue.toInt.toNat = 0x7FFFFFFF := by decide
  have length : entry.count.toInt = table.length := by
    rw [count, Int32.toInt_ofNat_of_lt (by omega)]
  have positive : ¬ entry.count < 0 := by
    rw [Int32.lt_iff_toInt_lt, length]
    exact Int.not_lt.mpr (Int.natCast_nonneg _)
  rw [Entry.registry, if_neg positive]
  cases table with
  | nil => exact if_pos count
  | cons head rest =>
    have filled : entry.count ≠ 0 := by
      intro zero
      rw [zero] at length
      exact absurd length (by simp; omega)
    have whole : (head :: rest).take entry.count.toInt.toNat = head :: rest := by
      rw [length, Int.toNat_natCast, List.take_length]
    simp only [if_neg filled, functions]
    exact congrArg (registerAll []) whole

/-- An entry of the host's own version is refused for another emulator flavour, or for its table. -/
theorem accept_of_header {name variant : String} (major : entry.major = Interface.major)
    (minor : entry.minor = Interface.minor) (named : readText entry.name = some name)
    (flavour : readText entry.vmVariant = some variant) :
    entry.accept =
      if variant ≠ Interface.vmVariant then .error (.vmVariantMismatch variant)
      else do
        let functions ← entry.registry
        return {
          name, major := entry.major, minor := entry.minor, vmVariant := some variant
          minErts := readText entry.minErts, options := entry.options, functions
          unload := entry.unload } := by
  have version : ¬ (entry.major ≠ Interface.major ∨ entry.minor > Interface.minor) := by
    rw [major, minor]
    decide
  rw [Entry.accept, if_neg version]
  simp only [named, flavour]
  split <;> rfl

/-- The module has the header of the builder and exactly its functions, each with what was given
when it was registered. -/
structure Builder.Describes (builder : Builder) (module : Loaded) : Prop where
  name : module.name = builder.name
  version : (module.major, module.minor) = (2, 16)
  vmVariant : module.vmVariant = some builder.vmVariant
  minErts : module.minErts = some builder.minErts
  options : module.options = builder.options
  unload : module.unload = builder.unload
  functions : module.functions = builder.functions.map Registration.registered
  distinct : (module.functions.map Registered.key).Nodup
  found : ∀ function ∈ builder.functions,
    module.function? function.name function.arity.toNat = some function.registered
  missing : ∀ name arity,
    (∀ function ∈ builder.functions, ¬ (function.name = name ∧ function.arity.toNat = arity)) →
      module.function? name arity = none

/-- A module with the builder's functions, under distinct keys, finds them and nothing else. -/
theorem Builder.Describes.of_header {module : Loaded} (name : module.name = builder.name)
    (version : (module.major, module.minor) = (2, 16))
    (vmVariant : module.vmVariant = some builder.vmVariant)
    (minErts : module.minErts = some builder.minErts) (options : module.options = builder.options)
    (unload : module.unload = builder.unload)
    (functions : module.functions = builder.functions.map Registration.registered)
    (distinct : (module.functions.map Registered.key).Nodup) : builder.Describes module := by
  refine ⟨name, version, vmVariant, minErts, options, unload, functions, distinct, ?_, ?_⟩
  · intro function member
    have there : function.registered ∈ module.functions := by
      rw [functions]
      exact List.mem_map_of_mem member
    exact lookup_of_mem distinct there
  · intro name arity none
    refine lookup_of_not_mem fun function member => ?_
    rw [functions] at member
    obtain ⟨registration, registered, rfl⟩ := List.mem_map.mp member
    exact none registration registered

/-- What the load callback stored is no part of the description, and neither is where the module
came from. -/
theorem Builder.Describes.kept {module : Loaded} (describes : builder.Describes module)
    (privData : UInt64) (fromLibrary : Bool) :
    builder.Describes { module with privData, fromLibrary } :=
  ⟨describes.name, describes.version, describes.vmVariant, describes.minErts, describes.options,
    describes.unload, describes.functions, describes.distinct, describes.found, describes.missing⟩

/-- The entry has the builder's load callback. -/
theorem Builder.load_eq_of_build (built : builder.build = .ok description) :
    description.entry.load = builder.load := by
  obtain ⟨_, _, _, _, -, -, -, -, -, laid⟩ := builder.entry_of_build built
  rw [laid]

/-- **The host accepts every entry of its own emulator flavour that a builder laid out**, and
refuses the others for their flavour alone. Nothing is stored yet. -/
theorem Builder.accept_of_build (built : builder.build = .ok description) :
    (builder.vmVariant ≠ Interface.vmVariant →
      description.entry.accept = .error (.vmVariantMismatch builder.vmVariant)) ∧
    (builder.vmVariant = Interface.vmVariant →
      ∃ module, description.entry.accept = .ok module ∧ builder.Describes module ∧
        module.privData = 0) := by
  obtain ⟨name, vmVariant, minErts, table, named, flavour, oldest, made, few, laid⟩ :=
    builder.entry_of_build built
  have registered :
      description.entry.registry = .ok (builder.functions.map Registration.registered) := by
    rw [registry_of_table few (by rw [laid]) (by rw [laid])]
    exact registerAll_of_records made
  have accepts : description.entry.accept = _ :=
    accept_of_header (by rw [laid]) (by rw [laid])
      (by rw [laid]; exact readText_of_storedName named)
      (by rw [laid]; exact readText_of_storedName flavour)
  rw [registered] at accepts
  refine ⟨fun other => ?_, fun same => ?_⟩
  · rw [accepts, if_pos other]
  · rw [if_neg (not_not_intro same)] at accepts
    refine ⟨_, accepts, ?_, rfl⟩
    have distinct := nodup_of_records made List.nodup_nil
    refine .of_header rfl ?_ rfl ?_ ?_ ?_ rfl ?_
    · rw [laid]
      rfl
    · rw [laid]
      exact readText_of_storedName oldest
    · rw [laid]
    · rw [laid]
    · rw [List.map_map]
      exact distinct

/-- **The loader takes what the builder made.** A description of another emulator flavour is refused
for its flavour. Then the load callback runs, in a fresh environment and with no load information,
and may refuse; whatever is left becomes a loaded module that is what the builder describes, with
the private data that the callback stored. No table that the builder accepts is ever found invalid.
-/
theorem Builder.load_of_build (built : builder.build = .ok description) (host : Host) :
    (builder.vmVariant ≠ "beam.vanilla" →
      Loaded.load (some description.entry) host =
        (.error (.vmVariantMismatch builder.vmVariant), host)) ∧
    (builder.vmVariant = "beam.vanilla" →
      (builder.load = none → ∃ module, builder.Describes module ∧ module.privData = 0 ∧
        Loaded.load (some description.entry) host = (.ok module, announce module host)) ∧
      ∀ callback answer frame, builder.load = some callback →
        (callback Word.nil).run (callbackFrame host (.load builder.name · Word.nil)) =
          (answer, frame) →
        (answer.status ≠ 0 → Loaded.load (some description.entry) host =
          (.error (.loadCallbackFailed answer.status), frame.host)) ∧
        (answer.status = 0 → ∃ module,
          builder.Describes module ∧ module.privData = answer.privData ∧
          Loaded.load (some description.entry) host = (.ok module, announce module frame.host))) ∧
    ∀ reason, (Loaded.load (some description.entry) host).1 ≠ .error (.invalidEntry reason) := by
  obtain ⟨refuses, accepts⟩ := builder.accept_of_build built
  have same := builder.load_eq_of_build built
  refine ⟨fun other => ?_, fun own => ⟨fun silent => ?_, fun callback answer frame loads ran => ?_⟩,
    fun reason invalid => ?_⟩
  · exact Loaded.load_eq_iff.mpr (.refused (refuses other))
  · obtain ⟨module, accepted, describes, stored⟩ := accepts own
    exact ⟨module, describes, stored, Loaded.load_eq_iff.mpr (.plain accepted (same.trans silent))⟩
  · obtain ⟨module, accepted, describes, -⟩ := accepts own
    rw [← describes.name] at ran
    constructor
    · intro failed
      exact Loaded.load_eq_iff.mpr (.declined accepted (same.trans loads) ran failed)
    · intro done
      exact ⟨_, describes.kept answer.privData module.fromLibrary, rfl,
        Loaded.load_eq_iff.mpr (.stored accepted (same.trans loads) ran done)⟩
  · obtain ⟨outcome, loads⟩ := Loaded.exists_loads host (some description.entry)
    rw [Loaded.load_of_loads loads] at invalid
    cases loads with
    | plain | declined | stored => cases invalid
    | refused refused =>
      cases invalid
      by_cases own : builder.vmVariant = Interface.vmVariant
      · obtain ⟨module, accepted, -⟩ := accepts own
        cases accepted.symm.trans refused
      · cases (refuses own).symm.trans refused

/-- Two functions of one name, apart in their number of parameters and their flags. One load
callback stores private data; another one makes an atom and then refuses. -/
theorem Builder.load_of_build_overloaded :
    ∃ (willing refusing : Builder) (description refused : Description) (host after later : Host)
      (handle : Loaded),
      willing.functions.map (fun function => (function.name, function.arity, function.flags)) =
        [("é", 0, 0), ("é", 255, 2)] ∧
      willing.vmVariant = "beam.vanilla" ∧ refusing.vmVariant = "beam.vanilla" ∧
      willing.build = .ok description ∧ refusing.build = .ok refused ∧
      Loaded.load (some description.entry) host = (.ok handle, after) ∧ handle.privData = 7 ∧
      (handle.function? "é" 255).map Registered.flags = some 2 ∧ handle.function? "é" 1 = none ∧
      Loaded.load (some refused.entry) host = (.error (.loadCallbackFailed 3), later) ∧
      later.atoms.names = [utf8Bytes "no"] ∧ later.callbacks = #[.load "m" 1 Word.nil] := by
  let body : NativeFunction := fun _ _ => return Word.nil
  let store : LoadCallback := fun _ => return { privData := 7 }
  let refuse : LoadCallback := fun information => do
    let _ ← Symbol.makeAtom (utf8Bytes "no")
    return { status := if information = Word.nil then 3 else 4 }
  let builder : LoadCallback → Builder := fun callback => {
    name := "m"
    functions :=
      [{ name := "é", arity := 0, body }, { name := "é", arity := 255, body, flags := 2 }]
    load := some callback }
  have plain : storedName "é" = .ok (utf8Bytes "é") := by simp [storedName]
  have built : ∀ callback, ∃ description, (builder callback).build = .ok description := by
    intro callback
    have table : records [] (builder callback).functions = .ok
        [{ name := some (utf8Bytes "é"), arity := 0, body },
          { name := some (utf8Bytes "é"), arity := 255, body, flags := 2 }] := by
      simp only [builder, records, record, plain]
      rfl
    have named : storedName (builder callback).name = .ok (utf8Bytes "m") := by
      simp [builder, storedName]
    have flavour : storedName (builder callback).vmVariant =
        .ok (utf8Bytes Interface.vmVariant) := by
      simp [builder, storedName, Interface.vmVariant]
    have oldest : storedName (builder callback).minErts = .ok (utf8Bytes Interface.minErts) := by
      simp [builder, storedName, Interface.minErts]
    rw [Builder.build, named, flavour, oldest, table]
    exact ⟨_, rfl⟩
  obtain ⟨description, willing⟩ := built store
  obtain ⟨refused, refusing⟩ := built refuse
  obtain ⟨-, accepts, -⟩ := (builder store).load_of_build willing {}
  obtain ⟨-, stores⟩ := (accepts rfl).2 store _ _ rfl rfl
  obtain ⟨handle, describes, stored, loaded⟩ := stores rfl
  obtain ⟨-, declines, -⟩ := (builder refuse).load_of_build refusing {}
  obtain ⟨failed, -⟩ := (declines rfl).2 refuse _ _ rfl rfl
  refine ⟨builder store, builder refuse, description, refused, {}, _, _, handle, rfl, rfl,
    rfl, willing, refusing, loaded, stored, ?_, ?_, failed (by decide), rfl, rfl⟩
  · have second :=
      describes.found { name := "é", arity := 255, body, flags := 2 } (by simp [builder])
    rw [show (255 : UInt32).toNat = 255 from rfl] at second
    rw [second]
    rfl
  · refine describes.missing "é" 1 fun function member answers => ?_
    rcases List.mem_pair.mp member with rfl | rfl
    · exact absurd answers.2 (by decide)
    · exact absurd answers.2 (by decide)

end Loading

end Module

end Nif
