import Nif.Proofs.Description
import Nif.Proofs.Offences

/-!
**A builder accepts exactly the valid descriptions, and reports the first violation of any other.**

* `Registration.Violates`: what is wrong with a function, after the functions registered before it.
* `record_of_sound`, `record_of_violates`: the check of one function; `records_of_flawless` and
  `records_of_firstOffence`: of all of them.
* `Builder.Valid`, `Builder.FirstViolation`: a description without violations, and the violation of
  any other that comes first.
* `Builder.build_exact`: what is built of a valid description, and what is reported of any other.
-/

namespace Nif.Module

/-! ### Texts -/

/-- The text can stand before a terminator. -/
def Storable (text : String) : Prop := '\x00' ∉ text.toList

section Texts

variable {text : String}

theorem storedName_of_storable (storable : Storable text) :
    storedName text = .ok (utf8Bytes text) := by
  rw [storedName, if_neg]
  exact fun zero => storable (List.contains_iff_mem.mp zero)

theorem storedName_of_not_storable (zero : ¬ Storable text) :
    storedName text = .error (.invalidName text) := by
  rw [storedName, if_pos]
  exact List.contains_iff_mem.mpr (not_not.mp zero)

end Texts

/-! ### One function -/

/-- The record of a function as it stands in a table. -/
def Registration.record (function : Registration) : FunctionRecord :=
  { name := some (utf8Bytes function.name), arity := function.arity, body := function.body,
    flags := function.flags }

/-- The function has as many parameters as the handler behind it, where that is known. -/
def Registration.Agrees (function : Registration) : Prop :=
  ∀ expected, function.handlerArity = some expected → expected = function.arity.toNat

/-- No function that was registered before has this name and this number of parameters. -/
def Registration.New (earlier : List Registration) (function : Registration) : Prop :=
  ∀ other ∈ earlier, ¬ (other.name = function.name ∧ other.arity = function.arity)

/-- There is nothing wrong with a function by itself. -/
structure Registration.Sound (function : Registration) : Prop where
  few : function.arity.toNat ≤ 255
  agrees : function.Agrees
  name : Storable function.name

/-- What is wrong with a function, after the functions registered before it. Of several violations
the first one counts: too many parameters, another number of them than the handler has, a
registration made before, and a name that cannot be stored. -/
inductive Registration.Violates (earlier : List Registration) (function : Registration) :
    Fault → Prop
  | arity (many : 255 < function.arity.toNat) :
      Violates earlier function (.invalidFunction
        (signature function.name function.arity ++ " exceeds the maximum arity of 255"))
  | handler {expected : Nat} (few : function.arity.toNat ≤ 255)
      (wraps : function.handlerArity = some expected) (differs : expected ≠ function.arity.toNat) :
      Violates earlier function (.invalidFunction
        (signature function.name function.arity ++
          s!" wraps a function taking {expected} arguments"))
  | repeated (few : function.arity.toNat ≤ 255) (agrees : function.Agrees)
      (taken : ¬ function.New earlier) :
      Violates earlier function (.invalidFunction
        (signature function.name function.arity ++ " is registered twice"))
  | name (few : function.arity.toNat ≤ 255) (agrees : function.Agrees) (new : function.New earlier)
      (zero : ¬ Storable function.name) : Violates earlier function (.invalidName function.name)

section Function

variable {earlier : List Registration} {function : Registration} {fault : Fault}

/-- A function has a violation, or it has none and is not registered yet. -/
theorem Registration.sound_or_violates (earlier : List Registration) (function : Registration) :
    (function.Sound ∧ function.New earlier) ∨ ∃ fault, function.Violates earlier fault := by
  by_cases few : function.arity.toNat ≤ 255
  · by_cases agrees : function.Agrees
    · by_cases new : function.New earlier
      · by_cases storable : Storable function.name
        · exact Or.inl ⟨⟨few, agrees, storable⟩, new⟩
        · exact Or.inr ⟨_, .name few agrees new storable⟩
      · exact Or.inr ⟨_, .repeated few agrees new⟩
    · obtain ⟨expected, differs⟩ := not_forall.mp agrees
      obtain ⟨wraps, differs⟩ := Classical.not_imp.mp differs
      exact Or.inr ⟨_, .handler few wraps differs⟩
  · exact Or.inr ⟨_, .arity (Nat.not_le.mp few)⟩

/-- A function is without a violation if it is sound and not registered yet. -/
theorem Registration.clean_iff :
    (∀ fault, ¬ function.Violates earlier fault) ↔ function.Sound ∧ function.New earlier := by
  refine Nif.clean_iff (sound_or_violates earlier function) ?_
  rintro ⟨sound, new⟩ fault violates
  cases violates with
  | arity many => exact absurd sound.few (Nat.not_le.mpr many)
  | handler few wraps differs => exact differs (sound.agrees _ wraps)
  | repeated few agrees taken => exact taken new
  | name few agrees new zero => exact zero sound.name

theorem Registration.new_concat_iff {other : Registration} :
    function.New (earlier ++ [other]) ↔
      function.New earlier ∧ ¬ (other.name = function.name ∧ other.arity = function.arity) := by
  rw [New, List.forall_mem_append, List.forall_mem_singleton]
  rfl

/-- The check against the earlier functions. -/
theorem any_iff_not_new :
    (earlier.any fun other => other.name == function.name && other.arity == function.arity) = true ↔
      ¬ function.New earlier := by
  simp [Registration.New]

/-- With few parameters, all of them the handler's, a function is checked against the earlier ones
and then for its name. -/
theorem record_of_agrees (few : function.arity.toNat ≤ 255) (agrees : function.Agrees) :
    record earlier function =
      if earlier.any fun other => other.name == function.name && other.arity == function.arity then
        .error (.invalidFunction (signature function.name function.arity ++ " is registered twice"))
      else (storedName function.name).map fun stored =>
        { name := some stored, arity := function.arity, body := function.body,
          flags := function.flags } := by
  have inside := not_maxArity_lt_iff.mpr few
  have last : ∀ stored : Except Fault Bytes,
      (do return { name := some (← stored), arity := function.arity, body := function.body,
                   flags := function.flags } : Except Fault FunctionRecord) =
        stored.map fun stored =>
          { name := some stored, arity := function.arity, body := function.body,
            flags := function.flags } := by
    intro stored
    cases stored <;> rfl
  unfold record
  rw [if_neg inside, ← last]
  cases wraps : function.handlerArity with
  | none => split <;> rfl
  | some expected =>
    have same : ¬ function.arity.toNat ≠ expected := not_not.mpr (agrees expected wraps).symm
    simp only [if_neg same]
    split <;> rfl

/-- **A sound function that is not registered yet gets its record.** -/
theorem record_of_sound (sound : function.Sound) (new : function.New earlier) :
    record earlier function = .ok function.record := by
  rw [record_of_agrees sound.few sound.agrees, if_neg (any_iff_not_new.not.mpr (not_not.mpr new)),
    storedName_of_storable sound.name]
  rfl

/-- **Any other function is refused for its violation.** -/
theorem record_of_violates (violates : function.Violates earlier fault) :
    record earlier function = .error fault := by
  cases violates with
  | arity many =>
    rw [record, if_pos (maxArity_lt_iff.mpr many)]
    rfl
  | handler few wraps differs =>
    rw [record, if_neg (not_maxArity_lt_iff.mpr few)]
    simp only [wraps, if_pos differs.symm]
    rfl
  | repeated few agrees taken =>
    rw [record_of_agrees few agrees, if_pos (any_iff_not_new.mpr taken)]
  | name few agrees new zero =>
    rw [record_of_agrees few agrees, if_neg (any_iff_not_new.not.mpr (not_not.mpr new)),
      storedName_of_not_storable zero]
    rfl

end Function

/-! ### All functions -/

section Functions

variable {earlier functions : List Registration} {fault : Fault}

/-- **Functions without a violation get their records, in order.** -/
theorem records_of_flawless (flawless : Flawless Registration.Violates earlier functions) :
    records earlier functions = .ok (functions.map Registration.record) := by
  induction functions generalizing earlier with
  | nil => rfl
  | cons function rest ih =>
    obtain ⟨clean, later⟩ := flawless_cons.mp flawless
    obtain ⟨sound, new⟩ := Registration.clean_iff.mp clean
    rw [records, record_of_sound sound new, ih later]
    rfl

/-- **Of functions with a violation the first one is reported.** -/
theorem records_of_firstOffence
    (first : FirstOffence Registration.Violates earlier functions fault) :
    records earlier functions = .error fault := by
  induction functions generalizing earlier with
  | nil => exact absurd first not_firstOffence_nil
  | cons function rest ih =>
    rcases firstOffence_cons.mp first with violates | ⟨clean, later⟩
    · rw [records, record_of_violates violates]
      rfl
    · obtain ⟨sound, new⟩ := Registration.clean_iff.mp clean
      rw [records, record_of_sound sound new, ih later]
      rfl

/-- Functions are without a violation if each is sound, none is registered yet, and no two have the
same name and the same number of parameters. -/
theorem flawless_violates_iff :
    Flawless Registration.Violates earlier functions ↔
      (∀ function ∈ functions, function.Sound ∧ function.New earlier) ∧
        (functions.map fun function => (function.name, function.arity)).Nodup := by
  induction functions generalizing earlier with
  | nil => exact iff_of_true flawless_nil ⟨List.forall_mem_nil _, List.nodup_nil⟩
  | cons function rest ih =>
    rw [flawless_cons, ih, Registration.clean_iff, List.map_cons, List.nodup_cons,
      List.forall_mem_cons]
    simp only [Registration.new_concat_iff]
    constructor
    · rintro ⟨first, later, distinct⟩
      refine ⟨⟨first, fun other member => ⟨(later other member).1, (later other member).2.1⟩⟩,
        ?_, distinct⟩
      intro taken
      obtain ⟨other, member, same⟩ := List.mem_map.mp taken
      exact (later other member).2.2 (Prod.mk.inj same.symm)
    · rintro ⟨⟨first, later⟩, fresh, distinct⟩
      refine ⟨first, fun other member =>
        ⟨(later other member).1, (later other member).2, fun same => ?_⟩, distinct⟩
      exact fresh (List.mem_map.mpr ⟨other, member, (Prod.ext same.1 same.2).symm⟩)

end Functions

/-! ### The whole description -/

namespace Builder

/-- A description without violations. -/
structure Valid (builder : Builder) : Prop where
  name : Storable builder.name
  vmVariant : Storable builder.vmVariant
  minErts : Storable builder.minErts
  functions : ∀ function ∈ builder.functions, function.Sound
  /-- No two functions have the same name and the same number of parameters. -/
  distinct : (builder.functions.map fun function => (function.name, function.arity)).Nodup

/-- The violation that comes first: that of the name, of the emulator flavour, of the oldest
runtime, and then of the first function that has one. -/
inductive FirstViolation (builder : Builder) : Fault → Prop
  | name (zero : ¬ Storable builder.name) : FirstViolation builder (.invalidName builder.name)
  | vmVariant (name : Storable builder.name) (zero : ¬ Storable builder.vmVariant) :
      FirstViolation builder (.invalidName builder.vmVariant)
  | minErts (name : Storable builder.name) (vmVariant : Storable builder.vmVariant)
      (zero : ¬ Storable builder.minErts) : FirstViolation builder (.invalidName builder.minErts)
  | function {fault : Fault} (name : Storable builder.name) (vmVariant : Storable builder.vmVariant)
      (minErts : Storable builder.minErts)
      (first : FirstOffence Registration.Violates [] builder.functions fault) :
      FirstViolation builder fault

/-- What is laid out of a description: one record for each function, in the order of registration,
their number, and a table that is there unless it is empty. -/
structure LaidOut (builder : Builder) (description : Description) : Prop where
  name : description.name = builder.name
  records : description.functions = builder.functions.map Registration.record
  /-- The names of the records are read back as they were given. -/
  names : description.functions.map (fun record => readText record.name) =
    builder.functions.map (fun function => some function.name)
  count : description.entry.count.toInt = builder.functions.length
  table : description.entry.functions =
    if builder.functions = [] then none else some description.functions

/-- The layout of a description. -/
def layout (builder : Builder) : Description where
  name := builder.name
  functions := builder.functions.map Registration.record
  entry := {
    name := some (utf8Bytes builder.name)
    count := Int32.ofNat builder.functions.length
    functions :=
      if builder.functions = [] then none else some (builder.functions.map Registration.record)
    load := builder.load
    reload := builder.reload
    upgrade := builder.upgrade
    unload := builder.unload
    vmVariant := some (utf8Bytes builder.vmVariant)
    options := builder.options
    minErts := some (utf8Bytes builder.minErts) }

section Build

variable {builder : Builder} {fault : Fault}

/-- A description is valid, or something is wrong with it first. -/
theorem valid_or_violation (builder : Builder) :
    builder.Valid ∨ ∃ fault, builder.FirstViolation fault := by
  by_cases name : Storable builder.name
  · by_cases vmVariant : Storable builder.vmVariant
    · by_cases minErts : Storable builder.minErts
      · by_cases flawless : Flawless Registration.Violates [] builder.functions
        · obtain ⟨sound, distinct⟩ := flawless_violates_iff.mp flawless
          exact Or.inl
            ⟨name, vmVariant, minErts, fun function member => (sound function member).1, distinct⟩
        · obtain ⟨fault, first⟩ := not_forall_not.mp (flawless_iff.not.mp flawless)
          exact Or.inr ⟨fault, .function name vmVariant minErts first⟩
      · exact Or.inr ⟨_, .minErts name vmVariant minErts⟩
    · exact Or.inr ⟨_, .vmVariant name vmVariant⟩
  · exact Or.inr ⟨_, .name name⟩

/-- **What is reported of a description that is not valid.** -/
theorem build_of_violation (violation : builder.FirstViolation fault) :
    builder.build = .error fault := by
  cases violation with
  | name zero =>
    rw [build, storedName_of_not_storable zero]
    rfl
  | vmVariant name zero =>
    rw [build, storedName_of_storable name, storedName_of_not_storable zero]
    rfl
  | minErts name vmVariant zero =>
    rw [build, storedName_of_storable name, storedName_of_storable vmVariant,
      storedName_of_not_storable zero]
    rfl
  | function name vmVariant minErts first =>
    rw [build, storedName_of_storable name, storedName_of_storable vmVariant,
      storedName_of_storable minErts, records_of_firstOffence first]
    rfl

/-- **A valid description is built**, if a table can be as long as it is. -/
theorem build_of_valid (valid : builder.Valid) (few : builder.functions.length ≤ 0x7FFFFFFF) :
    builder.build = .ok builder.layout := by
  have flawless : Flawless Registration.Violates [] builder.functions := by
    refine flawless_violates_iff.mpr ⟨fun function member => ?_, valid.distinct⟩
    exact ⟨valid.functions function member, List.forall_mem_nil _⟩
  have most : ¬ Int32.maxValue.toInt.toNat <
      (builder.functions.map Registration.record).length := by
    rw [List.length_map]
    exact Nat.not_lt.mpr few
  rw [build, storedName_of_storable valid.name, storedName_of_storable valid.vmVariant,
    storedName_of_storable valid.minErts, records_of_flawless flawless]
  refine (if_neg most).trans ?_
  rw [List.length_map, layout]
  cases builder.functions <;> rfl

theorem layout_laidOut (valid : builder.Valid) (few : builder.functions.length ≤ 0x7FFFFFFF) :
    builder.LaidOut builder.layout := by
  refine ⟨rfl, rfl, ?_, Int32.toInt_ofNat_of_lt (Nat.lt_succ_of_le few), rfl⟩
  rw [layout, List.map_map]
  refine List.map_congr_left fun function member => ?_
  exact readText_of_storedName (storedName_of_storable (valid.functions function member).name)

/-- **A builder accepts exactly the valid descriptions and reports the first violation of any
other.** -/
theorem build_exact (few : builder.functions.length ≤ 0x7FFFFFFF) :
    ((∃ description, builder.build = .ok description) ↔ builder.Valid) ∧
      (∀ description, builder.build = .ok description → builder.LaidOut description) ∧
      ∀ fault, builder.build = .error fault ↔ builder.FirstViolation fault := by
  rcases builder.valid_or_violation with valid | ⟨first, violation⟩
  · have built := build_of_valid valid few
    refine ⟨iff_of_true ⟨_, built⟩ valid, fun description builtToo => ?_,
      fun fault => iff_of_false ?_ ?_⟩
    · obtain rfl := Except.ok.inj (built.symm.trans builtToo)
      exact layout_laidOut valid few
    · intro refused
      cases built.symm.trans refused
    · intro violation
      cases built.symm.trans (build_of_violation violation)
  · have refused := build_of_violation violation
    refine ⟨iff_of_false ?_ ?_, fun description built => ?_,
      fun fault => ⟨fun refusedToo => ?_, build_of_violation⟩⟩
    · rintro ⟨description, built⟩
      cases refused.symm.trans built
    · intro valid
      cases refused.symm.trans (build_of_valid valid few)
    · cases refused.symm.trans built
    · obtain rfl := Except.error.inj (refused.symm.trans refusedToo)
      exact violation

/-- A function whose number of parameters is not its handler's, which is registered for the second
time, and after it a name with a zero character: only the first of these is reported. -/
theorem build_exact_overlapping :
    ∃ (builder : Builder) (first second third : Registration),
      builder.functions = [first, second, third] ∧ builder.functions.length ≤ 0x7FFFFFFF ∧
      first.name = second.name ∧ first.arity = second.arity ∧ third.name = "\x00" ∧
      builder.build = .error (.invalidFunction "f/1 wraps a function taking 2 arguments") := by
  let body : NativeFunction := fun _ _ => return Word.nil
  let first : Registration := { name := "f", arity := 1, body }
  let second : Registration := { name := "f", arity := 1, body, handlerArity := some 2 }
  let third : Registration := { name := "\x00", arity := 0, body }
  let builder : Builder := { name := "m", functions := [first, second, third] }
  have few : builder.functions.length ≤ 0x7FFFFFFF := by decide
  obtain ⟨-, -, reports⟩ := builder.build_exact few
  have plain : first.Sound := ⟨by decide, nofun, by simp [first, Storable]⟩
  have text : signature "f" 1 ++ s!" wraps a function taking {2} arguments" =
      "f/1 wraps a function taking 2 arguments" := by decide
  have bad : second.Violates [first]
      (.invalidFunction "f/1 wraps a function taking 2 arguments") := by
    rw [← text]
    exact .handler (by decide) rfl (by decide)
  have offence : FirstOffence Registration.Violates [] builder.functions _ :=
    firstOffence_cons.mpr (Or.inr ⟨Registration.clean_iff.mpr ⟨plain, List.forall_mem_nil _⟩,
      firstOffence_cons.mpr (Or.inl bad)⟩)
  refine ⟨builder, first, second, third, rfl, few, rfl, rfl, rfl,
    (reports _).mpr (.function ?_ ?_ ?_ offence)⟩
  · simp [builder, Storable]
  · simp [builder, Storable, Interface.vmVariant]
  · simp [builder, Storable, Interface.minErts]

end Build

end Builder

end Nif.Module
