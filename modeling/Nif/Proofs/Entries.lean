import Nif.Proofs.Description

/-!
**What the host has seen of an entry when it accepts it.**

* `makes_of_registerAll`, `nodup_of_registerAll`: a table is registered record by record, each
  function under a key of its own.
* `Entry.Accepted`: the header, the whole table and the callbacks of an entry, and the module made
  of them.
* `Entry.accepted_of_accept`: what is accepted is all of this.
-/

namespace Nif.Module

/-! ### The function table -/

section Registration

variable {earlier all : List Registered} {records : List FunctionRecord}

/-- A table that is registered as a whole has become one function after the other. -/
theorem makes_of_registerAll (done : registerAll earlier records = .ok all) :
    ∃ made, all = earlier ++ made ∧ List.Forall₂ FunctionRecord.Makes records made := by
  induction records generalizing earlier with
  | nil =>
    cases done
    exact ⟨[], (List.append_nil _).symm, .nil⟩
  | cons record rest ih =>
    obtain ⟨first, registered, others⟩ := registerAll_cons done
    obtain ⟨made, rfl, makes⟩ := ih others
    exact ⟨first :: made, List.append_cons .. |>.symm, .cons (makes_of_register registered).1 makes⟩

/-- A key is free if nothing is found under it. -/
theorem key_not_mem_of_lookup {function : Registered}
    (free : lookup earlier function.name function.arity.toNat = none) :
    function.key ∉ earlier.map Registered.key := by
  intro taken
  obtain ⟨other, member, same⟩ := List.mem_map.mp taken
  obtain ⟨name, arity⟩ := Prod.mk.inj same
  refine List.find?_eq_none.mp free other member ?_
  simp [name, arity]

/-- No two functions of a table are called in the same way. -/
theorem nodup_of_registerAll (done : registerAll earlier records = .ok all)
    (distinct : (earlier.map Registered.key).Nodup) : (all.map Registered.key).Nodup := by
  induction records generalizing earlier with
  | nil =>
    cases done
    exact distinct
  | cons record rest ih =>
    obtain ⟨first, registered, others⟩ := registerAll_cons done
    refine ih others ?_
    rw [List.map_append, List.map_singleton, ← List.concat_eq_append]
    exact distinct.concat (key_not_mem_of_lookup (makes_of_register registered).2)

end Registration

/-! ### The whole entry -/

/-- An entry that passes every check, and the module that it describes. -/
structure Entry.Accepted (entry : Entry) (module : Loaded) : Prop where
  major : entry.major = Interface.major
  minor : entry.minor ≤ Interface.minor
  name : readText entry.name = some module.name
  /-- The flavour may be left open. -/
  flavour : ∀ variant, readText entry.vmVariant = some variant → variant = Interface.vmVariant
  count : 0 ≤ entry.count
  /-- Only an entry without functions needs no table. -/
  table : entry.count ≠ 0 → entry.functions.isSome
  /-- Every record became a function. -/
  functions : List.Forall₂ FunctionRecord.Makes entry.records module.functions
  distinct : (module.functions.map Registered.key).Nodup
  unload : module.unload = entry.unload
  /-- Nothing is stored before the load callback has run. -/
  privData : module.privData = 0

section Acceptance

variable {entry : Entry} {module : Loaded}

/-- A registered table is there, unless it is announced to be empty. -/
theorem Entry.table_of_registry {functions : List Registered}
    (done : entry.registry = .ok functions) :
    0 ≤ entry.count ∧ (entry.count ≠ 0 → entry.functions.isSome) := by
  obtain ⟨positive, done⟩ := check_eq_ok_iff.mp done
  refine ⟨Int32.not_lt.mp positive, fun filled => ?_⟩
  simp only [if_neg filled] at done
  cases table : entry.functions with
  | none =>
    rw [table] at done
    cases done
  | some records => rfl

/-- Acceptance, check by check. -/
theorem Entry.accept_eq_ok (done : entry.accept = .ok module) :
    entry.major = Interface.major ∧ entry.minor ≤ Interface.minor ∧
      (∀ variant, readText entry.vmVariant = some variant → variant = Interface.vmVariant) ∧
      ∃ name functions, readText entry.name = some name ∧ entry.registry = .ok functions ∧
        module = {
          name, major := entry.major, minor := entry.minor, vmVariant := readText entry.vmVariant
          minErts := readText entry.minErts, options := entry.options, functions
          unload := entry.unload } := by
  obtain ⟨version, done⟩ := check_eq_ok_iff.mp done
  obtain ⟨major, minor⟩ := not_or.mp version
  refine ⟨not_not.mp major, Int32.not_lt.mp minor, ?_⟩
  cases named : readText entry.name with
  | none =>
    rw [named] at done
    cases done
  | some name =>
    cases flavour : readText entry.vmVariant with
    | none =>
      simp only [named, flavour] at done
      obtain ⟨functions, registered, made⟩ := bind_eq_ok_iff.mp done
      exact ⟨nofun, name, functions, rfl, registered, (Except.ok.inj made).symm⟩
    | some variant =>
      simp only [named, flavour, check_eq_ok_iff] at done
      obtain ⟨own, done⟩ := done
      obtain ⟨functions, registered, made⟩ := bind_eq_ok_iff.mp done
      refine ⟨?_, name, functions, rfl, registered, (Except.ok.inj made).symm⟩
      rintro _ ⟨⟩
      exact not_not.mp own

/-- **What the host accepts has passed every check.** -/
theorem Entry.accepted_of_accept (done : entry.accept = .ok module) : entry.Accepted module := by
  obtain ⟨major, minor, flavour, name, functions, named, registered, rfl⟩ := Entry.accept_eq_ok done
  obtain ⟨count, table⟩ := Entry.table_of_registry registered
  have whole := registerAll_of_registry registered
  obtain ⟨made, rfl, makes⟩ := makes_of_registerAll whole
  exact {
    major, minor, flavour, count, table
    name := named
    functions := makes
    distinct := nodup_of_registerAll whole List.nodup_nil
    unload := rfl
    privData := rfl }

end Acceptance

end Nif.Module
