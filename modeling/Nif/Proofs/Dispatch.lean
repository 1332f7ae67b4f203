import Nif.Module.Loaded
import Nif.Proofs.Exceptions
import Nif.Proofs.Loading

/-!
**Calls reach the function that was registered, and report exactly how it ended.**

* `Entry.records`: the records that an entry announces; `FunctionRecord.Answers`: the name and the
  number of arguments under which a record is called.
* `Loaded.function?_of_record`, `Loaded.function?_of_none`: what a loaded module finds is what its
  entry announced.
* `Loaded.call_eq`: a call of a registered function is one run of it that starts without an
  exception.
* `Loaded.call_exact`: which calls are undefined, and what the others make of the word and the
  exception that the run ends with.
-/

namespace Nif.Module

/-! ### Registration -/

/-- Callers reach the record's function by this name and this number of arguments. -/
def FunctionRecord.Answers (record : FunctionRecord) (name : String) (arity : Nat) : Prop :=
  readText record.name = some name ∧ record.arity.toNat = arity

/-- The records that an entry announces. -/
def Entry.records (entry : Entry) : List FunctionRecord :=
  (entry.functions.getD []).take entry.count.toInt.toNat

/-- The function was made from the record, which has no more parameters than a function may have. -/
structure FunctionRecord.Makes (record : FunctionRecord) (function : Registered) : Prop where
  name : readText record.name = some function.name
  arity : function.arity = record.arity
  body : function.body = record.body
  few : record.arity.toNat ≤ 255

section Registration

variable {earlier all : List Registered} {records : List FunctionRecord} {record : FunctionRecord}
  {function : Registered} {name : String} {arity : Nat}

/-- A record is registered only if there is no function yet that would be called in the same way. -/
theorem makes_of_register (done : register earlier record = .ok function) :
    record.Makes function ∧ lookup earlier function.name function.arity.toNat = none := by
  unfold register at done
  cases read : readText record.name with
  | none =>
    rw [read] at done
    cases done
  | some name =>
    simp only [read] at done
    by_cases many : record.arity > Interface.maxArity
    · rw [if_pos many] at done
      cases done
    · rw [if_neg many] at done
      by_cases taken : (lookup earlier name record.arity.toNat).isSome
      · rw [if_pos taken] at done
        cases done
      · rw [if_neg taken] at done
        cases done
        have few : record.arity ≤ Interface.maxArity := UInt32.not_lt.mp many
        exact ⟨⟨read, rfl, rfl, UInt32.le_iff_toNat_le.mp few⟩,
          Option.not_isSome_iff_eq_none.mp taken⟩

/-- The records are registered one after the other. -/
theorem registerAll_cons (done : registerAll earlier (record :: records) = .ok all) :
    ∃ first, register earlier record = .ok first ∧
      registerAll (earlier ++ [first]) records = .ok all := by
  rw [registerAll] at done
  cases registered : register earlier record with
  | error failure =>
    rw [registered] at done
    cases done
  | ok first =>
    rw [registered] at done
    exact ⟨first, rfl, done⟩

theorem lookup_append (earlier later : List Registered) (name : String) (arity : Nat) :
    lookup (earlier ++ later) name arity =
      (lookup earlier name arity).or (lookup later name arity) :=
  List.find?_append

/-- Registering more functions hides none. -/
theorem lookup_of_earlier (done : registerAll earlier records = .ok all)
    (found : lookup earlier name arity = some function) :
    lookup all name arity = some function := by
  induction records generalizing earlier with
  | nil =>
    cases done
    exact found
  | cons record rest ih =>
    obtain ⟨first, _, others⟩ := registerAll_cons done
    refine ih others ?_
    rw [lookup_append, found, Option.some_or]

/-- Each record's function is found. -/
theorem lookup_of_record (done : registerAll earlier records = .ok all)
    (announced : record ∈ records) (answers : record.Answers name arity) :
    ∃ function, lookup all name arity = some function ∧ record.Makes function := by
  induction records generalizing earlier with
  | nil => cases announced
  | cons head rest ih =>
    obtain ⟨first, registered, others⟩ := registerAll_cons done
    rcases List.mem_cons.mp announced with rfl | later
    · obtain ⟨makes, free⟩ := makes_of_register registered
      obtain ⟨read, rfl⟩ := answers
      obtain rfl := Option.some.inj (makes.name.symm.trans read)
      rw [makes.arity] at free
      refine ⟨first, lookup_of_earlier others ?_, makes⟩
      rw [lookup_append, free, Option.none_or, lookup, List.find?_cons_of_pos]
      simp [makes.arity]
    · exact ih others later

/-- Nothing else is found. -/
theorem lookup_of_none (done : registerAll earlier records = .ok all)
    (missing : lookup earlier name arity = none)
    (unanswered : ∀ record ∈ records, ¬ record.Answers name arity) :
    lookup all name arity = none := by
  induction records generalizing earlier with
  | nil =>
    cases done
    exact missing
  | cons record rest ih =>
    obtain ⟨first, registered, others⟩ := registerAll_cons done
    refine ih others ?_ fun other member => unanswered other (List.mem_cons_of_mem _ member)
    obtain ⟨makes, -⟩ := makes_of_register registered
    rw [lookup_append, missing, Option.none_or, lookup, List.find?_cons_of_neg]
    · rfl
    · intro same
      simp only [Bool.and_eq_true, beq_iff_eq, makes.arity] at same
      exact unanswered record List.mem_cons_self ⟨same.1 ▸ makes.name, same.2⟩

end Registration

/-! ### Loaded modules -/

section Loading

variable {entry : Entry} {host : Host} {module : Loaded} {name : String} {arity : Nat}

theorem registerAll_of_registry {functions : List Registered}
    (done : entry.registry = .ok functions) :
    registerAll [] entry.records = .ok functions := by
  unfold Entry.registry at done
  by_cases negative : entry.count < 0
  · rw [if_pos negative] at done
    cases done
  · rw [if_neg negative] at done
    by_cases zero : entry.count = 0
    · rw [Entry.records, zero]
      exact (if_pos zero).symm.trans done
    · simp only [if_neg zero] at done
      rw [Entry.records]
      cases table : entry.functions with
      | none =>
        rw [table] at done
        cases done
      | some records =>
        rw [table] at done
        exact done

theorem registry_of_accept (done : entry.accept = .ok module) :
    entry.registry = .ok module.functions := by
  unfold Entry.accept at done
  by_cases other : entry.major ≠ Interface.major ∨ entry.minor > Interface.minor
  · rw [if_pos other] at done
    cases done
  · rw [if_neg other] at done
    cases read : readText entry.name with
    | none =>
      rw [read] at done
      cases done
    | some name =>
      simp only [read] at done
      cases registered : entry.registry with
      | error failure =>
        rw [registered] at done
        split at done
        · split at done <;> cases done
        · cases done
      | ok functions =>
        rw [registered] at done
        split at done
        · split at done
          · cases done
          · cases done
            rfl
        · cases done
          rfl

/-- A loaded module has the functions that its entry announces. -/
theorem registerAll_of_load (loaded : (Loaded.load (some entry) host).1 = .ok module) :
    registerAll [] entry.records = .ok module.functions := by
  refine registerAll_of_registry ?_
  obtain ⟨outcome, loads⟩ := Loaded.exists_loads host (some entry)
  rw [Loaded.load_of_loads loads] at loaded
  cases loads with
  | refused | declined => cases loaded
  | plain accepted | stored accepted =>
    have registered := registry_of_accept accepted
    cases loaded
    exact registered

namespace Loaded

/-- **A loaded module finds the function of each record.** -/
theorem function?_of_record (loaded : (Loaded.load (some entry) host).1 = .ok module)
    {record : FunctionRecord} (announced : record ∈ entry.records)
    (answers : record.Answers name arity) :
    ∃ function, module.function? name arity = some function ∧ record.Makes function :=
  lookup_of_record (registerAll_of_load loaded) announced answers

/-- **It finds no other function.** -/
theorem function?_of_none (loaded : (Loaded.load (some entry) host).1 = .ok module)
    (unanswered : ∀ record ∈ entry.records, ¬ record.Answers name arity) :
    module.function? name arity = none :=
  lookup_of_none (registerAll_of_load loaded) rfl unanswered

end Loaded

end Loading

/-! ### Calls -/

/-- **What a call reports**, from the word and the exception that its function ends with. -/
def verdict (word : Word) (exception : Option Word) : Except CallFailure Word :=
  if word = Word.nonValue then
    if exception.isSome then .error .badArg else .error .invalidReturn
  else if exception.isSome then .error .invalidReturn else .ok word

namespace Loaded

/-- The stale exception is dropped, and at most a report tells of it. -/
theorem clearStale_silent (module : Loaded) (name : String) (arity : Nat) (frame : Frame) :
    (module.clearStale name arity frame).silent = (frame.withException none).silent := by
  unfold clearStale Frame.clearException
  cases frame.env.exception <;> rfl

theorem conclude_result (module : Loaded) (name : String) (arity : Nat) (word : Word)
    (frame : Frame) :
    (module.conclude name arity word frame).1 = verdict word frame.env.exception := by
  unfold conclude Frame.clearException verdict
  by_cases missing : word = Word.nonValue <;> cases frame.env.exception <;> simp [missing]

/-- The exception is cleared, and at most a report tells how the call ended. -/
theorem conclude_silent (module : Loaded) (name : String) (arity : Nat) (word : Word)
    (frame : Frame) :
    (module.conclude name arity word frame).2.silent = (frame.withException none).silent := by
  unfold conclude Frame.clearException
  dsimp only
  split <;> rfl

/-- **A call that finds its function is one run of it**, with the arguments and their count, which
starts without an exception. Nothing but reports tells the frame afterwards from the one that the
run left. -/
theorem call_eq {module : Loaded} {name : String} {args : List Word} {function : Registered}
    (found : module.function? name args.length = some function) (frame : Frame) {after : Frame}
    {word : Word} (run : (function.body (Int32.ofNat args.length) (some args)).run
      (frame.withException none) = (word, after)) :
    (module.call name args frame).1 = verdict word after.env.exception ∧
      (module.call name args frame).2.silent = (after.withException none).silent := by
  obtain ⟨sameWord, sameFrame⟩ := Frame.Silent.congr
    (Program.run_silent (function.body (Int32.ofNat args.length) (some args)))
    (module.clearStale_silent name args.length frame)
  rw [run] at sameWord sameFrame
  have sameException := congrArg (fun frame : Frame => frame.env.exception) sameFrame
  simp only [call, found]
  constructor
  · rw [conclude_result, sameWord]
    exact congrArg (verdict word) sameException
  · rw [conclude_silent]
    exact congrArg (·.withException none) sameFrame

/-- After a call that found its function, nothing is pending. -/
theorem exception_of_found {module : Loaded} {name : String} {args : List Word}
    {function : Registered}
    (found : module.function? name args.length = some function) (frame : Frame) :
    (module.call name args frame).2.env.exception = none := by
  obtain ⟨-, silent⟩ := call_eq found frame rfl
  exact congrArg (fun frame : Frame => frame.env.exception) silent

/-- What the result of a call tells about the run of its function: a term and nothing raised, no
value and something raised, or one without the other. -/
structure Reports (result : Except CallFailure Word) (word : Word) (raised : Prop) : Prop where
  ok : ∀ term, result = .ok term ↔ term = word ∧ word ≠ Word.nonValue ∧ ¬ raised
  badArg : result = .error .badArg ↔ word = Word.nonValue ∧ raised
  invalidReturn : result = .error .invalidReturn ↔
    (word = Word.nonValue ∧ ¬ raised) ∨ (word ≠ Word.nonValue ∧ raised)

theorem verdict_reports {exception : Option Word} {raised : Prop}
    (pending : exception.isSome ↔ raised)
    (word : Word) : Reports (verdict word exception) word raised := by
  rw [← pending]
  unfold verdict
  by_cases missing : word = Word.nonValue <;> cases exception <;>
    constructor <;> simp [missing, eq_comm]

/-- **Calls are dispatched exactly, and so are their results.** Under a name and a count that no
record answers to, nothing happens. Otherwise the record's function runs once, on exactly the
arguments and without an exception; the result tells how it ended; no exception stays; and an
exception from before the call makes no difference. -/
theorem call_exact {entry : Entry} {host : Host} {module : Loaded}
    (loaded : (Loaded.load (some entry) host).1 = .ok module) (name : String) (args : List Word)
    (frame : Frame) :
    ((∀ record ∈ entry.records, ¬ record.Answers name args.length) →
      module.call name args frame = (.error (.undefined name args.length), frame)) ∧
    ∀ record ∈ entry.records, record.Answers name args.length →
      ∃ (count : Int32) (word : Word) (after : Frame), count.toInt = args.length ∧
        (record.body count (some args)).run (frame.withException none) = (word, after) ∧
        (after.host.atoms.Admits {Frame.badarg} →
          Reports (module.call name args frame).1 word
            ((record.body count (some args)).Raises (frame.withException none))) ∧
        (module.call name args frame).2.env.exception = none ∧
        (module.call name args frame).2.silent = (after.withException none).silent ∧
        ∀ stale, (module.call name args (frame.withException stale)).1 =
          (module.call name args frame).1 ∧
          (module.call name args (frame.withException stale)).2.silent =
            (module.call name args frame).2.silent := by
  constructor
  · intro unanswered
    rw [call, function?_of_none loaded unanswered]
  · intro record announced answers
    obtain ⟨function, found, makes⟩ := function?_of_record loaded announced answers
    have few := makes.few
    rw [answers.2] at few
    rcases run : (record.body (Int32.ofNat args.length) (some args)).run (frame.withException none)
      with ⟨word, after⟩
    have same := run
    rw [← makes.body] at same
    obtain ⟨result, rest⟩ := call_eq found frame same
    refine ⟨_, word, after, Int32.toInt_ofNat_of_lt (by omega), run, fun room => ?_,
      congrArg (fun frame : Frame => frame.env.exception) rest, rest, fun stale => ?_⟩
    · have raised := Program.run_exception _ (frame.withException none) (by rw [run]; exact room)
      rw [run] at raised
      rw [result]
      exact verdict_reports (raised.trans (or_iff_right Bool.false_ne_true)) word
    · obtain ⟨resultToo, restToo⟩ := call_eq found (frame.withException stale) same
      exact ⟨resultToo.trans result.symm, restToo.trans rest.symm⟩

/-- A function that raises and yet returns a term, called while an older exception is pending. -/
theorem call_exact_contradiction :
    ∃ (entry : Entry) (host : Host) (module : Loaded) (record : FunctionRecord) (frame : Frame),
      (Loaded.load (some entry) host).1 = .ok module ∧ record ∈ entry.records ∧
      record.Answers "f" 1 ∧ frame.env.exception = some Word.nil ∧
      (module.call "f" [Word.nil] frame).1 = .error .invalidReturn := by
  let record : FunctionRecord :=
    { name := some (utf8Bytes "f"), arity := 1, body := fun _ _ => do
        let _ ← Make.badarg
        return Word.nil }
  let entry : Entry := { name := some (utf8Bytes "m"), count := 1, functions := some [record] }
  let frame : Frame := ⟨{ id := 1, exception := some Word.nil }, {}⟩
  obtain ⟨module, loaded⟩ : ∃ module, (Loaded.load (some entry) {}).1 = .ok module := ⟨_, rfl⟩
  have announced : record ∈ entry.records := List.mem_singleton_self record
  have answers : record.Answers "f" [Word.nil].length := ⟨by decide, rfl⟩
  obtain ⟨count, word, after, -, run, reports, -⟩ :=
    (call_exact loaded "f" [Word.nil] frame).2 record announced answers
  obtain ⟨rfl, rfl⟩ := Prod.mk.inj run
  have room : (Frame.raise (frame.withException none)).2.host.atoms.Admits {Frame.badarg} :=
    AtomTable.Admits.of_card (by decide)
  have raises : (record.body count (some [Word.nil])).Raises (frame.withException none) :=
    ⟨_, List.mem_cons_self, trivial⟩
  exact ⟨entry, {}, module, record, frame, loaded, announced, answers, rfl,
    (reports room).invalidReturn.mpr (Or.inr ⟨by decide, raises⟩)⟩

end Loaded

end Nif.Module
