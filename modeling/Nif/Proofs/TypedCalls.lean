import Nif.Proofs.Dispatch
import Nif.Proofs.Encoding
import Nif.Proofs.Reading

/-!
**Typed functions keep the protocol of calls.**

* `Handler.Returns`: the result of a handler on the meanings of its arguments.
* `Handler.native_run`: as the runtime calls it, a handler ends with a term and no new exception, or
  with no value and an exception.
* `Module.Loaded.call_typed`: so a call of a typed function gives the image of its result exactly if
  there is one, and `badarg` in every other case.
-/

namespace Nif

/-! ### Failures and panics -/

theorem run_raiseFailures (attempt : Attempt (Ending Word)) (frame : Frame) :
    (raiseFailures attempt).run frame =
      match attempt.outcome frame with
      | (.ok (.returned word), after) => (word, after)
      | (.ok .panicked, after) => (after.note .callPanicked).raise
      | (.error fault, after) => (after.note (.callFailed fault)).raise := by
  rw [raiseFailures, Program.run_bind, Attempt.outcome]
  rcases attempt.run.run frame with ⟨_ | _ | _, after⟩ <;> rfl

/-- **A failure and a panic raise**: there is no value, and an exception is pending. -/
theorem run_raiseFailures_of_failed {attempt : Attempt (Ending Word)} {frame after later : Frame}
    {ending : Except Fault (Ending Word)} {word : Word}
    (run : (raiseFailures attempt).run frame = (word, later))
    (outcome : attempt.outcome frame = (ending, after))
    (failed : ∀ word, ending ≠ .ok (.returned word))
    (room : after.host.atoms.Admits {Frame.badarg}) :
    word = Word.nonValue ∧ later.env.exception.isSome := by
  have raised : ∀ note, (after.note note).raise = (word, later) →
      word = Word.nonValue ∧ later.env.exception.isSome := by
    intro note run
    have raise : (after.note note).raise.1 = Word.nonValue ∧
        (after.note note).raise.2.env.exception.isSome := Frame.raise_of_admits room
    rwa [run] at raise
  rw [run_raiseFailures, outcome] at run
  cases ending with
  | error fault => exact raised _ run
  | ok ending =>
    cases ending with
    | panicked => exact raised _ run
    | returned word => exact absurd rfl (failed word)

/-- The words of an array whose length is the count that was announced, if that is the expected
count. -/
theorem argumentWords_of_length {count : Int32} {words : List Word}
    (same : count.toInt = words.length) (expected : Option Nat) :
    argumentWords count (some words) expected =
      if expected.any (· ≠ words.length) then .error (.arityMismatch (expected.getD 0) words.length)
      else .ok words := by
  have positive : ¬ count < 0 := by
    rw [Int32.lt_iff_toInt_lt, same]
    simp
  have actual : count.toInt.toNat = words.length := by
    rw [same]
    rfl
  simp only [argumentWords, if_neg positive, actual]
  by_cases empty : words.length = 0
  · simp [List.length_eq_zero_iff.mp empty]
  · simp [empty]

namespace Handler

variable {handler : Handler} {words : List Word} {values : List Value} {frame : Frame}
  {result : Data}

/-- The handler gets as many arguments as it has parameters, takes a value from the meaning of each,
and returns the result for these values. -/
def Returns (handler : Handler) (values : List Value) (result : Data) : Prop :=
  values.length = handler.arity ∧
    ∃ arguments, Arguments.read handler.params values = .ok arguments ∧
      handler.body arguments = .returned result

theorem Returns.unique {other : Data} (one : handler.Returns values result)
    (two : handler.Returns values other) : result = other := by
  obtain ⟨-, arguments, read, body⟩ := one
  obtain ⟨-, _, readToo, bodyToo⟩ := two
  cases read.symm.trans readToo
  cases body.symm.trans bodyToo
  rfl

/-- Room for what the handler may make: its result, and the reason to raise if that cannot be made.
-/
structure Fits (handler : Handler) (values : List Value) (frame : Frame) : Prop where
  badarg : frame.host.atoms.Admits {Frame.badarg}
  result : ∀ result, handler.Returns values result →
    frame.Room result.parts.cells (result.parts.names ∪ {Frame.badarg})

/-- A handler that returns has its result encoded. -/
theorem outcome_call_of_returns (means : frame.Means words values)
    (returns : handler.Returns values result) {made : Except Fault Word} {after : Frame}
    (encoded : result.encode.outcome frame = (made, after)) :
    (handler.call words).outcome frame = (made.map .returned, after) := by
  obtain ⟨count, arguments, read, body⟩ := returns
  rw [← means.length_eq] at count
  unfold call
  rw [if_neg (not_not.mpr count)]
  show Attempt.outcome (decodeArguments handler.params words >>= _) frame = _
  rw [Attempt.outcome_bind, outcome_decodeArguments means, read]
  dsimp only
  rw [body]
  show Attempt.outcome (result.encode >>= _) frame = _
  rw [Attempt.outcome_bind, encoded]
  cases made <;> rfl

/-- A handler that does not return touches nothing. -/
theorem outcome_call_of_not_returns (means : frame.Means words values)
    (fails : ∀ result, ¬ handler.Returns values result) :
    ∃ ending, (handler.call words).outcome frame = (ending, frame) ∧
      ∀ word, ending ≠ .ok (.returned word) := by
  unfold call
  by_cases count : words.length = handler.arity
  · rw [if_neg (not_not.mpr count)]
    show ∃ ending, Attempt.outcome (decodeArguments handler.params words >>= _) frame = _ ∧ _
    rw [Attempt.outcome_bind, outcome_decodeArguments means]
    cases read : Arguments.read handler.params values with
    | error fault => exact ⟨_, rfl, fun word same => by cases same⟩
    | ok arguments =>
      dsimp only
      cases body : handler.body arguments with
      | panicked => exact ⟨_, rfl, fun word same => by cases same⟩
      | returned result =>
        exact absurd ⟨means.length_eq ▸ count, arguments, read, body⟩ (fails result)
  · rw [if_pos count]
    exact ⟨_, rfl, fun word same => by cases same⟩

/-- The count that the runtime gives is checked before anything else. -/
theorem outcome_argumentWords (handler : Handler) {count : Int32}
    (same : count.toInt = words.length) (frame : Frame) :
    Attempt.outcome (do handler.call (← argumentWords count (some words) (some handler.arity)))
        frame =
      if handler.arity = words.length then (handler.call words).outcome frame
      else (.error (.arityMismatch handler.arity words.length), frame) := by
  rw [argumentWords_of_length same]
  by_cases count : handler.arity = words.length <;> simp [count]

/-- **As the runtime calls it, a handler ends in one of two ways**: with the term of its result and
the exception from before, or, if it has no result that can be made, with no value and an exception.
-/
theorem native_run {count : Int32} (same : count.toInt = words.length)
    (means : frame.Means words values) (fits : handler.Fits values frame) :
    ∃ word after, (handler.native count (some words)).run frame = (word, after) ∧
      ((∃ result, handler.Returns values result ∧ result.parts.firstFault = none ∧
          frame.Built after result.parts.cells result.parts.names ∧ after.Term result.image word) ∨
        ((∀ result, handler.Returns values result → result.parts.firstFault ≠ none) ∧
          word = Word.nonValue ∧ after.env.exception.isSome)) := by
  rcases run : (handler.native count (some words)).run frame with ⟨word, after⟩
  refine ⟨word, after, rfl, ?_⟩
  have outcome := handler.outcome_argumentWords same frame
  by_cases count : handler.arity = words.length
  · rw [if_pos count] at outcome
    by_cases returns : ∃ result, handler.Returns values result
    · obtain ⟨result, returns⟩ := returns
      have room := fits.result result returns
      have follows := result.encode_follows (room.mono le_rfl Finset.subset_union_left)
      rcases encoded : result.encode.outcome frame with ⟨made, later⟩
      rw [outcome_call_of_returns means returns encoded] at outcome
      obtain ⟨built, ⟨term, rfl, clean, isTerm⟩ | ⟨fault, rfl, faulty⟩⟩ :=
        follows.of_outcome encoded
      · rw [native, run_raiseFailures, outcome] at run
        cases run
        exact Or.inl ⟨result, returns, clean, built, isTerm⟩
      · have left : later.Room 0 {Frame.badarg} := built.room room
        have failed :=
          run_raiseFailures_of_failed run outcome (fun word same => by cases same) left.atoms
        refine Or.inr ⟨fun other returnsToo => ?_, failed⟩
        rw [returnsToo.unique returns, faulty]
        exact Option.some_ne_none fault
    · obtain ⟨ending, called, failed⟩ :=
        outcome_call_of_not_returns means (not_exists.mp returns)
      rw [called] at outcome
      exact Or.inr ⟨fun result found => absurd ⟨result, found⟩ returns,
        run_raiseFailures_of_failed run outcome failed fits.badarg⟩
  · rw [if_neg count] at outcome
    have failed :=
      run_raiseFailures_of_failed run outcome (fun word same => by cases same) fits.badarg
    refine Or.inr ⟨fun result returns => absurd returns.1.symm ?_, failed⟩
    rwa [← means.length_eq]

end Handler

/-! ### Calls of typed functions -/

/-- The meanings of arguments, and the room for a result, do not depend on the pending exception. -/
theorem Frame.Means.withException {frame : Frame} {words : List Word} {values : List Value}
    (means : frame.Means words values) (exception : Option Word) :
    (frame.withException exception).Means words values :=
  means.imp fun word _ meaning => (Frame.decode?_of_silent rfl word).trans meaning

theorem Handler.Fits.withException {handler : Handler} {values : List Value} {frame : Frame}
    (fits : handler.Fits values frame) (exception : Option Word) :
    handler.Fits values (frame.withException exception) :=
  ⟨fits.badarg, fun result returns =>
    ⟨(fits.result result returns).slots, (fits.result result returns).atoms⟩⟩

namespace Module.Loaded

/-- **A call of a typed function keeps the protocol.** It gives a term exactly if the handler gets
as many arguments as it has parameters, can read each of them, and returns a result that can be
encoded; then the term means the image of the result. In every other case the call gives `badarg`.
-/
theorem call_typed {entry : Entry} {host : Host} {module : Loaded}
    (loaded : (Loaded.load (some entry) host).1 = .ok module) {record : FunctionRecord}
    (announced : record ∈ entry.records) {handler : Handler} (typed : record.body = handler.native)
    {name : String} {args : List Word} (answers : record.Answers name args.length) {frame : Frame}
    {values : List Value} (means : frame.Means args values) (fits : handler.Fits values frame) :
    (module.call name args frame).1 ≠ .error .invalidReturn ∧
      ((∃ term, (module.call name args frame).1 = .ok term) ↔
        ∃ result, handler.Returns values result ∧ ∀ part ∈ result.parts, part.fault? = none) ∧
      (∀ term result, (module.call name args frame).1 = .ok term → handler.Returns values result →
        term ≠ Word.nonValue ∧ (module.call name args frame).2.decode? term = some result.image) ∧
      ((¬ ∃ term, (module.call name args frame).1 = .ok term) →
        (module.call name args frame).1 = .error .badArg) := by
  obtain ⟨function, found, makes⟩ := function?_of_record loaded announced answers
  have few := makes.few
  rw [answers.2] at few
  have count : (Int32.ofNat args.length).toInt = args.length := Int32.toInt_ofNat_of_lt (by omega)
  have body : function.body = handler.native := makes.body.trans typed
  obtain ⟨word, after, run, ending⟩ :=
    handler.native_run count (means.withException none) (fits.withException none)
  rw [← body] at run
  obtain ⟨reported, silent⟩ := call_eq found frame run
  rw [reported]
  rcases ending with ⟨result, returns, clean, built, term⟩ | ⟨fails, rfl, pending⟩
  · have done : verdict word after.env.exception = .ok word := by
      rw [verdict, if_neg term.proper, built.exception]
      rfl
    rw [done]
    have meaning := (Frame.decode?_of_silent silent word).trans term.meaning
    have whole := Parts.firstFault_eq_none_iff.mp clean
    refine ⟨by simp, ⟨fun _ => ⟨result, returns, whole⟩, fun _ => ⟨word, rfl⟩⟩, ?_,
      fun missing => absurd ⟨word, rfl⟩ missing⟩
    rintro _ other ⟨⟩ returnsToo
    rw [returnsToo.unique returns]
    exact ⟨term.proper, meaning⟩
  · have done : verdict Word.nonValue after.env.exception = .error .badArg := by
      rw [verdict, if_pos rfl, if_pos pending]
    rw [done]
    refine ⟨by simp, ⟨?_, ?_⟩, ?_, fun _ => rfl⟩
    · rintro ⟨term, ⟨⟩⟩
    · rintro ⟨result, returns, clean⟩
      exact absurd (Parts.firstFault_eq_none_iff.mpr clean) (fails result returns)
    · rintro term result ⟨⟩

/-- A function of one integer that pairs it with `ok` and panics at zero, called while an exception
is pending. -/
theorem call_typed_pair :
    ∃ (entry : Entry) (host : Host) (module : Loaded) (record : FunctionRecord) (handler : Handler)
      (frame : Frame) (term : Word),
      (Loaded.load (some entry) host).1 = .ok module ∧ record ∈ entry.records ∧
      record.body = handler.native ∧ frame.env.exception = some Word.nil ∧
      handler.Returns [.int 5] (.pair (.i64 5) .unit) ∧
      (module.call "f" [⟨95⟩] frame).1 = .ok term ∧
      (module.call "f" [⟨95⟩] frame).2.decode? term = some (.tuple [.int 5, .atom "ok"]) := by
  let handler : Handler :=
    { params := [.i64]
      body := fun arguments =>
        if arguments.1 = 0 then .panicked else .returned (.pair (.i64 arguments.1) .unit) }
  let record : FunctionRecord :=
    { name := some (utf8Bytes "f"), arity := 1, body := handler.native }
  let entry : Entry := { name := some (utf8Bytes "m"), count := 1, functions := some [record] }
  let frame : Frame := ⟨{ id := 1, exception := some Word.nil }, {}⟩
  obtain ⟨module, loaded⟩ : ∃ module, (Loaded.load (some entry) {}).1 = .ok module := ⟨_, rfl⟩
  have announced : record ∈ entry.records := List.mem_singleton_self record
  have answers : record.Answers "f" [(⟨95⟩ : Word)].length := ⟨by decide, rfl⟩
  have means : frame.Means [⟨95⟩] [.int 5] := .cons rfl .nil
  have returns : handler.Returns [.int 5] (.pair (.i64 5) .unit) := ⟨rfl, (5, ()), rfl, rfl⟩
  have fits : handler.Fits [.int 5] frame := by
    refine ⟨AtomTable.Admits.of_card (by decide), fun result other => ?_⟩
    obtain rfl := returns.unique other
    exact ⟨by decide, AtomTable.Admits.of_card (by decide)⟩
  obtain ⟨-, ⟨-, succeeds⟩, means, -⟩ := call_typed loaded announced rfl answers means fits
  have clean : ∀ part ∈ (Data.pair (.i64 5) .unit).parts, part.fault? = none :=
    Parts.firstFault_eq_none_iff.mp rfl
  obtain ⟨term, done⟩ := succeeds ⟨_, returns, clean⟩
  exact ⟨entry, {}, module, record, handler, frame, term, loaded, announced, rfl, rfl,
    returns, done, (means term _ done returns).2⟩

end Module.Loaded

end Nif
