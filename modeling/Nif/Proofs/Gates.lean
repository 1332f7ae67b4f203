import Nif.Proofs.Acceptance
import Nif.Proofs.Books
import Nif.Proofs.Offences
import Nif.Proofs.Refusals

/-!
**A native function runs its handler once, or turns the call away.**

* `Program.bind_bind`: how programs that follow each other are grouped makes no difference.
* `ActiveHandler`: a typed handler whose function may itself make requests, so that its runs can be
  seen; `Handler.native_eq_active`: every typed handler is one.
* `Handed`, `Withheld`: whether there are argument words for a function, and why not.
* `Opens`, `Closes`: whether the arguments are values for the parameters, and the fault that comes
  first if not.
* `Program.ReadsThen`: a program that is another one after some readings.
* `Frame.handlers_gated`: which calls run the handler, and what becomes of the others.
-/

namespace Nif

/-! ### Programs one after the other -/

namespace Program

variable {α β γ : Type}

/-- Nothing changes if nothing follows. -/
theorem bind_done (program : Program α) : program.bind done = program := by
  induction program with
  | done result => rfl
  | call request rest ih => exact congrArg (call request) (funext ih)

/-- How three programs are grouped makes no difference. -/
theorem bind_bind (program : Program α) (next : α → Program β) (last : β → Program γ) :
    (program.bind next).bind last = program.bind fun result => (next result).bind last := by
  induction program with
  | done result => rfl
  | call request rest ih => exact congrArg (call request) (funext ih)

instance : LawfulMonad Program := LawfulMonad.mk' Program bind_done (fun _ _ => rfl) bind_bind

end Program

/-! ### Handlers that make requests -/

/-- A function on values that may make requests and may panic. -/
structure ActiveHandler where
  params : List Param
  body : Arguments params → Program (Ending Data)

/-- A typed handler is one that makes no requests. -/
def Handler.active (handler : Handler) : ActiveHandler where
  params := handler.params
  body := fun arguments => return handler.body arguments

namespace ActiveHandler

/-- Reads the arguments, runs the function and makes the term of its result. -/
def call (handler : ActiveHandler) (words : List Word) : Attempt (Ending Word) := do
  if words.length ≠ handler.params.length then
    throw (.arityMismatch handler.params.length words.length)
  match ← handler.body (← decodeArguments handler.params words) with
  | .returned result => return .returned (← result.encode)
  | .panicked => return .panicked

/-- The handler as the runtime calls it. -/
def native (handler : ActiveHandler) : NativeFunction := fun count array => raiseFailures do
  handler.call (← argumentWords count array (some handler.params.length))

end ActiveHandler

/-- **The function of a typed handler is that of the active one.** -/
theorem Handler.native_eq_active (handler : Handler) : handler.native = handler.active.native := rfl

/-! ### Argument words -/

/-- The words that the runtime announces. -/
def announced (count : Int32) (array : Option (List Word)) : List Word :=
  (array.getD []).take count.toInt.toNat

/-- There are argument words for a function, which may expect a certain number of them. -/
structure Handed (count : Int32) (array : Option (List Word)) (expected : Option Nat) : Prop where
  nonneg : 0 ≤ count.toInt
  agrees : ∀ arity : Nat, expected = some arity → count.toInt = arity
  /-- Only a call without arguments needs no array. -/
  there : count ≠ 0 → array ≠ none

/-- Why there are none: a negative count, a count other than the expected one, or a null array. -/
inductive Withheld (count : Int32) (array : Option (List Word)) (expected : Option Nat) :
    Fault → Prop
  | negative (negative : count.toInt < 0) :
      Withheld count array expected (.arityMismatch (expected.getD 0) 0)
  | other {arity : Nat} (positive : 0 ≤ count.toInt) (given : expected = some arity)
      (differs : count.toInt ≠ arity) :
      Withheld count array expected (.arityMismatch arity count.toInt.toNat)
  | null (positive : 0 ≤ count.toInt)
      (agrees : ∀ arity : Nat, expected = some arity → count.toInt = arity)
      (filled : count ≠ 0) (null : array = none) : Withheld count array expected .badArg

section Words

variable {count : Int32} {array : Option (List Word)} {expected : Option Nat} {fault : Fault}

theorem handed_or_withheld (count : Int32) (array : Option (List Word)) (expected : Option Nat) :
    Handed count array expected ∨ ∃ fault, Withheld count array expected fault := by
  by_cases positive : 0 ≤ count.toInt
  · by_cases agrees : ∀ arity : Nat, expected = some arity → count.toInt = arity
    · by_cases there : count ≠ 0 → array ≠ none
      · exact Or.inl ⟨positive, agrees, there⟩
      · obtain ⟨filled, null⟩ := Classical.not_imp.mp there
        exact Or.inr ⟨_, .null positive agrees filled (not_not.mp null)⟩
    · obtain ⟨arity, differs⟩ := not_forall.mp agrees
      obtain ⟨given, differs⟩ := Classical.not_imp.mp differs
      exact Or.inr ⟨_, .other positive given differs⟩
  · exact Or.inr ⟨_, .negative (Int.not_le.mp positive)⟩

theorem not_lt_zero_iff : ¬ count < 0 ↔ 0 ≤ count.toInt := by
  rw [Int32.not_lt, Int32.le_iff_toInt_le]
  rfl

theorem toNat_eq_zero_iff (positive : 0 ≤ count.toInt) : count.toInt.toNat = 0 ↔ count = 0 := by
  rw [← Int32.toInt_inj, Int32.toInt_zero, Int.toNat_eq_zero]
  exact ⟨fun few => le_antisymm few positive, le_of_eq⟩

/-- A count agrees with what is expected. -/
theorem any_ne_eq_false (agrees : ∀ arity : Nat, expected = some arity → count.toInt = arity) :
    expected.any (· ≠ count.toInt.toNat) = false := by
  cases expected with
  | none => rfl
  | some arity =>
    have same := agrees arity rfl
    simp [same]

/-- **Argument words are handed on as they were announced.** -/
theorem argumentWords_of_handed (handed : Handed count array expected) :
    argumentWords count array expected = .ok (announced count array) := by
  obtain ⟨positive, agrees, there⟩ := handed
  rw [argumentWords, if_neg (not_lt_zero_iff.mpr positive)]
  simp only [any_ne_eq_false agrees, toNat_eq_zero_iff positive]
  by_cases empty : count = 0
  · subst empty
    rfl
  · obtain ⟨words, rfl⟩ := Option.ne_none_iff_exists'.mp (there empty)
    simp only [if_neg empty]
    rfl

/-- **They are withheld with the fault that comes first.** -/
theorem argumentWords_of_withheld (withheld : Withheld count array expected fault) :
    argumentWords count array expected = .error fault := by
  cases withheld with
  | negative negative =>
    have below : count < 0 := Int32.lt_iff_toInt_lt.mpr negative
    rw [argumentWords, if_pos below]
  | @other arity positive given differs =>
    subst given
    have other : arity ≠ count.toInt.toNat := by omega
    have found : (some arity).any (· ≠ count.toInt.toNat) = true := decide_eq_true other
    rw [argumentWords, if_neg (not_lt_zero_iff.mpr positive)]
    exact if_pos found
  | null positive agrees filled null =>
    rw [argumentWords, if_neg (not_lt_zero_iff.mpr positive)]
    simp only [any_ne_eq_false agrees, toNat_eq_zero_iff positive, if_neg filled, null]
    rfl

/-- As many words as announced, if the array is that long. -/
theorem length_announced (handed : Handed count array expected)
    (whole : ∀ words, array = some words → count.toInt ≤ words.length) :
    ((announced count array).length : Int) = count.toInt := by
  have positive := handed.nonneg
  by_cases empty : count = 0
  · subst empty
    rfl
  · obtain ⟨words, there⟩ := Option.ne_none_iff_exists'.mp (handed.there empty)
    have long := whole words there
    rw [announced, there, Option.getD_some, List.length_take]
    omega

end Words

/-! ### Arguments -/

/-- Each meaning denotes the argument at its place. -/
def Arguments.Denoted : (params : List Param) → List Value → Arguments params → Prop
  | [], [], _ => True
  | param :: params, value :: values, (first, rest) =>
    param.Denotes value first ∧ Arguments.Denoted params values rest
  | _, _, _ => False

/-- The meaning denotes no value of the parameter, which tells the fault. -/
def Param.Misses (_ : List (Param × Value)) (argument : Param × Value) (fault : Fault) : Prop :=
  (∀ carried, ¬ argument.1.Denotes argument.2 carried) ∧ fault = argument.1.missed argument.2

section Arguments

variable {params : List Param} {values : List Value} {arguments : Arguments params} {fault : Fault}

theorem Param.misses_iff {earlier : List (Param × Value)} {param : Param} {value : Value} :
    Param.Misses earlier (param, value) fault ↔ param.read value = .error fault :=
  Param.read_eq_error_iff.symm

/-- **The arguments that are read are those that the meanings denote.** -/
theorem Arguments.read_eq_ok_iff (length : values.length = params.length) :
    Arguments.read params values = .ok arguments ↔ Arguments.Denoted params values arguments := by
  induction params generalizing values with
  | nil =>
    obtain rfl := List.length_eq_zero_iff.mp length
    exact iff_of_true rfl trivial
  | cons param params ih =>
    cases values with
    | nil => cases length
    | cons value values =>
      obtain ⟨first, rest⟩ := arguments
      rw [Arguments.Denoted, ← Param.read_eq_ok_iff, ← ih (Nat.succ.inj length), Arguments.read]
      cases param.read value <;> cases Arguments.read params values <;> simp [bind, Except.bind]

theorem Arguments.length_of_denoted (denoted : Arguments.Denoted params values arguments) :
    values.length = params.length := by
  induction params generalizing values with
  | nil =>
    cases values with
    | nil => rfl
    | cons => exact denoted.elim
  | cons param params ih =>
    cases values with
    | nil => exact denoted.elim
    | cons => exact congrArg (· + 1) (ih denoted.2)

/-- **They are refused with the fault of the first meaning that denotes none.** -/
theorem Arguments.read_eq_error_iff {earlier : List (Param × Value)}
    (length : values.length = params.length) :
    Arguments.read params values = .error fault ↔
      FirstOffence Param.Misses earlier (params.zip values) fault := by
  induction params generalizing values earlier with
  | nil =>
    refine iff_of_false ?_ not_firstOffence_nil
    intro impossible
    cases impossible
  | cons param params ih =>
    cases values with
    | nil => cases length
    | cons value values =>
      rw [List.zip_cons_cons, firstOffence_cons, ← ih (Nat.succ.inj length), Arguments.read]
      simp only [Param.misses_iff]
      cases param.read value <;> cases Arguments.read params values <;> simp [bind, Except.bind]

end Arguments

/-! ### What follows a call -/

/-- Reports the fault of a call and raises. -/
def raiseFault (fault : Fault) : Program Word := do
  Symbol.report (.callFailed fault)
  Make.badarg

/-- Reports a panic and raises. -/
def raisePanic : Program Word := do
  Symbol.report .callPanicked
  Make.badarg

/-- What a typed handler has returned is encoded; a panic raises. -/
def Ending.settle : Ending Data → Program Word
  | .returned result => raiseFailures do return .returned (← result.encode)
  | .panicked => raisePanic

/-- What a raw handler has returned is the word for the runtime; a panic raises. -/
def Ending.lower : Ending Return → Program Word
  | .returned result => result.lower
  | .panicked => raisePanic

section Following

variable {α : Type}

/-- Nothing follows an attempt that fails. -/
theorem raiseFailures_bind (attempt : Attempt α) (next : α → Attempt (Ending Word)) :
    raiseFailures (attempt >>= next) =
      attempt.run >>= fun
        | .ok result => raiseFailures (next result)
        | .error fault => raiseFault fault := by
  rw [raiseFailures, ExceptT.run_bind, bind_assoc]
  congr 1
  funext outcome
  cases outcome <;> rfl

/-- What follows a program that cannot fail. -/
theorem raiseFailures_lift_bind (program : Program α) (next : α → Attempt (Ending Word)) :
    raiseFailures (liftM program >>= next) = program >>= fun result =>
      raiseFailures (next result) := by
  rw [raiseFailures_bind]
  show (Except.ok <$> program) >>= _ = _
  rw [bind_map_left]

end Following

/-! ### A program after some readings -/

/-- In the frame, the program ends as the other one does, and makes the same calls after some
readings. -/
structure Program.ReadsThen {α : Type} (program other : Program α) (frame : Frame) : Prop where
  run : program.run frame = other.run frame
  calls : ∃ reads : List (Request × Frame), (∀ made ∈ reads, made.1.Reads) ∧
    program.calls frame = reads ++ other.calls frame

section Readings

variable {α β : Type}

theorem Program.ReadsThen.refl (program : Program α) (frame : Frame) :
    program.ReadsThen program frame :=
  ⟨rfl, [], List.forall_mem_nil _, rfl⟩

/-- **What follows a reading starts where the reading started.** -/
theorem Program.readsThen_bind {program : Program β} (reads : program.Reads) (next : β → Program α)
    (frame : Frame) : (program >>= next).ReadsThen (next (program.run frame).1) frame := by
  have unchanged := run_of_reads reads frame
  refine ⟨?_, program.calls frame, Every.calls reads frame, ?_⟩
  · rw [run_bind, unchanged]
  · rw [calls_bind, unchanged]

/-- **Reading arguments changes nothing.** -/
theorem decodeArguments_reads (params : List Param) (words : List Word) :
    (decodeArguments params words).Reads := by
  induction params generalizing words with
  | nil => exact .pure _
  | cons param params ih =>
    cases words with
    | nil => exact .throw _
    | cons word words =>
      exact .bind (param.decode_reads word) fun first => .bind (ih words) fun rest => .pure _

end Readings

/-! ### Calls that are turned away -/

/-- The call ends without a value, with `badarg` pending and the heap and the count of buffers as
they were, and the fault is reported. -/
structure TurnedAway (program : Program Word) (fault : Fault) (frame : Frame) : Prop where
  missing : (program.run frame).1 = Word.nonValue
  pending : (program.run frame).2.BadargPending
  heap : (program.run frame).2.env.heap = frame.env.heap
  outstanding : (program.run frame).2.host.outstanding = frame.host.outstanding
  reported : (program.run frame).2.host.log = frame.host.log.push (.callFailed fault)

section Refusing

variable {frame : Frame}

/-- Raising reports nothing, as long as its reason can be an atom. -/
theorem Frame.raise_log (room : frame.host.atoms.Admits {badarg}) :
    frame.raise.2.host.log = frame.host.log := by
  obtain ⟨reason, host, entered⟩ :=
    Host.intern_of_admits room (Finset.mem_singleton_self badarg) (by decide)
  obtain ⟨-, -, -, -, -, log, -⟩ := Host.intern_cases entered
  rw [raise, entered]
  exact log

/-- **A fault turns the call away**, as long as its reason can be an atom. -/
theorem raiseFault_turnedAway (room : frame.host.atoms.Admits {Frame.badarg}) (fault : Fault) :
    TurnedAway (raiseFault fault) fault frame := by
  have left : (frame.note (.callFailed fault)).host.atoms.Admits {Frame.badarg} := room
  have run : (raiseFault fault).run frame = (frame.note (.callFailed fault)).raise := rfl
  obtain ⟨missing, heap, pending⟩ := Frame.raise_refuses left
  refine ⟨?_, ?_, ?_, ?_, ?_⟩ <;> rw [run]
  · exact missing
  · exact pending
  · exact heap
  · exact Host.outstanding_of_books (Frame.raise_books _)
  · exact Frame.raise_log left

theorem raisePanic_run (room : frame.host.atoms.Admits {Frame.badarg}) :
    (raisePanic.run frame).1 = Word.nonValue ∧ (raisePanic.run frame).2.BadargPending := by
  have left : (frame.note .callPanicked).host.atoms.Admits {Frame.badarg} := room
  obtain ⟨missing, -, pending⟩ := Frame.raise_refuses left
  exact ⟨missing, pending⟩

end Refusing

/-! ### Typed handlers -/

/-- The arguments are values for the parameters: their words are handed on, and each word's meaning
denotes the argument at its place. -/
structure Opens (params : List Param) (count : Int32) (array : Option (List Word))
    (values : List Value) (arguments : Arguments params) : Prop where
  handed : Handed count array (some params.length)
  denoted : Arguments.Denoted params values arguments

/-- The fault that comes first: there are no words for the parameters, or the first argument that
denotes no value of its parameter. -/
inductive Closes (params : List Param) (count : Int32) (array : Option (List Word))
    (values : List Value) :
    Fault → Prop
  | words {fault : Fault} (withheld : Withheld count array (some params.length) fault) :
      Closes params count array values fault
  | argument {fault : Fault} (handed : Handed count array (some params.length))
      (first : FirstOffence Param.Misses [] (params.zip values) fault) :
      Closes params count array values fault

namespace ActiveHandler

variable {handler : ActiveHandler} {count : Int32} {array : Option (List Word)} {fault : Fault}
  {values : List Value} {arguments : Arguments handler.params} {frame : Frame}

/-- Without argument words nothing but the fault is left of a call. -/
theorem native_of_withheld (withheld : Withheld count array (some handler.params.length) fault) :
    handler.native count array = raiseFault fault := by
  rw [native, argumentWords_of_withheld withheld]
  rfl

/-- With argument words a call reads them and goes on with what it has read. -/
theorem native_of_handed (handed : Handed count array (some handler.params.length))
    (length : (announced count array).length = handler.params.length) :
    handler.native count array =
      (decodeArguments handler.params (announced count array)).run >>= fun
        | .ok arguments => handler.body arguments >>= Ending.settle
        | .error fault => raiseFault fault := by
  -- The handler checks the number of its words once more, and always in vain.
  have same : ¬ (announced count array).length ≠ handler.params.length := not_not.mpr length
  rw [native, argumentWords_of_handed handed]
  show raiseFailures (handler.call (announced count array)) = _
  rw [call, if_neg same]
  show raiseFailures (decodeArguments handler.params (announced count array) >>= _) = _
  rw [raiseFailures_bind]
  congr 1
  funext outcome
  cases outcome with
  | error fault => rfl
  | ok arguments =>
    show raiseFailures (liftM (handler.body arguments) >>= _) = _
    rw [raiseFailures_lift_bind]
    congr 1
    funext ending
    cases ending <;> rfl

section Gate

variable (whole : ∀ words, array = some words → count.toInt ≤ words.length)
  (means : frame.Means (announced count array) values)

include whole means

/-- The words that are handed on, and their meanings, are as many as there are parameters. -/
theorem lengths_of_handed (handed : Handed count array (some handler.params.length)) :
    (announced count array).length = handler.params.length ∧
    values.length = handler.params.length := by
  have same := (length_announced handed whole).trans (handed.agrees _ rfl)
  have length : (announced count array).length = handler.params.length := Int.ofNat_inj.mp same
  exact ⟨length, means.length_eq.symm.trans length⟩

/-- What a call does after the readings, if there are words for the parameters. -/
theorem native_readsThen (handed : Handed count array (some handler.params.length)) :
    (handler.native count array).ReadsThen
      (match Arguments.read handler.params values with
        | .ok arguments => handler.body arguments >>= Ending.settle
        | .error fault => raiseFault fault) frame := by
  have reads := decodeArguments_reads handler.params (announced count array)
  have read : (decodeArguments handler.params (announced count array)).run.run frame = _ :=
    outcome_decodeArguments means handler.params
  rw [native_of_handed handed (lengths_of_handed whole means handed).1]
  have after := Program.readsThen_bind reads (fun
    | .ok arguments => handler.body arguments >>= Ending.settle
    | .error fault => raiseFault fault) frame
  rwa [read] at after

/-- **The handler is run on the arguments that the meanings denote.** -/
theorem native_of_opens (opens : Opens handler.params count array values arguments) :
    (handler.native count array).ReadsThen (handler.body arguments >>= Ending.settle) frame := by
  have after := native_readsThen whole means opens.handed
  have length := (lengths_of_handed whole means opens.handed).2
  rwa [(Arguments.read_eq_ok_iff length).mpr opens.denoted] at after

/-- **It is not run otherwise.** -/
theorem native_of_closes (closes : Closes handler.params count array values fault) :
    (handler.native count array).ReadsThen (raiseFault fault) frame := by
  cases closes with
  | words withheld =>
    rw [native_of_withheld withheld]
    exact .refl _ frame
  | argument handed first =>
    have after := native_readsThen whole means handed
    have length := (lengths_of_handed whole means handed).2
    rwa [(Arguments.read_eq_error_iff length).mpr first] at after

/-- A call opens the gate exactly if nothing closes it. -/
theorem opens_iff_not_closes :
    (∃ arguments, Opens handler.params count array values arguments) ↔
      ∀ fault, ¬ Closes handler.params count array values fault := by
  refine (clean_iff ?_ ?_).symm
  · rcases handed_or_withheld count array (some handler.params.length) with
      handed | ⟨fault, withheld⟩
    · have length := (lengths_of_handed whole means handed).2
      cases read : Arguments.read handler.params values with
      | ok arguments => exact Or.inl ⟨arguments, handed, (Arguments.read_eq_ok_iff length).mp read⟩
      | error fault =>
        exact Or.inr ⟨fault, .argument handed ((Arguments.read_eq_error_iff length).mp read)⟩
    · exact Or.inr ⟨fault, .words withheld⟩
  · rintro ⟨arguments, opens⟩ fault closes
    cases closes with
    | words withheld =>
      cases (argumentWords_of_handed opens.handed).symm.trans (argumentWords_of_withheld withheld)
    | argument handed first =>
      have length := (lengths_of_handed whole means handed).2
      have read := (Arguments.read_eq_ok_iff length).mpr opens.denoted
      cases read.symm.trans ((Arguments.read_eq_error_iff length).mpr first)

end Gate

end ActiveHandler

/-! ### Raw handlers -/

namespace RawHandler

variable {handler : RawHandler} {count : Int32} {array : Option (List Word)} {fault : Fault}

/-- Without argument words nothing but the fault is left of a call. -/
theorem native_of_withheld (withheld : Withheld count array none fault) :
    RawHandler.native handler count array = raiseFault fault := by
  rw [native, argumentWords_of_withheld withheld]
  rfl

/-- **With argument words a call is one run of the handler.** -/
theorem native_of_handed (handed : Handed count array none) :
    RawHandler.native handler count array = handler (announced count array) >>= Ending.lower := by
  rw [native, argumentWords_of_handed handed]
  show raiseFailures (liftM (RawHandler.call handler (announced count array))) = _
  rw [← bind_pure (liftM (RawHandler.call handler (announced count array))),
    raiseFailures_lift_bind, call, bind_assoc]
  congr 1
  funext ending
  cases ending with
  | panicked => rfl
  | returned result =>
    show ((do return .returned (← result.lower)) >>= fun ending => raiseFailures (pure ending)) =
      result.lower
    rw [bind_assoc]
    exact bind_pure result.lower

end RawHandler

/-! ### Both kinds -/

section Gated

variable (count : Int32) (array : Option (List Word)) (frame : Frame)

/-- How a call of a typed handler is gated, from the meanings of its arguments. -/
structure ActiveHandler.Gated (handler : ActiveHandler) (values : List Value) : Prop where
  decided : (∃ arguments, Opens handler.params count array values arguments) ↔
    ∀ fault, ¬ Closes handler.params count array values fault
  /-- The handler is run once, after readings that change nothing, and its ending is settled. -/
  opened : ∀ arguments, Opens handler.params count array values arguments →
    (handler.native count array).ReadsThen (handler.body arguments >>= Ending.settle) frame
  /-- The handler is not run: after the readings the fault is reported and `badarg` raised. -/
  closed : ∀ fault, Closes handler.params count array values fault →
    (handler.native count array).ReadsThen (raiseFault fault) frame ∧
      TurnedAway (handler.native count array) fault frame
  panicked : ∀ arguments after, Opens handler.params count array values arguments →
    (handler.body arguments).run frame = (.panicked, after) →
      after.host.atoms.Admits {Frame.badarg} →
      ((handler.native count array).run frame).1 = Word.nonValue ∧
        ((handler.native count array).run frame).2.BadargPending

/-- How a call of a raw handler is gated. -/
structure RawHandler.Gated (handler : RawHandler) : Prop where
  decided : Handed count array none ↔ ∀ fault, ¬ Withheld count array none fault
  /-- The handler is run once and first of all, on as many words as announced. -/
  opened : Handed count array none →
    ((announced count array).length : Int) = count.toInt ∧
      RawHandler.native handler count array = handler (announced count array) >>= Ending.lower
  /-- The handler is not run. -/
  closed : ∀ fault, Withheld count array none fault →
    RawHandler.native handler count array = raiseFault fault ∧
      TurnedAway (RawHandler.native handler count array) fault frame
  panicked : ∀ after, Handed count array none →
    (handler (announced count array)).run frame = (.panicked, after) →
      after.host.atoms.Admits {Frame.badarg} →
      ((RawHandler.native handler count array).run frame).1 = Word.nonValue ∧
        ((RawHandler.native handler count array).run frame).2.BadargPending

end Gated

section Gating

variable {count : Int32} {array : Option (List Word)} {expected : Option Nat} {frame after : Frame}
  {fault : Fault} {program : Program Word}

theorem handed_iff_not_withheld :
    Handed count array expected ↔ ∀ fault, ¬ Withheld count array expected fault := by
  refine (clean_iff (handed_or_withheld count array expected) ?_).symm
  intro handed fault withheld
  cases (argumentWords_of_handed handed).symm.trans (argumentWords_of_withheld withheld)

/-- A program that ends as one that is turned away is turned away. -/
theorem TurnedAway.congr {other : Program Word} (turned : TurnedAway other fault frame)
    (same : program.run frame = other.run frame) : TurnedAway program fault frame := by
  obtain ⟨missing, pending, heap, outstanding, reported⟩ := turned
  rw [← same] at missing pending heap outstanding reported
  exact ⟨missing, pending, heap, outstanding, reported⟩

/-- **A panic raises**, if the handler has left room for the reason. -/
theorem run_of_panicked {α : Type} {body : Program (Ending α)} {settle : Ending α → Program Word}
    (raises : settle .panicked = raisePanic) (run : body.run frame = (.panicked, after))
    (room : after.host.atoms.Admits {Frame.badarg})
    (same : program.run frame = (body >>= settle).run frame) :
    (program.run frame).1 = Word.nonValue ∧ (program.run frame).2.BadargPending := by
  rw [same, Program.run_bind, run, raises]
  exact raisePanic_run room

/-- **A native function gates its handler exactly.** A typed handler is run once if there are
argument words for its parameters and each means a value of its parameter. Otherwise it is not run:
the first fault is reported, and the call ends without a value, with `badarg` pending and the heap
and the buffers as they were. A raw handler is run once, on the words as they stand, if there are
any to hand on. A panic of either raises. -/
theorem Frame.handlers_gated (whole : ∀ words, array = some words → count.toInt ≤ words.length)
    (room : frame.host.atoms.Admits {Frame.badarg}) :
    (∀ handler : Handler, handler.native = handler.active.native) ∧
    (∀ (handler : ActiveHandler) (values : List Value), frame.Means (announced count array) values →
      handler.Gated count array frame values) ∧
    ∀ handler : RawHandler, RawHandler.Gated count array frame handler := by
  refine ⟨Handler.native_eq_active, fun handler values means => ⟨?_, ?_, ?_, ?_⟩,
    fun handler => ⟨?_, ?_, ?_, ?_⟩⟩
  · exact ActiveHandler.opens_iff_not_closes whole means
  · exact fun arguments opens => ActiveHandler.native_of_opens whole means opens
  · intro fault closes
    have after := ActiveHandler.native_of_closes whole means closes
    exact ⟨after, (raiseFault_turnedAway room fault).congr after.run⟩
  · intro arguments after opens run left
    exact run_of_panicked rfl run left (ActiveHandler.native_of_opens whole means opens).run
  · exact handed_iff_not_withheld
  · exact fun handed => ⟨length_announced handed whole, RawHandler.native_of_handed handed⟩
  · intro fault withheld
    rw [RawHandler.native_of_withheld withheld]
    exact ⟨rfl, raiseFault_turnedAway room fault⟩
  · intro after handed run left
    exact run_of_panicked rfl run left
      (congrFun (congrArg Program.run (RawHandler.native_of_handed handed)) frame)

/-- An integer where an integer is expected, and the empty list where a truth value is: the typed
handler is not run, and a raw one is run on both words. -/
theorem Frame.handlers_gated_half :
    ∃ (frame : Frame) (one : Word) (typed : ActiveHandler) (raw : RawHandler),
      frame.host.atoms.Admits {Frame.badarg} ∧ frame.Means [one, Word.nil] [.int 1, .list []] ∧
      typed.params = [.i32, .bool] ∧
      TurnedAway (typed.native 2 (some [one, Word.nil])) (.shapeMismatch "atom") frame ∧
      RawHandler.native raw 2 (some [one, Word.nil]) = raw [one, Word.nil] >>= Ending.lower := by
  let frame : Frame := ⟨{ id := 1 }, {}⟩
  obtain ⟨one, integer⟩ : ∃ one : Word, frame.decode? one = some (.int 1) := ⟨⟨31⟩, by rfl⟩
  have empty : frame.decode? Word.nil = some (.list []) := by rfl
  let typed : ActiveHandler := { params := [.i32, .bool], body := fun _ => return .panicked }
  let raw : RawHandler := fun words => return .returned (.term (words.headD Word.nil))
  have whole : ∀ words, some [one, Word.nil] = some words → (2 : Int32).toInt ≤ words.length := by
    rintro _ ⟨⟩
    exact Int.le_refl 2
  have room : frame.host.atoms.Admits {Frame.badarg} := AtomTable.Admits.of_card (by decide)
  have means : frame.Means [one, Word.nil] [.int 1, .list []] := .cons integer (.cons empty .nil)
  have anyNumber : Handed 2 (some [one, Word.nil]) none :=
    ⟨by decide, nofun, fun _ => Option.some_ne_none _⟩
  have ofTwo : Handed 2 (some [one, Word.nil]) (some 2) := by
    refine ⟨by decide, ?_, fun _ => Option.some_ne_none _⟩
    rintro _ ⟨⟩
    rfl
  have first : FirstOffence Param.Misses [] (typed.params.zip [.int 1, .list []])
      (.shapeMismatch "atom") := by
    refine (Arguments.read_eq_error_iff rfl).mp ?_
    rfl
  obtain ⟨-, gatesTyped, gatesRaw⟩ := Frame.handlers_gated whole room
  obtain ⟨-, turned⟩ := (gatesTyped typed _ means).closed _ (.argument ofTwo first)
  obtain ⟨-, runs⟩ := (gatesRaw raw).opened anyNumber
  exact ⟨frame, one, typed, raw, room, means, rfl, turned, runs⟩

end Gating

end Nif
