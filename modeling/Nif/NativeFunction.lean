import Nif.Data
import Nif.Param

/-!
**Functions as the runtime calls them, and how typed and raw handlers become such functions.**

The runtime calls a native function with a count of arguments and an array of them. A typed handler
takes values and gives a value; a raw handler works on the argument words itself. Failures and
panics of both end as a raised `badarg`, never beyond the boundary.

* `argumentWords`: the argument words, or why they cannot be had.
* `Handler.native`, `RawHandler.native`: the functions that the runtime calls.
-/

namespace Nif

/-- A function of the boundary: a count of arguments and an array of them, which may be null. -/
abbrev NativeFunction := Int32 → Option (List Word) → Program Word

inductive Ending (α : Type) where
  | returned (result : α)
  | panicked

/-- The first `count` words of the argument array. A negative count, a count other than the expected
one, and a null array with arguments are refused, in this order. -/
def argumentWords (count : Int32) (array : Option (List Word)) (expected : Option Nat) :
    Except Fault (List Word) :=
  if count < 0 then .error (.arityMismatch (expected.getD 0) 0)
  else
    let actual := count.toInt.toNat
    if expected.any (· ≠ actual) then .error (.arityMismatch (expected.getD 0) actual)
    else if actual = 0 then .ok []
    else match array with
      | some words => .ok (words.take actual)
      | none => .error .badArg

/-- The word that a handler made; a failure and a panic are reported and raise `badarg`. -/
def raiseFailures (attempt : Attempt (Ending Word)) : Program Word := do
  match ← attempt.run with
  | .ok (.returned word) => return word
  | .ok .panicked =>
    Symbol.report .callPanicked
    Make.badarg
  | .error fault =>
    Symbol.report (.callFailed fault)
    Make.badarg

/-! ### Typed handlers -/

/-- Values for a list of parameters. -/
@[reducible] def Arguments : List Param → Type
  | [] => Unit
  | param :: rest => param.Carrier × Arguments rest

/-- A function on values that may panic. -/
structure Handler where
  params : List Param
  body : Arguments params → Ending Data

/-- Reads the arguments in order; the first failure ends it. -/
def decodeArguments : (params : List Param) → List Word → Attempt (Arguments params)
  | [], _ => return ()
  | _ :: _, [] => throw .badArg
  | param :: params, word :: words => do
    let value ← param.decode word
    let rest ← decodeArguments params words
    return (value, rest)

namespace Handler

def arity (handler : Handler) : Nat := handler.params.length

/-- Reads the arguments, runs the function and makes the term of its result. -/
def call (handler : Handler) (words : List Word) : Attempt (Ending Word) := do
  if words.length ≠ handler.arity then throw (.arityMismatch handler.arity words.length)
  match handler.body (← decodeArguments handler.params words) with
  | .returned result => return .returned (← result.encode)
  | .panicked => return .panicked

def native (handler : Handler) : NativeFunction := fun count array => raiseFailures do
  handler.call (← argumentWords count array (some handler.arity))

end Handler

/-! ### Raw handlers -/

inductive Return where
  | term (word : Word)
  | badarg
deriving DecidableEq

namespace Return

/-- The term of an attempt; a failure is reported and becomes `badarg`. -/
def ofAttempt (attempt : Attempt Word) : Program Return := do
  match ← attempt.run with
  | .ok word => return term word
  | .error fault =>
    Symbol.report (.returning fault)
    return badarg

/-- The word for the runtime; `badarg` is raised here. -/
def lower : Return → Program Word
  | term word => return word
  | badarg => Make.badarg

end Return

/-- A function on argument words that may panic. -/
abbrev RawHandler := List Word → Program (Ending Return)

/-- Runs the function on the words and raises what it wants raised. -/
def RawHandler.call (handler : RawHandler) (words : List Word) : Program (Ending Word) := do
  match ← handler words with
  | .returned result => return .returned (← result.lower)
  | .panicked => return .panicked

/-- The handler as the runtime calls it; any number of arguments will do. -/
def RawHandler.native (handler : RawHandler) : NativeFunction := fun count array => raiseFailures do
  RawHandler.call handler (← argumentWords count array none)

end Nif
