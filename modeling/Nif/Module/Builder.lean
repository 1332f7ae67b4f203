import Nif.Host
import Nif.Module.Entry

/-!
**Module descriptions, put together step by step and checked as a whole.**

* `Builder.build`: the entry of a valid description, or the first violation.
* `Builder.buildOrReport`: the same for a library's entry point, where a violation is reported and
  there is no entry.
-/

namespace Nif.Module

structure Registration where
  name : String
  arity : UInt32
  body : NativeFunction
  flags : UInt32 := 0
  /-- The number of parameters of the handler behind the function, where it is known. -/
  handlerArity : Option Nat := none

/-- A module description under construction. -/
structure Builder where
  name : String
  /-- The functions in the order they were added. -/
  functions : List Registration := []
  load : Option LoadCallback := none
  reload : Option LoadCallback := none
  upgrade : Option UpgradeCallback := none
  unload : Option UnloadCallback := none
  vmVariant : String := Interface.vmVariant
  minErts : String := Interface.minErts
  options : UInt32 := Interface.dirtyOption

/-- A valid description with its entry. -/
structure Description where
  name : String
  /-- The records of the function table, in the order of registration. -/
  functions : List FunctionRecord
  entry : Entry

/-- The bytes of a text that can stand before a terminator. -/
def storedName (text : String) : Except Fault Bytes :=
  if text.toList.contains '\x00' then .error (.invalidName text) else .ok (utf8Bytes text)

/-- A function as messages name it. -/
def signature (name : String) (arity : UInt32) : String := s!"{name}/{arity}"

/-- The record of a function, after the functions registered before it. -/
def record (earlier : List Registration) (function : Registration) :
    Except Fault FunctionRecord := do
  let shown := signature function.name function.arity
  if function.arity > Interface.maxArity then
    throw (.invalidFunction (shown ++ s!" exceeds the maximum arity of {Interface.maxArity}"))
  if let some expected := function.handlerArity then
    if function.arity.toNat ≠ expected then
      throw (.invalidFunction (shown ++ s!" wraps a function taking {expected} arguments"))
  if earlier.any fun other => other.name == function.name && other.arity == function.arity then
    throw (.invalidFunction (shown ++ " is registered twice"))
  return { name := some (← storedName function.name), arity := function.arity,
           body := function.body, flags := function.flags }

/-- The records of the functions, after the functions registered before them. -/
def records (earlier : List Registration) : List Registration → Except Fault (List FunctionRecord)
  | [] => return []
  | function :: rest => do
    let first ← record earlier function
    return first :: (← records (earlier ++ [function]) rest)

namespace Builder

def function (builder : Builder) (registration : Registration) : Builder :=
  { builder with functions := builder.functions ++ [registration] }

/-- Checks the description and lays out its entry. The strings of the header come first, then the
functions in order: the limit on the arity, the handler's arity, repetition, and the name. -/
def build (builder : Builder) : Except Fault Description := do
  let name ← storedName builder.name
  let vmVariant ← storedName builder.vmVariant
  let minErts ← storedName builder.minErts
  let functions ← records [] builder.functions
  if Int32.maxValue.toInt.toNat < functions.length then
    throw (.invalidFunction s!"{functions.length} functions is too many")
  return {
    name := builder.name
    functions
    entry := {
      name := some name
      count := Int32.ofNat functions.length
      functions := if functions.isEmpty then none else some functions
      load := builder.load
      reload := builder.reload
      upgrade := builder.upgrade
      unload := builder.unload
      vmVariant := some vmVariant
      options := builder.options
      minErts := some minErts } }

/-- The description for a library's entry point. A violation is reported, and there is no
description. -/
def buildOrReport (builder : Builder) (host : Host) : Option Description × Host :=
  match builder.build with
  | .ok description => (some description, host)
  | .error fault => (none, host.note (.undescribable builder.name fault))

end Builder

/-- The text that shows a description: its name and the names of its functions. -/
def Description.summary (description : Description) : String :=
  let names := description.functions.map fun function =>
    Text.quoteName ((readText function.name).getD "")
  "NifModule \x7b name: " ++ Text.quoteName description.name ++ ", functions: [" ++
    ", ".intercalate names ++ "] \x7d"

end Nif.Module
