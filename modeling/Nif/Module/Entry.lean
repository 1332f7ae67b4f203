import Nif.NativeFunction

/-!
**What a library tells the host about the module it implements.**

A library hands out an entry: a header of numbers and terminated strings, a table of functions, and
the callbacks of the module's life. Strings and tables are pointers and may be null.

* `readText`: the text behind a string pointer, if there is one and it is UTF-8.
-/

namespace Nif.Module

/-- The text behind a string pointer. -/
def readText (pointer : Option Bytes) : Option String :=
  pointer.bind fun bytes => bytes.terminated.utf8?

structure FunctionRecord where
  name : Option Bytes
  arity : UInt32
  body : NativeFunction
  /-- On which scheduler the function runs. -/
  flags : UInt32 := 0

/-- What a load callback answers: a status, zero for success, and the private data it stored. -/
structure LoadAnswer where
  /-- Zero, or the reason of a refusal. -/
  status : Int32 := 0
  /-- The private data pointer, null if the callback stored none. -/
  privData : UInt64 := 0

/-- A callback that runs when a module is loaded, with the load information. -/
abbrev LoadCallback := Word → Program LoadAnswer

/-- A callback that runs when a module takes over from an older version of itself, with both private
data and the load information. -/
abbrev UpgradeCallback := UInt64 → UInt64 → Word → Program LoadAnswer

/-- A callback that runs when a module is dropped, with its private data. -/
abbrev UnloadCallback := UInt64 → Program Unit

/-- The description of a module as the host reads it. -/
structure Entry where
  major : Int32 := Interface.major
  minor : Int32 := Interface.minor
  name : Option Bytes
  count : Int32
  functions : Option (List FunctionRecord)
  load : Option LoadCallback := none
  reload : Option LoadCallback := none
  upgrade : Option UpgradeCallback := none
  unload : Option UnloadCallback := none
  /-- The emulator flavour the module was built for. -/
  vmVariant : Option Bytes := some (utf8Bytes Interface.vmVariant)
  options : UInt32 := 0
  /-- The size of the resource callbacks the module was built against. -/
  resourceTypeSize : Nat := Interface.resourceTypeLayout.size
  /-- The oldest runtime that can load the module. -/
  minErts : Option Bytes := some (utf8Bytes Interface.minErts)

end Nif.Module
