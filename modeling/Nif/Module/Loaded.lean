import Nif.Frame
import Nif.Module.Entry

/-!
**Modules that a host has loaded.**

The host checks an entry, registers its functions, runs the load callback, and from then on answers
calls. When the module is dropped, its unload callback runs with the private data that its own load
callback stored.

* `Loaded.load`: an accepted entry becomes a loaded module; every refusal has its cause.
* `Loaded.loadFrom` asks an entry point for the entry, `Loaded.openLibrary` a linker for the entry
  point.
* `Loaded.call`: runs the function with the given name and as many parameters as there are
  arguments.
* `Loaded.drop`: ends the module's life.
-/

namespace Nif.Module

/-- Why a module is not loaded. -/
inductive LoadFailure where
  | libraryNotFound (path : String)
  /-- The file is no library that can be loaded. -/
  | loadFailed (reason : String)
  | entryPointNotFound (reason : String)
  | nullEntry
  | versionMismatch (major minor : Int32)
  | vmVariantMismatch (variant : String)
  | invalidEntry (reason : String)
  | loadCallbackFailed (status : Int32)
deriving DecidableEq

def LoadFailure.message : LoadFailure → String
  | .libraryNotFound path => s!"NIF library not found: {path}"
  | .loadFailed reason => s!"failed to load NIF library: {reason}"
  | .entryPointNotFound reason => s!"NIF entry point not found: {reason}"
  | .nullEntry => "nif_init returned a null module entry"
  | .versionMismatch major minor =>
    s!"unsupported NIF interface version {major}.{minor} (host implements " ++
      s!"{Interface.major}.{Interface.minor})"
  | .vmVariantMismatch variant => s!"unsupported VM variant: {variant}"
  | .invalidEntry reason => s!"invalid NIF module entry: {reason}"
  | .loadCallbackFailed status => s!"NIF load callback failed with status {status}"

/-- Why a call gives no term. -/
inductive CallFailure where
  | undefined (name : String) (arity : Nat)
  | badArg
  /-- The function returned no value without raising, or raised and returned a term. -/
  | invalidReturn
deriving DecidableEq

def CallFailure.message : CallFailure → String
  | .undefined name arity => s!"undefined native function {name}/{arity}"
  | .badArg => "badarg"
  | .invalidReturn => "native function returned an invalid term"

structure Registered where
  name : String
  arity : UInt32
  flags : UInt32
  body : NativeFunction

/-- The function runs on a dirty scheduler. -/
def Registered.isDirty (function : Registered) : Bool := function.flags != 0

structure Loaded where
  name : String
  major : Int32
  minor : Int32
  vmVariant : Option String
  minErts : Option String
  options : UInt32
  /-- The functions, in the order of the table. -/
  functions : List Registered
  unload : Option UnloadCallback
  /-- What the load callback stored, null if it stored nothing. -/
  privData : UInt64 := 0
  /-- The module keeps the library that it came from. -/
  fromLibrary : Bool := false

/-! ### Loading -/

/-- The function with this name and this number of parameters. -/
def lookup (functions : List Registered) (name : String) (arity : Nat) : Option Registered :=
  functions.find? fun function => function.name == name && function.arity.toNat == arity

def register (earlier : List Registered) (function : FunctionRecord) :
    Except LoadFailure Registered := do
  let some name := readText function.name
    | throw (.invalidEntry s!"function #{earlier.length} has no valid name")
  let shown := s!"{name}/{function.arity}"
  if function.arity > Interface.maxArity then
    throw (.invalidEntry (shown ++ " exceeds the maximum arity"))
  if (lookup earlier name function.arity.toNat).isSome then
    throw (.invalidEntry ("duplicate function " ++ shown))
  return { name, arity := function.arity, flags := function.flags, body := function.body }

/-- The functions of the records, after those registered before them; the first bad record ends it.
-/
def registerAll (earlier : List Registered) :
    List FunctionRecord → Except LoadFailure (List Registered)
  | [] => return earlier
  | function :: rest => do
    let registered ← register earlier function
    registerAll (earlier ++ [registered]) rest

/-- The functions of an entry. An entry that announces none needs no table. -/
def Entry.registry (entry : Entry) : Except LoadFailure (List Registered) := do
  if entry.count < 0 then throw (.invalidEntry s!"negative function count {entry.count}")
  if entry.count = 0 then return []
  match entry.functions with
  | some table => registerAll [] (table.take entry.count.toInt.toNat)
  | none => throw (.invalidEntry "function table is null")

/-- The module that an entry describes, before its load callback has run. The version is checked
first, then the name, the emulator flavour and the function table. -/
def Entry.accept (entry : Entry) : Except LoadFailure Loaded := do
  if entry.major ≠ Interface.major ∨ entry.minor > Interface.minor then
    throw (.versionMismatch entry.major entry.minor)
  let some name := readText entry.name
    | throw (.invalidEntry "module name is missing or not UTF-8")
  let vmVariant := readText entry.vmVariant
  if let some variant := vmVariant then
    if variant ≠ Interface.vmVariant then throw (.vmVariantMismatch variant)
  let functions ← entry.registry
  return {
    name, major := entry.major, minor := entry.minor, vmVariant, minErts := readText entry.minErts
    options := entry.options, functions, unload := entry.unload }

/-- Runs a load callback in a fresh environment, with the empty list as load information. -/
def runLoad (module : Loaded) (callback : LoadCallback) (host : Host) : LoadAnswer × Host :=
  let (env, host) := host.openEnvironment
  let host := { host with callbacks := host.callbacks.push (.load module.name env.id Word.nil) }
  let (answer, frame) := (callback Word.nil).run { env, host }
  (answer, frame.host)

def announce (module : Loaded) (host : Host) : Host :=
  host.note (.moduleLoaded module.name module.major module.minor module.functions.length)

/-- Loads a module from its entry. A load callback that refuses leaves nothing behind to unload. -/
def Loaded.load (entry : Option Entry) (host : Host) : Except LoadFailure Loaded × Host :=
  match entry with
  | none => (.error .nullEntry, host)
  | some entry =>
    match entry.accept with
    | .error error => (.error error, host)
    | .ok module =>
      match entry.load with
      | none => (.ok module, announce module host)
      | some callback =>
        let (answer, host) := runLoad module callback host
        if answer.status ≠ 0 then (.error (.loadCallbackFailed answer.status), host)
        else
          let module := { module with privData := answer.privData }
          (.ok module, announce module host)

/-! ### Libraries -/

/-- A library's entry point: it hands out the entry, or null. -/
abbrev EntryPoint := Host → Option Entry × Host

/-- Loads a module from the entry that an entry point hands out. -/
def Loaded.loadFrom (entryPoint : EntryPoint) (host : Host) : Except LoadFailure Loaded × Host :=
  let (entry, host) := entryPoint host
  Loaded.load entry host

/-- The file system and the dynamic linker that a host finds libraries with. -/
structure Linker where
  /-- Something is there under the path. -/
  found : String → Bool
  /-- What the library under the path exports by name, or why it cannot be linked. -/
  link : String → Except String (String → Except String EntryPoint)

/-- The entry point of the library under a path. -/
def Linker.entryPoint (linker : Linker) (path : String) : Except LoadFailure EntryPoint := do
  if linker.found path = false then throw (.libraryNotFound path)
  let exports ← (linker.link path).mapError .loadFailed
  (exports Interface.entryPoint).mapError .entryPointNotFound

/-- Loads a module from the library under a path, and keeps the library for it. -/
def Loaded.openLibrary (linker : Linker) (path : String) (host : Host) :
    Except LoadFailure Loaded × Host :=
  match linker.entryPoint path with
  | .error failure => (.error failure, host)
  | .ok entryPoint =>
    let (outcome, host) := Loaded.loadFrom entryPoint host
    (outcome.map ({ · with fromLibrary := true }), host)

namespace Loaded

/-! ### Calls -/

/-- The function with this name and this number of parameters. -/
def function? (module : Loaded) (name : String) (arity : Nat) : Option Registered :=
  lookup module.functions name arity

/-- Drops an exception from before the call. -/
def clearStale (module : Loaded) (name : String) (arity : Nat) (frame : Frame) : Frame :=
  match frame.clearException with
  | (some _, frame) => frame.note (.staleException module.name name arity)
  | (none, frame) => frame

/-- What a call means whose function has ended: a term and no exception is its result, no value and
an exception is `badarg`, anything else breaks the protocol. The exception is cleared. -/
def conclude (module : Loaded) (name : String) (arity : Nat) (result : Word) (frame : Frame) :
    Except CallFailure Word × Frame :=
  let (exception, frame) := frame.clearException
  match decide (result ≠ Word.nonValue), exception with
  | true, none => (.ok result, frame)
  | false, some _ => (.error .badArg, frame.note (.callRaised module.name name arity))
  | true, some _ => (.error .invalidReturn, frame.note (.callContradicts module.name name arity))
  | false, none => (.error .invalidReturn, frame)

/-- Calls a function with as many parameters as there are arguments. -/
def call (module : Loaded) (name : String) (args : List Word) (frame : Frame) :
    Except CallFailure Word × Frame :=
  match module.function? name args.length with
  | none => (.error (.undefined name args.length), frame)
  | some function =>
    let frame := module.clearStale name args.length frame
    let (result, frame) := (function.body (Int32.ofNat args.length) (some args)).run frame
    module.conclude name args.length result frame

/-! ### The end -/

/-- Ends a module's life: its unload callback, if it has one, runs in a fresh environment. -/
def drop (module : Loaded) (host : Host) : Host :=
  match module.unload with
  | none => host
  | some callback =>
    let (env, host) := host.openEnvironment
    let host := { host with
      callbacks := host.callbacks.push (.unload module.name env.id module.privData) }
    let (_, frame) := (callback module.privData).run { env, host }
    frame.host.note (.moduleUnloaded module.name)

/-! ### Listing -/

/-- The functions by name, and those of one name by their number of parameters. -/
def listing (module : Loaded) : List Registered :=
  module.functions.mergeSort fun a b => a.name < b.name || (a.name == b.name && a.arity ≤ b.arity)

def summary (module : Loaded) : String :=
  "NifModuleHandle \x7b name: " ++ Text.quote module.name ++
    s!", version: ({module.major}, {module.minor}), functions: {module.functions.length}" ++
    s!", from_library: {module.fromLibrary} \x7d"

end Loaded

end Nif.Module
