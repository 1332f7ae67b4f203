import Nif.Example.Arithmetic
import Nif.Example.Kind
import Nif.Module.Builder

/-!
**An example library: one module of numeric and text functions.**

* `library`: the module's description, as its entry point would give it.
-/

namespace Nif.Example

def greet (name : String) : String := s!"Hello, {name} from Rust!"

def moduleName : String := "Elixir.NativeExample"

/-! ### The functions as handlers -/

def addHandler : Handler where
  params := [.i32, .i32]
  body := fun (a, b, ()) => .returned (.i32 (add a b))

def multiplyHandler : Handler where
  params := [.i32, .i32]
  body := fun (a, b, ()) => .returned (.i32 (multiply a b))

def greetHandler : Handler where
  params := [.text]
  body := fun (name, ()) => .returned (.text (greet name))

/-- A value that may have failed. -/
def ofResult (result : Except Fault Data) : Data :=
  match result with
  | .ok value => .success value
  | .error fault => .failure fault

def fibonacciHandler : Handler where
  params := [.i64]
  body := fun (n, ()) => .returned (ofResult ((fibonacci n).map .i64))

def isPrimeHandler : Handler where
  params := [.i64]
  body := fun (n, ()) => .returned (.bool (isPrime n))

def circleAreaHandler : Handler where
  params := [.f64]
  body := fun (radius, ()) => .returned (.f64 (circleArea radius))

/-! ### The module -/

/-- The registration of a typed function, with its own number of parameters. -/
def typed (name : String) (handler : Handler) : Module.Registration where
  name
  arity := UInt32.ofNat handler.arity
  body := handler.native
  handlerArity := some handler.arity

/-- A callback that reports and succeeds. -/
def reporting (text : String) : Program Module.LoadAnswer := do
  Symbol.report (.remark text)
  return {}

/-- The description under construction: seven functions, and callbacks for loading, upgrading and
unloading. -/
def builder : Module.Builder where
  name := moduleName
  functions := [
    typed "add" addHandler,
    typed "multiply" multiplyHandler,
    typed "greet" greetHandler,
    typed "fibonacci" fibonacciHandler,
    typed "is_prime" isPrimeHandler,
    typed "circle_area" circleAreaHandler,
    { name := "describe", arity := 1, body := RawHandler.native describe }]
  load := some fun _ => reporting s!"{moduleName} loaded"
  upgrade := some fun _ _ _ => reporting s!"{moduleName} upgraded"
  unload := some fun _ => Symbol.report (.remark s!"{moduleName} unloaded")

/-- The module of the library, as its entry point describes it. -/
def library (host : Host) : Option Module.Entry × Host :=
  let (description, host) := builder.buildOrReport host
  (description.map (·.entry), host)

end Nif.Example
