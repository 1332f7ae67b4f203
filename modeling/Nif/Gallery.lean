import Nif.Example.Library

/-!
**A gallery of native functions, by name.**

Plain functions use the boundary directly, typed ones are handlers on values, raw ones are handlers
on words. They cover every type of parameter and result and every way a call can end.

* `Gallery.find?`: the function with a name.
-/

namespace Nif.Gallery

/-- A native function, with its number of parameters if it is typed. -/
structure Exhibit where
  native : NativeFunction
  arity : Option Nat := none

def typed (params : List Param) (body : Arguments params → Ending Data) : Exhibit where
  native := Handler.native { params, body }
  arity := some params.length

def raw (handler : RawHandler) : Exhibit := { native := handler.native }

/-! ### Plain functions -/

def firstArg : NativeFunction := fun count array =>
  return if count < 1 then Word.nil else (array.getD []).headD Word.nonValue

def lastArg : NativeFunction := fun count array =>
  return if count < 1 then Word.nil
    else ((array.getD [])[count.toInt.toNat - 1]?).getD Word.nonValue

def alwaysBadarg : NativeFunction := fun _ _ => Make.badarg

/-- Gives no value without raising. -/
def nonValue : NativeFunction := fun _ _ => return Word.nonValue

/-- Raises, and gives a term nevertheless. -/
def raiseThenNil : NativeFunction := fun _ _ => do
  let _ ← Make.badarg
  return Word.nil

def countArgs : NativeFunction := fun count _ => Make.int count

def echo : NativeFunction := fun count array => Symbol.makeTuple array count.toUInt32

/-! ### Raw functions -/

def rawArgs : RawHandler := fun words =>
  return .returned (← Return.ofAttempt (Make.tryTuple words))

/-- The length of the list that is the first argument, paired with `ok`. -/
def rawCount : RawHandler
  | word :: _ => do
    match ← (Read.listLength word).run with
    | .ok length => return .returned (.term (← Make.ok (← Make.long (Int64.ofNat length))))
    | .error _ => return .returned .badarg
  | [] => return .returned .badarg

/-- The text of the charlist that is the first argument, as a binary. -/
def rawCharlist : RawHandler
  | word :: _ =>
    return .returned (← Return.ofAttempt do Make.tryBinary (utf8Bytes (← Read.charlist word)))
  | [] => return .returned .badarg

/-- Asks for the exception. -/
def rawBadarg : RawHandler := fun _ => return .returned .badarg

def rawPanic : RawHandler := fun _ => return .panicked

/-- Raises, and gives an atom nevertheless. -/
def rawSloppy : RawHandler := fun _ => do
  let _ ← Make.badarg
  return .returned (.term (← Make.atom "sloppy"))

/-! ### Typed functions -/

/-- The quotient toward zero; refused for a divisor of zero and where it leaves 64 bits. -/
def divide (a b : Int64) : Except Fault Int64 :=
  if b = 0 ∨ (a = Int64.minValue ∧ b = -1) then .error .badArg else .ok (a / b)

/-- The exhibits that are handlers on values. -/
def typedExhibits : List (String × Exhibit) := [
  ("answer", typed [] fun () => .returned (.i64 42)),
  ("unit", typed [] fun () => .returned .unit),
  ("pair", typed [] fun () => .returned (.pair (.atom "ok") (.bytes [1, 2, 3]))),
  ("err_pair", typed [] fun () => .returned (.triple (.atom "error") (.text "no") (.f64 1.5))),
  ("id_i32", typed [.i32] fun (n, ()) => .returned (.i32 n)),
  ("id_u32", typed [.u32] fun (n, ()) => .returned (.u32 n)),
  ("id_i64", typed [.i64] fun (n, ()) => .returned (.i64 n)),
  ("id_f64", typed [.f64] fun (x, ()) => .returned (.f64 x)),
  ("id_bool", typed [.bool] fun (b, ()) => .returned (.bool b)),
  ("id_string", typed [.text] fun (s, ()) => .returned (.text s)),
  ("id_bytes", typed [.bytes] fun (bs, ()) => .returned (.bytes bs)),
  ("id_atom", typed [.atom] fun (name, ()) => .returned (.atom name)),
  ("to_atom", typed [.text] fun (s, ()) => .returned (.atom s)),
  ("atom_text", typed [.atom] fun (name, ()) => .returned (.text name)),
  ("square", typed [.f64] fun (x, ()) => .returned (.f64 (x * x))),
  ("divide", typed [.i64, .i64] fun (a, b, ()) =>
    .returned (Example.ofResult ((divide a b).map .i64))),
  ("lookup", typed [.bool] fun (found, ()) =>
    .returned (.pair (.atom "ok") (if found then .success (.i32 7) else .failure .invalidUtf8))),
  ("explode", typed [.i32] fun (n, ()) => if n < 0 then .panicked else .returned (.i32 n)),
  ("triple", typed [.i32, .text, .f64] fun (n, s, x, ()) =>
    .returned (.triple (.i32 n) (.text s) (.f64 x))),
  ("four", typed [.u32, .bool, .bytes, .atom] fun (a, b, c, d, ()) =>
    .returned (.pair (.pair (.u32 a) (.bool b)) (.pair (.bytes c) (.atom d)))),
  ("five", typed [.i32, .i32, .i32, .i32, .i32] fun (a, b, c, d, e, ()) =>
    .returned (.i64 (a.toInt64 + b.toInt64 + c.toInt64 + d.toInt64 + e.toInt64))),
  ("six", typed [.i32, .i64, .f64, .bool, .text, .atom] fun (a, b, c, d, e, g, ()) =>
    .returned (.pair (.triple (.i32 a) (.i64 b) (.f64 c)) (.triple (.bool d) (.text e) (.atom g))))]

/-! ### The gallery -/

/-- The functions of the example library. -/
def libraryExhibits : List (String × Exhibit) :=
  Example.builder.functions.map fun function =>
    (function.name, { native := function.body, arity := function.handlerArity })

/-- The functions that use the boundary directly. -/
def plainExhibits : List (String × Exhibit) := [
  ("first_arg", { native := firstArg }),
  ("last_arg", { native := lastArg }),
  ("always_badarg", { native := alwaysBadarg }),
  ("non_value", { native := nonValue }),
  ("raise_then_nil", { native := raiseThenNil }),
  ("count_args", { native := countArgs }),
  ("echo", { native := echo })]

/-- The exhibits that are handlers on words. -/
def rawExhibits : List (String × Exhibit) := [
  ("raw_args", raw rawArgs),
  ("raw_count", raw rawCount),
  ("raw_charlist", raw rawCharlist),
  ("raw_badarg", raw rawBadarg),
  ("raw_panic", raw rawPanic),
  ("raw_sloppy", raw rawSloppy)]

def find? (name : String) : Option Exhibit :=
  (plainExhibits ++ typedExhibits ++ rawExhibits ++ libraryExhibits).lookup name

end Nif.Gallery
