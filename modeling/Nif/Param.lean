import Nif.Read

/-!
**The types of parameters, and how arguments are read as values of them.**

* `Param.Carrier`: the values of a type.
* `Param.decode`: an argument as such a value. Text is read from a UTF-8 binary, and from a charlist
  if the argument is no binary.
-/

namespace Nif

inductive Param where
  | i32
  | u32
  | i64
  | f64
  | bool
  | text
  | bytes
  | atom
deriving DecidableEq

namespace Param

/-- The values of the type. An atom is given by its name. -/
@[reducible] def Carrier : Param → Type
  | i32 => Int32
  | u32 => UInt32
  | i64 => Int64
  | f64 => Float
  | bool => Bool
  | text => String
  | bytes => Bytes
  | atom => String

/-- An unsigned integer of 32 bits. -/
def decodeUnsigned (word : Word) : Attempt UInt32 := do
  let value ← Read.long word
  if 0 ≤ value ∧ value < 0x100000000 then return value.toUInt64.toUInt32
  else throw (.shapeMismatch "non-negative integer fitting in u32")

/-- The atom `true` or `false`. -/
def decodeBool (word : Word) : Attempt Bool := do
  match ← Read.atom word with
  | "true" => return true
  | "false" => return false
  | _ => throw (.shapeMismatch "boolean")

/-- The text of a UTF-8 binary or, failing a binary, of a charlist. -/
def decodeText (word : Word) : Attempt String := ExceptT.mk do
  match ← (Read.binary word).run with
  | .ok held =>
    match held.utf8? with
    | some read => return .ok read
    | none => return .error .invalidUtf8
  | .error _ =>
    match ← (Read.charlist word).run with
    | .ok read => return .ok read
    | .error _ => return .error (.shapeMismatch "binary or charlist")

/-- An argument as a value of the type. -/
def decode : (param : Param) → Word → Attempt param.Carrier
  | i32, word => Read.int word
  | u32, word => decodeUnsigned word
  | i64, word => Read.long word
  | f64, word => Read.double word
  | bool, word => decodeBool word
  | text, word => decodeText word
  | bytes, word => Read.binary word
  | atom, word => Read.atom word

end Param

end Nif
