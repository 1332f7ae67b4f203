import Nif.Symbol

/-!
**How native code reads terms.**

Each reading asks one or two symbols and turns a status of zero into the shape that was expected.
Names and charlists are read in two steps, the length first and then a buffer of just that size.

* `int`, `long`, `double`, `atomLength`, `atom`, `listLength`, `charlist`, `binary`: the readings.
-/

namespace Nif.Read

/-- An integer that fits into 32 bits. -/
def int (word : Word) : Attempt Int32 := do
  let (status, value) ← Symbol.getInt word (some 0)
  ensure status (.shapeMismatch "integer fitting in int")
  return value.getD 0

def long (word : Word) : Attempt Int64 := do
  let (status, value) ← Symbol.getLong word (some 0)
  ensure status (.shapeMismatch "integer fitting in long")
  return value.getD 0

/-- A float; integers are not taken for floats. -/
def double (word : Word) : Attempt Float := do
  let (status, value) ← Symbol.getDouble word (some 0)
  ensure status (.shapeMismatch "float")
  return value.getD 0

/-- The number of characters of an atom. -/
def atomLength (word : Word) : Attempt Nat := do
  let (status, length) ← Symbol.getAtomLength word (some 0) Interface.latin1
  ensure status (.shapeMismatch "atom")
  return (length.getD 0).toNat

/-- A zeroed buffer of the needed size, whose size must fit into 32 bits. -/
def buffer (needed : Nat) : Except Fault Bytes :=
  match Request.length? needed with
  | some _ => .ok (List.replicate needed 0)
  | none => .error (.bufferTooSmall needed)

/-- The text in a buffer that ends before the last of the bytes written. -/
def written (status : Int32) (buffer : Option Bytes) : String :=
  Bytes.latin1 ((buffer.getD []).take (status.toInt.toNat - 1))

def atom (word : Word) : Attempt String := do
  let needed := (← atomLength word) + 1
  let (status, filled) ←
    Symbol.getAtom word (some (← buffer needed)) Interface.latin1
  if status ≤ 0 then throw (.bufferTooSmall needed)
  return written status filled

def listLength (word : Word) : Attempt Nat := do
  let (status, length) ← Symbol.getListLength word (some 0)
  ensure status (.shapeMismatch "proper list")
  return (length.getD 0).toNat

/-- The text of a list of code points up to 255. -/
def charlist (word : Word) : Attempt String := do
  let needed := (← listLength word) + 1
  let (status, filled) ←
    Symbol.getString word (some (← buffer needed)) Interface.latin1
  if status = 0 then throw (.shapeMismatch "Latin-1 charlist")
  if status < 0 then throw (.bufferTooSmall needed)
  return written status filled

def binary (word : Word) : Attempt Bytes := do
  let (status, shown) ← Symbol.inspectBinary word (some {})
  ensure status (.shapeMismatch "binary")
  return (shown.getD {}).bytes

end Nif.Read
