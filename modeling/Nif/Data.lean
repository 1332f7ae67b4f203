import Nif.Make

/-!
**Values that native functions return, and their terms.**

* `Data.encode`: the term of a value, parts from left to right. A part without a term, or a failure
  that stands as a part, fails the whole value.
-/

namespace Nif

/-- A value that a native function may return. -/
inductive Data where
  | i32 (value : Int32)
  | u32 (value : UInt32)
  | i64 (value : Int64)
  | f64 (value : Float)
  | bool (value : Bool)
  /-- Text, encoded as UTF-8. -/
  | text (value : String)
  | bytes (value : Bytes)
  | atom (name : String)
  /-- The value of a function that has nothing to tell. -/
  | unit
  | pair (first second : Data)
  | triple (first second third : Data)
  /-- A part that may have failed, and has not. -/
  | success (value : Data)
  /-- A part that has failed. -/
  | failure (fault : Fault)

namespace Data

/-- The term of a value. -/
def encode : Data → Attempt Word
  | i32 value => Make.int value
  | u32 value => Make.tryLong (Int64.ofNat value.toNat)
  | i64 value => Make.tryLong value
  | f64 value => Make.tryDouble value
  | bool value => Make.bool value
  | text value => Make.tryBinary (utf8Bytes value)
  | bytes value => Make.tryBinary value
  | atom name => Make.tryAtom name
  | unit => Make.tryAtom "ok"
  | pair first second => do
    let a ← first.encode
    let b ← second.encode
    Make.tryTuple [a, b]
  | triple first second third => do
    let a ← first.encode
    let b ← second.encode
    let c ← third.encode
    Make.tryTuple [a, b, c]
  | success value => value.encode
  | failure fault => throw fault

end Data

end Nif
