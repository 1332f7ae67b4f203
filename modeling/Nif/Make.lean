import Nif.Buffer

/-!
**How native code makes terms.**

Where a value may have no term, there are two forms. The form with `try` reports the cause and
leaves the environment as it was. The plain form raises `badarg` instead and answers with the word
of no value.

* `tryLong`, `tryDouble`, `tryAtom`, `tryTuple`, `tryBinary`: the forms that report.
* `badarg`, `int`, `long`, `double`, `atom`, `bool`, `tuple`, `ok`, `error`, `binary`, `text`: the
  forms that raise.
-/

namespace Nif.Make

def badarg : Program Word := Symbol.makeBadarg

/-- The term, or a report of the cause and `badarg`. -/
def orRaise (attempt : Attempt Word) : Program Word := do
  match ← attempt.run with
  | .ok word => return word
  | .error fault =>
    Symbol.report (.raising fault)
    badarg

def int (value : Int32) : Program Word := Symbol.makeInt value

def tryLong (value : Int64) : Attempt Word := Symbol.makeLong value

def long (value : Int64) : Program Word := orRaise (tryLong value)

/-- A float; the host raises for what is not a finite number. -/
def double (value : Float) : Program Word := Symbol.makeDouble value

/-- A float that must be finite. -/
def tryDouble (value : Float) : Attempt Word := do
  if value.isFinite then double value
  else throw (.shapeMismatch "finite float")

/-- The Latin-1 bytes of an atom's name. A character beyond U+00FF, a name that is too long and a
zero character are refused, since the runtime cannot hold them. -/
def atomName? (name : String) : Option Bytes :=
  (latin1? name).filter fun bytes => bytes.length ≤ Interface.maxAtomLength && !bytes.contains 0

def tryAtom (name : String) : Attempt Word :=
  match atomName? name with
  | some bytes => Symbol.makeAtom bytes
  | none => throw (.invalidName name)

def atom (name : String) : Program Word := orRaise (tryAtom name)

/-- The atom `true` or `false`. -/
def bool (value : Bool) : Program Word := atom (if value then "true" else "false")

def tryTuple (elements : List Word) : Attempt Word :=
  match Request.length? elements.length with
  | some count => Symbol.makeTuple (some elements) count
  | none => throw (.shapeMismatch "tuple with a C unsigned int element count")

def tuple (elements : List Word) : Program Word := orRaise (tryTuple elements)

/-- The pair of the atom `ok` and a value. -/
def ok (value : Word) : Program Word := do tuple [← atom "ok", value]

/-- The pair of the atom `error` and a reason. -/
def error (reason : Word) : Program Word := do tuple [← atom "error", reason]

def tryBinary (bytes : Bytes) : Attempt Word := do (← Buffer.ofBytes bytes).toTerm

def binary (bytes : Bytes) : Program Word := orRaise (tryBinary bytes)

/-- A binary of the UTF-8 encoding of a text. -/
def text (text : String) : Program Word := binary (utf8Bytes text)

end Nif.Make
