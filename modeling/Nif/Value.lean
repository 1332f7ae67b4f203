import Nif.AtomTable
import Nif.Environment

/-!
**What a word means.**

A word is decoded against the environment it is used in and the atom table. Words that mean nothing
there (references of other environments, empty slots, unknown atoms, broken lists, the word of no
value) decode as themselves.

* `decode?`: the meaning of a word, or nothing when its unfolding would never end. An unfolding
  deeper than the heap has objects runs in a circle, so the depth bound is no restriction.
* `Value.same`: equality with floats compared as numbers.
-/

namespace Nif

inductive Value where
  | int (value : Int64)
  | float (value : Float)
  /-- An atom with its name, one character per byte. -/
  | atom (name : String)
  | tuple (elements : List Value)
  | list (elements : List Value)
  | binary (bytes : Bytes)
  /-- A word that means nothing in this environment. -/
  | invalid (word : Word)

namespace Value

mutual

/-- Equal meanings, with floats compared as numbers: a float that is not a number differs from
itself, and the two zeros are equal. -/
def same : Value → Value → Bool
  | .int a, .int b => a == b
  | .float a, .float b => a == b
  | .atom a, .atom b => a == b
  | .tuple as, .tuple bs => sameAll as bs
  | .list as, .list bs => sameAll as bs
  | .binary a, .binary b => a == b
  | .invalid a, .invalid b => a == b
  | _, _ => false

/-- Equal lengths and element by element equal meanings. -/
def sameAll : List Value → List Value → Bool
  | [], [] => true
  | a :: as, b :: bs => same a b && sameAll as bs
  | _, _ => false

end

end Value

/-- The name of an atom, if the word has the tag of atoms and its index is in the table. -/
def AtomTable.atom? (atoms : AtomTable) (word : Word) : Option Bytes :=
  word.atomIndex?.bind atoms.name?

namespace Environment

/-- The meaning of a word, unfolded through fewer than `depth` levels. A word is tried as an
integer, an atom, a float, a tuple, a list and a binary, in this order. -/
def decodeWithin (env : Environment) (atoms : AtomTable) : Nat → Word → Option Value
  | 0, _ => none
  | depth + 1, word =>
    match env.int? word with
    | some value => some (.int value)
    | none =>
    match atoms.atom? word with
    | some name => some (.atom name.latin1)
    | none =>
    match env.float? word with
    | some value => some (.float value)
    | none =>
    match env.tuple? word with
    | some elements => (elements.mapM (env.decodeWithin atoms depth)).map .tuple
    | none =>
    match env.spine word with
    | .endless => none
    | .proper elements => (elements.mapM (env.decodeWithin atoms depth)).map .list
    | .improper =>
    match env.binary? word with
    | some bytes => some (.binary bytes)
    | none => some (.invalid word)

def decode? (env : Environment) (atoms : AtomTable) (word : Word) : Option Value :=
  env.decodeWithin atoms (env.heap.size + 1) word

end Environment

end Nif
