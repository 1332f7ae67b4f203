import Nif.Bytes
import Nif.Interface
import Nif.Word

/-!
**The heap of one native call.**

An environment owns every object made during a call, and the exception that the call raised, if any.
Objects are only ever added: a slot keeps its object as long as the environment lives.

* `Environment.cell?`: the object behind a word, if the word is a reference of this very
  environment.
* `int?`, `float?`, `tuple?`, `binary?`: the word read as one kind of object.
* `spine`: the elements of a list, its broken end, or the finding that it has no end.
-/

namespace Nif

/-- An object on a heap. -/
inductive Cell where
  /-- An integer too large for a word. -/
  | integer (value : Int64)
  | float (value : Float)
  | tuple (elements : List Word)
  /-- A list cell. -/
  | cons (head tail : Word)
  | binary (bytes : Bytes)

/-- One environment: its number, its objects by slot, and its pending exception. -/
structure Environment where
  id : UInt32
  /-- The objects in the order they were made. -/
  heap : Array Cell := #[]
  /-- The reason of the pending exception. -/
  exception : Option Word := none
  size_le : heap.size ≤ Interface.slotLimit := by simp

/-- What is found when the tails of a list are followed. -/
inductive Spine where
  /-- The list ends in the empty list and has these elements. -/
  | proper (elements : List Word)
  /-- A tail is neither a list cell nor the empty list. -/
  | improper
  /-- The tails never end. -/
  | endless
deriving DecidableEq

/-- The spine of a list with one more element in front. -/
def Spine.cons (head : Word) : Spine → Spine
  | .proper elements => .proper (head :: elements)
  | .improper => .improper
  | .endless => .endless

namespace Environment

/-- The object behind a reference of this environment. -/
def cell? (env : Environment) (word : Word) : Option Cell :=
  match word.boxed? with
  | some (id, slot) => if id = env.id then env.heap[slot]? else none
  | none => none

/-- The value of an integer, small or on the heap. -/
def int? (env : Environment) (word : Word) : Option Int64 :=
  if word.isSmall then some word.payload
  else match env.cell? word with
    | some (.integer value) => some value
    | _ => none

def float? (env : Environment) (word : Word) : Option Float :=
  match env.cell? word with
  | some (.float value) => some value
  | _ => none

def tuple? (env : Environment) (word : Word) : Option (List Word) :=
  match env.cell? word with
  | some (.tuple elements) => some elements
  | _ => none

def binary? (env : Environment) (word : Word) : Option Bytes :=
  match env.cell? word with
  | some (.binary bytes) => some bytes
  | _ => none

/-- Follows the tails of a list through fewer than `bound` cells. -/
def spineWithin (env : Environment) : Nat → Word → Spine
  | 0, _ => .endless
  | bound + 1, word =>
    if word = Word.nil then .proper []
    else match env.cell? word with
      | some (.cons head tail) => (env.spineWithin bound tail).cons head
      | _ => .improper

/-- Follows the tails of a list. A walk through more cells than the heap holds has met one of them
twice, so it would never end. -/
def spine (env : Environment) (word : Word) : Spine := env.spineWithin (env.heap.size + 1) word

/-- The elements of a list that ends in the empty list. -/
def list? (env : Environment) (word : Word) : Option (List Word) :=
  match env.spine word with
  | .proper elements => some elements
  | _ => none

end Environment

end Nif
