/-!
**Terms as tagged 64-bit words.**

A word is a small integer, an atom, the empty list, a reference to an object on some environment's
heap, or the word that stands for no value. The low bits tell which:

| word              | bits                                  |
|-------------------|---------------------------------------|
| small integer     | `value * 16 + 15`, a signed value     |
| atom              | `index * 64 + 11`                     |
| empty list        | `59`                                  |
| boxed reference   | `env * 2 ^ 32 + slot * 4 + 2`         |
| no value          | `0`                                   |

A reference carries the number of its environment, so that it means nothing anywhere else.
-/

namespace Nif

/-- A term as native code sees it: 64 bits that it hands back unread. -/
structure Word where
  bits : UInt64
deriving DecidableEq, Inhabited

namespace Word

/-- What a call returns together with a pending exception; it is no term. -/
def nonValue : Word := ⟨0⟩

def nil : Word := ⟨0x3B⟩

/-- The smallest integer that needs no heap object. -/
def minSmall : Int64 := -0x800000000000000

/-- The largest integer that needs no heap object. -/
def maxSmall : Int64 := 0x800000000000000 - 1

/-- The word of an integer of at most 60 bits. -/
def ofSmall? (value : Int64) : Option Word :=
  if minSmall ≤ value ∧ value ≤ maxSmall then some ⟨value.toUInt64 * 16 + 15⟩ else none

def isSmall (word : Word) : Bool := word.bits % 16 == 15

/-- The upper 60 bits as a signed number, whatever the tag. -/
def payload (word : Word) : Int64 := word.bits.toInt64 >>> 4

/-- The word of the atom with this index; bits beyond the word's width are lost. -/
def ofAtomIndex (index : Nat) : Word := ⟨UInt64.ofNat (index * 64 + 11)⟩

/-- The atom index, if the word has the tag of atoms. -/
def atomIndex? (word : Word) : Option Nat :=
  if word.bits % 64 == 11 then some (word.bits.toNat / 64) else none

/-- The reference to a slot of an environment's heap. -/
def boxed (env : UInt32) (slot : Nat) : Word :=
  ⟨UInt64.ofNat (env.toNat * 0x100000000 + slot * 4 + 2)⟩

/-- The environment and the slot of a reference. -/
def boxed? (word : Word) : Option (UInt32 × Nat) :=
  if word.bits % 4 == 2 then
    some (UInt32.ofNat (word.bits.toNat / 0x100000000), word.bits.toNat % 0x100000000 / 4)
  else none

end Word

end Nif
