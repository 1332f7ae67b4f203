import Nif.Environment
import Nif.Log

/-!
**The state that all environments share.**

* `Host.intern`: the atom of a name, the same one in every environment.
* `Host.openEnvironment`: a fresh environment takes the next number.
* `Host.allocBinary`, `Host.releaseBinary`: buffers of native code, which belong to no environment;
  the host counts those that are neither released nor made into a term.
-/

namespace Nif

/-- One run of a callback of a module, in an environment of its own. -/
inductive CallbackRun where
  | load (module : String) (env : UInt32) (info : Word)
  | unload (module : String) (env : UInt32) (privData : UInt64)
deriving DecidableEq

/-- What a host keeps apart from the environments themselves. -/
structure Host where
  atoms : AtomTable := .empty Interface.atomLimit
  nextEnv : UInt32 := 1
  /-- The buffers that native code holds. -/
  outstanding : Nat := 0
  /-- The reports, oldest first. -/
  log : Array Note := #[]
  /-- The runs of callbacks, oldest first. -/
  callbacks : Array CallbackRun := #[]
  /-- The atom table has the interface's limit. -/
  limit_eq : atoms.limit = Interface.atomLimit := by rfl

/-- A binary descriptor: it shows a buffer, or nothing. -/
structure Descriptor where
  /-- The bytes that the descriptor shows; absent while its pointer is null. -/
  data : Option Bytes := none
deriving DecidableEq

namespace Descriptor

def size (bin : Descriptor) : Nat := (bin.data.getD []).length

/-- The bytes shown, none for a null pointer. -/
def bytes (bin : Descriptor) : Bytes := bin.data.getD []

/-- Overwrites the buffer from a position on, if the bytes fit into it. -/
def write? (bin : Descriptor) (position : Nat) (bytes : Bytes) : Option Descriptor :=
  match bin.data with
  | some old =>
    if position + bytes.length ≤ old.length then
      some ⟨some (old.take position ++ bytes ++ old.drop (position + bytes.length))⟩
    else none
  | none => none

end Descriptor

namespace Host

def note (host : Host) (note : Note) : Host := { host with log := host.log.push note }

/-- Enters a name into the atom table and gives the word of its atom. -/
def intern (host : Host) (name : Bytes) : Except AtomRefusal (Word × Host) :=
  match interned : host.atoms.intern name with
  | .ok (index, atoms) =>
    .ok (Word.ofAtomIndex index,
      { host with atoms, limit_eq := (AtomTable.limit_of_intern interned).trans host.limit_eq })
  | .error error => .error error

/-- A fresh environment. Environment numbers count up and wrap around at their width. -/
def openEnvironment (host : Host) : Environment × Host :=
  ({ id := host.nextEnv }, { host with nextEnv := host.nextEnv + 1 })

/-- One buffer fewer is held by native code. -/
def reclaim (host : Host) : Host := { host with outstanding := host.outstanding - 1 }

/-- Allocates a zeroed buffer into the descriptor. Without a descriptor, or for a size beyond all
memory, the status is zero and nothing changes. A buffer that the descriptor showed before stays
held. -/
def allocBinary (host : Host) (size : Nat) (bin : Option Descriptor) :
    (Int32 × Option Descriptor) × Host :=
  match bin with
  | none => ((0, none), host)
  | some bin =>
    if size < Interface.allocationLimit then
      ((1, some ⟨some (List.replicate size 0)⟩), { host with outstanding := host.outstanding + 1 })
    else ((0, some bin), host.note (.allocationRefused size))

/-- Gives a buffer back and empties the descriptor. -/
def releaseBinary (host : Host) (bin : Option Descriptor) : Option Descriptor × Host :=
  match bin with
  | none => (none, host)
  | some ⟨none⟩ => (some {}, host)
  | some ⟨some _⟩ => (some {}, host.reclaim)

end Host

end Nif
