import Nif.Symbol

/-!
**Writable buffers that native code owns.**

A buffer is allocated, written, and then either made into a term or released.

* `allocate`, `ofBytes`: a zeroed buffer, or one that holds a copy.
* `toTerm`, `release`: the two ways to give a buffer up.
-/

namespace Nif

/-- A buffer of native code, with what stands in it. -/
structure Buffer where
  bytes : Bytes
deriving DecidableEq

namespace Buffer

/-- The descriptor that shows the buffer. -/
def descriptor (binary : Buffer) : Descriptor := ⟨some binary.bytes⟩

/-- A zeroed buffer. -/
def allocate (size : Nat) : Attempt Buffer := do
  let (status, shown) ← Symbol.allocBinary size (some {})
  ensure status (.allocationFailed size)
  return ⟨(shown.getD {}).bytes⟩

/-- Overwrites the buffer from a position on, if the bytes fit into it. -/
def write? (binary : Buffer) (position : Nat) (bytes : Bytes) : Option Buffer :=
  (binary.descriptor.write? position bytes).map fun shown => ⟨shown.bytes⟩

def fill (binary : Buffer) (byte : UInt8) : Buffer :=
  ⟨List.replicate binary.bytes.length byte⟩

/-- A buffer that holds a copy of the bytes. -/
def ofBytes (bytes : Bytes) : Attempt Buffer := do
  let binary ← allocate bytes.length
  return (binary.write? 0 bytes).getD binary

/-- Hands the buffer to the environment as a binary term. -/
def toTerm (binary : Buffer) : Program Word := Symbol.makeBinary (some binary.descriptor)

def release (binary : Buffer) : Program Unit := do
  let _ ← Symbol.releaseBinary (some binary.descriptor)

/-- The text that shows the buffer's size. -/
def summary (binary : Buffer) : String :=
  "OwnedBinary \x7b size: " ++ toString binary.bytes.length ++ " \x7d"

end Buffer

/-- The text that shows the bytes of a binary term. -/
def Bytes.summary (bytes : Bytes) : String :=
  "Binary([" ++ ", ".intercalate (bytes.map fun byte => toString byte.toNat) ++ "])"

end Nif
