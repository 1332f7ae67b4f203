/-!
**The fixed numbers and layouts of the native-function interface.**

A native extension and the host that loads it agree on these constants: the interface version, the
character encodings, the scheduling flags, the limits on names and arities, and where each field of
a record lies in memory.

* `Layout.offsets`, `Layout.size`: fields in declaration order, each at the next multiple of its
  alignment.
-/

namespace Nif.Interface

/-- The interface version the host implements: a module must have this major number. -/
def major : Int32 := 2

/-- The newest minor version the host implements. -/
def minor : Int32 := 16

/-- The encoding number of one byte per character. -/
def latin1 : UInt32 := 1

/-- The encoding number of UTF-8, which no symbol accepts. -/
def utf8 : UInt32 := 2

/-- The flag of a function for the processor-bound dirty schedulers. -/
def dirtyCpu : UInt32 := 1

/-- The flag of a function for the input-bound dirty schedulers. -/
def dirtyIo : UInt32 := 2

/-- The module option that says the function table may carry scheduling flags. -/
def dirtyOption : UInt32 := 1

/-- The largest number of arguments of a native function. -/
def maxArity : UInt32 := 255

/-- The longest atom name in bytes, one byte per character. -/
def maxAtomLength : Nat := 255

/-- The symbol under which a library exports its entry point. -/
def entryPoint : String := "nif_init"

/-- The emulator flavour the host plays. -/
def vmVariant : String := "beam.vanilla"

/-- The oldest runtime that knows this interface version. -/
def minErts : String := "erts-12.0"

/-- The number of atoms the host keeps at most. -/
def atomLimit : Nat := 1048576

/-- The number of objects an environment keeps at most, a power of two: the slot has 30 bits in a
word. -/
def slotLimit : Nat := 0x40000000

/-- A request for this many bytes or more is refused. The bound stands for the memory that can be
reserved, which is never this much, and differs from one machine to the next. -/
def allocationLimit : Nat := 0x4000000000000000

/-- A record as its fields in declaration order, each with the size of its scalar type in bytes. A
scalar is aligned to its own size. -/
abbrev Layout := List (String × Nat)

namespace Layout

/-- The next multiple of `unit` from `position` on. -/
def align (position unit : Nat) : Nat := (position + unit - 1) / unit * unit

/-- The fields with their offsets when the first one starts at or after `position`. -/
def offsetsFrom (position : Nat) : Layout → List (String × Nat)
  | [] => []
  | (name, size) :: rest =>
    let start := align position size
    (name, start) :: offsetsFrom (start + size) rest

/-- The fields with their offsets from the start of the record. -/
def offsets (layout : Layout) : List (String × Nat) := layout.offsetsFrom 0

/-- The largest alignment among the fields. -/
def alignment (layout : Layout) : Nat := layout.foldl (fun unit field => max unit field.2) 1

def extent (position : Nat) : Layout → Nat
  | [] => position
  | (_, size) :: rest => extent (align position size + size) rest

/-- The size of the record, padded to its alignment. -/
def size (layout : Layout) : Nat := align (layout.extent 0) layout.alignment

end Layout

def termLayout : Layout := [("bits", 8)]

def binaryLayout : Layout := [("size", 8), ("data", 8)]

def functionLayout : Layout := [("name", 8), ("arity", 4), ("fptr", 8), ("flags", 4)]

def entryLayout : Layout :=
  [("major", 4), ("minor", 4), ("name", 8), ("num_of_funcs", 4), ("funcs", 8), ("load", 8),
    ("reload", 8), ("upgrade", 8), ("unload", 8), ("vm_variant", 8), ("options", 4),
    ("sizeof_ErlNifResourceTypeInit", 8), ("min_erts", 8)]

def resourceTypeLayout : Layout :=
  [("dtor", 8), ("stop", 8), ("down", 8), ("members", 4), ("dyncall", 8)]

end Nif.Interface
