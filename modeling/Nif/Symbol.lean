import Nif.Program

/-!
**The symbols as programs of one request, and what each does in a live environment.**

* `makeBadarg`, `makeInt`, and so on: one program for each symbol, with the type of its reply.
* `run_makeInt`, and so on: the reply and the frame after it.
-/

namespace Nif.Symbol

def makeBadarg : Program Word := .ofRequest .makeBadarg

def makeInt (value : Int32) : Program Word :=
  .ofRequest (.makeInt value)

def makeLong (value : Int64) : Program Word :=
  .ofRequest (.makeLong value)

def makeDouble (value : Float) : Program Word :=
  .ofRequest (.makeDouble value)

/-- An atom; the name ends at its first zero byte. -/
def makeAtom (name : Bytes) : Program Word :=
  .ofRequest (.makeAtom (some name))

/-- A tuple of the first words of an array. -/
def makeTuple (elements : Option (List Word)) (count : UInt32) : Program Word :=
  .ofRequest (.makeTuple elements count)

def makeBinary (bin : Option Descriptor) : Program Word :=
  .ofRequest (.makeBinary bin)

def getInt (word : Word) (out : Option Int32) : Program (Int32 × Option Int32) :=
  .ofRequest (.getInt word out)

def getLong (word : Word) (out : Option Int64) : Program (Int32 × Option Int64) :=
  .ofRequest (.getLong word out)

def getDouble (word : Word) (out : Option Float) : Program (Int32 × Option Float) :=
  .ofRequest (.getDouble word out)

def getAtomLength (word : Word) (out : Option UInt32) (encoding : UInt32) :
    Program (Int32 × Option UInt32) :=
  .ofRequest (.getAtomLength word out encoding)

/-- An atom's name and a zero byte. -/
def getAtom (word : Word) (buffer : Option Bytes) (encoding : UInt32) :
    Program (Int32 × Option Bytes) :=
  .ofRequest (.getAtom word buffer encoding)

/-- A list of bytes and a zero byte. -/
def getString (word : Word) (buffer : Option Bytes) (encoding : UInt32) :
    Program (Int32 × Option Bytes) :=
  .ofRequest (.getString word buffer encoding)

def getListLength (word : Word) (out : Option UInt32) : Program (Int32 × Option UInt32) :=
  .ofRequest (.getListLength word out)

/-- Lets a descriptor show the bytes of a binary term. -/
def inspectBinary (word : Word) (bin : Option Descriptor) : Program (Int32 × Option Descriptor) :=
  .ofRequest (.inspectBinary word bin)

def allocBinary (size : Nat) (bin : Option Descriptor) : Program (Int32 × Option Descriptor) :=
  .ofRequest (.allocBinary size bin)

def releaseBinary (bin : Option Descriptor) : Program (Option Descriptor) :=
  .ofRequest (.releaseBinary bin)

/-- A report of the extension, which is no symbol of the host. -/
def report (note : Note) : Program Unit :=
  .ofRequest (.report note)

/-! ### In a live environment -/

@[simp] theorem run_makeBadarg (frame : Frame) :
    makeBadarg.run frame =
      frame.raise := rfl

@[simp] theorem run_makeInt (value : Int32) (frame : Frame) :
    (makeInt value).run frame =
      frame.makeInt value.toInt64 := rfl

@[simp] theorem run_makeLong (value : Int64) (frame : Frame) :
    (makeLong value).run frame =
      frame.makeInt value := rfl

@[simp] theorem run_makeDouble (value : Float) (frame : Frame) :
    (makeDouble value).run frame =
      if value.isFinite then frame.makeFloat value else frame.raise := rfl

@[simp] theorem run_makeAtom (name : Bytes) (frame : Frame) :
    (makeAtom name).run frame =
      frame.makeAtom name.terminated := rfl

@[simp] theorem run_makeTuple (elements : Option (List Word)) (count : UInt32) (frame : Frame) :
    (makeTuple elements count).run frame =
      Request.makeTupleFrom frame elements count := rfl

@[simp] theorem run_makeBinary (bin : Option Descriptor) (frame : Frame) :
    (makeBinary bin).run frame =
      Request.makeBinaryFrom frame bin := rfl

@[simp] theorem run_getInt (word : Word) (out : Option Int32) (frame : Frame) :
    (getInt word out).run frame =
      (Request.store ((frame.env.int? word).bind Request.narrow?) out, frame) := rfl

@[simp] theorem run_getLong (word : Word) (out : Option Int64) (frame : Frame) :
    (getLong word out).run frame =
      (Request.store (frame.env.int? word) out, frame) := rfl

@[simp] theorem run_getDouble (word : Word) (out : Option Float) (frame : Frame) :
    (getDouble word out).run frame =
      (Request.store (frame.env.float? word) out, frame) := rfl

@[simp] theorem run_getAtomLength (word : Word) (out : Option UInt32) (encoding : UInt32)
    (frame : Frame) :
    (getAtomLength word out encoding).run frame =
      (if encoding = Interface.latin1 then
          Request.store ((frame.atom? word).map fun name => UInt32.ofNat name.length) out
        else (0, out), frame) := rfl

@[simp] theorem run_getString (word : Word) (buffer : Option Bytes) (encoding : UInt32)
    (frame : Frame) :
    (getString word buffer encoding).run frame =
      (Request.getStringInto frame word buffer encoding, frame) := rfl

@[simp] theorem run_getListLength (word : Word) (out : Option UInt32) (frame : Frame) :
    (getListLength word out).run frame =
      (Request.store ((frame.env.list? word).bind fun elements => Request.length? elements.length)
        out, frame) := rfl

@[simp] theorem run_inspectBinary (word : Word) (bin : Option Descriptor) (frame : Frame) :
    (inspectBinary word bin).run frame =
      (Request.store ((frame.env.binary? word).map fun bytes => ⟨some bytes⟩) bin, frame) := rfl

@[simp] theorem run_allocBinary (size : Nat) (bin : Option Descriptor) (frame : Frame) :
    (allocBinary size bin).run frame =
      ((frame.host.allocBinary size bin).1,
        { frame with host := (frame.host.allocBinary size bin).2 }) := rfl

@[simp] theorem run_releaseBinary (bin : Option Descriptor) (frame : Frame) :
    (releaseBinary bin).run frame =
      ((frame.host.releaseBinary bin).1,
        { frame with host := (frame.host.releaseBinary bin).2 }) := rfl

@[simp] theorem run_report (note : Note) (frame : Frame) :
    (report note).run frame =
      ((), frame.note note) := rfl

end Nif.Symbol
