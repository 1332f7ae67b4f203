import Nif.Frame

/-!
**The symbols that native code may call.**

A request names a symbol and its arguments; every symbol works on the environment of the native call
that makes the request. Pointers are optional: an absent one is null. Where a symbol stores through
a pointer, the request carries what stands there before and the reply what stands there afterwards.

* `Request.perform`: a request in a live environment.
* `Request.refuse`: the same request with a null environment pointer. Whatever needs the environment
  reports that it is missing and fails; buffers need none.
-/

namespace Nif

/-- A call of one symbol. -/
inductive Request where
  | makeBadarg
  | makeInt (value : Int32)
  | makeLong (value : Int64)
  /-- Raises `badarg` for what is not a finite number. -/
  | makeDouble (value : Float)
  /-- The name ends at its first zero byte. -/
  | makeAtom (name : Option Bytes)
  /-- A tuple of the first `count` words of an array. -/
  | makeTuple (elements : Option (List Word)) (count : UInt32)
  /-- Makes the buffer of a descriptor into a term; the descriptor still shows the bytes. -/
  | makeBinary (bin : Option Descriptor)
  | getInt (word : Word) (out : Option Int32)
  | getLong (word : Word) (out : Option Int64)
  | getDouble (word : Word) (out : Option Float)
  | getAtomLength (word : Word) (out : Option UInt32) (encoding : UInt32)
  /-- Copies an atom's name and a zero byte. -/
  | getAtom (word : Word) (buffer : Option Bytes) (encoding : UInt32)
  /-- Copies a list of bytes and a zero byte, cut off where the buffer ends. -/
  | getString (word : Word) (buffer : Option Bytes) (encoding : UInt32)
  | getListLength (word : Word) (out : Option UInt32)
  /-- Lets a descriptor show the bytes of a binary term. -/
  | inspectBinary (word : Word) (bin : Option Descriptor)
  | allocBinary (size : Nat) (bin : Option Descriptor)
  | releaseBinary (bin : Option Descriptor)
  /-- A report of the extension, which is no symbol of the host. -/
  | report (note : Note)

namespace Request

/-- What a request is answered with. -/
@[reducible] def Reply : Request → Type
  | makeBadarg | makeInt _ | makeLong _ | makeDouble _ | makeAtom _ | makeTuple ..
  | makeBinary _ => Word
  | getInt .. => Int32 × Option Int32
  | getLong .. => Int32 × Option Int64
  | getDouble .. => Int32 × Option Float
  | getAtomLength .. | getListLength .. => Int32 × Option UInt32
  | getAtom .. | getString .. => Int32 × Option Bytes
  | inspectBinary .. | allocBinary .. => Int32 × Option Descriptor
  | releaseBinary _ => Option Descriptor
  | report _ => Unit

/-- Stores a value through a pointer: the status is one exactly when there are both. -/
def store {α : Type} (found : Option α) (out : Option α) : Int32 × Option α :=
  match found, out with
  | some value, some _ => (1, some value)
  | _, _ => (0, out)

def narrow? (value : Int64) : Option Int32 :=
  if Int32.minValue.toInt64 ≤ value ∧ value ≤ Int32.maxValue.toInt64 then some value.toInt32
  else none

def byte? (value : Int64) : Option UInt8 :=
  if 0 ≤ value ∧ value < 256 then some value.toUInt64.toUInt8 else none

/-- A length as 32 bits, if it fits. -/
def length? (length : Nat) : Option UInt32 :=
  if length < 0x100000000 then some (UInt32.ofNat length) else none

/-- The bytes of a list of integers from 0 to 255. -/
def string? (env : Environment) (word : Word) : Option Bytes :=
  (env.list? word).bind (·.mapM fun element => (env.int? element).bind byte?)

/-- Overwrites the start of a buffer. -/
def overwrite (buffer bytes : Bytes) : Bytes := bytes ++ buffer.drop bytes.length

/-- Copies a whole name and a zero byte, or nothing when they do not fit. The status is the number
of bytes written. -/
def copyName (name buffer : Bytes) : Int32 × Bytes :=
  if name.length + 1 ≤ buffer.length then
    (Int32.ofNat (name.length + 1), overwrite buffer (name ++ [0]))
  else (0, buffer)

/-- Copies as much of a text as fits before a zero byte. The status is the number of bytes written,
negated when the text was cut off. -/
def copyText (text buffer : Bytes) : Int32 × Bytes :=
  if text.length < buffer.length then
    (Int32.ofNat (text.length + 1), overwrite buffer (text ++ [0]))
  else
    (-Int32.ofNat buffer.length, text.take (buffer.length - 1) ++ [0])

/-- An atom's name into a buffer. Any encoding but Latin-1 is refused. -/
def getAtomInto (frame : Frame) (word : Word) (buffer : Option Bytes) (encoding : UInt32) :
    Int32 × Option Bytes :=
  match buffer with
  | some bytes =>
    if encoding = Interface.latin1 then
      match frame.atom? word with
      | some name => let (status, after) := copyName name bytes; (status, some after)
      | none => (0, buffer)
    else (0, buffer)
  | none => (0, none)

/-- A list of bytes into a buffer. Any encoding but Latin-1 and a buffer without room are refused.
-/
def getStringInto (frame : Frame) (word : Word) (buffer : Option Bytes) (encoding : UInt32) :
    Int32 × Option Bytes :=
  match buffer with
  | some bytes =>
    if encoding = Interface.latin1 ∧ bytes ≠ [] then
      match string? frame.env word with
      | some text => let (status, after) := copyText text bytes; (status, some after)
      | none => (0, buffer)
    else (0, buffer)
  | none => (0, none)

/-- A tuple of the first words of an array. An empty tuple needs no array. -/
def makeTupleFrom (frame : Frame) (elements : Option (List Word)) (count : UInt32) : Word × Frame :=
  if count = 0 then frame.makeTuple []
  else match elements with
    | some words => frame.makeTuple (words.take count.toNat)
    | none => frame.raise

/-- The buffer of a descriptor as a term. A descriptor that shows nothing makes an empty binary. -/
def makeBinaryFrom (frame : Frame) (bin : Option Descriptor) : Word × Frame :=
  match bin with
  | none => frame.raise
  | some ⟨none⟩ => frame.makeBinary []
  | some ⟨some bytes⟩ => { frame with host := frame.host.reclaim }.makeBinary bytes

/-- A request in a live environment. -/
def perform : (request : Request) → Frame → request.Reply × Frame
  | makeBadarg, frame => frame.raise
  | makeInt value, frame => frame.makeInt value.toInt64
  | makeLong value, frame => frame.makeInt value
  | makeDouble value, frame => if value.isFinite then frame.makeFloat value else frame.raise
  | makeAtom none, frame => frame.raise
  | makeAtom (some name), frame => frame.makeAtom name.terminated
  | makeTuple elements count, frame => makeTupleFrom frame elements count
  | makeBinary bin, frame => makeBinaryFrom frame bin
  | getInt word out, frame => (store ((frame.env.int? word).bind narrow?) out, frame)
  | getLong word out, frame => (store (frame.env.int? word) out, frame)
  | getDouble word out, frame => (store (frame.env.float? word) out, frame)
  | getAtomLength word out encoding, frame =>
    (if encoding = Interface.latin1 then
        store ((frame.atom? word).map fun name => UInt32.ofNat name.length) out
      else (0, out), frame)
  | getAtom word buffer encoding, frame => (getAtomInto frame word buffer encoding, frame)
  | getString word buffer encoding, frame => (getStringInto frame word buffer encoding, frame)
  | getListLength word out, frame =>
    (store ((frame.env.list? word).bind fun elements => length? elements.length) out, frame)
  | inspectBinary word bin, frame =>
    (store ((frame.env.binary? word).map fun bytes => ⟨some bytes⟩) bin, frame)
  | allocBinary size bin, frame =>
    let (reply, host) := frame.host.allocBinary size bin
    (reply, { frame with host })
  | releaseBinary bin, frame =>
    let (reply, host) := frame.host.releaseBinary bin
    (reply, { frame with host })
  | report note, frame => ((), frame.note note)

/-- A request with a null environment pointer. A symbol that refuses its other arguments does so
before it looks for the environment. -/
def refuse : (request : Request) → Host → request.Reply × Host
  | makeBadarg, host | makeInt _, host | makeLong _, host | makeDouble _, host | makeAtom _, host
  | makeTuple .., host | makeBinary _, host => (Word.nonValue, host.note .nullEnvironment)
  | getInt _ out, host => ((0, out), host.note .nullEnvironment)
  | getLong _ out, host => ((0, out), host.note .nullEnvironment)
  | getDouble _ out, host => ((0, out), host.note .nullEnvironment)
  | getAtomLength _ out encoding, host =>
    ((0, out), if encoding = Interface.latin1 then host.note .nullEnvironment else host)
  | getAtom _ buffer encoding, host =>
    ((0, buffer),
      if encoding = Interface.latin1 ∧ buffer ≠ none then host.note .nullEnvironment else host)
  | getString _ buffer encoding, host =>
    ((0, buffer),
      if encoding = Interface.latin1 ∧ buffer ≠ none ∧ buffer ≠ some [] then
        host.note .nullEnvironment
      else host)
  | getListLength _ out, host => ((0, out), host.note .nullEnvironment)
  | inspectBinary _ bin, host => ((0, bin), host.note .nullEnvironment)
  | allocBinary size bin, host => host.allocBinary size bin
  | releaseBinary bin, host => host.releaseBinary bin
  | report note, host => ((), host.note note)

end Request

end Nif
