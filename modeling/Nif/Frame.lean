import Nif.Host
import Nif.Value

/-!
**An environment together with its host: where terms are built and exceptions raised.**

Every operation answers with a word and the frame after it. Objects are only added to the heap; an
operation that fails raises `badarg` and answers with the word of no value.

* `push`: the next slot of the heap, or no value once the heap is full.
* `raise`: the pending exception is `badarg`, whatever was pending before.
* `makeInt`, `makeFloat`, `makeAtom`, `makeTuple`, `makeList`, `makeCharlist`, `makeBinary`: the
  builders.
-/

namespace Nif

/-- A live environment of a host. -/
structure Frame where
  env : Environment
  /-- What it shares with the others. -/
  host : Host

namespace Frame

def note (frame : Frame) (note : Note) : Frame := { frame with host := frame.host.note note }

/-- The meaning of a word in this environment. -/
def decode? (frame : Frame) (word : Word) : Option Value :=
  frame.env.decode? frame.host.atoms word

def atom? (frame : Frame) (word : Word) : Option Bytes := frame.host.atoms.atom? word

/-- Puts an object into the next slot. -/
def push (frame : Frame) (cell : Cell) : Word × Frame :=
  let env := frame.env
  if room : env.heap.size < Interface.slotLimit then
    (Word.boxed env.id env.heap.size,
      { frame with
        env := { env with
          heap := env.heap.push cell, size_le := by rw [Array.size_push]; exact room } })
  else (Word.nonValue, frame.note (.heapExhausted env.id))

/-- The name of the one exception that is ever raised. -/
def badarg : Bytes := utf8Bytes "badarg"

/-- Makes `badarg` the pending exception. -/
def raise (frame : Frame) : Word × Frame :=
  match frame.host.intern badarg with
  | .ok (reason, host) =>
    (Word.nonValue, { env := { frame.env with exception := some reason }, host })
  | .error error => (Word.nonValue, frame.note (.badargNotInterned error))

/-- Clears the pending exception and gives its reason. -/
def clearException (frame : Frame) : Option Word × Frame :=
  (frame.env.exception, { frame with env := { frame.env with exception := none } })

/-- An integer, on the heap only if it does not fit into a word. -/
def makeInt (frame : Frame) (value : Int64) : Word × Frame :=
  match Word.ofSmall? value with
  | some word => (word, frame)
  | none => frame.push (.integer value)

def makeFloat (frame : Frame) (value : Float) : Word × Frame := frame.push (.float value)

/-- An atom from the bytes of its name. -/
def makeAtom (frame : Frame) (name : Bytes) : Word × Frame :=
  match frame.host.intern name with
  | .ok (word, host) => (word, { frame with host })
  | .error error => (frame.note (.atomRejected error)).raise

/-- An atom whose name bytes are the UTF-8 encoding of a text. -/
def makeAtomText (frame : Frame) (name : String) : Word × Frame := frame.makeAtom (utf8Bytes name)

def makeTuple (frame : Frame) (elements : List Word) : Word × Frame := frame.push (.tuple elements)

/-- A list with any last tail; its cells are made from the last to the first. -/
def makeImproper (frame : Frame) : List Word → Word → Word × Frame
  | [], tail => (tail, frame)
  | head :: rest, tail =>
    let (tail, frame) := frame.makeImproper rest tail
    frame.push (.cons head tail)

def makeList (frame : Frame) (elements : List Word) : Word × Frame :=
  frame.makeImproper elements Word.nil

/-- One integer for each number. -/
def makeInts (frame : Frame) : List Int64 → List Word × Frame
  | [] => ([], frame)
  | value :: rest =>
    let (word, frame) := frame.makeInt value
    let (words, frame) := frame.makeInts rest
    (word :: words, frame)

/-- A list of the code points of a text. -/
def makeCharlist (frame : Frame) (text : String) : Word × Frame :=
  let (words, frame) := frame.makeInts (text.toList.map fun c => Int64.ofNat c.toNat)
  frame.makeList words

def makeBinary (frame : Frame) (bytes : Bytes) : Word × Frame := frame.push (.binary bytes)

end Frame

end Nif
