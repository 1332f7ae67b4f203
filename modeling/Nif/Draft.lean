import Nif.Frame

/-!
**Descriptions of terms that are still to be built.**

* `Draft.build`: builds the parts from left to right, inner parts before outer ones.
-/

namespace Nif

/-- A term to be built in a frame. -/
inductive Draft where
  | existing (word : Word)
  | int (value : Int64)
  | float (value : Float)
  /-- An atom whose name bytes are the UTF-8 encoding of the text. -/
  | atomText (name : String)
  | atom (name : Bytes)
  | tuple (elements : List Draft)
  | list (elements : List Draft)
  | improper (elements : List Draft) (tail : Draft)
  | charlist (text : String)
  | binary (bytes : Bytes)

namespace Draft

mutual

/-- The word of the described term. -/
def build (frame : Frame) : Draft → Word × Frame
  | .existing word => (word, frame)
  | .int value => frame.makeInt value
  | .float value => frame.makeFloat value
  | .atomText name => frame.makeAtomText name
  | .atom name => frame.makeAtom name
  | .tuple elements =>
    let (words, frame) := buildAll frame elements
    frame.makeTuple words
  | .list elements =>
    let (words, frame) := buildAll frame elements
    frame.makeList words
  | .improper elements tail =>
    let (words, frame) := buildAll frame elements
    let (tail, frame) := build frame tail
    frame.makeImproper words tail
  | .charlist text => frame.makeCharlist text
  | .binary bytes => frame.makeBinary bytes

/-- The words of the described terms, built from the first to the last. -/
def buildAll (frame : Frame) : List Draft → List Word × Frame
  | [] => ([], frame)
  | draft :: rest =>
    let (word, frame) := build frame draft
    let (words, frame) := buildAll frame rest
    (word :: words, frame)

end

end Draft

end Nif
