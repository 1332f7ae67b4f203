import Nif.NativeFunction

/-!
**A native function that tells what kind of term it was given.**

* `Kind.probe`: tries one reading after the other; the first that succeeds names the kind.
* `describe`: the kind as the pair of `ok` and an atom.
-/

namespace Nif.Example

/-- The coarse kind of a term. -/
inductive Kind where
  | integer
  | float
  | atom
  | binary
  | list
  | other
deriving DecidableEq

namespace Kind

def name : Kind → String
  | integer => "integer"
  | float => "float"
  | atom => "atom"
  | binary => "binary"
  | list => "list"
  | other => "other"

/-- The reading succeeds. -/
def succeeds {α : Type} (reading : Attempt α) : Program Bool := do
  return (← reading.run).isOk

/-- The kind of a term. -/
def probe (word : Word) : Program Kind := do
  if ← succeeds (Read.long word) then return integer
  if ← succeeds (Read.double word) then return float
  if ← succeeds (Read.atomLength word) then return atom
  if ← succeeds (Read.binary word) then return binary
  if ← succeeds (Read.listLength word) then return list
  return other

end Kind

/-- The pair of `ok` and the kind of the one argument. -/
def describe : RawHandler
  | [word] => do
    let kind ← Kind.probe word
    return .returned (.term (← Make.ok (← Make.atom kind.name)))
  | _ => return .returned .badarg

end Nif.Example
