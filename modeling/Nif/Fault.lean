import Nif.Text.Quoted

/-!
**What can go wrong on the extension's side of the boundary.**

To the caller each of these becomes the same exception, `badarg`; the cause is kept for the log and
for the extension itself.

* `Fault.message`: the text of a cause.
* `ensure`: a status of zero is the failure.
-/

namespace Nif

/-- The cause of a failure inside an extension. -/
inductive Fault where
  /-- Raised by the native function itself. -/
  | badArg
  | shapeMismatch (expected : String)
  /-- The destination could not hold the value. -/
  | bufferTooSmall (needed : Nat)
  | allocationFailed (size : Nat)
  | invalidUtf8
  | arityMismatch (expected actual : Nat)
  /-- A module, function or atom name that the runtime cannot hold. -/
  | invalidName (name : String)
  /-- A function table that the runtime would reject. -/
  | invalidFunction (reason : String)
deriving DecidableEq

def Fault.message : Fault → String
  | .badArg => "bad argument"
  | .shapeMismatch expected => s!"expected {expected}"
  | .bufferTooSmall needed => s!"buffer too small, {needed} bytes needed"
  | .allocationFailed size => s!"could not allocate a binary of {size} bytes"
  | .invalidUtf8 => "binary is not valid UTF-8"
  | .arityMismatch expected actual => s!"expected {expected} arguments, got {actual}"
  | .invalidName name => "invalid name " ++ Text.quote name
  | .invalidFunction reason => s!"invalid function table: {reason}"

/-- A status other than zero is success; zero is the given failure. -/
def ensure (status : Int32) (failure : Fault) : Except Fault Unit :=
  if status ≠ 0 then .ok () else .error failure

end Nif
