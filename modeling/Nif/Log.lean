import Nif.AtomTable
import Nif.Fault

/-!
**What host and extensions report while they run.**

* `Note`: one report, as its cause.
* `Note.line`: the level and the text of a report.
-/

namespace Nif

inductive Level where
  | debug
  | info
  | warn
  | error
deriving DecidableEq

def Level.name : Level → String
  | .debug => "DEBUG"
  | .info => "INFO"
  | .warn => "WARN"
  | .error => "ERROR"

inductive Note where
  /-- The host gave no atom for a name. -/
  | atomRejected (error : AtomRefusal)
  /-- The host found no room for the reason of an exception. -/
  | badargNotInterned (error : AtomRefusal)
  /-- The heap of the environment with this number is full. -/
  | heapExhausted (env : UInt32)
  | nullEnvironment
  | allocationRefused (size : Nat)
  /-- A constructor turns its failure into `badarg`. -/
  | raising (fault : Fault)
  /-- A raw function hands its failure back as `badarg`. -/
  | returning (fault : Fault)
  | callFailed (fault : Fault)
  | callPanicked
  /-- A module description is not valid. -/
  | undescribable (module : String) (fault : Fault)
  | moduleLoaded (module : String) (major minor : Int32) (functions : Nat)
  | moduleUnloaded (module : String)
  /-- An exception from before the call was dropped. -/
  | staleException (module name : String) (arity : Nat)
  | callRaised (module name : String) (arity : Nat)
  /-- The called function raised and returned a term nevertheless. -/
  | callContradicts (module name : String) (arity : Nat)
  /-- A callback's own report. -/
  | remark (text : String)
deriving DecidableEq

def Note.level : Note → Level
  | .badargNotInterned _ | .nullEnvironment | .callPanicked | .undescribable .. => .error
  | .heapExhausted _ | .allocationRefused _ | .callContradicts .. => .warn
  | .moduleLoaded .. => .info
  | .atomRejected _ | .raising _ | .returning _ | .callFailed _ | .moduleUnloaded _ |
    .staleException .. | .callRaised .. | .remark _ => .debug

/-- A function as reports name it. -/
def qualified (module name : String) (arity : Nat) : String := s!"{module}:{name}/{arity}"

def Note.text : Note → String
  | .atomRejected error => "rejecting atom: " ++ error.message
  | .badargNotInterned error => "cannot intern badarg: " ++ error.message
  | .heapExhausted env => s!"host env {env} heap exhausted"
  | .nullEnvironment => "enif_* called with a null environment"
  | .allocationRefused size => s!"enif_alloc_binary: cannot allocate {size} bytes"
  | .raising fault => "raising badarg: " ++ fault.message
  | .returning fault => "returning badarg: " ++ fault.message
  | .callFailed fault => "native function raised badarg: " ++ fault.message
  | .callPanicked => "native function panicked, raising badarg"
  | .undescribable module fault => s!"cannot describe NIF module {module}: " ++ fault.message
  | .moduleLoaded module major minor functions =>
    s!"loaded NIF module {module} (interface {major}.{minor}, {functions} functions)"
  | .moduleUnloaded module => s!"unloaded NIF module {module}"
  | .staleException module name arity =>
    "discarding an exception left over before " ++ qualified module name arity
  | .callRaised module name arity => qualified module name arity ++ " raised badarg"
  | .callContradicts module name arity =>
    qualified module name arity ++ " returned a term with an exception pending"
  | .remark text => text

/-- A report as the log shows it. -/
def Note.line (note : Note) : String := note.level.name ++ " " ++ note.text

end Nif
