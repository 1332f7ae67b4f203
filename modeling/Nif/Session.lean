import Nif.Draft
import Nif.Module.Builder
import Nif.Module.Loaded

/-!
**A host with its environments and its loaded modules, over a whole run.**

Environments and modules are named by the order in which they appeared. An operation on one
environment touches that environment and the shared state of the host, and no other environment.

* `inEnvironment`: an operation in one environment.
* `run`: a native program, with an environment or with a null pointer.
* `load`, `call`, `drop`: the life of a module.
-/

namespace Nif

/-- A host, the environments that were opened for it, and the modules it has loaded. -/
structure Session where
  host : Host := {}
  envs : Array Environment := #[]
  /-- The modules in the order they were loaded; a dropped one leaves its place empty. -/
  modules : Array (Option Module.Loaded) := #[]

namespace Session

/-- Opens an environment and gives its position. -/
def openEnvironment (session : Session) : Nat × Session :=
  let (env, host) := session.host.openEnvironment
  (session.envs.size, { session with host, envs := session.envs.push env })

def frame? (session : Session) (env : Nat) : Option Frame :=
  (session.envs[env]?).map fun env => { env, host := session.host }

/-- Carries out an operation in an environment, if there is such an environment. -/
def inEnvironment {α : Type} (session : Session) (env : Nat) (operation : Frame → α × Frame) :
    Option (α × Session) :=
  (session.frame? env).map fun frame =>
    let (result, frame) := operation frame
    (result, { session with host := frame.host, envs := session.envs.setIfInBounds env frame.env })

/-- Carries out an operation that needs no environment. -/
def onHost {α : Type} (session : Session) (operation : Host → α × Host) : α × Session :=
  let (result, host) := operation session.host
  (result, { session with host })

/-- Runs a native program in an environment, or with a null environment pointer. -/
def run {α : Type} (session : Session) (env : Option Nat) (program : Program α) :
    Option (α × Session) :=
  match env with
  | some env => session.inEnvironment env program.run
  | none => some (session.onHost program.runDetached)

/-- Loads a module and gives its position. -/
def load (session : Session) (entry : Option Module.Entry) :
    Except Module.LoadFailure Nat × Session :=
  match session.onHost (Module.Loaded.load entry) with
  | (.ok module, session) =>
    (.ok session.modules.size, { session with modules := session.modules.push (some module) })
  | (.error error, session) => (.error error, session)

/-- The module at a position, unless it was dropped. -/
def module? (session : Session) (handle : Nat) : Option Module.Loaded :=
  (session.modules[handle]?).join

/-- Calls a function of a loaded module in an environment. -/
def call (session : Session) (handle env : Nat) (name : String) (args : List Word) :
    Option (Except Module.CallFailure Word × Session) :=
  (session.module? handle).bind fun module => session.inEnvironment env (module.call name args)

/-- Drops a loaded module. -/
def drop (session : Session) (handle : Nat) : Option Session :=
  (session.module? handle).map fun module =>
    { session with
      host := module.drop session.host
      modules := session.modules.setIfInBounds handle none }

end Session

end Nif
