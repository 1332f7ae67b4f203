import Nif.Module.Loaded

/-!
**What an attempt to load a module can come to, and how the life of a module ends.**

* `callbackFrame`: the frame in which a callback starts.
* `Loads`, `Loaded.load_eq_iff`: an attempt to load is one of five, and which one is decided by the
  entry and by what its load callback answers in that frame.
* `Loaded.drop_eq`: the life of a module ends with its unload callback.
* `Opens`, `Loaded.openLibrary_eq_iff`: how far the way from a path to a module leads.
-/

namespace Nif.Module

/-! ### Callbacks -/

/-- The frame in which a callback starts, with an environment of its own. -/
def callbackFrame (host : Host) (run : UInt32 → CallbackRun) : Frame :=
  let (env, host) := host.openEnvironment
  { env, host := { host with callbacks := host.callbacks.push (run env.id) } }

/-- It is where loading starts its callback. -/
theorem runLoad_eq {module : Loaded} {callback : LoadCallback} {host : Host} {answer : LoadAnswer}
    {frame : Frame}
    (ran : (callback Word.nil).run (callbackFrame host (.load module.name · Word.nil)) =
      (answer, frame)) :
    runLoad module callback host = (answer, frame.host) := by
  have opened : runLoad module callback host = (fun done => (done.1, done.2.host))
      ((callback Word.nil).run (callbackFrame host (.load module.name · Word.nil))) := rfl
  rw [opened, ran]

/-- It is where dropping a module starts its callback. -/
theorem Loaded.drop_eq {module : Loaded} {callback : UnloadCallback}
    (unloads : module.unload = some callback) (host : Host) :
    module.drop host =
      ((callback module.privData).run
        (callbackFrame host (.unload module.name · module.privData))).2.host.note
          (.moduleUnloaded module.name) := by
  rw [drop, unloads]
  rfl

/-! ### Attempts to load -/

/-- What an attempt to load can come to, and the host that it leaves. Until the entry is accepted
nothing happens at all. Then its load callback runs, once, in a fresh environment and with no load
information. A callback that refuses leaves no module behind. -/
inductive Loads (host : Host) : Option Entry → Except LoadFailure Loaded × Host → Prop
  | null : Loads host none (.error .nullEntry, host)
  | refused {entry : Entry} {failure : LoadFailure} (refused : entry.accept = .error failure) :
      Loads host (some entry) (.error failure, host)
  | plain {entry : Entry} {module : Loaded} (accepted : entry.accept = .ok module)
      (silent : entry.load = none) :
      Loads host (some entry) (.ok module, announce module host)
  | declined {entry : Entry} {module : Loaded} {callback : LoadCallback} {answer : LoadAnswer}
      {frame : Frame} (accepted : entry.accept = .ok module) (loads : entry.load = some callback)
      (ran : (callback Word.nil).run
        (callbackFrame host (.load module.name · Word.nil)) = (answer, frame))
      (status : answer.status ≠ 0) :
      Loads host (some entry) (.error (.loadCallbackFailed answer.status), frame.host)
  | stored {entry : Entry} {module : Loaded} {callback : LoadCallback} {answer : LoadAnswer}
      {frame : Frame} (accepted : entry.accept = .ok module) (loads : entry.load = some callback)
      (ran : (callback Word.nil).run
        (callbackFrame host (.load module.name · Word.nil)) = (answer, frame))
      (status : answer.status = 0) :
      Loads host (some entry)
        (.ok { module with privData := answer.privData },
          announce { module with privData := answer.privData } frame.host)

namespace Loaded

variable {host : Host} {outcome : Except LoadFailure Loaded × Host}

theorem load_of_loads {entry : Option Entry} (loads : Loads host entry outcome) :
    Loaded.load entry host = outcome := by
  cases loads with
  | null => rfl
  | refused refused => simp only [Loaded.load, refused]
  | plain accepted silent => simp only [Loaded.load, accepted, silent]
  | declined accepted loads ran status =>
    simp only [Loaded.load, accepted, loads, runLoad_eq ran, if_pos status]
  | stored accepted loads ran status =>
    simp only [Loaded.load, accepted, loads, runLoad_eq ran, if_neg (not_not_intro status)]

/-- One of the five happens. -/
theorem exists_loads (host : Host) (entry : Option Entry) :
    ∃ outcome, Loads host entry outcome := by
  cases entry with
  | none => exact ⟨_, .null⟩
  | some entry =>
    cases accepted : entry.accept with
    | error failure => exact ⟨_, .refused accepted⟩
    | ok module =>
      cases loads : entry.load with
      | none => exact ⟨_, .plain accepted loads⟩
      | some callback =>
        rcases ran : (callback Word.nil).run
          (callbackFrame host (.load module.name · Word.nil)) with ⟨answer, frame⟩
        by_cases status : answer.status = 0
        · exact ⟨_, .stored accepted loads ran status⟩
        · exact ⟨_, .declined accepted loads ran status⟩

/-- **Loading does nothing else.** -/
theorem load_eq_iff {entry : Option Entry} :
    Loaded.load entry host = outcome ↔ Loads host entry outcome := by
  constructor
  · rintro rfl
    obtain ⟨outcome, loads⟩ := exists_loads host entry
    exact load_of_loads loads ▸ loads
  · exact load_of_loads

end Loaded

/-! ### From a path to a module -/

/-- What an attempt to open a library can come to. Something has to be there, it has to be a
library, the library has to export an entry point, and then the module has to load. Nothing happens
before the entry point is asked. -/
inductive Opens (linker : Linker) (path : String) (host : Host) :
    Except LoadFailure Loaded × Host → Prop
  | absent (absent : linker.found path = false) :
      Opens linker path host (.error (.libraryNotFound path), host)
  | unlinked {reason : String} (found : linker.found path = true)
      (link : linker.link path = .error reason) :
      Opens linker path host (.error (.loadFailed reason), host)
  | unexported {exports : String → Except String EntryPoint} {reason : String}
      (found : linker.found path = true) (link : linker.link path = .ok exports)
      (exported : exports "nif_init" = .error reason) :
      Opens linker path host (.error (.entryPointNotFound reason), host)
  | failed {exports : String → Except String EntryPoint} {entryPoint : EntryPoint}
      {failure : LoadFailure} {after : Host} (found : linker.found path = true)
      (link : linker.link path = .ok exports) (exported : exports "nif_init" = .ok entryPoint)
      (loads : Loaded.loadFrom entryPoint host = (.error failure, after)) :
      Opens linker path host (.error failure, after)
  | opened {exports : String → Except String EntryPoint} {entryPoint : EntryPoint} {module : Loaded}
      {after : Host} (found : linker.found path = true) (link : linker.link path = .ok exports)
      (exported : exports "nif_init" = .ok entryPoint)
      (loads : Loaded.loadFrom entryPoint host = (.ok module, after)) :
      Opens linker path host (.ok { module with fromLibrary := true }, after)

section Opening

variable {linker : Linker} {path : String} {host : Host}
  {outcome : Except LoadFailure Loaded × Host}

/-- A library that can be linked is asked for its entry point. -/
theorem Linker.entryPoint_of_link {exports : String → Except String EntryPoint}
    (found : linker.found path = true) (link : linker.link path = .ok exports) :
    linker.entryPoint path = (exports "nif_init").mapError .entryPointNotFound := by
  rw [entryPoint, link, found]
  rfl

theorem Linker.entryPoint_of_exported {exports : String → Except String EntryPoint}
    {entryPoint : EntryPoint} (found : linker.found path = true)
    (link : linker.link path = .ok exports) (exported : exports "nif_init" = .ok entryPoint) :
    linker.entryPoint path = .ok entryPoint := by
  rw [entryPoint_of_link found link, exported]
  rfl

namespace Loaded

theorem openLibrary_of_opens (opens : Opens linker path host outcome) :
    openLibrary linker path host = outcome := by
  unfold openLibrary
  cases opens with
  | absent absent =>
    rw [Linker.entryPoint, absent]
    rfl
  | unlinked found link =>
    rw [Linker.entryPoint, found, link]
    rfl
  | unexported found link exported =>
    rw [Linker.entryPoint_of_link found link, exported]
    rfl
  | failed found link exported loads | opened found link exported loads =>
    rw [Linker.entryPoint_of_exported found link exported]
    dsimp only
    rw [loads]
    rfl

theorem exists_opens (linker : Linker) (path : String) (host : Host) :
    ∃ outcome, Opens linker path host outcome := by
  cases found : linker.found path with
  | false => exact ⟨_, .absent found⟩
  | true =>
    cases link : linker.link path with
    | error reason => exact ⟨_, .unlinked found link⟩
    | ok exports =>
      cases exported : exports "nif_init" with
      | error reason => exact ⟨_, .unexported found link exported⟩
      | ok entryPoint =>
        rcases loads : loadFrom entryPoint host with ⟨failure | module, after⟩
        · exact ⟨_, .failed found link exported loads⟩
        · exact ⟨_, .opened found link exported loads⟩

/-- **Opening does nothing else.** -/
theorem openLibrary_eq_iff :
    openLibrary linker path host = outcome ↔ Opens linker path host outcome := by
  constructor
  · rintro rfl
    obtain ⟨outcome, opens⟩ := exists_opens linker path host
    exact openLibrary_of_opens opens ▸ opens
  · exact openLibrary_of_opens

end Loaded

end Opening

end Nif.Module
