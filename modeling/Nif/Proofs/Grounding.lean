import Nif.Proofs.Exceptions
import Nif.Proofs.Numbering
import Nif.Proofs.Tags

/-!
**The objects on a heap refer to earlier objects only.**

* `Environment.Grounded`: a reference of the environment itself that stands in a slot leads to an
  earlier slot.
* `Environment.Allocated`: a word that promises no object that is still to be made.
* `Scene`: a constructor at work, with the frame that it meets and the words that it is given;
  `Draft.scenes`, `Program.scenes`, `Session.scenes`, `Session.runScenes`: the scenes of a draft, a
  program, an operation and a run, in whichever environment.
* `Frame.Keeps`: an operation in one environment that keeps its heap grounded, at each of its scenes
  and in the end, if the constructors are given no word that is not allocated.
* `Session.grounded_of_reaches`: so does every run, whatever happens in other environments.
-/

namespace Nif

/-- The words that the object holds. -/
def Cell.words : Cell → List Word
  | tuple elements => elements
  | cons head tail => [head, tail]
  | integer _ | float _ | binary _ => []

namespace Environment

/-- If the word is a reference of this environment, then to a slot that is taken. -/
def Allocated (env : Environment) (word : Word) : Prop :=
  ∀ slot, word.boxed? = some (env.id, slot) → slot < env.heap.size

instance (env : Environment) (word : Word) : Decidable (env.Allocated word) :=
  decidable_of_iff (∀ place ∈ word.boxed?, place.1 = env.id → place.2 < env.heap.size) <| by
    constructor
    · intro every slot reference
      exact every _ reference rfl
    · rintro allocated ⟨_, slot⟩ reference rfl
      exact allocated slot reference

/-- A reference of this environment that stands in one of its slots leads to an earlier slot. -/
def Grounded (env : Environment) : Prop :=
  ∀ (slot : Nat) (cell : Cell), env.heap[slot]? = some cell →
    ∀ word ∈ cell.words, ∀ place, word.boxed? = some (env.id, place) → place < slot

variable {env later : Environment} {word : Word}

theorem allocated_of_unboxed (unboxed : word.boxed? = none) : env.Allocated word := by
  intro slot reference
  rw [unboxed] at reference
  cases reference

theorem Allocated.grows (allocated : env.Allocated word) (grown : env.GrowsTo later) :
    later.Allocated word := by
  intro slot reference
  rw [grown.id] at reference
  exact (allocated slot reference).trans_le grown.size_le

/-- An empty heap is grounded. -/
theorem grounded_of_empty (empty : env.heap = #[]) : env.Grounded := by
  intro slot cell stored
  rw [empty] at stored
  cases stored

/-- Only the objects and the number of the environment matter. -/
theorem Grounded.of_eq (grounded : env.Grounded) (id : later.id = env.id)
    (heap : later.heap = env.heap) :
    later.Grounded := by
  intro slot cell stored word member place reference
  rw [heap] at stored
  rw [id] at reference
  exact grounded slot cell stored word member place reference

end Environment

/-! ### The builders -/

namespace Frame

variable {frame : Frame}

/-- **A new object that holds allocated words keeps the heap grounded.** -/
theorem push_grounded (grounded : frame.env.Grounded) {cell : Cell}
    (allocated : ∀ word ∈ cell.words, frame.env.Allocated word) :
    (frame.push cell).2.env.Grounded := by
  unfold push
  dsimp only
  split
  · intro slot stored found word member place reference
    dsimp only at found reference
    rw [Array.getElem?_push] at found
    split at found
    · rename_i new
      cases found
      rw [new]
      exact allocated word member place reference
    · exact grounded slot stored found word member place reference
  · exact grounded

/-- The word of a new object is allocated. -/
theorem push_allocated (frame : Frame) (cell : Cell) :
    (frame.push cell).2.env.Allocated (frame.push cell).1 := by
  unfold push
  dsimp only
  split
  · rename_i room
    intro slot reference
    rw [Word.boxed?_boxed _ room] at reference
    cases reference
    dsimp only
    rw [Array.size_push]
    exact Nat.lt_succ_self _
  · exact Environment.allocated_of_unboxed rfl

theorem raise_grounded (grounded : frame.env.Grounded) : frame.raise.2.env.Grounded := by
  unfold raise
  split <;> exact grounded.of_eq rfl rfl

theorem makeInt_grounded (grounded : frame.env.Grounded) (value : Int64) :
    (frame.makeInt value).2.env.Grounded := by
  unfold makeInt
  split
  · exact grounded
  · exact push_grounded grounded (List.forall_mem_nil _)

theorem makeFloat_grounded (grounded : frame.env.Grounded) (value : Float) :
    (frame.makeFloat value).2.env.Grounded := push_grounded grounded (List.forall_mem_nil _)

theorem makeBinary_grounded (grounded : frame.env.Grounded) (bytes : Bytes) :
    (frame.makeBinary bytes).2.env.Grounded := push_grounded grounded (List.forall_mem_nil _)

theorem makeAtom_grounded (grounded : frame.env.Grounded) (name : Bytes) :
    (frame.makeAtom name).2.env.Grounded := by
  unfold makeAtom
  split
  · exact grounded
  · exact raise_grounded (grounded.of_eq rfl rfl)

/-- The cells of a list are made from the last to the first, each with a tail that is there already.
-/
theorem makeImproper_grounded (grounded : frame.env.Grounded) {elements : List Word} {tail : Word}
    (allocated : ∀ word ∈ elements, frame.env.Allocated word) (ended : frame.env.Allocated tail) :
    (frame.makeImproper elements tail).2.env.Grounded ∧
      (frame.makeImproper elements tail).2.env.Allocated (frame.makeImproper elements tail).1 := by
  induction elements with
  | nil => exact ⟨grounded, ended⟩
  | cons head rest ih =>
    obtain ⟨restGrounded, restAllocated⟩ :=
      ih fun word member => allocated word (List.mem_cons_of_mem _ member)
    have headAllocated :=
      (allocated head List.mem_cons_self).grows (frame.makeImproper_grows rest tail).env
    refine ⟨push_grounded restGrounded fun word member => ?_, push_allocated _ _⟩
    rcases List.mem_pair.mp member with rfl | rfl
    · exact headAllocated
    · exact restAllocated

theorem makeList_grounded (grounded : frame.env.Grounded) {elements : List Word}
    (allocated : ∀ word ∈ elements, frame.env.Allocated word) :
    (frame.makeList elements).2.env.Grounded :=
  (makeImproper_grounded grounded allocated (Environment.allocated_of_unboxed rfl)).1

/-- Integers are allocated as soon as they are made. -/
theorem makeInt_allocated (frame : Frame) (value : Int64) :
    (frame.makeInt value).2.env.Allocated (frame.makeInt value).1 := by
  unfold makeInt
  split
  · rename_i word small
    refine Environment.allocated_of_unboxed
      (Option.eq_none_iff_forall_ne_some.mpr fun place reference => ?_)
    have tag := Word.isSmall_of_ofSmall? small
    rw [Word.isSmall_of_boxed? reference] at tag
    cases tag
  · exact push_allocated _ _

theorem makeInts_grounded (grounded : frame.env.Grounded) (values : List Int64) :
    (frame.makeInts values).2.env.Grounded ∧
      ∀ word ∈ (frame.makeInts values).1, (frame.makeInts values).2.env.Allocated word := by
  induction values generalizing frame with
  | nil => exact ⟨grounded, List.forall_mem_nil _⟩
  | cons value rest ih =>
    obtain ⟨restGrounded, restAllocated⟩ := ih (makeInt_grounded grounded value)
    refine ⟨restGrounded, fun word member => ?_⟩
    rcases List.mem_cons.mp member with rfl | later
    · exact (frame.makeInt_allocated value).grows (makeInts_grows _ rest).env
    · exact restAllocated word later

theorem makeCharlist_grounded (grounded : frame.env.Grounded) (text : String) :
    (frame.makeCharlist text).2.env.Grounded := by
  obtain ⟨intsGrounded, allocated⟩ := makeInts_grounded grounded _
  exact makeList_grounded intsGrounded allocated

end Frame

/-! ### Constructors at work -/

/-- A constructor at work, or the end of a program: the frame that it meets, and the words that it
is given. -/
structure Scene where
  frame : Frame
  words : List Word := []

namespace Scene

/-- The constructor is given no word that promises an object still to be made. -/
def Valid (scene : Scene) : Prop := ∀ word ∈ scene.words, scene.frame.env.Allocated word

instance (scene : Scene) : Decidable scene.Valid :=
  inferInstanceAs (Decidable (∀ word ∈ scene.words, scene.frame.env.Allocated word))

def Grounded (scene : Scene) : Prop := scene.frame.env.Grounded

end Scene

namespace Draft

mutual

/-- The constructors that build the described term, in the order in which they are at work. -/
def scenes (frame : Frame) : Draft → List Scene
  | .existing _ => []
  | .int _ | .float _ | .atomText _ | .atom _ | .charlist _ | .binary _ => [{ frame }]
  | .tuple elements | .list elements =>
    let (words, ready) := buildAll frame elements
    scenesAll frame elements ++ [{ frame := ready, words }]
  | .improper elements tail =>
    let (words, middle) := buildAll frame elements
    let (last, ready) := build middle tail
    scenesAll frame elements ++ scenes middle tail ++ [{ frame := ready, words := last :: words }]

/-- The constructors that build the described terms. -/
def scenesAll (frame : Frame) : List Draft → List Scene
  | [] => []
  | draft :: rest => scenes frame draft ++ scenesAll (build frame draft).2 rest

end

/-- What holds of the scenes of the parts and of the constructor that ends them. -/
theorem forall_scene_concat {scenes : List Scene} {last : Scene} {P : Scene → Prop} :
    (∀ scene ∈ scenes ++ [last], P scene) ↔ (∀ scene ∈ scenes, P scene) ∧ P last := by
  rw [List.forall_mem_append, List.forall_mem_singleton]

mutual

/-- **Building a term keeps the heap grounded** at every constructor and in the end. -/
theorem build_grounded {frame : Frame} (grounded : frame.env.Grounded) (draft : Draft)
    (valid : ∀ scene ∈ scenes frame draft, scene.Valid) :
    (∀ scene ∈ scenes frame draft, scene.Grounded) ∧ (build frame draft).2.env.Grounded := by
  cases draft with
  | existing word => exact ⟨List.forall_mem_nil _, grounded⟩
  | int value =>
    exact ⟨List.forall_mem_singleton.mpr grounded, Frame.makeInt_grounded grounded value⟩
  | float value =>
    exact ⟨List.forall_mem_singleton.mpr grounded, Frame.makeFloat_grounded grounded value⟩
  | atomText name =>
    exact ⟨List.forall_mem_singleton.mpr grounded, Frame.makeAtom_grounded grounded _⟩
  | atom name =>
    exact ⟨List.forall_mem_singleton.mpr grounded, Frame.makeAtom_grounded grounded name⟩
  | charlist text =>
    exact ⟨List.forall_mem_singleton.mpr grounded, Frame.makeCharlist_grounded grounded text⟩
  | binary bytes =>
    exact ⟨List.forall_mem_singleton.mpr grounded, Frame.makeBinary_grounded grounded bytes⟩
  | tuple elements =>
    obtain ⟨parts, given⟩ := forall_scene_concat.mp valid
    obtain ⟨before, ready⟩ := buildAll_grounded grounded elements parts
    exact ⟨forall_scene_concat.mpr ⟨before, ready⟩, Frame.push_grounded ready given⟩
  | list elements =>
    obtain ⟨parts, given⟩ := forall_scene_concat.mp valid
    obtain ⟨before, ready⟩ := buildAll_grounded grounded elements parts
    exact ⟨forall_scene_concat.mpr ⟨before, ready⟩, Frame.makeList_grounded ready given⟩
  | improper elements tail =>
    obtain ⟨parts, given⟩ := forall_scene_concat.mp valid
    obtain ⟨heads, ends⟩ := List.forall_mem_append.mp parts
    obtain ⟨before, middle⟩ := buildAll_grounded grounded elements heads
    obtain ⟨later, ready⟩ := build_grounded middle tail ends
    obtain ⟨last, others⟩ := List.forall_mem_cons.mp given
    exact ⟨forall_scene_concat.mpr ⟨List.forall_mem_append.mpr ⟨before, later⟩, ready⟩,
      (Frame.makeImproper_grounded ready others last).1⟩

theorem buildAll_grounded {frame : Frame} (grounded : frame.env.Grounded) (drafts : List Draft)
    (valid : ∀ scene ∈ scenesAll frame drafts, scene.Valid) :
    (∀ scene ∈ scenesAll frame drafts, scene.Grounded) ∧
      (buildAll frame drafts).2.env.Grounded := by
  cases drafts with
  | nil => exact ⟨List.forall_mem_nil _, grounded⟩
  | cons draft rest =>
    obtain ⟨first, others⟩ := List.forall_mem_append.mp valid
    obtain ⟨early, middle⟩ := build_grounded grounded draft first
    obtain ⟨late, ready⟩ := buildAll_grounded middle rest others
    exact ⟨List.forall_mem_append.mpr ⟨early, late⟩, ready⟩

end

mutual

/-- All constructors of a draft work in the environment in which it is built. -/
theorem scenes_id (frame : Frame) (draft : Draft) :
    ∀ scene ∈ scenes frame draft, scene.frame.env.id = frame.env.id := by
  cases draft with
  | existing word => exact List.forall_mem_nil _
  | int _ | float _ | atomText _ | atom _ | charlist _ | binary _ =>
    exact List.forall_mem_singleton.mpr rfl
  | tuple elements | list elements =>
    exact forall_scene_concat.mpr
      ⟨scenesAll_id frame elements, (buildAll_grows frame elements).env.id⟩
  | improper elements tail =>
    have middle := (buildAll_grows frame elements).env.id
    have later := scenes_id (buildAll frame elements).2 tail
    refine forall_scene_concat.mpr ⟨List.forall_mem_append.mpr ⟨scenesAll_id frame elements, ?_⟩,
      (build_grows _ tail).env.id.trans middle⟩
    exact fun scene member => (later scene member).trans middle

theorem scenesAll_id (frame : Frame) (drafts : List Draft) :
    ∀ scene ∈ scenesAll frame drafts, scene.frame.env.id = frame.env.id := by
  cases drafts with
  | nil => exact List.forall_mem_nil _
  | cons draft rest =>
    have later := scenesAll_id (build frame draft).2 rest
    refine List.forall_mem_append.mpr ⟨scenes_id frame draft, fun scene member => ?_⟩
    exact (later scene member).trans (build_grows frame draft).env.id

end

end Draft

/-! ### Requests and programs -/

namespace Request

/-- The words that a symbol puts into an object. -/
def words : Request → List Word
  | makeTuple elements count => (elements.getD []).take count.toNat
  | _ => []

/-- **A symbol that is given allocated words keeps the heap grounded.** -/
theorem perform_grounded {frame : Frame} (grounded : frame.env.Grounded) (request : Request)
    (allocated : ∀ word ∈ request.words, frame.env.Allocated word) :
    (request.perform frame).2.env.Grounded := by
  cases request with
  | makeBadarg => exact Frame.raise_grounded grounded
  | makeInt value => exact Frame.makeInt_grounded grounded _
  | makeLong value => exact Frame.makeInt_grounded grounded value
  | makeDouble value =>
    simp only [perform]
    split
    · exact Frame.makeFloat_grounded grounded value
    · exact Frame.raise_grounded grounded
  | makeAtom name =>
    cases name with
    | none => exact Frame.raise_grounded grounded
    | some name => exact Frame.makeAtom_grounded grounded _
  | makeTuple elements count =>
    simp only [perform, makeTupleFrom]
    split
    · exact Frame.push_grounded grounded (List.forall_mem_nil _)
    · cases elements with
      | none => exact Frame.raise_grounded grounded
      | some words => exact Frame.push_grounded grounded allocated
  | makeBinary bin =>
    rcases bin with _ | ⟨_ | bytes⟩
    · exact Frame.raise_grounded grounded
    · exact Frame.makeBinary_grounded grounded []
    · have reclaimed : { frame with host := frame.host.reclaim }.env.Grounded := grounded
      exact Frame.makeBinary_grounded reclaimed bytes
  | _ => exact grounded.of_eq rfl rfl

end Request

namespace Program

variable {α : Type}

/-- The symbols that the program calls, and its end. -/
def scenes (program : Program α) (frame : Frame) : List Scene :=
  (program.calls frame).map (fun made => { frame := made.2, words := made.1.words }) ++
    [{ frame := (program.run frame).2 }]

/-- **A program that hands allocated words over keeps the heap grounded** at every call and in the
end. -/
theorem scenes_grounded {program : Program α} {frame : Frame} (grounded : frame.env.Grounded)
    (valid : ∀ scene ∈ program.scenes frame, scene.Valid) :
    ∀ scene ∈ program.scenes frame, scene.Grounded := by
  induction program generalizing frame with
  | done result => exact List.forall_mem_singleton.mpr grounded
  | call request next ih =>
    obtain ⟨given, rest⟩ := List.forall_mem_cons.mp valid
    exact List.forall_mem_cons.mpr ⟨grounded, ih _ (request.perform_grounded grounded given) rest⟩

/-- All calls of a program are made in the environment in which it runs. -/
theorem scenes_id (program : Program α) (frame : Frame) :
    ∀ scene ∈ program.scenes frame, scene.frame.env.id = frame.env.id := by
  induction program generalizing frame with
  | done result => exact List.forall_mem_singleton.mpr rfl
  | call request next ih =>
    refine List.forall_mem_cons.mpr ⟨rfl, fun scene member => ?_⟩
    exact (ih _ _ scene member).trans (request.perform_grows frame).env.id

theorem run_grounded {program : Program α} {frame : Frame} (grounded : frame.env.Grounded)
    (valid : ∀ scene ∈ program.scenes frame, scene.Valid) : (program.run frame).2.env.Grounded :=
  scenes_grounded grounded valid _ (List.mem_append_right _ (List.mem_singleton_self _))

end Program

/-! ### Modules -/

namespace Module

theorem callbackFrame_grounded (host : Host) (run : UInt32 → CallbackRun) :
    (callbackFrame host run).env.Grounded := Environment.grounded_of_empty rfl

/-- The load callback of an accepted entry at work. -/
def loadScenes (entry : Entry) (host : Host) : List Scene :=
  match entry.accept, entry.load with
  | .ok module, some callback =>
    (callback Word.nil).scenes (callbackFrame host (.load module.name · Word.nil))
  | _, _ => []

namespace Loaded

/-- The unload callback at work. -/
def dropScenes (module : Loaded) (host : Host) : List Scene :=
  match module.unload with
  | some callback =>
    (callback module.privData).scenes (callbackFrame host (.unload module.name · module.privData))
  | none => []

/-- The called function at work. -/
def callScenes (module : Loaded) (name : String) (args : List Word) (frame : Frame) : List Scene :=
  match module.function? name args.length with
  | some function =>
    (function.body (Int32.ofNat args.length) (some args)).scenes
      (module.clearStale name args.length frame)
  | none => []

theorem clearStale_grounded {frame : Frame} (grounded : frame.env.Grounded) (module : Loaded)
    (name : String) (arity : Nat) : (module.clearStale name arity frame).env.Grounded := by
  unfold clearStale
  split <;> rename_i cleared <;> obtain ⟨-, rfl⟩ := Prod.mk.inj cleared <;>
    exact grounded.of_eq rfl rfl

theorem conclude_grounded {frame : Frame} (grounded : frame.env.Grounded) (module : Loaded)
    (name : String)
    (arity : Nat) (result : Word) : (module.conclude name arity result frame).2.env.Grounded := by
  simp only [conclude]
  split <;> exact grounded.of_eq rfl rfl

/-- **A call keeps the heap grounded** at every step of the called function and in the end. -/
theorem call_grounded {frame : Frame} (grounded : frame.env.Grounded) {module : Loaded}
    {name : String}
    {args : List Word} (valid : ∀ scene ∈ module.callScenes name args frame, scene.Valid) :
    (∀ scene ∈ module.callScenes name args frame, scene.Grounded) ∧
      (module.call name args frame).2.env.Grounded := by
  unfold callScenes at valid ⊢
  unfold call
  cases found : module.function? name args.length with
  | none => exact ⟨List.forall_mem_nil _, grounded⟩
  | some function =>
    rw [found] at valid
    have start := module.clearStale_grounded grounded name args.length
    exact ⟨Program.scenes_grounded start valid,
      module.conclude_grounded (Program.run_grounded start valid) _ _ _⟩

/-- All constructors of a call work in the environment of the call. -/
theorem callScenes_id (module : Loaded) (name : String) (args : List Word) (frame : Frame) :
    ∀ scene ∈ module.callScenes name args frame, scene.frame.env.id = frame.env.id := by
  unfold callScenes
  cases module.function? name args.length with
  | none => exact List.forall_mem_nil _
  | some function =>
    intro scene member
    exact (Program.scenes_id _ _ scene member).trans
      (module.clearStale_grows name args.length frame).env.id

end Loaded

end Module

/-! ### Operations in one environment -/

/-- An operation with scenes in its environment, which keeps the heap grounded at each of them and
in the end as long as they are valid. -/
structure Frame.Keeps {α : Type} (operation : Frame → α × Frame)
    (scenes : Frame → List Scene) : Prop where
  id : ∀ frame, (operation frame).2.env.id = frame.env.id
  scenes_id : ∀ frame, ∀ scene ∈ scenes frame, scene.frame.env.id = frame.env.id
  grounded : ∀ frame, frame.env.Grounded → (∀ scene ∈ scenes frame, scene.Valid) →
    (∀ scene ∈ scenes frame, scene.Grounded) ∧ (operation frame).2.env.Grounded

namespace Frame.Keeps

theorem build (draft : Draft) :
    Keeps (fun frame => draft.build frame) (fun frame => draft.scenes frame) :=
  ⟨fun frame => (Draft.build_grows frame draft).env.id, fun frame => Draft.scenes_id frame draft,
    fun _ grounded => Draft.build_grounded grounded draft⟩

theorem raise : Keeps Frame.raise fun _ => [] :=
  ⟨fun frame => frame.raise_grows.env.id, fun _ => List.forall_mem_nil _,
    fun _ grounded _ => ⟨List.forall_mem_nil _, raise_grounded grounded⟩⟩

theorem clearException : Keeps Frame.clearException fun _ => [] :=
  ⟨fun frame => frame.clearException_grows.env.id, fun _ => List.forall_mem_nil _,
    fun _ grounded _ => ⟨List.forall_mem_nil _, grounded.of_eq rfl rfl⟩⟩

theorem run {α : Type} (program : Program α) : Keeps program.run program.scenes :=
  ⟨fun frame => (program.run_grows frame).env.id, program.scenes_id,
    fun _ grounded valid =>
      ⟨Program.scenes_grounded grounded valid, Program.run_grounded grounded valid⟩⟩

theorem call (module : Module.Loaded) (name : String) (args : List Word) :
    Keeps (module.call name args) (module.callScenes name args) :=
  ⟨fun frame => (module.call_grows name args frame).env.id, module.callScenes_id name args,
    fun _ grounded valid => Module.Loaded.call_grounded grounded valid⟩

variable {α : Type} {operation : Frame → α × Frame} {scenes : Frame → List Scene}

/-- The same where only environments with a certain number are looked at. -/
theorem of_id (keeps : Keeps operation scenes) {frame : Frame} {id : UInt32}
    (grounded : frame.env.id = id → frame.env.Grounded)
    (valid : ∀ scene ∈ scenes frame, scene.frame.env.id = id → scene.Valid) :
    (∀ scene ∈ scenes frame, scene.frame.env.id = id → scene.Grounded) ∧
      ((operation frame).2.env.id = id → (operation frame).2.env.Grounded) := by
  by_cases own : frame.env.id = id
  · obtain ⟨during, after⟩ := keeps.grounded frame (grounded own) fun scene member =>
      valid scene member ((keeps.scenes_id frame scene member).trans own)
    exact ⟨fun scene member _ => during scene member, fun _ => after⟩
  · exact ⟨fun scene member same =>
      absurd ((keeps.scenes_id frame scene member).symm.trans same) own,
      fun same => absurd ((keeps.id frame).symm.trans same) own⟩

end Frame.Keeps

/-! ### Runs -/

namespace Session

/-- The constructors at work in one operation, in the callbacks of modules too. -/
def scenes (session : Session) : Operation → List Scene
  | .build env draft => (session.frame? env).elim [] fun frame => draft.scenes frame
  | .run (some env) program => (session.frame? env).elim [] program.scenes
  | .load (some entry) => Module.loadScenes entry session.host
  | .call handle env name args =>
    (session.module? handle).elim [] fun module =>
      (session.frame? env).elim [] (module.callScenes name args)
  | .drop handle => (session.module? handle).elim [] fun module => module.dropScenes session.host
  | .openEnvironment | .raise _ | .clearException _ | .run none _ | .load none => []

/-- The constructors at work in a run. -/
def runScenes (session : Session) : List Operation → List Scene
  | [] => []
  | operation :: rest => session.scenes operation ++ (session.step operation).runScenes rest

/-- The environments that a run leaves behind, and those that a constructor or the end of a program
meets on the way. -/
def Reaches (session : Session) (operations : List Operation) (env : Environment) : Prop :=
  (∃ place : Nat, (session.after operations).envs[place]? = some env) ∨
    ∃ scene ∈ session.runScenes operations, scene.frame.env = env

/-- All environments with this number are grounded. -/
def Grounded (session : Session) (id : UInt32) : Prop :=
  ∀ (place : Nat) (env : Environment), session.envs[place]? = some env → env.id = id → env.Grounded

variable {session : Session} {id : UInt32}

theorem Grounded.of_envs {later : Session} (grounded : session.Grounded id)
    (envs : later.envs = session.envs) :
    later.Grounded id :=
  fun place env opened => grounded place env (envs ▸ opened)

theorem inEnvironment_grounded {α : Type} {operation : Frame → α × Frame}
    {scenes : Frame → List Scene}
    (keeps : Frame.Keeps operation scenes) (grounded : session.Grounded id) (env : Nat)
    (valid : ∀ scene ∈ (session.frame? env).elim [] scenes, scene.frame.env.id = id → scene.Valid) :
    (∀ scene ∈ (session.frame? env).elim [] scenes, scene.frame.env.id = id → scene.Grounded) ∧
      (session.settled (session.inEnvironment env operation)).Grounded id := by
  unfold inEnvironment
  cases opened : session.frame? env with
  | none => exact ⟨List.forall_mem_nil _, grounded⟩
  | some frame =>
    rw [opened] at valid
    obtain ⟨current, there, rfl⟩ := Option.map_eq_some_iff.mp opened
    obtain ⟨during, after⟩ := keeps.of_id (grounded env current there) valid
    refine ⟨during, fun place other found => ?_⟩
    by_cases own : env = place
    · subst own
      have inside := (Array.getElem?_eq_some_iff.mp there).1
      obtain rfl :=
        Option.some.inj ((Array.getElem?_setIfInBounds_self_of_lt inside).symm.trans found)
      exact after
    · exact grounded place other ((Array.getElem?_setIfInBounds_ne own).symm.trans found)

/-- An operation in which no constructor works. -/
theorem quiet_grounded {α : Type} {operation : Frame → α × Frame}
    (keeps : Frame.Keeps operation fun _ => []) (grounded : session.Grounded id) (env : Nat) :
    (session.settled (session.inEnvironment env operation)).Grounded id := by
  refine (inEnvironment_grounded keeps grounded env ?_).2
  cases session.frame? env <;> exact List.forall_mem_nil _

/-- A callback starts on an empty heap. -/
theorem callback_grounded {α : Type} (program : Program α) (host : Host)
    (run : UInt32 → CallbackRun) (valid : ∀ scene ∈ program.scenes (Module.callbackFrame host run),
      scene.frame.env.id = id → scene.Valid) :
    ∀ scene ∈ program.scenes (Module.callbackFrame host run), scene.frame.env.id = id →
      scene.Grounded :=
  ((Frame.Keeps.run program).of_id (fun _ => Module.callbackFrame_grounded host run) valid).1

/-- **One operation keeps heaps grounded**, at each of its scenes and in the end. -/
theorem step_grounded (grounded : session.Grounded id) {operation : Operation}
    (valid : ∀ scene ∈ session.scenes operation, scene.frame.env.id = id → scene.Valid) :
    (∀ scene ∈ session.scenes operation, scene.frame.env.id = id → scene.Grounded) ∧
      (session.step operation).Grounded id := by
  cases operation with
  | openEnvironment =>
    refine ⟨List.forall_mem_nil _, fun place env found same => ?_⟩
    have pushed : (session.envs.push { id := session.host.nextEnv })[place]? = some env := found
    rw [Array.getElem?_push] at pushed
    split at pushed
    · cases pushed
      exact Environment.grounded_of_empty rfl
    · exact grounded place env pushed same
  | build env draft => exact inEnvironment_grounded (.build draft) grounded env valid
  | raise env => exact ⟨List.forall_mem_nil _, quiet_grounded .raise grounded env⟩
  | clearException env => exact ⟨List.forall_mem_nil _, quiet_grounded .clearException grounded env⟩
  | run env program =>
    cases env with
    | some env => exact inEnvironment_grounded (.run program) grounded env valid
    | none => exact ⟨List.forall_mem_nil _, grounded.of_envs rfl⟩
  | load entry =>
    refine ⟨?_, grounded.of_envs (session.load_host entry).2⟩
    cases entry with
    | none => exact List.forall_mem_nil _
    | some entry =>
      dsimp only [scenes, Module.loadScenes] at valid ⊢
      cases accepted : entry.accept with
      | error failure => exact List.forall_mem_nil _
      | ok module =>
        cases loads : entry.load with
        | none => exact List.forall_mem_nil _
        | some callback =>
          rw [accepted, loads] at valid
          exact callback_grounded _ _ _ valid
  | call handle env name args =>
    simp only [scenes, step, call] at valid ⊢
    cases there : session.module? handle with
    | none => exact ⟨List.forall_mem_nil _, grounded⟩
    | some module =>
      rw [there] at valid
      exact inEnvironment_grounded (.call module name args) grounded env valid
  | drop handle =>
    simp only [scenes, step, drop] at valid ⊢
    cases there : session.module? handle with
    | none => exact ⟨List.forall_mem_nil _, grounded⟩
    | some module =>
      rw [there] at valid
      refine ⟨?_, grounded.of_envs rfl⟩
      dsimp only [Option.elim, Module.Loaded.dropScenes] at valid ⊢
      cases unloads : module.unload with
      | none => exact List.forall_mem_nil _
      | some callback =>
        rw [unloads] at valid
        exact callback_grounded _ _ _ valid

/-- **So does a whole run.** -/
theorem after_grounded (grounded : session.Grounded id) {operations : List Operation}
    (valid : ∀ scene ∈ session.runScenes operations, scene.frame.env.id = id → scene.Valid) :
    (∀ scene ∈ session.runScenes operations, scene.frame.env.id = id → scene.Grounded) ∧
      (session.after operations).Grounded id := by
  induction operations generalizing session with
  | nil => exact ⟨List.forall_mem_nil _, grounded⟩
  | cons operation rest ih =>
    obtain ⟨first, later⟩ := List.forall_mem_append.mp valid
    obtain ⟨during, next⟩ := step_grounded grounded first
    obtain ⟨others, final⟩ := ih next later
    exact ⟨List.forall_mem_append.mpr ⟨during, others⟩, final⟩

/-- **Every environment that a run reaches is grounded**, if the constructors that work in it are
given no word that is not allocated. -/
theorem grounded_of_reaches {operations : List Operation} {env : Environment}
    (reached : fresh.Reaches operations env)
    (valid : ∀ scene ∈ fresh.runScenes operations, scene.frame.env.id = env.id → scene.Valid) :
    env.Grounded := by
  have start : fresh.Grounded env.id := fun place other found => by cases found
  obtain ⟨during, after⟩ := after_grounded start valid
  rcases reached with ⟨place, left⟩ | ⟨scene, member, rfl⟩
  · exact after place env left rfl
  · exact during scene member rfl

end Session

end Nif
