import Nif.Example.Library
import Nif.Proofs.Operation
import Nif.Proofs.Representation
import Nif.Proofs.Validity

/-!
**A call of `describe` names the kind of what its argument means.**

* `Example.library_describes`, `Example.library_opens`: the example library always loads, as the
  module that its builder describes, and opens wherever it is found.
* `Example.Tells`: a name that says which kind of value this is; `Kind.tells_name`: so does the name
  of its kind.
* `Loaded.describe_exact`: what a call of `describe` answers.
-/

namespace Nif

open Nif.Module (Builder EntryPoint Linker Loaded Registration Storable)

namespace Example

/-! ### The module of the library -/

/-- A typed function is registered with the number of parameters of its handler. -/
theorem typed_sound {name : String} {handler : Handler} (few : handler.arity ≤ 255)
    (storable : Storable name) :
    (typed name handler).Sound := by
  have arity : (UInt32.ofNat handler.arity).toNat = handler.arity :=
    UInt32.toNat_ofNat_of_lt' (few.trans_lt (by decide))
  refine ⟨arity.le.trans few, ?_, storable⟩
  rintro _ ⟨⟩
  exact arity.symm

/-- Nothing is wrong with the description of the library. -/
theorem builder_valid : builder.Valid where
  name := by simp [builder, moduleName, Storable]
  vmVariant := by simp [builder, Storable, Interface.vmVariant]
  minErts := by simp [builder, Storable, Interface.minErts]
  functions := by
    have unknown : ∀ expected, (none : Option Nat) = some expected →
        expected = (1 : UInt32).toNat :=
      fun expected known => absurd known.symm (Option.some_ne_none expected)
    simp only [builder, List.forall_mem_cons]
    refine ⟨typed_sound ?_ ?_, typed_sound ?_ ?_, typed_sound ?_ ?_, typed_sound ?_ ?_,
      typed_sound ?_ ?_, typed_sound ?_ ?_, ⟨?_, unknown, ?_⟩, List.forall_mem_nil _⟩ <;>
        first | decide | simp [Storable]
  distinct := by decide

/-- **The library always loads**, as the module that its builder describes. -/
theorem library_describes (host : Host) :
    ∃ module, (Loaded.loadFrom library host).1 = .ok module ∧ builder.Describes module := by
  have built := Builder.build_of_valid builder_valid (by decide)
  obtain ⟨module, accepted, describes, -⟩ := (Builder.accept_of_build built).2 rfl
  have loads := Builder.load_eq_of_build built
  refine ⟨_, ?_, describes.kept 0 module.fromLibrary⟩
  rw [Loaded.loadFrom, library, Builder.buildOrReport, built]
  exact congrArg Prod.fst (Loaded.load_eq_iff.mpr (.stored accepted loads rfl rfl))

/-- So it opens wherever a linker finds it, and its module keeps it. -/
theorem library_opens {linker : Linker} {path : String}
    {exports : String → Except String EntryPoint} (found : linker.found path = true)
    (link : linker.link path = .ok exports) (exported : exports "nif_init" = .ok library)
    (host : Host) :
    ∃ module, (Loaded.openLibrary linker path host).1 = .ok module ∧ builder.Describes module ∧
      module.fromLibrary = true := by
  obtain ⟨module, loaded, describes⟩ := library_describes host
  rcases loads : Loaded.loadFrom library host with ⟨outcome, after⟩
  rw [loads] at loaded
  obtain rfl : outcome = .ok module := loaded
  have opened := Loaded.openLibrary_eq_iff.mpr (.opened found link exported loads)
  exact ⟨_, congrArg Prod.fst opened, describes.kept module.privData true, rfl⟩

/-! ### The names of the kinds -/

/-- The name says what kind of value this is. -/
structure Tells (name : String) (value : Value) : Prop where
  integer : name = "integer" ↔ ∃ number, value = .int number
  float : name = "float" ↔ ∃ number, value = .float number
  atom : name = "atom" ↔ ∃ text, value = .atom text
  binary : name = "binary" ↔ ∃ bytes, value = .binary bytes
  list : name = "list" ↔ ∃ elements, value = .list elements
  /-- Tuples have no kind of their own, and neither have words that mean nothing. -/
  other : name = "other" ↔ (∃ elements, value = .tuple elements) ∨ ∃ word, value = .invalid word

/-- **The name of its kind says what kind of value this is.** -/
theorem Kind.tells_name (value : Value) : Tells (Kind.ofValue value).name value := by
  cases value <;> constructor <;> simp [Kind.ofValue, Kind.name]

end Example

namespace Module.Loaded

open Example

/-- A module with the functions of the library calls `describe` under this name. -/
theorem function?_describe {module : Loaded} (describes : builder.Describes module) :
    ∃ function, module.function? "describe" 1 = some function ∧
      function.body = RawHandler.native describe := by
  have member : (⟨"describe", 1, RawHandler.native describe, 0, none⟩ : Registration) ∈
      builder.functions := by
    simp [builder]
  exact ⟨_, describes.found _ member, rfl⟩

variable {host : Host} {module : Loaded} {frame : Frame} {word : Word} {value : Value}

/-- **A call of `describe` names the kind of what its argument means.** Whatever is pending, the
call succeeds with the pair of `ok` and that name, as long as there is room for it, and the pair is
all that it adds to the heap. -/
theorem describe_exact (loaded : (Loaded.loadFrom library host).1 = .ok module)
    (means : frame.decode? word = some value) (room : frame.Room 1 (descriptionNames value)) :
    ∃ term name after, module.call "describe" [word] frame = (.ok term, after) ∧
      after.decode? term = some (.tuple [.atom "ok", .atom name]) ∧ Tells name value ∧
      frame.env.GrowsTo after.env ∧ after.env.heap.size = frame.env.heap.size + 1 := by
  obtain ⟨handle, loadedToo, describes⟩ := library_describes host
  obtain rfl := Except.ok.inj (loaded.symm.trans loadedToo)
  obtain ⟨function, found, body⟩ := function?_describe describes
  have found : module.function? "describe" [word].length = some function := found
  -- The call drops what is pending first; the meaning and the room are still the same then.
  have meansThen : (frame.withException none).decode? word = some value :=
    (Frame.decode?_of_silent rfl word).trans means
  have one : (Int32.ofNat [word].length).toInt = 1 := rfl
  obtain ⟨term, made, run, makes⟩ := Callable.describe_run one meansThen ⟨room.slots, room.atoms⟩
  rw [← body] at run
  obtain ⟨reported, silent⟩ := call_eq found frame run
  have quiet : made.env.exception = none := makes.built.exception
  have heap : (module.call "describe" [word] frame).2.silent.env.heap = made.env.heap := by
    rw [silent]
    rfl
  refine ⟨term, (Kind.ofValue value).name, (module.call "describe" [word] frame).2, ?_, ?_,
    Kind.tells_name value, (module.call_grows _ _ frame).env, ?_⟩
  · rw [verdict, if_neg makes.proper, quiet] at reported
    exact Prod.ext reported rfl
  · exact (Frame.decode?_of_silent silent term).trans makes.meaning
  · exact (congrArg Array.size heap).trans makes.built.size

/-- A list that is no proper one, described while an exception is pending. -/
theorem describe_exact_improper :
    ∃ (host : Host) (module : Loaded) (frame : Frame) (word term : Word) (after : Frame),
      (Loaded.loadFrom library host).1 = .ok module ∧ frame.env.exception = some Word.nil ∧
      frame.env.cell? word = some (.cons ⟨15⟩ ⟨31⟩) ∧
      module.call "describe" [word] frame = (.ok term, after) ∧
      after.decode? term = some (.tuple [.atom "ok", .atom "other"]) ∧ after.env.heap.size = 2 := by
  let frame : Frame :=
    ⟨{ id := 1, exception := some Word.nil, heap := #[.cons ⟨15⟩ ⟨31⟩], size_le := by decide }, {}⟩
  have means : frame.decode? (Word.boxed 1 0) = some (.invalid (Word.boxed 1 0)) := rfl
  have room : frame.Room 1 (descriptionNames (.invalid (Word.boxed 1 0))) :=
    ⟨by decide, AtomTable.Admits.of_card (by decide)⟩
  obtain ⟨module, loaded, -⟩ := library_describes {}
  obtain ⟨term, name, after, called, meaning, tells, -, size⟩ := describe_exact loaded means room
  obtain rfl : name = "other" := tells.other.mpr (.inr ⟨_, rfl⟩)
  exact ⟨{}, module, frame, _, term, after, loaded, rfl, rfl, called, meaning, size⟩

end Module.Loaded

end Nif
