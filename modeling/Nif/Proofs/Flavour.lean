import Nif.Proofs.Acceptance
import Nif.Proofs.Registration

/-!
**Which emulator flavours a host loads.**

* `Spells`: a string pointer leads to exactly the bytes of a text; `Illegible`: it leads to bytes
  that are no text.
* `Offers`: an entry reaches the host by itself or through an entry point.
* `Loaded.flavour_checked`: what is known of an entry that is loaded, and what becomes of one that
  declares another flavour.
* `Loaded.flavour_illegible`: a flavour that cannot be read keeps no module from being loaded.
-/

namespace Nif.Module

/-! ### Strings of the header -/

/-- The pointer leads to exactly the bytes of the text, and a terminator. -/
def Spells (pointer : Option Bytes) (text : String) : Prop :=
  ∃ bytes, pointer = some bytes ∧ bytes.terminated = utf8Bytes text

/-- The pointer leads to bytes that are the UTF-8 encoding of no text. -/
def Illegible (pointer : Option Bytes) : Prop :=
  ∃ bytes, pointer = some bytes ∧ ∀ text, bytes.terminated ≠ utf8Bytes text

section Strings

variable {pointer : Option Bytes} {text : String}

/-- **What the host reads is what is spelled.** -/
theorem readText_eq_some_iff : readText pointer = some text ↔ Spells pointer text := by
  rw [readText, Option.bind_eq_some_iff]
  simp only [Bytes.utf8?_eq_some_iff]
  rfl

/-- A string that is not read is null or illegible. -/
theorem readText_eq_none_iff : readText pointer = none ↔ pointer = none ∨ Illegible pointer := by
  rw [Option.eq_none_iff_forall_ne_some]
  simp only [ne_eq, readText_eq_some_iff]
  constructor
  · intro unread
    cases pointer with
    | none => exact Or.inl rfl
    | some bytes => exact Or.inr ⟨bytes, rfl, fun text same => unread text ⟨bytes, rfl, same⟩⟩
  · rintro (rfl | ⟨bytes, rfl, illegible⟩) text ⟨_, ⟨⟩, same⟩
    exact illegible text same

end Strings

/-! ### The check of an entry -/

section Check

variable {entry : Entry} {variant : String}

/-- What an accepted entry says of its version, its name and its flavour. -/
theorem Entry.header_of_accept {module : Loaded} (done : entry.accept = .ok module) :
    entry.major = 2 ∧ entry.minor ≤ 16 ∧ Spells entry.name module.name ∧
      (entry.vmVariant = none ∨ Spells entry.vmVariant "beam.vanilla" ∨
        Illegible entry.vmVariant) := by
  have accepted := Entry.accepted_of_accept done
  refine ⟨accepted.major, accepted.minor, readText_eq_some_iff.mp accepted.name, ?_⟩
  cases read : readText entry.vmVariant with
  | none =>
    rcases readText_eq_none_iff.mp read with absent | illegible
    · exact Or.inl absent
    · exact Or.inr (Or.inr illegible)
  | some variant =>
    obtain rfl := accepted.flavour variant read
    exact Or.inr (Or.inl (readText_eq_some_iff.mp read))

/-- An entry of another flavour is refused, and for its flavour if nothing else in its header is
wrong. -/
theorem Entry.accept_of_otherFlavour (declared : Spells entry.vmVariant variant)
    (other : variant ≠ Interface.vmVariant) :
    ∃ failure, entry.accept = .error failure ∧
      (entry.major = 2 → entry.minor ≤ 16 → (∃ name, Spells entry.name name) →
        failure = .vmVariantMismatch variant) := by
  have read := readText_eq_some_iff.mpr declared
  cases outcome : entry.accept with
  | ok module => exact absurd ((Entry.accepted_of_accept outcome).flavour variant read) other
  | error failure =>
    refine ⟨failure, rfl, fun major minor named => ?_⟩
    obtain ⟨name, named⟩ := named
    have version : ¬ (entry.major ≠ Interface.major ∨ entry.minor > Interface.minor) :=
      not_or.mpr ⟨not_not.mpr major, Int32.not_lt.mpr minor⟩
    rw [Entry.accept, if_neg version] at outcome
    simp only [readText_eq_some_iff.mpr named, read, if_pos other] at outcome
    exact (Except.error.inj outcome).symm

/-- An illegible flavour is taken for one that is not declared. -/
theorem Entry.accept_of_illegible (illegible : Illegible entry.vmVariant) :
    entry.accept = { entry with vmVariant := none }.accept := by
  have read : readText entry.vmVariant = readText none :=
    readText_eq_none_iff.mpr (Or.inr illegible)
  unfold Entry.accept
  rw [read]
  rfl

end Check

/-! ### Loading -/

/-- The entry reaches the host by itself or through an entry point, and what comes of it. -/
inductive Offers (entry : Entry) (host : Host) : Except LoadFailure Loaded × Host → Prop
  | byItself : Offers entry host (Loaded.load (some entry) host)
  | byEntryPoint {entryPoint : EntryPoint} {before : Host}
      (given : entryPoint before = (some entry, host)) :
      Offers entry host (Loaded.loadFrom entryPoint before)

section Loading

variable {entry : Entry} {host : Host} {outcome : Except LoadFailure Loaded × Host}

theorem offers_iff : Offers entry host outcome ↔ outcome = Loaded.load (some entry) host := by
  constructor
  · rintro (_ | given)
    · rfl
    · rw [Loaded.loadFrom, given]
  · rintro rfl
    exact .byItself

/-- An entry with an illegible flavour is loaded as one that declares none. -/
theorem Loaded.load_of_illegible (illegible : Illegible entry.vmVariant) :
    Loaded.load (some entry) host = Loaded.load (some { entry with vmVariant := none }) host := by
  rw [Loaded.load, Loaded.load, Entry.accept_of_illegible illegible]

/-- **The flavour is checked as far as it can be read.** What is loaded has the host's version, a
legible name, and the host's flavour, none, or an illegible one. An entry that declares another
flavour legibly is refused before anything runs. What comes of an entry with an illegible flavour is
what comes of it without one. -/
theorem Loaded.flavour_checked (offered : Offers entry host outcome) :
    (∀ module, outcome.1 = .ok module →
      entry.major = 2 ∧ entry.minor ≤ 16 ∧ Spells entry.name module.name ∧
        (entry.vmVariant = none ∨ Spells entry.vmVariant "beam.vanilla" ∨
          Illegible entry.vmVariant)) ∧
    (∀ variant, Spells entry.vmVariant variant → variant ≠ "beam.vanilla" →
      ∃ failure, outcome = (.error failure, host) ∧
        (entry.major = 2 → entry.minor ≤ 16 → (∃ name, Spells entry.name name) →
          failure = .vmVariantMismatch variant)) ∧
    (Illegible entry.vmVariant → Offers { entry with vmVariant := none } host outcome) := by
  obtain rfl := offers_iff.mp offered
  refine ⟨fun module loaded => ?_, fun variant declared other => ?_, fun illegible => ?_⟩
  · obtain ⟨accepted, stored, done, rfl⟩ := Loaded.accept_of_load loaded
    have header := Entry.header_of_accept done
    exact header
  · obtain ⟨failure, refused, first⟩ := Entry.accept_of_otherFlavour declared other
    exact ⟨failure, Loaded.load_of_refused refused, first⟩
  · exact offers_iff.mpr (Loaded.load_of_illegible illegible)

/-- An entry of another flavour with a negative number of functions, handed out by an entry point:
the flavour is what it is refused for. -/
theorem Loaded.flavour_checked_debug :
    ∃ (entry : Entry) (entryPoint : EntryPoint) (host : Host),
      entry.count < 0 ∧ entryPoint host = (some entry, host) ∧
      Offers entry host (Loaded.loadFrom entryPoint host) ∧ Spells entry.vmVariant "beam.debug" ∧
      Loaded.loadFrom entryPoint host = (.error (.vmVariantMismatch "beam.debug"), host) := by
  let entry : Entry :=
    { name := some (utf8Bytes "m"), count := -1, functions := none,
      vmVariant := some (utf8Bytes "beam.debug") }
  have named : Spells entry.name "m" := readText_eq_some_iff.mp (by decide)
  have declared : Spells entry.vmVariant "beam.debug" := readText_eq_some_iff.mp (by decide)
  have offered : Offers entry {} (Loaded.loadFrom (fun host => (some entry, host)) {}) :=
    .byEntryPoint rfl
  obtain ⟨-, refused, -⟩ := Loaded.flavour_checked offered
  obtain ⟨failure, outcome, first⟩ := refused "beam.debug" declared (by decide)
  obtain rfl := first rfl (Int32.le_refl _) ⟨"m", named⟩
  exact ⟨entry, fun host => (some entry, host), {}, by decide, rfl, offered, declared, outcome⟩

/-- **An illegible flavour is not refused.** An entry whose flavour is the single byte C3, which is
not the host's and no text at all, is loaded, and its load callback runs. -/
theorem Loaded.flavour_illegible :
    ∃ (entry : Entry) (module : Loaded) (after : Host),
      entry.vmVariant = some [0xC3] ∧ ¬ Spells entry.vmVariant "beam.vanilla" ∧
      Loaded.load (some entry) {} = (.ok module, after) ∧
      after.callbacks = #[.load "m" 1 Word.nil] := by
  let entry : Entry :=
    { name := some (utf8Bytes "m"), count := 0, functions := none, load := some fun _ => return {},
      vmVariant := some [0xC3] }
  have other : ¬ Spells entry.vmVariant "beam.vanilla" := by
    rw [← readText_eq_some_iff]
    decide
  obtain ⟨module, loaded⟩ : ∃ module, (Loaded.load (some entry) {}).1 = .ok module := ⟨_, rfl⟩
  exact ⟨entry, module, _, rfl, other, Prod.ext loaded rfl, rfl⟩

end Loading

end Nif.Module
