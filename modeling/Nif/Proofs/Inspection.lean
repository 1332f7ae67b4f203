import Nif.Proofs.Meaning
import Nif.Request

/-!
**What the inspections of a word find is what its meaning shows.**

* `Value.int?`, `Value.float?`, `Value.atom?`, `Value.binary?`, `Value.list?`, `Value.string?`: a
  meaning read as one kind of value.
* `Environment.Shows`: each inspection of a word finds what its meaning shows.
* `Environment.decodeWithin_shows`: so it is for every word that has a meaning;
  `Environment.exists_shows`: a word without a meaning shows some value too.
-/

namespace Nif

namespace Value

/-- The integer that the value is. -/
def int? : Value → Option Int64
  | int value => some value
  | _ => none

/-- The float that the value is. -/
def float? : Value → Option Float
  | float value => some value
  | _ => none

/-- The name of the atom that the value is. -/
def atom? : Value → Option String
  | atom name => some name
  | _ => none

/-- The bytes of the binary that the value is. -/
def binary? : Value → Option Bytes
  | binary bytes => some bytes
  | _ => none

/-- The elements of the list that the value is. -/
def list? : Value → Option (List Value)
  | list elements => some elements
  | _ => none

/-- The bytes of the list of integers from 0 to 255 that the value is. -/
def string? (value : Value) : Option Bytes :=
  value.list?.bind (·.mapM fun element => element.int?.bind Request.byte?)

end Value

namespace Cell

/-- The integer in the object. -/
def int? : Cell → Option Int64
  | integer value => some value
  | _ => none

/-- The float in the object. -/
def float? : Cell → Option Float
  | float value => some value
  | _ => none

/-- The bytes in the object. -/
def binary? : Cell → Option Bytes
  | binary bytes => some bytes
  | _ => none

end Cell

namespace Environment

/-- Each inspection of the word finds what the value shows. -/
structure Shows (env : Environment) (atoms : AtomTable) (word : Word) (value : Value) : Prop where
  int : env.int? word = value.int?
  float : env.float? word = value.float?
  atom : (atoms.atom? word).map Bytes.latin1 = value.atom?
  binary : env.binary? word = value.binary?
  length : (env.list? word).map List.length = value.list?.map List.length
  string : Request.string? env word = value.string?

variable {env : Environment} {atoms : AtomTable} {word : Word}

/-! ### Objects -/

theorem int?_of_cell? {cell : Cell} (stored : env.cell? word = some cell) :
    env.int? word = cell.int? := by
  rw [int?, isSmall_of_cell? stored, stored]
  cases cell <;> rfl

theorem float?_of_cell? {cell : Cell} (stored : env.cell? word = some cell) :
    env.float? word = cell.float? := by
  rw [float?, stored]
  cases cell <;> rfl

theorem binary?_of_cell? {cell : Cell} (stored : env.cell? word = some cell) :
    env.binary? word = cell.binary? := by
  rw [binary?, stored]
  cases cell <;> rfl

/-! ### Lists -/

theorem list?_eq_some_iff {elements : List Word} :
    env.list? word = some elements ↔ env.spine word = .proper elements := by
  unfold list?
  cases env.spine word <;> simp

/-- A list has no more elements than the heap has objects. -/
theorem length_le_of_spineWithin {bound : Nat} {elements : List Word}
    (ends : env.spineWithin bound word = .proper elements) : elements.length < bound := by
  induction bound generalizing word elements with
  | zero => cases ends
  | succ bound ih =>
    unfold spineWithin at ends
    split at ends
    · cases ends
      exact Nat.succ_pos bound
    · split at ends
      · obtain ⟨rest, tailEnds, rfl⟩ := Spine.cons_eq_proper_iff.mp ends
        exact Nat.succ_lt_succ (ih tailEnds)
      · cases ends

theorem length_le_of_list? {elements : List Word} (found : env.list? word = some elements) :
    elements.length ≤ env.heap.size :=
  Nat.le_of_lt_succ (length_le_of_spineWithin (list?_eq_some_iff.mp found))

/-- A word that starts no list. -/
theorem list?_of_improper (broken : env.spine word = .improper) :
    env.list? word = none ∧ Request.string? env word = none := by
  have none : env.list? word = none := by rw [list?, broken]
  exact ⟨none, by rw [Request.string?, none, Option.bind_none]⟩

/-- What bytes the integers in a list are does not depend on which words hold them. -/
theorem mapM_byte? {elements : List Word} {values : List Value}
    (each : List.Forall₂ (fun word value => env.int? word = value.int?) elements values) :
    (elements.mapM fun element => (env.int? element).bind Request.byte?) =
      values.mapM fun element => element.int?.bind Request.byte? := by
  induction each with
  | nil => rfl
  | cons same _ ih => rw [List.mapM_cons, List.mapM_cons, ih, same]

/-! ### What a meaning shows -/

/-- Where there is no object and no empty list, only integers and atoms are found. -/
theorem shows_of_missing {value : Value} (missing : env.cell? word = none)
    (filled : word ≠ Word.nil)
    (int : env.int? word = value.int?) (atom : (atoms.atom? word).map Bytes.latin1 = value.atom?)
    (other : value.float? = none ∧ value.binary? = none ∧ value.list? = none) :
    env.Shows atoms word value := by
  obtain ⟨noFloat, noBinary, noList⟩ := other
  have broken : env.spine word = .improper :=
    spineWithin_other filled (fun head tail stored => by rw [missing] at stored; cases stored) _
  obtain ⟨noWords, noBytes⟩ := list?_of_improper broken
  refine ⟨int, ?_, atom, ?_, ?_, ?_⟩
  · rw [float?, missing, noFloat]
  · rw [binary?, missing, noBinary]
  · rw [noWords, noList]
    rfl
  · rw [noBytes, Value.string?, noList]
    rfl

/-- Where there is an object that is no list cell, only this object is found. -/
theorem shows_of_object {cell : Cell} {value : Value} (stored : env.cell? word = some cell)
    (single : ∀ head tail, cell ≠ .cons head tail) (int : env.int? word = value.int?)
    (float : env.float? word = value.float?) (binary : env.binary? word = value.binary?)
    (other : value.atom? = none ∧ value.list? = none) : env.Shows atoms word value := by
  obtain ⟨noAtom, noList⟩ := other
  obtain ⟨noWords, noBytes⟩ := list?_of_improper (spine_of_cell? stored single)
  refine ⟨int, float, ?_, binary, ?_, ?_⟩
  · rw [atom?_of_cell? stored, noAtom]
    rfl
  · rw [noWords, noList]
    rfl
  · rw [noBytes, Value.string?, noList]
    rfl

/-- Where there is a list, only its elements are found. -/
theorem shows_of_list {elements : List Word} {values : List Value}
    (ends : env.spine word = .proper elements) (unnamed : atoms.atom? word = none)
    (int : env.int? word = none) (float : env.float? word = none) (binary : env.binary? word = none)
    (each : List.Forall₂ (fun word value => env.int? word = value.int?) elements values) :
    env.Shows atoms word (.list values) := by
  have found : env.list? word = some elements := list?_eq_some_iff.mpr ends
  have bytes := mapM_byte? each
  refine ⟨int, float, ?_, binary, ?_, ?_⟩
  · rw [unnamed]
    rfl
  · rw [found]
    exact congrArg some each.length_eq
  · rw [Request.string?, found]
    exact bytes

/-- Where there is a list cell but no list, nothing is found. -/
theorem shows_of_cons {head tail : Word} (stored : env.cell? word = some (.cons head tail))
    (noWords : env.list? word = none) : env.Shows atoms word (.invalid word) := by
  refine ⟨int?_of_cell? stored, float?_of_cell? stored, ?_, binary?_of_cell? stored, ?_, ?_⟩
  · rw [atom?_of_cell? stored]
    rfl
  · rw [noWords]
    rfl
  · rw [Request.string?, noWords]
    rfl

/-- **Each inspection of a word finds what its meaning shows.** -/
theorem decodeWithin_shows {depth : Nat} {value : Value}
    (decoded : env.decodeWithin atoms depth word = some value) : env.Shows atoms word value := by
  induction depth generalizing word value with
  | zero => cases decoded
  | succ depth ih =>
    have each : ∀ {elements : List Word} {values : List Value},
        elements.mapM (env.decodeWithin atoms depth) = some values →
        List.Forall₂ (fun word value => env.int? word = value.int?) elements values := fun read =>
      (mapM_eq_some_iff.mp read).imp fun word value decoded => (ih decoded).int
    cases env.kind atoms word with
    | small tag =>
      rw [decodeWithin_of_isSmall tag] at decoded
      cases decoded
      have missing : env.cell? word = none := by
        rw [Option.eq_none_iff_forall_ne_some]
        exact fun cell stored => Bool.false_ne_true ((isSmall_of_cell? stored).symm.trans tag)
      have filled : word ≠ Word.nil := fun nil => by rw [nil, Word.isSmall_nil] at tag; cases tag
      have unnamed : atoms.atom? word = none := by
        rw [Option.eq_none_iff_forall_ne_some]
        exact fun name named => Bool.false_ne_true ((isSmall_of_atom? named).symm.trans tag)
      exact shows_of_missing missing filled (by rw [int?, if_pos tag]; rfl) (by rw [unnamed]; rfl)
        ⟨rfl, rfl, rfl⟩
    | atom name named =>
      rw [decodeWithin_of_atom? named] at decoded
      cases decoded
      have missing : env.cell? word = none := cell?_of_atom? named
      have filled : word ≠ Word.nil := fun nil => by rw [nil, atom?_nil] at named; cases named
      exact shows_of_missing missing filled
        (by simp [int?, isSmall_of_atom? named, missing, Value.int?])
        (by rw [named]; rfl) ⟨rfl, rfl, rfl⟩
    | nothing tag unnamed missing filled =>
      rw [decodeWithin_nothing tag unnamed missing filled] at decoded
      cases decoded
      exact shows_of_missing missing filled (by simp [int?, tag, missing, Value.int?])
        (by rw [unnamed]; rfl) ⟨rfl, rfl, rfl⟩
    | empty nil =>
      subst nil
      rw [decodeWithin_nil] at decoded
      cases decoded
      exact shows_of_list (spineWithin_nil _) atom?_nil
        (by rw [int?, Word.isSmall_nil, cell?_nil]; rfl)
        (by rw [float?, cell?_nil]) (by rw [binary?, cell?_nil]) .nil
    | object cell stored =>
      rw [decodeWithin_of_cell? stored] at decoded
      cases cell with
      | integer value =>
        cases decoded
        exact shows_of_object stored (by simp) (int?_of_cell? stored) (float?_of_cell? stored)
          (binary?_of_cell? stored) ⟨rfl, rfl⟩
      | float value =>
        cases decoded
        exact shows_of_object stored (by simp) (int?_of_cell? stored) (float?_of_cell? stored)
          (binary?_of_cell? stored) ⟨rfl, rfl⟩
      | binary bytes =>
        cases decoded
        exact shows_of_object stored (by simp) (int?_of_cell? stored) (float?_of_cell? stored)
          (binary?_of_cell? stored) ⟨rfl, rfl⟩
      | tuple elements =>
        obtain ⟨values, -, rfl⟩ := Option.map_eq_some_iff.mp decoded
        exact shows_of_object stored (by simp) (int?_of_cell? stored) (float?_of_cell? stored)
          (binary?_of_cell? stored) ⟨rfl, rfl⟩
      | cons head tail =>
        cases ends : env.spine word with
        | endless =>
          rw [ends] at decoded
          cases decoded
        | proper elements =>
          rw [ends] at decoded
          obtain ⟨values, read, rfl⟩ := Option.map_eq_some_iff.mp decoded
          exact shows_of_list ends (atom?_of_cell? stored) (int?_of_cell? stored)
            (float?_of_cell? stored)
            (binary?_of_cell? stored) (each read)
        | improper =>
          rw [ends] at decoded
          cases decoded
          exact shows_of_cons stored (list?_of_improper ends).1

/-- **Every word shows some value**, a word without a meaning too. -/
theorem exists_shows (env : Environment) (atoms : AtomTable) (word : Word) :
    ∃ value, env.Shows atoms word value := by
  cases env.kind atoms word with
  | small tag => exact ⟨_, decodeWithin_shows (decodeWithin_of_isSmall tag 0)⟩
  | atom name named => exact ⟨_, decodeWithin_shows (decodeWithin_of_atom? named 0)⟩
  | nothing tag unnamed missing filled =>
    exact ⟨_, decodeWithin_shows (decodeWithin_nothing tag unnamed missing filled 0)⟩
  | empty nil => exact ⟨_, decodeWithin_shows (nil ▸ decodeWithin_nil 0)⟩
  | object cell stored =>
    cases cell with
    | integer _ | float _ | binary _ =>
      exact ⟨_, decodeWithin_shows (decodeWithin_of_cell? stored 0)⟩
    | tuple elements =>
      exact ⟨.tuple [], shows_of_object stored (by simp) (int?_of_cell? stored)
        (float?_of_cell? stored)
        (binary?_of_cell? stored) ⟨rfl, rfl⟩⟩
    | cons head tail =>
      cases found : env.list? word with
      | none => exact ⟨_, shows_of_cons stored found⟩
      | some elements =>
        -- An element that is no integer may stand for anything else.
        let shown (element : Word) : Value := (env.int? element).elim (.invalid element) .int
        have each : List.Forall₂ (fun word value => env.int? word = value.int?) elements
            (elements.map shown) := by
          rw [List.forall₂_map_right_iff, List.forall₂_same]
          intro element _
          dsimp only [shown]
          cases env.int? element <;> rfl
        exact ⟨_, shows_of_list (list?_eq_some_iff.mp found) (atom?_of_cell? stored)
          (int?_of_cell? stored)
          (float?_of_cell? stored) (binary?_of_cell? stored) each⟩

end Environment

/-- Each inspection of the word in the frame finds what the value shows. -/
abbrev Frame.Shows (frame : Frame) (word : Word) (value : Value) : Prop :=
  frame.env.Shows frame.host.atoms word value

theorem Frame.shows {frame : Frame} {word : Word} {value : Value}
    (means : frame.decode? word = some value) : frame.Shows word value :=
  Environment.decodeWithin_shows means

end Nif
