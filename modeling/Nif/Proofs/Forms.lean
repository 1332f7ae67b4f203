import Mathlib.Algebra.Ring.Int.Defs
import Mathlib.Algebra.Ring.Nat
import Nif.Proofs.Tags

/-!
**Words and their forms: each form has a word of its own, and no word has two forms.**

* `Word.Form`: what a word can be, with what it carries; `Form.Fits`: what it carries fits beside
  the tag.
* `Form.word?`: the word of a form; `Word.Reads`: a word is read as a form.
* `Word.word?_of_reads`, `Word.reads_of_word?`: reading and writing undo each other.
* `Word.form?`: the form of a word; `Word.Reads.unique`: a word is read as one form at most.
* `Word.forms_exact`: so the words of the forms are unambiguous, and nothing is lost in them.
-/

namespace Nif.Word

/-- What a word can be, with what it carries. -/
inductive Form where
  | small (value : Int64)
  | atom (index : Nat)
  | boxed (env : UInt32) (slot : Nat)
  | nil
  | nonValue
deriving DecidableEq

namespace Form

/-- What the form carries fits into the bits that the tag leaves: 60 bits for an integer with its
sign, 58 for the index of an atom, 32 and 30 for the environment and the slot of a reference. -/
def Fits : Form → Prop
  | small value => -2 ^ 59 ≤ value.toInt ∧ value.toInt < 2 ^ 59
  | atom index => index < 2 ^ 58
  | boxed _ slot => slot < 2 ^ 30
  | nil | nonValue => True

/-- The word of the form; an integer may have none. -/
def word? : Form → Option Word
  | small value => ofSmall? value
  | atom index => some (ofAtomIndex index)
  | boxed env slot => some (Word.boxed env slot)
  | nil => some Word.nil
  | nonValue => some Word.nonValue

end Form

/-- The word is read as this form. -/
def Reads (word : Word) : Form → Prop
  | .small value => word.isSmall = true ∧ word.payload = value
  | .atom index => word.atomIndex? = some index
  | .boxed env slot => word.boxed? = some (env, slot)
  | .nil => word = nil
  | .nonValue => word = nonValue

variable {word : Word} {form other : Form}

/-! ### Reading a word, and writing it again -/

/-- The bits of a small integer, as a signed number. -/
theorem toInt_bits_of_isSmall (small : word.isSmall = true) :
    word.bits.toInt64.toInt = word.payload.toInt * 16 + 15 := by
  have tag := isSmall_iff.mp small
  have below : word.bits.toNat < 2 ^ 64 := word.bits.toNat_lt
  have signed : word.bits.toInt64.toInt = (word.bits.toNat : Int).bmod (2 ^ 64) :=
    BitVec.toInt_eq_toNat_bmod word.bits.toBitVec
  rw [payload_toInt, signed]
  simp only [Int.bmod_def]
  omega

/-- **A small integer is written as it was read.** -/
theorem ofSmall?_payload (small : word.isSmall = true) : ofSmall? word.payload = some word := by
  have bits := toInt_bits_of_isSmall small
  have lower := word.bits.toInt64.le_toInt
  have upper := word.bits.toInt64.toInt_lt
  cases written : ofSmall? word.payload with
  | none => rcases ofSmall?_eq_none_iff.mp written with low | high <;> omega
  | some other =>
    obtain ⟨rfl, -, -⟩ := eq_of_ofSmall? written
    have same : word.payload * 16 + 15 = word.bits.toInt64 := by
      rw [← Int64.toInt_inj, Int64.toInt_add, Int64.toInt_mul,
        show (16 : Int64).toInt = 16 from rfl, show (15 : Int64).toInt = 15 from rfl, bits]
      simp only [Int.bmod_def]
      omega
    have back : word.payload.toUInt64 * 16 + 15 = word.bits := by
      have unsigned := congrArg Int64.toUInt64 same
      rwa [Int64.toUInt64_add, Int64.toUInt64_mul, Int64.toUInt64_ofNat, Int64.toUInt64_ofNat,
        UInt64.toUInt64_toInt64] at unsigned
    rw [back]

/-- **A reference is written as it was read.** -/
theorem boxed_of_boxed? {env : UInt32} {slot : Nat} (reference : word.boxed? = some (env, slot)) :
    boxed env slot = word := by
  obtain ⟨tag, high, rfl⟩ := boxed?_eq_some_iff.mp reference
  have below : word.bits.toNat < 2 ^ 64 := word.bits.toNat_lt
  have bits : env.toNat * 0x100000000 + word.bits.toNat % 0x100000000 / 4 * 4 + 2 =
      word.bits.toNat := by
    omega
  rw [boxed, bits, UInt64.ofNat_toNat]

/-- The form that a word is read as has this word. -/
theorem word?_of_reads (reads : word.Reads form) : form.word? = some word := by
  cases form with
  | small value =>
    obtain ⟨small, rfl⟩ := reads
    exact ofSmall?_payload small
  | atom index => exact congrArg some (ofAtomIndex_of_atomIndex? reads)
  | boxed env slot => exact congrArg some (boxed_of_boxed? reads)
  | nil | nonValue => exact congrArg some reads.symm

/-- Nothing that is read from a word is too large for it. -/
theorem fits_of_reads (reads : word.Reads form) : form.Fits := by
  have below : word.bits.toNat < 2 ^ 64 := word.bits.toNat_lt
  cases form with
  | small value =>
    obtain ⟨-, lower, upper⟩ := eq_of_ofSmall? (word?_of_reads reads)
    exact ⟨lower, upper⟩
  | atom index =>
    obtain ⟨-, rfl⟩ := atomIndex?_eq_some_iff.mp reads
    show _ < 2 ^ 58
    omega
  | boxed env slot =>
    obtain ⟨-, -, rfl⟩ := boxed?_eq_some_iff.mp reads
    show _ < 2 ^ 30
    omega
  | nil | nonValue => trivial

/-! ### Writing a form, and reading it again -/

/-- An integer has a word exactly if it fits. -/
theorem exists_ofSmall?_iff {value : Int64} :
    (∃ word, ofSmall? value = some word) ↔ -2 ^ 59 ≤ value.toInt ∧ value.toInt < 2 ^ 59 := by
  constructor
  · rintro ⟨word, written⟩
    exact (eq_of_ofSmall? written).2
  · rintro ⟨lower, upper⟩
    refine Option.ne_none_iff_exists'.mp fun refused => ?_
    rcases ofSmall?_eq_none_iff.mp refused with low | high <;> omega

/-- The word of a form that fits is read as this form. -/
theorem reads_of_word? (fits : form.Fits) (written : form.word? = some word) : word.Reads form := by
  cases form with
  | small value => exact ⟨isSmall_of_ofSmall? written, payload_of_ofSmall? written⟩
  | atom index =>
    obtain rfl := Option.some.inj written
    exact atomIndex?_ofAtomIndex fits
  | boxed env slot =>
    obtain rfl := Option.some.inj written
    exact boxed?_boxed env fits
  | nil | nonValue => exact (Option.some.inj written).symm

/-- Every form that fits has a word. -/
theorem exists_word? (fits : form.Fits) : ∃ word, form.word? = some word := by
  cases form with
  | small value => exact exists_ofSmall?_iff.mpr fits
  | atom _ | boxed _ _ | nil | nonValue => exact ⟨_, rfl⟩

/-! ### No word has two forms -/

/-- The form of a word, if it has one: the tags are tried one after the other. -/
def form? (word : Word) : Option Form :=
  if word.isSmall then some (.small word.payload)
  else match word.atomIndex?, word.boxed? with
    | some index, _ => some (.atom index)
    | none, some (env, slot) => some (.boxed env slot)
    | none, none =>
      if word = nil then some .nil else if word = nonValue then some .nonValue else none

/-- Whatever a word is read as, no tag that is tried before gets in the way. -/
theorem form?_of_reads (reads : word.Reads form) : word.form? = some form := by
  cases form with
  | small value =>
    obtain ⟨small, rfl⟩ := reads
    rw [form?, if_pos small]
  | atom index =>
    have atom : word.atomIndex? = some index := reads
    rw [form?, isSmall_of_atomIndex? atom, atom]
    rfl
  | boxed env slot =>
    have reference : word.boxed? = some (env, slot) := reads
    rw [form?, isSmall_of_boxed? reference, atomIndex?_of_boxed? reference, reference]
    rfl
  | nil | nonValue =>
    cases reads
    rfl

/-- **A word is read as one form at most.** -/
theorem Reads.unique (one : word.Reads form) (two : word.Reads other) : form = other :=
  Option.some.inj ((form?_of_reads one).symm.trans (form?_of_reads two))

/-- **The forms of words are unambiguous, and nothing is lost in them.** An integer has a word of
its own exactly if it takes at most 60 bits. Whatever fits is read back from its word. Whatever is
read from a word fits, and writing it gives this word again. No word is read in two ways, and no two
forms that fit share a word. -/
theorem forms_exact :
    (∀ value : Int64, (∃ word, ofSmall? value = some word) ↔
      -2 ^ 59 ≤ value.toInt ∧ value.toInt < 2 ^ 59) ∧
    (∀ form : Form, form.Fits → ∃ word, form.word? = some word ∧ word.Reads form) ∧
    (∀ (word : Word) (form : Form), word.Reads form → form.Fits ∧ form.word? = some word) ∧
    (∀ (word : Word) (one other : Form), word.Reads one → word.Reads other → one = other) ∧
    ∀ one other : Form, one.Fits → other.Fits → one.word? = other.word? → one = other := by
  have reread : ∀ form : Form, form.Fits → ∃ word, form.word? = some word ∧ word.Reads form := by
    intro form fits
    obtain ⟨word, written⟩ := exists_word? fits
    exact ⟨word, written, reads_of_word? fits written⟩
  refine ⟨fun value => exists_ofSmall?_iff, reread,
    fun word form reads => ⟨fits_of_reads reads, word?_of_reads reads⟩,
    fun word one other first second => first.unique second, fun one other fits fitsToo same => ?_⟩
  obtain ⟨word, written, reads⟩ := reread one fits
  exact reads.unique (reads_of_word? fitsToo (same ▸ written))

/-- The smallest of the small integers has a word of its own, and the word is nothing else. -/
theorem forms_exact_smallest :
    (⟨0x800000000000000F⟩ : Word).Reads (.small minSmall) ∧
      ∀ form, (⟨0x800000000000000F⟩ : Word).Reads form → form = .small minSmall := by
  obtain ⟨-, reread, -, unique, -⟩ := forms_exact
  obtain ⟨word, written, reads⟩ := reread (.small minSmall) ⟨by decide +kernel, by decide +kernel⟩
  obtain rfl : ⟨0x800000000000000F⟩ = word := Option.some.inj written
  exact ⟨reads, fun form other => unique _ _ _ other reads⟩

end Nif.Word
