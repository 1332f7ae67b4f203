import Nif.Word

/-!
**The tags of words: what each form keeps, and that no word has two forms.**

* `isSmall_iff`, `atomIndex?_eq_some_iff`, `boxed?_eq_some_iff`: the readings as conditions on the
  bits.
* `payload_of_ofSmall?`, `atomIndex?_ofAtomIndex`, `boxed?_boxed`: what was put into a word is read
  back.
* `isSmall_of_boxed?`, `atomIndex?_of_boxed?`, and so on: a word with one tag has no other, and is
  neither the empty list nor the word of no value.
-/

namespace Nif.Word

/-! ### The readings as conditions on the bits -/

theorem isSmall_iff {word : Word} : word.isSmall = true ↔ word.bits.toNat % 16 = 15 := by
  simp [isSmall, ← UInt64.toNat_inj]

theorem atomIndex?_eq_some_iff {word : Word} {index : Nat} :
    word.atomIndex? = some index ↔ word.bits.toNat % 64 = 11 ∧ word.bits.toNat / 64 = index := by
  simp [atomIndex?, ← UInt64.toNat_inj]

theorem boxed?_eq_some_iff {word : Word} {env : UInt32} {slot : Nat} :
    word.boxed? = some (env, slot) ↔ word.bits.toNat % 4 = 2 ∧
      word.bits.toNat / 0x100000000 = env.toNat ∧ word.bits.toNat % 0x100000000 / 4 = slot := by
  have below : word.bits.toNat < 0x10000000000000000 := word.bits.toNat_lt
  simp only [boxed?, beq_iff_eq, ← UInt64.toNat_inj]
  split <;> rename_i tag
  · simp at tag
    simp [← UInt32.toNat_inj, tag]
    omega
  · simp at tag
    simp [tag]

theorem nil_bits : nil.bits.toNat = 59 := rfl

theorem nonValue_bits : nonValue.bits.toNat = 0 := rfl

/-! ### What is put in is read back -/

theorem minSmall_toInt : minSmall.toInt = -0x800000000000000 := by decide +kernel

theorem maxSmall_toInt : maxSmall.toInt = 0x800000000000000 - 1 := by decide +kernel

/-- The upper 60 bits are a quotient, rounded down. -/
theorem payload_toInt (word : Word) : word.payload.toInt = word.bits.toInt64.toInt / 16 := by
  have amount : ((4 : Int64).toBitVec.smod 64).toNat = 4 := by decide
  rw [payload, ← Int64.toInt_toBitVec, Int64.toBitVec_shiftRight, BitVec.toInt_sshiftRight', amount,
    Int.shiftRight_eq_div_pow]
  rfl

/-- An integer has a word of its own exactly if it takes at most 60 bits. -/
theorem ofSmall?_eq_none_iff {value : Int64} :
    ofSmall? value = none ↔ value.toInt < -0x800000000000000 ∨ 0x800000000000000 ≤ value.toInt := by
  rw [ofSmall?, ite_eq_right_iff]
  simp only [Int64.le_iff_toInt_le, minSmall_toInt, maxSmall_toInt, reduceCtorEq, imp_false]
  omega

/-- The bits of a small integer. -/
theorem eq_of_ofSmall? {value : Int64} {word : Word} (small : ofSmall? value = some word) :
    word = ⟨value.toUInt64 * 16 + 15⟩ ∧
      -0x800000000000000 ≤ value.toInt ∧ value.toInt < 0x800000000000000 := by
  unfold ofSmall? at small
  split at small
  · rename_i range
    rw [Int64.le_iff_toInt_le, Int64.le_iff_toInt_le, minSmall_toInt, maxSmall_toInt] at range
    exact ⟨(Option.some.inj small).symm, range.1, by omega⟩
  · cases small

theorem isSmall_of_ofSmall? {value : Int64} {word : Word} (small : ofSmall? value = some word) :
    word.isSmall = true := by
  obtain ⟨rfl, -, -⟩ := eq_of_ofSmall? small
  rw [isSmall_iff]
  simp

/-- **A small integer is read back.** -/
theorem payload_of_ofSmall? {value : Int64} {word : Word} (small : ofSmall? value = some word) :
    word.payload = value := by
  obtain ⟨rfl, lower, upper⟩ := eq_of_ofSmall? small
  have bits : (value.toUInt64 * 16 + 15).toInt64 = value * 16 + 15 := by simp
  rw [← Int64.toInt_inj, payload_toInt, bits, Int64.toInt_add, Int64.toInt_mul,
    show (16 : Int64).toInt = 16 from rfl, show (15 : Int64).toInt = 15 from rfl]
  simp only [Int.bmod_def]
  omega

/-- **The index of an atom is read back.** -/
theorem atomIndex?_ofAtomIndex {index : Nat} (inside : index < 0x400000000000000) :
    (ofAtomIndex index).atomIndex? = some index := by
  have bits : (ofAtomIndex index).bits.toNat = index * 64 + 11 := by
    simp only [ofAtomIndex, UInt64.toNat_ofNat']
    omega
  rw [atomIndex?_eq_some_iff, bits]
  omega

/-- The word with an atom's index is the word of this index. -/
theorem ofAtomIndex_of_atomIndex? {word : Word} {index : Nat}
    (atom : word.atomIndex? = some index) :
    ofAtomIndex index = word := by
  obtain ⟨tag, rfl⟩ := atomIndex?_eq_some_iff.mp atom
  have bits : word.bits.toNat / 64 * 64 + 11 = word.bits.toNat := by omega
  rw [ofAtomIndex, bits, UInt64.ofNat_toNat]

/-- **The environment and the slot of a reference are read back.** -/
theorem boxed?_boxed (env : UInt32) {slot : Nat} (inside : slot < 0x40000000) :
    (boxed env slot).boxed? = some (env, slot) := by
  have envBelow : env.toNat < 0x100000000 := env.toNat_lt
  have bits : (boxed env slot).bits.toNat = env.toNat * 0x100000000 + slot * 4 + 2 := by
    simp only [boxed, UInt64.toNat_ofNat']
    omega
  rw [boxed?_eq_some_iff, bits]
  omega

/-! ### No word has two forms -/

section Exclusive

variable {word : Word}

theorem isSmall_of_boxed? {place : UInt32 × Nat} (reference : word.boxed? = some place) :
    word.isSmall = false := by
  have tag := (boxed?_eq_some_iff.mp reference).1
  rw [Bool.eq_false_iff, Ne, isSmall_iff]
  omega

theorem atomIndex?_of_boxed? {place : UInt32 × Nat} (reference : word.boxed? = some place) :
    word.atomIndex? = none := by
  have tag := (boxed?_eq_some_iff.mp reference).1
  refine Option.eq_none_iff_forall_ne_some.mpr fun index atom => ?_
  have other := (atomIndex?_eq_some_iff.mp atom).1
  omega

theorem ne_nil_of_boxed? {place : UInt32 × Nat} (reference : word.boxed? = some place) :
    word ≠ nil := by
  rintro rfl
  have tag := (boxed?_eq_some_iff.mp reference).1
  rw [nil_bits] at tag
  omega

theorem ne_nonValue_of_boxed? {place : UInt32 × Nat} (reference : word.boxed? = some place) :
    word ≠ nonValue := by
  rintro rfl
  have tag := (boxed?_eq_some_iff.mp reference).1
  rw [nonValue_bits] at tag
  omega

theorem isSmall_of_atomIndex? {index : Nat} (atom : word.atomIndex? = some index) :
    word.isSmall = false := by
  have tag := (atomIndex?_eq_some_iff.mp atom).1
  rw [Bool.eq_false_iff, Ne, isSmall_iff]
  omega

theorem boxed?_of_atomIndex? {index : Nat} (atom : word.atomIndex? = some index) :
    word.boxed? = none := by
  refine Option.eq_none_iff_forall_ne_some.mpr fun place reference => ?_
  rw [atomIndex?_of_boxed? reference] at atom
  cases atom

theorem ne_nonValue_of_atomIndex? {index : Nat} (atom : word.atomIndex? = some index) :
    word ≠ nonValue := by
  rintro rfl
  have tag := (atomIndex?_eq_some_iff.mp atom).1
  rw [nonValue_bits] at tag
  omega

theorem ne_nonValue_of_isSmall (small : word.isSmall = true) : word ≠ nonValue := by
  rintro rfl
  rw [isSmall_iff, nonValue_bits] at small
  omega

theorem isSmall_nil : nil.isSmall = false := rfl

theorem atomIndex?_nil : nil.atomIndex? = none := rfl

theorem boxed?_nil : nil.boxed? = none := rfl

end Exclusive

end Nif.Word
