/-!
**The first offence in a list that is checked from front to back.**

What is wrong with an element may depend on the elements before it. A check that stops at the first
offence tells that one and no other.

* `Flawless`: nothing is wrong with any element; `FirstOffence`: what is wrong with the first
  element that has something wrong with it.
* `flawless_cons`, `firstOffence_cons`: both, element by element.
* `flawless_iff`: a list is flawless exactly if it has no first offence.
* `clean_iff`: where there is an offence or all is well, all is well if there is none.
-/

namespace Nif

/-- There is no offence exactly if all is well, where one of the two holds and never both. -/
theorem clean_iff {ε : Type} {well : Prop} {wrong : ε → Prop}
    (total : well ∨ ∃ offence, wrong offence)
    (exclusive : well → ∀ offence, ¬ wrong offence) : (∀ offence, ¬ wrong offence) ↔ well := by
  refine ⟨fun clean => ?_, exclusive⟩
  rcases total with well | ⟨offence, bad⟩
  · exact well
  · exact absurd bad (clean offence)

section Offences

variable {α ε : Type} {wrong : List α → α → ε → Prop} {earlier all rest : List α} {head : α}
  {offence : ε}

/-- Nothing is wrong with any element, given the elements before it. -/
def Flawless (wrong : List α → α → ε → Prop) (earlier all : List α) : Prop :=
  ∀ index element, all[index]? = some element →
    ∀ offence, ¬ wrong (earlier ++ all.take index) element offence

/-- The offence of the element at the smallest index with something wrong. -/
def FirstOffence (wrong : List α → α → ε → Prop) (earlier all : List α) (offence : ε) : Prop :=
  ∃ index element, all[index]? = some element ∧ wrong (earlier ++ all.take index) element offence ∧
    ∀ before < index, ∀ other, all[before]? = some other →
      ∀ offence, ¬ wrong (earlier ++ all.take before) other offence

theorem flawless_nil : Flawless wrong earlier [] := by
  intro index element found
  cases found

theorem flawless_cons :
    Flawless wrong earlier (head :: rest) ↔
      (∀ offence, ¬ wrong earlier head offence) ∧ Flawless wrong (earlier ++ [head]) rest := by
  constructor
  · intro flawless
    refine ⟨?_, fun index element found offence bad => ?_⟩
    · have first := flawless 0 head rfl
      rwa [List.take_zero, List.append_nil] at first
    · refine flawless (index + 1) element found offence ?_
      rwa [List.take_succ_cons, List.append_cons]
  · rintro ⟨first, later⟩ index element found offence bad
    cases index with
    | zero =>
      obtain rfl := Option.some.inj found
      rw [List.take_zero, List.append_nil] at bad
      exact first offence bad
    | succ index =>
      rw [List.take_succ_cons, List.append_cons] at bad
      exact later index element found offence bad

theorem not_firstOffence_nil : ¬ FirstOffence wrong earlier [] offence := by
  rintro ⟨index, element, found, -⟩
  cases found

/-- The first offence is that of the head or, if there is none, the first one of the rest. -/
theorem firstOffence_cons :
    FirstOffence wrong earlier (head :: rest) offence ↔
      wrong earlier head offence ∨
        (∀ offence, ¬ wrong earlier head offence) ∧
          FirstOffence wrong (earlier ++ [head]) rest offence := by
  constructor
  · rintro ⟨index, element, found, bad, first⟩
    cases index with
    | zero =>
      obtain rfl := Option.some.inj found
      rw [List.take_zero, List.append_nil] at bad
      exact Or.inl bad
    | succ index =>
      rw [List.take_succ_cons, List.append_cons] at bad
      refine Or.inr
        ⟨?_, index, element, found, bad, fun before smaller other foundToo offence badToo => ?_⟩
      · have clean := first 0 index.succ_pos head rfl
        rwa [List.take_zero, List.append_nil] at clean
      · refine first (before + 1) (Nat.succ_lt_succ smaller) other foundToo offence ?_
        rwa [List.take_succ_cons, List.append_cons]
  · rintro (bad | ⟨clean, index, element, found, bad, first⟩)
    · refine ⟨0, head, rfl, ?_, fun before smaller => absurd smaller before.not_lt_zero⟩
      rwa [List.take_zero, List.append_nil]
    · refine ⟨index + 1, element, found, ?_, fun before smaller other foundToo offence badToo => ?_⟩
      · rwa [List.take_succ_cons, List.append_cons]
      · cases before with
        | zero =>
          obtain rfl := Option.some.inj foundToo
          rw [List.take_zero, List.append_nil] at badToo
          exact clean offence badToo
        | succ before =>
          rw [List.take_succ_cons, List.append_cons] at badToo
          exact first before (Nat.lt_of_succ_lt_succ smaller) other foundToo offence badToo

/-- **A list is flawless exactly if it has no first offence.** -/
theorem flawless_iff :
    Flawless wrong earlier all ↔ ∀ offence, ¬ FirstOffence wrong earlier all offence := by
  induction all generalizing earlier with
  | nil => exact iff_of_true flawless_nil fun offence => not_firstOffence_nil
  | cons head rest ih =>
    rw [flawless_cons, ih]
    constructor
    · rintro ⟨clean, later⟩ offence first
      rcases firstOffence_cons.mp first with bad | ⟨-, laterBad⟩
      · exact clean offence bad
      · exact later offence laterBad
    · intro none
      have clean : ∀ offence, ¬ wrong earlier head offence :=
        fun offence bad => none offence (firstOffence_cons.mpr (Or.inl bad))
      exact ⟨clean, fun offence later =>
        none offence (firstOffence_cons.mpr (Or.inr ⟨clean, later⟩))⟩

end Offences

end Nif
