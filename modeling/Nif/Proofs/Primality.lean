import Mathlib.Data.Nat.Prime.Basic
import Nif.Example.Arithmetic

/-!
**Trial division decides primality for every integer of 64 bits.**

* `Example.Trial`: a run of the loop over the candidates, of which every sum is exact and every
  divisor positive.
* `Example.trial_noDivisorFrom`: from every candidate on, there is such a run to the answer of the
  loop.
* `Example.Trial.exists_divisor`, `Trial.not_dvd`: what a run finds and what it rules out.
* `Example.exists_candidate`: a composite number that neither two nor three divides is divided by a
  candidate whose square it is not below.
* `Example.isPrime_exact`: so the answer is right, and nothing leaves 64 bits on the way to it.
-/

namespace Nif.Example

/-! ### Runs of the loop -/

/-- The loop goes round at this divisor: the divisor has not passed its quotient, and what the round
computes is what it would be without a bound on integers. -/
structure Round (n divisor : Int64) : Prop where
  within : divisor ≤ n / divisor
  above : (divisor + 2).toInt = divisor.toInt + 2
  next : (divisor + 6).toInt = divisor.toInt + 6

/-- A run of the loop from this divisor on, and its answer. The loop divides by the divisor and by
two more than it; no rule lets it come to a divisor that is not positive, or go round where a sum
leaves 64 bits. -/
inductive Trial (n : Int64) : Int64 → Bool → Prop
  | exhausted {divisor : Int64} (positive : 0 < divisor) (beyond : ¬ divisor ≤ n / divisor) :
      Trial n divisor true
  | divided {divisor : Int64} (positive : 0 < divisor) (round : Round n divisor)
      (divides : n % divisor = 0 ∨ n % (divisor + 2) = 0) : Trial n divisor false
  | passed {divisor : Int64} {answer : Bool} (positive : 0 < divisor) (round : Round n divisor)
      (neither : ¬ (n % divisor = 0 ∨ n % (divisor + 2) = 0))
      (rest : Trial n (divisor + 6) answer) :
      Trial n divisor answer

variable {n divisor : Int64} {answer : Bool}

theorem round_of_le_div (large : 1 < divisor) (within : divisor ≤ n / divisor) :
    Round n divisor where
  within := within
  above := toInt_add_of_le_div large within (by decide) (by decide)
  next := toInt_add_of_le_div large within (by decide) (by decide)

theorem one_lt_iff : 1 < divisor ↔ 1 < divisor.toInt := Int64.lt_iff_toInt_lt

/-- **The loop ends, and computes its answer without leaving 64 bits.** -/
theorem trial_noDivisorFrom (large : 1 < divisor) : Trial n divisor (noDivisorFrom n divisor) := by
  have positive : 0 < divisor := Int64.lt_trans (by decide) large
  fun_induction noDivisorFrom n divisor with
  | case1 divisor inRange divides =>
    exact .divided positive (round_of_le_div large inRange.2) divides
  | case2 divisor inRange neither ih =>
    have round := round_of_le_div large inRange.2
    have further : 1 < divisor + 6 := by
      rw [one_lt_iff] at large ⊢
      rw [round.next]
      omega
    exact .passed positive round neither (ih further (Int64.lt_trans (by decide) further))
  | case3 divisor outside => exact .exhausted positive fun within => outside ⟨large, within⟩

/-! ### What the answer says -/

theorem rem_eq_zero_iff {n divisor : Int64} : n % divisor = 0 ↔ divisor.toInt ∣ n.toInt := by
  rw [← Int64.toInt_inj, Int64.toInt_mod, show (0 : Int64).toInt = 0 from rfl,
    Int.dvd_iff_tmod_eq_zero]

theorem rem_add_two_eq_zero_iff (round : Round n divisor) :
    n % (divisor + 2) = 0 ↔ divisor.toInt + 2 ∣ n.toInt := by
  rw [rem_eq_zero_iff, round.above]

/-- A candidate stands next to a multiple of six. -/
def Candidate (d : Int) : Prop := d % 6 = 5 ∨ d % 6 = 1

namespace Trial

/-- **The answer `false` has found a divisor.** -/
theorem exists_divisor (run : Trial n divisor false) (large : 5 ≤ divisor.toInt) :
    ∃ d : Int, 2 ≤ d ∧ d < n.toInt ∧ d ∣ n.toInt := by
  generalize ended : false = answer at run
  induction run with
  | exhausted _ _ => cases ended
  | @divided divisor _ round divides =>
    have square := (le_div_iff (one_lt_iff.mpr (by omega))).mp round.within
    have five : 5 * divisor.toInt ≤ divisor.toInt * divisor.toInt :=
      Int.mul_le_mul_of_nonneg_right large (by omega)
    rcases divides with lower | upper
    · exact ⟨_, by omega, by omega, rem_eq_zero_iff.mp lower⟩
    · exact ⟨_, by omega, by omega, (rem_add_two_eq_zero_iff round).mp upper⟩
  | passed _ round _ _ ih =>
    refine ih ?_ ended
    rw [round.next]
    omega

/-- **The answer `true` rules out every candidate from this divisor on** whose square is at most the
number. -/
theorem not_dvd (run : Trial n divisor true) (low : divisor.toInt % 6 = 5) {d : Int}
    (least : divisor.toInt ≤ d)
    (square : d * d ≤ n.toInt) (candidate : Candidate d) : ¬ d ∣ n.toInt := by
  generalize ended : true = answer at run
  induction run with
  | @exhausted divisor positive beyond =>
    rw [Int64.lt_iff_toInt_lt, show (0 : Int64).toInt = 0 from rfl] at positive
    rw [le_div_iff (one_lt_iff.mpr (by omega))] at beyond
    have larger : divisor.toInt * divisor.toInt ≤ d * d :=
      Int.mul_le_mul least least (by omega) (by omega)
    omega
  | divided _ _ _ => cases ended
  | @passed divisor _ _ round neither _ ih =>
    rw [rem_eq_zero_iff, rem_add_two_eq_zero_iff round, not_or] at neither
    -- Among the six numbers of a round, the two that it tries are the candidates.
    have turn : d = divisor.toInt ∨ d = divisor.toInt + 2 ∨ divisor.toInt + 6 ≤ d := by
      unfold Candidate at candidate
      omega
    rcases turn with rfl | rfl | later
    · exact neither.1
    · exact neither.2
    · refine ih ?_ ?_ ended <;> rw [round.next] <;> omega

end Trial

/-! ### Composite numbers -/

/-- **A composite number that neither two nor three divides has a candidate among its divisors**
whose square is at most the number. -/
theorem exists_candidate {number : Int} {d : Int} (lower : 2 ≤ d) (proper : d < number)
    (divides : d ∣ number) (odd : ¬ 2 ∣ number) (notThreefold : ¬ 3 ∣ number) :
    ∃ e : Int, 5 ≤ e ∧ e * e ≤ number ∧ Candidate e ∧ e ∣ number := by
  lift number to Nat using by omega
  lift d to Nat using by omega
  have composite : ¬ number.Prime := by
    intro prime
    rcases prime.eq_one_or_self_of_dvd d (by exact_mod_cast divides) with one | whole <;> omega
  have divisor : (number.minFac : Int) ∣ number := by exact_mod_cast number.minFac_dvd
  have prime : number.minFac.Prime := Nat.minFac_prime (by omega)
  have square := Nat.minFac_sq_le_self (by omega) composite
  rw [Nat.pow_two] at square
  -- The least prime factor is neither two nor three, and no other prime is a multiple of one of
  -- them.
  have notTwo : number.minFac ≠ 2 := fun two => odd (by rw [two] at divisor; exact divisor)
  have notThree : number.minFac ≠ 3 :=
    fun three => notThreefold (by rw [three] at divisor; exact divisor)
  have byTwo : ¬ 2 ∣ number.minFac := fun even =>
    notTwo ((Nat.prime_dvd_prime_iff_eq Nat.prime_two prime).mp even).symm
  have byThree : ¬ 3 ∣ number.minFac := fun threefold =>
    notThree ((Nat.prime_dvd_prime_iff_eq Nat.prime_three prime).mp threefold).symm
  have atLeastTwo := prime.two_le
  refine ⟨number.minFac, by omega, by exact_mod_cast square, ?_, divisor⟩
  unfold Candidate
  omega

/-! ### The decision -/

/-- Where neither two nor three divides the number, the loop decides whether anything does. -/
theorem noDivisorFrom_eq_true_iff (odd : ¬ 2 ∣ n.toInt) (notThreefold : ¬ 3 ∣ n.toInt) :
    noDivisorFrom n 5 = true ↔ ∀ d : Int, 2 ≤ d → d < n.toInt → ¬ d ∣ n.toInt := by
  have run : Trial n 5 (noDivisorFrom n 5) := trial_noDivisorFrom (by decide)
  constructor
  · intro answer d lower proper divides
    rw [answer] at run
    obtain ⟨e, atLeast, square, candidate, divides⟩ :=
      exists_candidate lower proper divides odd notThreefold
    exact run.not_dvd (by decide) atLeast square candidate divides
  · intro indivisible
    by_contra composite
    rw [Bool.not_eq_true] at composite
    rw [composite] at run
    obtain ⟨d, lower, proper, divides⟩ := run.exists_divisor (by decide)
    exact indivisible d lower proper divides

/-- The tests of the decision, as conditions on the number. -/
theorem isPrime_eq (n : Int64) : isPrime n =
    if n.toInt < 2 then false else if n.toInt < 4 then true
    else if 2 ∣ n.toInt ∨ 3 ∣ n.toInt then false else noDivisorFrom n 5 := by
  have two : n < 2 ↔ n.toInt < 2 := Int64.lt_iff_toInt_lt
  have four : n < 4 ↔ n.toInt < 4 := Int64.lt_iff_toInt_lt
  have even : n % 2 = 0 ↔ 2 ∣ n.toInt := rem_eq_zero_iff
  have threefold : n % 3 = 0 ↔ 3 ∣ n.toInt := rem_eq_zero_iff
  simp only [isPrime, two, four, even, threefold]

/-- **Trial division decides primality for every integer of 64 bits.** The answer is `true` exactly
if the integer is at least two and no smaller one from two on divides it. Where the first tests
leave it open, a run of the loop ends with this answer; it divides by positive numbers only, and
none of its sums leaves 64 bits. -/
theorem isPrime_exact (n : Int64) :
    (isPrime n = true ↔ 2 ≤ n.toInt ∧ ∀ d : Int, 2 ≤ d → d < n.toInt → ¬ d ∣ n.toInt) ∧
      (4 ≤ n.toInt → ¬ 2 ∣ n.toInt → ¬ 3 ∣ n.toInt → Trial n 5 (isPrime n)) := by
  rw [isPrime_eq]
  constructor
  · split_ifs with small few divided
    · simp only [false_iff, not_and]
      omega
    · simp only [true_iff]
      refine ⟨by omega, fun d lower proper => ?_⟩
      obtain ⟨rfl, three⟩ : d = 2 ∧ n.toInt = 3 := by omega
      rw [three]
      decide
    · simp only [false_iff, not_and, not_forall, not_not]
      rcases divided with even | threefold
      · exact fun _ => ⟨2, le_rfl, by omega, even⟩
      · exact fun _ => ⟨3, by decide, by omega, threefold⟩
    · obtain ⟨odd, notThreefold⟩ := not_or.mp divided
      rw [noDivisorFrom_eq_true_iff odd notThreefold, and_iff_right (by omega)]
  · intro large odd notThreefold
    rw [if_neg (by omega), if_neg (by omega), if_neg (not_or.mpr ⟨odd, notThreefold⟩)]
    exact trial_noDivisorFrom (by decide)

/-- The square of the largest prime whose square has 64 bits: the loop comes to this prime, and
finds it. -/
theorem isPrime_exact_square :
    isPrime 9223371994482243049 = false ∧ Trial 9223371994482243049 5 false := by
  have number : (9223371994482243049 : Int64).toInt = 3037000493 * 3037000493 := by decide +kernel
  obtain ⟨decides, runs⟩ := isPrime_exact 9223371994482243049
  rw [number] at decides runs
  have composite : isPrime 9223371994482243049 = false := by
    rw [← Bool.not_eq_true, decides]
    rintro ⟨-, indivisible⟩
    exact indivisible 3037000493 (by decide) (by decide) (Int.dvd_mul_right _ _)
  refine ⟨composite, ?_⟩
  rw [← composite]
  exact runs (by decide) (by decide) (by decide)

end Nif.Example
