import Nif.NativeFunction

/-!
**Numeric functions for a native library.**

* `add`, `multiply`: 32-bit arithmetic that wraps around.
* `fibonacci`: refuses what would leave 64 bits.
* `isPrime`: trial division by the numbers next to the multiples of six.
* `circleArea`: the area of a circle.
-/

namespace Nif.Example

/-- The sum modulo `2 ^ 32`. -/
def add (a b : Int32) : Int32 := a + b

/-- The product modulo `2 ^ 32`. -/
def multiply (a b : Int32) : Int32 := a * b

/-- The largest number whose Fibonacci number fits into 64 bits. -/
def maxFibonacci : Int64 := 92

/-- Moves two neighbours of the Fibonacci sequence up by so many places and gives the second. -/
def fibonacciFrom (previous current : Int64) : Nat → Int64
  | 0 => current
  | steps + 1 => fibonacciFrom current (previous + current) steps

/-- The Fibonacci number at a place. A place up to one is its own answer, negative ones included; a
place beyond the largest is refused. -/
def fibonacci (n : Int64) : Except Fault Int64 :=
  if n ≤ 1 then .ok n
  else if maxFibonacci < n then .error .badArg
  else .ok (fibonacciFrom 0 1 (n.toInt.toNat - 1))

/-- A divisor is at most its quotient exactly if its square is at most the number. -/
theorem le_div_iff {n divisor : Int64} (large : 1 < divisor) :
    divisor ≤ n / divisor ↔ divisor.toInt * divisor.toInt ≤ n.toInt := by
  have apart : divisor ≠ -1 := by rintro rfl; exact absurd large (by decide)
  rw [Int64.lt_iff_toInt_lt, show (1 : Int64).toInt = 1 from rfl] at large
  rw [Int64.le_iff_toInt_le, Int64.toInt_div_of_ne_right _ _ apart]
  have square : 0 ≤ divisor.toInt * divisor.toInt := Int.mul_nonneg (by omega) (by omega)
  by_cases negative : n.toInt < 0
  · have quotient : 0 ≤ (-n.toInt).tdiv divisor.toInt := Int.tdiv_nonneg (by omega) (by omega)
    rw [Int.neg_tdiv] at quotient
    omega
  · rw [Int.tdiv_eq_ediv_of_nonneg (by omega), Int.le_ediv_iff_mul_le (by omega)]

/-- A divisor whose square is at most `n` can be moved up by six without leaving 64 bits. -/
theorem toInt_add_of_le_div {n divisor : Int64} (large : 1 < divisor)
    (small : divisor ≤ n / divisor)
    {step : Int64} (forward : 0 ≤ step.toInt) (short : step.toInt ≤ 6) :
    (divisor + step).toInt = divisor.toInt + step.toInt := by
  have nBelow : n.toInt < 2 ^ 63 := n.toInt_lt
  rw [le_div_iff large] at small
  rw [Int64.lt_iff_toInt_lt, show (1 : Int64).toInt = 1 from rfl] at large
  have narrow : divisor.toInt < 2 ^ 32 := by
    refine Int.not_le.mp fun wide => ?_
    have : (2 ^ 32 : Int) * 2 ^ 32 ≤ divisor.toInt * divisor.toInt :=
      Int.mul_le_mul wide wide (by omega) (by omega)
    omega
  rw [Int64.toInt_add]
  exact Int.bmod_eq_of_le (by omega) (by omega)

/-- Such a divisor comes closer to `n` when it is moved up. -/
theorem closer_of_le_div {n divisor : Int64} (large : 1 < divisor) (small : divisor ≤ n / divisor) :
    (n.toInt - (divisor + 6).toInt).toNat < (n.toInt - divisor.toInt).toNat := by
  have moved : (divisor + 6).toInt = divisor.toInt + 6 :=
    toInt_add_of_le_div large small (by decide) (by decide)
  rw [le_div_iff large] at small
  rw [Int64.lt_iff_toInt_lt, show (1 : Int64).toInt = 1 from rfl] at large
  have double : divisor.toInt * 2 ≤ divisor.toInt * divisor.toInt :=
    Int.mul_le_mul_of_nonneg_left (by omega) (by omega)
  omega

/-- No number next to a multiple of six, from `divisor` on in steps of six, divides `n`, as far as
their squares are at most `n`. -/
def noDivisorFrom (n divisor : Int64) : Bool :=
  if inRange : 1 < divisor ∧ divisor ≤ n / divisor then
    if n % divisor = 0 ∨ n % (divisor + 2) = 0 then false
    else noDivisorFrom n (divisor + 6)
  else true
termination_by (n.toInt - divisor.toInt).toNat
decreasing_by exact closer_of_le_div inRange.1 inRange.2

def isPrime (n : Int64) : Bool :=
  if n < 2 then false
  else if n < 4 then true
  else if n % 2 = 0 ∨ n % 3 = 0 then false
  else noDivisorFrom n 5

/-- The ratio of a circle's circumference to its diameter, as the nearest double. -/
def pi : Float := Float.ofBits 0x400921FB54442D18

def circleArea (radius : Float) : Float := pi * radius * radius

end Nif.Example
