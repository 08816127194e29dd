import Tandem.Number.Binary64

/-!
Rounding to the nearest number of a format.

* `roundEven_near`: the nearest integer is half a unit away at most.
* `le_roundEven_iff`: which quotients are rounded to an even number or beyond.
* `nearestDyadic_eq`: the nearest number of a format is the nearest integer in units of its exponent.
-/

namespace Tandem.Number

/-! ## Integers -/

section
variable {num den k : Nat}

theorem exists_quotient (num : Nat) (pos : 0 < den) :
    ∃ q r, num = den * q + r ∧ r < den ∧ roundEven num den =
      if den < 2 * r then q + 1 else if 2 * r < den then q else q + q % 2 :=
  ⟨num / den, num % den, (Nat.div_add_mod num den).symm, Nat.mod_lt _ pos, rfl⟩

theorem roundEven_near (num : Nat) (pos : 0 < den) :
    2 * (den * roundEven num den) ≤ 2 * num + den ∧
      2 * num ≤ 2 * (den * roundEven num den) + den := by
  obtain ⟨q, r, rfl, below, rounded⟩ := exists_quotient num pos
  have next : den * (q + 1) = den * q + den := Nat.mul_succ den q
  rw [rounded]
  split
  · omega
  · split
    · omega
    · -- A tie is half a unit away from both of its neighbours.
      obtain even | odd : q % 2 = 0 ∨ q % 2 = 1 := by omega
      · rw [even, Nat.add_zero]
        omega
      · rw [odd]
        omega

theorem roundEven_one (num : Nat) : roundEven num 1 = num := by
  have near := roundEven_near num Nat.one_pos
  omega

/-- Half a unit below an even number is where quotients begin that are rounded to it or beyond. -/
theorem le_roundEven_iff (pos : 0 < den) (even : k % 2 = 0) :
    k ≤ roundEven num den ↔ 2 * (k * den) ≤ 2 * num + den := by
  obtain ⟨q, r, rfl, below, rounded⟩ := exists_quotient num pos
  have product : den * q = q * den := Nat.mul_comm den q
  obtain reached | next | beyond : k ≤ q ∨ k = q + 1 ∨ q + 2 ≤ k := by omega
  · have least : q ≤ roundEven (den * q + r) den := by
      rw [rounded]
      split
      · omega
      · split <;> omega
    have less : k * den ≤ q * den := Nat.mul_le_mul_right den reached
    omega
  · subst next
    have one : (q + 1) * den = q * den + den := Nat.succ_mul q den
    rw [rounded]
    split
    · omega
    · split <;> omega
  · have most : roundEven (den * q + r) den ≤ q + 1 := by
      rw [rounded]
      split
      · omega
      · split <;> omega
    have two : (q + 2) * den = q * den + 2 * den := Nat.add_mul q 2 den
    have more : (q + 2) * den ≤ k * den := Nat.mul_le_mul_right den beyond
    omega

end

/-! ## Numbers of a format -/

/-- The exponent that the nearest number of a format is looked for with. -/
def dyadicExponent (bits : Nat) (least : Int) (num den : Nat) : Int :=
  let guess : Int := (num.log2 : Int) - den.log2 - (bits - 1 : Nat)
  let (n, d) := unscale num den guess
  max least (if n < d * Nat.pow 2 (bits - 1) then guess - 1 else guess)

/-- A quotient in units of two to the power of `e`, to the nearest. -/
def inUnits (num den : Nat) (e : Int) : Nat :=
  roundEven (unscale num den e).1 (unscale num den e).2

section
variable {bits num den m : Nat} {least e : Int}

theorem dyadicExponent_eq {guess : Int}
    (first : (num.log2 : Int) - den.log2 - (bits - 1 : Nat) = guess) :
    dyadicExponent bits least num den = max least
      (if (unscale num den guess).1 < (unscale num den guess).2 * Nat.pow 2 (bits - 1) then guess - 1
        else guess) := by
  subst first
  rfl

theorem unscale_neg (num den : Nat) {e : Int} (negative : e < 0) :
    unscale num den e = (num * Nat.pow 2 (-e).toNat, den) := by
  rw [unscale, if_neg (by omega)]

theorem unscale_nonneg (num den : Nat) {e : Int} (nonneg : 0 ≤ e) :
    unscale num den e = (num, den * Nat.pow 2 e.toNat) := by
  rw [unscale, if_pos nonneg]

theorem nearestDyadic_eq (bits : Nat) (least : Int) (num den : Nat) :
    nearestDyadic bits least num den =
      if inUnits num den (dyadicExponent bits least num den) < Nat.pow 2 bits then
        (inUnits num den (dyadicExponent bits least num den), dyadicExponent bits least num den)
      else (Nat.pow 2 (bits - 1), dyadicExponent bits least num den + 1) :=
  rfl

theorem inUnits_of_nearestDyadic (found : nearestDyadic bits least num den = (m, e))
    (other : m ≠ Nat.pow 2 (bits - 1)) : m = inUnits num den e := by
  rw [nearestDyadic_eq] at found
  split at found
  · obtain ⟨rfl, rfl⟩ := Prod.mk.inj found
    rfl
  · exact absurd (Prod.mk.inj found).1.symm other

theorem parts_of_ofParts {negative : Bool} {x : Binary64}
    (made : Binary64.ofParts? negative m e = some x) : m = x.mantissa ∧ e = x.exponent := by
  rw [Binary64.ofParts?] at made
  split at made
  · cases made
    exact ⟨rfl, rfl⟩
  · cases made

theorem nearestDyadic_of_ofFraction {negative : Bool} {x : Binary64} (nonzero : num ≠ 0)
    (made : Binary64.ofFraction? negative num den = some x) :
    nearestDyadic 53 (-1074) num den = (x.mantissa, x.exponent) := by
  rw [Binary64.ofFraction?, if_neg nonzero] at made
  obtain ⟨mantissa, exponent⟩ := parts_of_ofParts made
  exact Prod.ext mantissa exponent

end

end Tandem.Number
