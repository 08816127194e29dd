import Tandem.Number.Shortest

/-!
The shortest text of a double.

* `digits_shortest_ne_zero`: a number other than zero is not written with the digit zero alone.
-/

namespace Tandem.Number

theorem digits_trim_ne_zero {d : Decimal} (h : d.digits ≠ 0) (n : Nat) :
    (d.trim n).digits ≠ 0 := by
  induction n generalizing d with
  | zero => exact h
  | succ n ih =>
    unfold Decimal.trim
    split
    · rename_i closing
      apply ih
      have divides := closing.2
      simp only
      omega
    · exact h

namespace Binary64

variable {x : Binary64}

/-- The numbers that round to a number other than zero are above zero. -/
theorem not_roundsTo_zero (h : x.mantissa ≠ 0) (k : Int) : x.roundsTo 0 k = false := by
  have low : 0 < x.rounding.low := by
    simp only [rounding]
    split <;> omega
  have scaled : 0 < (crossed 0 k x.rounding.low x.exponent).2 := by
    have two : 0 < Nat.pow 2 (x.exponent - 2).toNat := Nat.pow_pos (by decide)
    have ten : 0 < Nat.pow 10 (-k).toNat := Nat.pow_pos (by decide)
    exact Nat.mul_pos (Nat.mul_pos low two) ten
  have none : (crossed 0 k x.rounding.low x.exponent).1 = 0 := by simp [crossed]
  simp only [roundsTo, none]
  split
  · simp only [decide_eq_false_iff_not, not_and]
    omega
  · simp only [decide_eq_false_iff_not, not_and]
    omega

theorem roundsTo_of_onGrid? {k : Int} {d : Decimal} (found : x.onGrid? k = some d) :
    x.roundsTo d.digits k = true := by
  unfold onGrid? at found
  grind

theorem digits_onGrid?_ne_zero (h : x.mantissa ≠ 0) {k : Int} {d : Decimal}
    (found : x.onGrid? k = some d) : d.digits ≠ 0 := by
  intro zero
  have rounds := roundsTo_of_onGrid? found
  rw [zero, not_roundsTo_zero h k] at rounds
  cases rounds

/-- A number other than zero is not written with the digit zero alone. -/
theorem digits_shortest_ne_zero (h : x.mantissa ≠ 0) : x.shortest.digits ≠ 0 := by
  unfold shortest
  apply digits_trim_ne_zero
  cases lookup : (List.range 17).findSome? fun (n : Nat) => x.onGrid? (x.leadingPlace - n) with
  | none => exact h
  | some d =>
    obtain ⟨n, -, found⟩ := List.exists_of_findSome?_eq_some lookup
    exact digits_onGrid?_ne_zero h found

end Binary64

end Tandem.Number
