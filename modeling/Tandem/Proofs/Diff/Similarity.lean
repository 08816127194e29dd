import Tandem.Diff.Similarity
import Tandem.Proofs.Diff.ReadBack
import Tandem.Proofs.Number.Rounding

/-!
How far the similarity of two texts tells them apart.

* `single_natural`: a natural number in single precision is one part in sixteen million off at most,
  and is exact below that.
* `hundred_single_iff`: which quotients are a hundred percent once two decimals are shown.
* `unmatched_eq_zero_iff`: two sequences are equal if each of their items has a counterpart.
* `hundredths_of_many`, `hundredths_iff`: so different texts are fully similar where few enough of
  their characters have none.
-/

namespace Tandem.Diff

open Tandem.Number

/-! ## Single precision -/

/-- The share of one that is the last place of a single-precision number from one half on. -/
def lastPlace : Nat := 16777216

section
variable {num den n : Nat} {e : Int} {k : Nat}

theorem dyadicFraction_neg (m : Nat) (negative : e < 0) :
    dyadicFraction (m, e) = (m, Nat.pow 2 (-e).toNat) :=
  if_neg (Int.not_le_of_gt negative)

theorem dyadicFraction_nonneg (m : Nat) (nonneg : 0 ≤ e) :
    dyadicFraction (m, e) = (m * Nat.pow 2 e.toNat, 1) :=
  if_pos nonneg

theorem single_of_units (exponent : dyadicExponent 24 (-149) num den = e)
    (below : inUnits num den e < lastPlace) :
    single num den = dyadicFraction (inUnits num den e, e) := by
  rw [single, nearestDyadic_eq, exponent]
  exact congrArg dyadicFraction (if_pos below)

theorem single_of_carry (exponent : dyadicExponent 24 (-149) num den = e)
    (carried : lastPlace ≤ inUnits num den e) :
    single num den = dyadicFraction (8388608, e + 1) := by
  rw [single, nearestDyadic_eq, exponent]
  exact congrArg dyadicFraction (if_neg (Nat.not_lt_of_le carried))

/-- A quotient below one, rounded in units of two to the power of `-k`. Carrying over to the next
power of two does not change what the number is. -/
theorem single_of_exponent (exponent : dyadicExponent 24 (-149) num den = -(k : Int))
    (some : 2 ≤ k) :
    0 < (single num den).2 ∧ (single num den).1 * Nat.pow 2 k =
      min (roundEven (num * Nat.pow 2 k) den) lastPlace * (single num den).2 := by
  have units : inUnits num den (-(k : Int)) = roundEven (num * Nat.pow 2 k) den := by
    rw [inUnits, unscale_neg num den (by omega), Int.neg_neg, Int.toNat_natCast]
  rw [← units]
  by_cases below : inUnits num den (-(k : Int)) < lastPlace
  · rw [single_of_units exponent below, Nat.min_eq_left (Nat.le_of_lt below),
      dyadicFraction_neg _ (by omega), Int.neg_neg, Int.toNat_natCast]
    exact ⟨Nat.pow_pos (by decide), rfl⟩
  · have carried : lastPlace ≤ inUnits num den (-(k : Int)) := Nat.le_of_not_lt below
    have power : (-(-(k : Int) + 1)).toNat = k - 1 := by omega
    have double : Nat.pow 2 k = Nat.pow 2 (k - 1) * 2 := by
      obtain ⟨j, rfl⟩ : ∃ j, k = j + 1 := ⟨k - 1, by omega⟩
      rfl
    rw [single_of_carry exponent carried, Nat.min_eq_right carried,
      dyadicFraction_neg _ (by omega), power, double, lastPlace]
    refine ⟨Nat.pow_pos (by decide), ?_⟩
    omega

/-- From one half on, the last place is the smallest share of one. -/
theorem exponent_of_half (below : num < den) (half : den ≤ 2 * num) :
    dyadicExponent 24 (-149) num den = -24 := by
  have numLow : Nat.pow 2 num.log2 ≤ num := Nat.log2_self_le (by omega)
  have denLow : Nat.pow 2 den.log2 ≤ den := Nat.log2_self_le (by omega)
  have numHigh : num < Nat.pow 2 num.log2 * 2 := Nat.lt_log2_self
  have denHigh : den < Nat.pow 2 den.log2 * 2 := Nat.lt_log2_self
  have atMost : num.log2 ≤ den.log2 := by
    refine Nat.le_of_lt_succ ((Nat.pow_lt_pow_iff_right (by decide : 1 < 2)).1 ?_)
    exact Nat.lt_of_le_of_lt numLow (Nat.lt_trans below denHigh)
  have atLeast : den.log2 < num.log2 + 2 := by
    refine (Nat.pow_lt_pow_iff_right (by decide : 1 < 2)).1 ?_
    show Nat.pow 2 den.log2 < Nat.pow 2 num.log2 * 2 * 2
    omega
  obtain same | less : num.log2 = den.log2 ∨ num.log2 + 1 = den.log2 := by omega
  · have guess : (num.log2 : Int) - den.log2 - (24 - 1 : Nat) = -23 := by omega
    rw [dyadicExponent_eq guess, unscale_neg num den (by decide), if_pos]
    · rfl
    · exact Nat.mul_lt_mul_of_pos_right below (by decide)
  · have guess : (num.log2 : Int) - den.log2 - (24 - 1 : Nat) = -24 := by omega
    rw [dyadicExponent_eq guess, unscale_neg num den (by decide), if_neg]
    · rfl
    · show ¬ num * 16777216 < den * 8388608
      omega

/-- Below one half it is no larger. -/
theorem exponent_of_less (below : 2 * num < den) :
    ∃ k : Nat, 24 ≤ k ∧ dyadicExponent 24 (-149) num den = -(k : Int) := by
  have small : dyadicExponent 24 (-149) num den ≤ -24 := by
    rw [dyadicExponent_eq rfl]
    refine Int.max_le.2 ⟨by decide, ?_⟩
    by_cases zero : num = 0
    · subst zero
      rw [if_pos]
      · rw [Nat.log2_zero]
        omega
      · rw [unscale_neg 0 den (by rw [Nat.log2_zero]; omega), Nat.zero_mul]
        exact Nat.mul_pos (by omega) (by decide)
    · have numLow : Nat.pow 2 num.log2 ≤ num := Nat.log2_self_le zero
      have denHigh : den < Nat.pow 2 den.log2 * 2 := Nat.lt_log2_self
      have less : num.log2 < den.log2 := by
        refine (Nat.pow_lt_pow_iff_right (by decide : 1 < 2)).1 ?_
        show Nat.pow 2 num.log2 < Nat.pow 2 den.log2
        omega
      split <;> omega
  exact ⟨(-dyadicExponent 24 (-149) num den).toNat, by omega, by omega⟩

/-- A fraction of `c` units is a hundred percent with two decimals if it is nearer to one than half
of the last decimal. -/
theorem hundred_iff {n m c unit : Nat} (pos : 0 < m) (value : n * unit = c * m) (some : 0 < unit) :
    roundHalfUp (10000 * n) m = 10000 ↔ 19999 * unit ≤ 20000 * c ∧ 20000 * c < 20001 * unit := by
  have down : 19999 * m ≤ 20000 * n ↔ 19999 * unit ≤ 20000 * c := by
    rw [← Nat.mul_le_mul_right_iff some, ← Nat.mul_le_mul_right_iff pos (m := 20000 * c),
      Nat.mul_assoc 20000 n, value, Nat.mul_assoc 20000 c, Nat.mul_right_comm]
  have up : 20000 * n < 20001 * m ↔ 20000 * c < 20001 * unit := by
    rw [← Nat.mul_lt_mul_right some, ← Nat.mul_lt_mul_right pos (b := 20000 * c),
      Nat.mul_assoc 20000 n, value, Nat.mul_assoc 20000 c, Nat.mul_right_comm 20001 m]
  rw [roundHalfUp, Nat.div_eq_iff (by omega), ← down, ← up]
  omega

/-- A quotient below one is a hundred percent with two decimals from this one on. -/
theorem hundred_single_iff (below : num < den) :
    roundHalfUp (10000 * (single num den).1) (single num den).2 = 10000 ↔
      33552755 * den ≤ 33554432 * num := by
  by_cases half : den ≤ 2 * num
  · obtain ⟨pos, value⟩ := single_of_exponent (k := 24) (exponent_of_half below half) (by decide)
    rw [hundred_iff pos value (by decide)]
    have threshold : 16776378 ≤ roundEven (num * Nat.pow 2 24) den ↔ _ :=
      le_roundEven_iff (by omega) rfl
    generalize roundEven (num * Nat.pow 2 24) den = m at threshold
    simp only [show Nat.pow 2 24 = 16777216 from rfl] at threshold ⊢
    rw [lastPlace]
    omega
  · obtain ⟨k, places, exponent⟩ := exponent_of_less (Nat.lt_of_not_le half)
    have some : 0 < Nat.pow 2 k := Nat.pow_pos (by decide)
    obtain ⟨pos, value⟩ := single_of_exponent exponent (by omega)
    rw [hundred_iff pos value some]
    have near := (roundEven_near (num * Nat.pow 2 k) (show 0 < den by omega)).1
    generalize roundEven (num * Nat.pow 2 k) den = m at near
    generalize Nat.pow 2 k = unit at near some
    have half : 2 * num * unit < den * unit := Nat.mul_lt_mul_of_pos_right (by omega) some
    have less : den * (2 * m) < den * (unit + 1) := by
      rw [Nat.mul_left_comm, Nat.mul_succ]
      rw [Nat.mul_assoc] at half
      omega
    have most : 2 * m < unit + 1 := Nat.lt_of_mul_lt_mul_left less
    omega

/-! ### Natural numbers -/

theorem exponent_natural (some : n ≠ 0) :
    dyadicExponent 24 (-149) n 1 = (n.log2 : Int) - 23 := by
  have low : Nat.pow 2 n.log2 ≤ n := Nat.log2_self_le some
  have one : Nat.log2 1 = 0 := rfl
  have guess : (n.log2 : Int) - (1 : Nat).log2 - (24 - 1 : Nat) = n.log2 - 23 := by omega
  rw [dyadicExponent_eq guess, if_neg]
  · omega
  · obtain ⟨k, less⟩ | ⟨k, more⟩ : (∃ k, n.log2 + (k + 1) = 23) ∨ ∃ k, n.log2 = k + 23 := by
      by_cases small : n.log2 < 23
      · exact .inl ⟨22 - n.log2, by omega⟩
      · exact .inr ⟨n.log2 - 23, by omega⟩
    · have power : Nat.pow 2 23 = Nat.pow 2 n.log2 * Nat.pow 2 (k + 1) := by
        rw [← less]
        exact Nat.pow_add 2 n.log2 (k + 1)
      have places : (-((n.log2 : Int) - 23)).toNat = k + 1 := by omega
      rw [unscale_neg n 1 (by omega), places, Nat.one_mul]
      show ¬ n * Nat.pow 2 (k + 1) < Nat.pow 2 23
      rw [power]
      exact Nat.not_lt_of_le (Nat.mul_le_mul_right _ low)
    · have power : Nat.pow 2 n.log2 = Nat.pow 2 k * Nat.pow 2 23 := by
        rw [more]
        exact Nat.pow_add 2 k 23
      have places : ((n.log2 : Int) - 23).toNat = k := by omega
      rw [unscale_nonneg n 1 (by omega), places, Nat.one_mul]
      show ¬ n < Nat.pow 2 k * Nat.pow 2 23
      rw [← power]
      exact Nat.not_lt_of_le low

/-- Below sixteen million and more, single precision is exact. -/
theorem single_of_small (small : n < lastPlace) :
    0 < (single n 1).2 ∧ (single n 1).1 = n * (single n 1).2 := by
  by_cases zero : n = 0
  · subst zero
    decide +kernel
  · have high : n.log2 < 24 := (Nat.log2_lt zero).2 small
    have exponent := exponent_natural zero
    by_cases whole : n.log2 = 23
    · have units : inUnits n 1 0 = n := by
        rw [inUnits, unscale_nonneg n 1 (by decide)]
        exact roundEven_one n
      have same : ((n.log2 : Int) - 23) = 0 := by omega
      rw [same] at exponent
      rw [single_of_units exponent (by rw [units]; exact small), units,
        dyadicFraction_nonneg n (Int.le_refl 0)]
      exact ⟨Nat.one_pos, rfl⟩
    · obtain ⟨k, less⟩ : ∃ k, n.log2 + (k + 1) = 23 := ⟨22 - n.log2, by omega⟩
      have next : n < Nat.pow 2 (n.log2 + 1) := Nat.lt_log2_self
      have power : lastPlace = Nat.pow 2 (n.log2 + 1) * Nat.pow 2 (k + 1) := by
        have sum : n.log2 + 1 + (k + 1) = 24 := by omega
        have product : Nat.pow 2 (n.log2 + 1 + (k + 1)) = _ := Nat.pow_add 2 (n.log2 + 1) (k + 1)
        rw [sum] at product
        exact product
      have places : (-((n.log2 : Int) - 23)).toNat = k + 1 := by omega
      have units : inUnits n 1 ((n.log2 : Int) - 23) = n * Nat.pow 2 (k + 1) := by
        rw [inUnits, unscale_neg n 1 (by omega), places]
        exact roundEven_one _
      have below : inUnits n 1 ((n.log2 : Int) - 23) < lastPlace := by
        rw [units, power]
        exact Nat.mul_lt_mul_of_pos_right next (Nat.pow_pos (by decide))
      rw [single_of_units exponent below, units, dyadicFraction_neg _ (by omega), places]
      exact ⟨Nat.pow_pos (by decide), rfl⟩

/-- From there on half of the last of 24 bits is lost at most. -/
theorem single_of_large (large : lastPlace ≤ n) :
    (single n 1).2 = 1 ∧ 16777216 * (single n 1).1 ≤ 16777217 * n ∧
      16777215 * n ≤ 16777216 * (single n 1).1 := by
  have zero : n ≠ 0 := by
    rintro rfl
    exact absurd large (by decide)
  have exponent := exponent_natural zero
  have high : n < Nat.pow 2 (n.log2 + 1) := Nat.lt_log2_self
  have reached : 24 < n.log2 + 1 := by
    refine (Nat.pow_lt_pow_iff_right (by decide : 1 < 2)).1 ?_
    exact Nat.lt_of_le_of_lt large high
  obtain ⟨k, places⟩ : ∃ k, n.log2 = k + 23 := ⟨n.log2 - 23, by omega⟩
  have low : Nat.pow 2 k * 8388608 ≤ n := by
    have least : Nat.pow 2 n.log2 ≤ n := Nat.log2_self_le zero
    rw [places] at least
    exact Nat.le_trans (Nat.le_of_eq (Nat.pow_add 2 k 23).symm) least
  have same : ((n.log2 : Int) - 23) = (k : Int) := by omega
  rw [same] at exponent
  have near := roundEven_near n (show 0 < Nat.pow 2 k from Nat.pow_pos (by decide))
  have units : inUnits n 1 (k : Int) = roundEven n (Nat.pow 2 k) := by
    rw [inUnits, unscale_nonneg n 1 (by omega), Int.toNat_natCast, Nat.one_mul]
  rw [← units] at near
  by_cases below : inUnits n 1 (k : Int) < lastPlace
  · rw [single_of_units exponent below, dyadicFraction_nonneg _ (by omega), Int.toNat_natCast,
      Nat.mul_comm (inUnits n 1 (k : Int))]
    omega
  · have carried : lastPlace ≤ inUnits n 1 (k : Int) := Nat.le_of_not_lt below
    have more : Nat.pow 2 k * lastPlace ≤ Nat.pow 2 k * inUnits n 1 (k : Int) :=
      Nat.mul_le_mul_left _ carried
    have double : Nat.pow 2 (k + 1) = Nat.pow 2 k * 2 := rfl
    have next : ((k : Int) + 1).toNat = k + 1 := by omega
    have less : n < Nat.pow 2 k * lastPlace := by
      rw [places] at high
      exact Nat.lt_of_lt_of_eq high (Nat.pow_add 2 k 24)
    rw [single_of_carry exponent carried, dyadicFraction_nonneg _ (by omega), next, double]
    rw [lastPlace] at more less
    omega

/-- A number in single precision is one part in sixteen million off at most. -/
theorem single_natural (n : Nat) : 0 < (single n 1).2 ∧
    16777216 * (single n 1).1 ≤ 16777217 * (n * (single n 1).2) ∧
      16777215 * (n * (single n 1).2) ≤ 16777216 * (single n 1).1 := by
  by_cases small : n < lastPlace
  · obtain ⟨pos, exact'⟩ := single_of_small small
    rw [exact']
    exact ⟨pos, by omega, by omega⟩
  · obtain ⟨one, near⟩ := single_of_large (Nat.le_of_not_lt small)
    rw [one, Nat.mul_one]
    exact ⟨Nat.one_pos, near⟩

end

/-! ## The ratio -/

section
variable {kept total : Nat}

/-- Where both counts are exact, the rounded ratio is a hundred percent from this quotient on. -/
theorem ratioHundredths_iff (some : 2 * kept < total) (small : total < lastPlace) :
    ratioHundredths kept total = 10000 ↔ 33552755 * total ≤ 33554432 * (2 * kept) := by
  obtain ⟨partPos, part⟩ := single_of_small (show kept < lastPlace by omega)
  obtain ⟨wholePos, whole⟩ := single_of_small small
  have pos := Nat.mul_pos partPos wholePos
  have num : 2 * (single kept 1).1 * (single total 1).2 =
      2 * kept * ((single kept 1).2 * (single total 1).2) := by
    rw [part, ← Nat.mul_assoc 2, Nat.mul_assoc]
  have den : (single kept 1).2 * (single total 1).1 =
      total * ((single kept 1).2 * (single total 1).2) := by
    rw [whole, Nat.mul_left_comm]
  have below := Nat.mul_lt_mul_of_pos_right some pos
  rw [← num, ← den] at below
  rw [ratioHundredths, hundred_single_iff below, num, den]
  generalize (single kept 1).2 * (single total 1).2 = scale at pos
  rw [← Nat.mul_assoc, ← Nat.mul_assoc 33554432, Nat.mul_le_mul_right_iff pos]

/-- Whatever the counts are, a quotient that is off by this much is less. -/
theorem ratioHundredths_ne (some : 2 * kept < total) (many : total ≤ 19000 * (total - 2 * kept)) :
    ratioHundredths kept total ≠ 10000 := by
  obtain ⟨partPos, partMost, -⟩ := single_natural kept
  obtain ⟨wholePos, -, wholeLeast⟩ := single_natural total
  rw [ratioHundredths, Nat.mul_assoc]
  generalize single kept 1 = part at partPos partMost
  generalize single total 1 = whole at wholePos wholeLeast
  have pos := Nat.mul_pos partPos wholePos
  -- Both counts are compared in the product of their denominators.
  have most : 16777216 * (part.1 * whole.2) ≤ 16777217 * (kept * (part.2 * whole.2)) := by
    have scaled := Nat.mul_le_mul_right whole.2 partMost
    rwa [Nat.mul_assoc, Nat.mul_assoc 16777217, Nat.mul_assoc kept] at scaled
  have least : 16777215 * (total * (part.2 * whole.2)) ≤ 16777216 * (part.2 * whole.1) := by
    have scaled := Nat.mul_le_mul_left part.2 wholeLeast
    rwa [Nat.mul_left_comm, Nat.mul_left_comm part.2 16777216, Nat.mul_left_comm part.2] at scaled
  have apart : 38000 * (kept * (part.2 * whole.2)) ≤ 18999 * (total * (part.2 * whole.2)) := by
    rw [← Nat.mul_assoc, ← Nat.mul_assoc 18999]
    exact Nat.mul_le_mul_right _ (by omega)
  have present : 0 < total * (part.2 * whole.2) := Nat.mul_pos (by omega) pos
  rw [Ne, hundred_single_iff (by omega)]
  omega

end

/-! ## Items without a counterpart -/

section
variable {α : Type}

variable {old new : List α} {i j i' j' : Nat}

/-- An edit keeps no more than it takes of either side, and all of both just where they agree. -/
theorem kept_of_stands {e : Edit} (h : e.Stands old new i j) :
    e.kept ≤ e.oldSpan.length ∧ e.kept ≤ e.newSpan.length ∧
      (e.kept = e.oldSpan.length → e.kept = e.newSpan.length → Agree old new i j e.kept) := by
  cases e with
  | keep o m n =>
    rw [length_oldSpan_keep, length_newSpan_keep]
    exact ⟨Nat.le_refl n, Nat.le_refl n, fun _ _ => h.2.2.2⟩
  | delete o n m =>
    have some : 0 < n := h.2
    rw [length_oldSpan_delete]
    exact ⟨Nat.zero_le n, Nat.zero_le _, fun all => absurd all (Nat.ne_of_lt some)⟩
  | insert o m n =>
    have some : 0 < n := h.2
    rw [length_newSpan_insert]
    exact ⟨Nat.zero_le _, Nat.zero_le n, fun _ all => absurd all (Nat.ne_of_lt some)⟩
  | replace o n m n' =>
    have some : 0 < n := h.2.2.1
    rw [length_oldSpan_replace]
    exact ⟨Nat.zero_le n, Nat.zero_le _, fun all => absurd all (Nat.ne_of_lt some)⟩

/-- So does a course. -/
theorem kept_of_leads {es : List Edit} (h : Leads old new i j es i' j') :
    i + es.foldr (fun e n => e.kept + n) 0 ≤ i' ∧ j + es.foldr (fun e n => e.kept + n) 0 ≤ j' ∧
      (i + es.foldr (fun e n => e.kept + n) 0 = i' → j + es.foldr (fun e n => e.kept + n) 0 = j' →
        Agree old new i j (es.foldr (fun e n => e.kept + n) 0)) := by
  induction es generalizing i j with
  | nil =>
    obtain ⟨rfl, rfl⟩ := h
    exact ⟨Nat.le_refl i, Nat.le_refl j, fun _ _ k less => absurd less (Nat.not_lt_zero k)⟩
  | cons e es ih =>
    obtain ⟨stands, rest⟩ := h
    obtain ⟨before, after, agree⟩ := kept_of_stands stands
    obtain ⟨before', after', agree'⟩ := ih rest
    rw [List.foldr_cons]
    refine ⟨by omega, by omega, fun all all' => ?_⟩
    have whole : e.kept = e.oldSpan.length := by omega
    have whole' : e.kept = e.newSpan.length := by omega
    have later := agree' (by omega) (by omega)
    rw [← whole, ← whole'] at later
    exact agree_add (agree whole whole') later

variable [DecidableEq α]

/-- The items of both sequences that their diff pairs with none of the other. -/
def unmatched (old new : List α) : Nat :=
  old.length + new.length - 2 * keptLength old new

theorem keptLength_le (old new : List α) :
    keptLength old new ≤ old.length ∧ keptLength old new ≤ new.length := by
  obtain ⟨before, after, -⟩ := kept_of_leads (edits_leads old new)
  rw [Nat.zero_add] at before after
  exact ⟨before, after⟩

/-- Only of equal sequences the diff pairs all items. -/
theorem unmatched_eq_zero_iff : unmatched old new = 0 ↔ old = new := by
  constructor
  · intro none
    obtain ⟨before, after⟩ := keptLength_le old new
    rw [unmatched] at none
    have all : keptLength old new = old.length := by omega
    have all' : keptLength old new = new.length := by omega
    have agree := (kept_of_leads (edits_leads old new)).2.2
      ((Nat.zero_add _).trans all) ((Nat.zero_add _).trans all')
    apply List.ext_getElem?
    intro k
    by_cases inside : k < old.length
    · have same := agree k (Nat.lt_of_lt_of_eq inside all.symm)
      rwa [Nat.zero_add] at same
    · rw [List.getElem?_eq_none (by omega), List.getElem?_eq_none (by omega)]
  · rintro rfl
    have whole : keptLength old old = old.length := by
      rw [keptLength, edits_self, keepRun]
      split <;> simp_all [Edit.kept]
    rw [unmatched, whole]
    omega

end

/-! ## Texts -/

section
variable {old new : String}

theorem ratio_of_ne (differ : old ≠ new) :
    2 * keptLength old.toList new.toList < old.length + new.length ∧
      similarityHundredths old new =
        ratioHundredths (keptLength old.toList new.toList) (old.length + new.length) := by
  have some : unmatched old.toList new.toList ≠ 0 := by
    intro none
    exact differ (String.toList_inj.1 (unmatched_eq_zero_iff.1 none))
  rw [unmatched, String.length_toList, String.length_toList] at some
  exact ⟨by omega, if_neg differ⟩

/-- Different texts of fewer characters than single precision counts are fully similar in hundredths
of a percent just if so few of them are unmatched. -/
theorem hundredths_iff (differ : old ≠ new) (small : old.length + new.length < lastPlace) :
    similarityHundredths old new = 10000 ↔
      33554432 * unmatched old.toList new.toList ≤ 1677 * (old.length + new.length) := by
  obtain ⟨some, ratio⟩ := ratio_of_ne differ
  rw [ratio, ratioHundredths_iff some small, unmatched, String.length_toList, String.length_toList]
  omega

/-- Texts of any length are not if one in so many is. -/
theorem hundredths_of_many (differ : old ≠ new)
    (many : old.length + new.length ≤ 19000 * unmatched old.toList new.toList) :
    similarityHundredths old new ≠ 10000 := by
  obtain ⟨some, ratio⟩ := ratio_of_ne differ
  rw [unmatched, String.length_toList, String.length_toList] at many
  rw [ratio]
  exact ratioHundredths_ne some many

end

/-- Only ten thousand hundredths are shown as a hundred percent. -/
theorem double_hundred_iff (hundredths : Nat) :
    (Binary64.ofFraction? false hundredths 100).getD default = .ofNat 100 ↔ hundredths = 10000 := by
  constructor
  · intro shown
    have mantissa : (Binary64.ofNat 100).mantissa = 7036874417766400 := by decide +kernel
    have exponent : (Binary64.ofNat 100).exponent = -46 := by decide +kernel
    rw [← shown] at mantissa exponent
    by_cases zero : hundredths = 0
    · subst zero
      cases mantissa
    · cases made : Binary64.ofFraction? false hundredths 100 with
      | none =>
        rw [made] at mantissa
        cases mantissa
      | some x =>
        rw [made, Option.getD_some] at mantissa exponent
        have nearest := nearestDyadic_of_ofFraction zero made
        rw [mantissa, exponent] at nearest
        have units := inUnits_of_nearestDyadic nearest (by decide)
        rw [inUnits, unscale_neg hundredths 100 (by decide)] at units
        have near := roundEven_near (hundredths * 70368744177664) (by decide : 0 < 100)
        have value : roundEven (hundredths * 70368744177664) 100 = 7036874417766400 := units.symm
        rw [value] at near
        omega
  · rintro rfl
    decide +kernel

end Tandem.Diff
