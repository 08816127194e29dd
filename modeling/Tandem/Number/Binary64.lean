/-!
Finite double-precision numbers and correct rounding.

A number is an exact integer multiple of a power of two, so every operation is rational arithmetic
followed by one rounding: to the nearest, a tie to the even neighbour.
-/

namespace Tandem.Number

/-- The nearest integer to `num / den`, a tie going to the even one. -/
def roundEven (num den : Nat) : Nat :=
  let q := num / den
  let r := num % den
  if den < 2 * r then q + 1
  else if 2 * r < den then q
  else q + q % 2

/-- The nearest integer to `num / den`, a tie going up. -/
def roundHalfUp (num den : Nat) : Nat :=
  (2 * num + den) / (2 * den)

/-- `num / den / 2 ^ e` as a fraction. -/
def unscale (num den : Nat) (e : Int) : Nat × Nat :=
  if 0 ≤ e then (num, den * Nat.pow 2 e.toNat) else (num * Nat.pow 2 (-e).toNat, den)

/-- The nearest `m * 2 ^ e` to `num / den` with `m` of `bits` bits and `least ≤ e`. -/
def nearestDyadic (bits : Nat) (least : Int) (num den : Nat) : Nat × Int :=
  let guess : Int := (num.log2 : Int) - den.log2 - (bits - 1 : Nat)
  let (n, d) := unscale num den guess
  let e := max least (if n < d * Nat.pow 2 (bits - 1) then guess - 1 else guess)
  let (n, d) := unscale num den e
  let m := roundEven n d
  if m < Nat.pow 2 bits then (m, e) else (Nat.pow 2 (bits - 1), e + 1)

/-- A finite double: `mantissa * 2 ^ exponent`, with a sign that zero has too. Only one pair of
mantissa and exponent stands for a magnitude. -/
structure Binary64 where
  negative : Bool
  mantissa : Nat
  exponent : Int
  canonical : mantissa < Nat.pow 2 53 ∧ -1074 ≤ exponent ∧ exponent ≤ 971 ∧
    (exponent = -1074 ∨ Nat.pow 2 52 ≤ mantissa)
deriving DecidableEq

namespace Binary64

def zero (negative : Bool) : Binary64 := ⟨negative, 0, -1074, by decide⟩

instance : Inhabited Binary64 := ⟨zero false⟩

/-- The double of a sign, mantissa and exponent in canonical form. -/
def ofParts? (negative : Bool) (m : Nat) (e : Int) : Option Binary64 :=
  if h : m < Nat.pow 2 53 ∧ -1074 ≤ e ∧ e ≤ 971 ∧ (e = -1074 ∨ Nat.pow 2 52 ≤ m) then
    some ⟨negative, m, e, h⟩
  else none

/-- The nearest double to `num / den`; none where that is beyond the largest one. -/
def ofFraction? (negative : Bool) (num den : Nat) : Option Binary64 :=
  if num = 0 then some (zero negative)
  else
    let nearest := nearestDyadic 53 (-1074) num den
    ofParts? negative nearest.1 nearest.2

/-- The magnitude as a fraction. -/
def magnitude (x : Binary64) : Nat × Nat :=
  if 0 ≤ x.exponent then (x.mantissa * Nat.pow 2 x.exponent.toNat, 1)
  else (x.mantissa, Nat.pow 2 (-x.exponent).toNat)

def isZero (x : Binary64) : Bool := x.mantissa == 0

def neg (x : Binary64) : Binary64 := ⟨!x.negative, x.mantissa, x.exponent, x.canonical⟩

def mul? (x y : Binary64) : Option Binary64 :=
  let (a, b) := x.magnitude
  let (c, d) := y.magnitude
  ofFraction? (x.negative != y.negative) (a * c) (b * d)

/-- The quotient by a number other than zero. -/
def div? (x y : Binary64) : Option Binary64 :=
  let (a, b) := x.magnitude
  let (c, d) := y.magnitude
  ofFraction? (x.negative != y.negative) (a * d) (b * c)

/-- The sum. A sum of zero is negative only where both numbers are. -/
def add? (x y : Binary64) : Option Binary64 :=
  let (a, b) := x.magnitude
  let (c, d) := y.magnitude
  let sum : Int := signed x (a * d) + signed y (c * b)
  ofFraction? (if sum = 0 then x.negative && y.negative else sum < 0) sum.natAbs (b * d)
where
  signed (x : Binary64) (n : Nat) : Int := if x.negative then -n else n

/-- The nearest integer, a tie going away from zero. -/
def round? (x : Binary64) : Option Binary64 :=
  let (num, den) := x.magnitude
  ofFraction? x.negative (roundHalfUp num den) 1

/-- The nearest double to a natural number below `2 ^ 1024`. -/
def ofNat (n : Nat) : Binary64 := (ofFraction? false n 1).getD default

/-- A power of ten up to `10 ^ 308`. -/
def tenPow? (k : Nat) : Option Binary64 :=
  if k ≤ 308 then ofFraction? false (Nat.pow 10 k) 1 else none

/-- `significand * 10 ^ exponent` in double arithmetic: the significand is rounded, then multiplied
or divided by a rounded power of ten, for a small exponent after divisions by `10 ^ 308`. None where
a product overflows. -/
def ofDecimal? (negative : Bool) (significand : Nat) (exponent : Int) : Option Binary64 :=
  (scale (exponent.natAbs / 308) (ofNat significand) exponent).map fun x =>
    if negative then x.neg else x
where
  scale (steps : Nat) (x : Binary64) (exponent : Int) : Option Binary64 :=
    match tenPow? exponent.natAbs with
    | some power => if 0 ≤ exponent then x.mul? power else x.div? power
    | none =>
      if x.isZero then some x
      else if 0 ≤ exponent then none
      else
        match steps with
        | 0 => some x
        | steps + 1 => do
          let power ← tenPow? 308
          scale steps (← x.div? power) (exponent + 308)

end Binary64

end Tandem.Number
