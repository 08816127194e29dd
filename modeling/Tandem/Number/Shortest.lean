import Tandem.Number.Binary64

/-!
The shortest decimal text of a double.

`shortest` finds the fewest digits that read back as the number, and of those the nearest to it.
`render` lays them out: always with a point or an exponent, positional from `1e-5` up to below
`1e16`.
-/

namespace Tandem.Number

/-- `digits * 10 ^ exponent`, the digits without a closing zero. -/
structure Decimal where
  digits : Nat
  exponent : Int
deriving DecidableEq, Repr

/-- Drops closing zeros from at most `n` digits. -/
def Decimal.trim (d : Decimal) : Nat → Decimal
  | 0 => d
  | n + 1 => if d.digits ≠ 0 ∧ d.digits % 10 = 0 then Decimal.trim ⟨d.digits / 10, d.exponent + 1⟩ n else d

namespace Binary64

/-- The numbers that round to a double, in quarters of its last place. -/
structure Rounding where
  low : Nat
  high : Nat
  /-- Whether the two ends round to it too. -/
  closed : Bool

/-- Below a power of two the neighbour is twice as near. -/
def rounding (x : Binary64) : Rounding where
  low := 4 * x.mantissa - (if x.mantissa = Nat.pow 2 52 ∧ -1074 < x.exponent then 1 else 2)
  high := 4 * x.mantissa + 2
  closed := x.mantissa % 2 = 0

/-- `c * 10 ^ k` against `q * 2 ^ (e - 2)`, both cleared of denominators. -/
def crossed (c : Nat) (k : Int) (q : Nat) (e : Int) : Nat × Nat :=
  (c * Nat.pow 10 k.toNat * Nat.pow 2 (2 - e).toNat,
    q * Nat.pow 2 (e - 2).toNat * Nat.pow 10 (-k).toNat)

/-- Whether `c * 10 ^ k` rounds to the number. -/
def roundsTo (x : Binary64) (c : Nat) (k : Int) : Bool :=
  let (a, low) := crossed c k x.rounding.low x.exponent
  let (b, high) := crossed c k x.rounding.high x.exponent
  if x.rounding.closed then low ≤ a ∧ b ≤ high else low < a ∧ b < high

/-- The largest `c` with `c * 10 ^ k` at most the number, and whether `c + 1` is nearer. -/
def neighbour (x : Binary64) (k : Int) : Nat × Bool :=
  let (unit, value) := crossed 1 k (4 * x.mantissa) x.exponent
  let c := value / unit
  let r := value % unit
  (c, unit < 2 * r ∨ (unit = 2 * r ∧ c % 2 = 1))

/-- The nearer neighbour on the grid of `10 ^ k` that rounds to the number. -/
def onGrid? (x : Binary64) (k : Int) : Option Decimal :=
  let (c, up) := x.neighbour k
  let (first, second) := if up then (c + 1, c) else (c, c + 1)
  if x.roundsTo first k then some ⟨first, k⟩
  else if x.roundsTo second k then some ⟨second, k⟩
  else none

/-- The exponent of the leading digit. -/
def leadingPlace (x : Binary64) : Int :=
  let (num, den) := x.magnitude
  let guess : Int := ((num.log2 : Int) - den.log2) * 30103 / 100000
  let atLeast (p : Int) : Bool := den * Nat.pow 10 p.toNat ≤ num * Nat.pow 10 (-p).toNat
  let candidates := [guess + 2, guess + 1, guess, guess - 1, guess - 2]
  (candidates.find? atLeast).getD (guess - 3)

/-- The fewest digits that read back as a number other than zero, and the nearest of those. -/
def shortest (x : Binary64) : Decimal :=
  let place := x.leadingPlace
  let found := (List.range 17).findSome? fun (n : Nat) => x.onGrid? (place - n)
  (found.getD ⟨x.mantissa, 0⟩).trim 17

/-- Sign, digits and exponent as text. -/
def render (x : Binary64) : String :=
  let sign := if x.negative then "-" else ""
  if x.isZero then sign ++ "0.0"
  else
    let d := x.shortest
    let digits := Nat.toDigits 10 d.digits
    let zeros (n : Int) : List Char := List.replicate n.toNat '0'
    let point : Int := digits.length + d.exponent
    let body : List Char :=
      if 0 ≤ d.exponent ∧ point ≤ 16 then digits ++ zeros d.exponent ++ ['.', '0']
      else if 0 < point ∧ point ≤ 16 then
        digits.take point.toNat ++ '.' :: digits.drop point.toNat
      else if -5 < point ∧ point ≤ 0 then '0' :: '.' :: zeros (-point) ++ digits
      else
        let fraction := match digits.drop 1 with
          | [] => []
          | rest => '.' :: rest
        let power := point - 1
        digits.take 1 ++ fraction ++ 'e' :: (if 0 ≤ power then '+' else '-') ::
          Nat.toDigits 10 power.natAbs
    sign ++ String.ofList body

end Binary64

end Tandem.Number
