import Tandem.Diff.Compaction
import Tandem.Number.Binary64

/-!
How alike two texts are: twice the characters that their diff keeps over all characters of both, as
a percentage with two decimals.
-/

namespace Tandem.Diff

open Tandem.Number

/-- The items that the diff of two sequences keeps. -/
def keptLength {α : Type} [DecidableEq α] (old new : List α) : Nat :=
  (edits old new).foldr (fun e n => e.kept + n) 0

/-- `m * 2 ^ e` as a fraction. -/
def dyadicFraction (x : Nat × Int) : Nat × Nat :=
  if 0 ≤ x.2 then (x.1 * Nat.pow 2 x.2.toNat, 1) else (x.1, Nat.pow 2 (-x.2).toNat)

/-- A quotient in single precision, as a fraction. -/
def single (num den : Nat) : Nat × Nat :=
  dyadicFraction (nearestDyadic 24 (-149) num den)

/-- Hundredths of a percent in `2 * kept / total`, the quotient taken in single precision. -/
def ratioHundredths (kept total : Nat) : Nat :=
  let part := single kept 1
  let whole := single total 1
  let ratio := single (2 * part.1 * whole.2) (part.2 * whole.1)
  roundHalfUp (10000 * ratio.1) ratio.2

/-- The similarity of two texts in hundredths of a percent. -/
def similarityHundredths (old new : String) : Nat :=
  if old = new then 10000
  else
    ratioHundredths (keptLength old.toList new.toList) (old.length + new.length)

/-- The similarity of two texts in percent. -/
def similarity (old new : String) : Binary64 :=
  (Binary64.ofFraction? false (similarityHundredths old new) 100).getD default

end Tandem.Diff
