import Tandem.Proofs.Compare.Report
import Tandem.Proofs.Diff.Similarity

/-!
What the similarity in a report says about the outputs.

It is a hundred percent for outputs that match. It is below for all others as long as the characters
that the diff pairs with none of the other side weigh enough; else two decimals do not show them.
-/

namespace Tandem.Compare

open Tandem.Diff Tandem.Number Tandem.Sandbox

/-- The characters of both outputs. -/
def characters (source target : Record) : Nat :=
  (normalize source.stdout).length + (normalize target.stdout).length

/-- The characters of both outputs that their diff pairs with none of the other. -/
def unpaired (source target : Record) : Nat :=
  unmatched (normalize source.stdout).toList (normalize target.stdout).toList

section
variable {source target : Record}

theorem outputsMatch_iff_unpaired :
    (Report.of source target).outputsMatch = true ↔ unpaired source target = 0 := by
  rw [outputsMatch_iff, unpaired, unmatched_eq_zero_iff, String.toList_inj]

theorem similarity_hundred_iff : (Report.of source target).similarity = .ofNat 100 ↔
    similarityHundredths (normalize source.stdout) (normalize target.stdout) = 10000 :=
  double_hundred_iff _

end

/-- The outputs match if none of their characters is unpaired, and then they are fully similar. Below
`2 ^ 24` characters others are fully similar too just if fewer than one in twenty thousand or so is
unpaired: then two decimals do not show it. So the similarity tells outputs apart that have 20008
characters at most, or one unpaired character in 19000. -/
theorem similarity_separates (source target : Record) :
    ((Report.of source target).outputsMatch = true ↔ unpaired source target = 0) ∧
    ((Report.of source target).outputsMatch = true →
      (Report.of source target).similarity = .ofNat 100) ∧
    (characters source target < 16777216 →
      ((Report.of source target).similarity = .ofNat 100 ↔
        33554432 * unpaired source target ≤ 1677 * characters source target)) ∧
    (characters source target ≤ 20008 ∨
        characters source target ≤ 19000 * unpaired source target →
      ((Report.of source target).similarity = .ofNat 100 ↔
        (Report.of source target).outputsMatch = true)) := by
  have full (found : (Report.of source target).outputsMatch = true) :
      (Report.of source target).similarity = .ofNat 100 :=
    (report_of_same (outputsMatch_iff.1 found)).2.1
  have share (small : characters source target < 16777216) :
      (Report.of source target).similarity = .ofNat 100 ↔
        33554432 * unpaired source target ≤ 1677 * characters source target := by
    by_cases same : normalize source.stdout = normalize target.stdout
    · have none := outputsMatch_iff_unpaired.1 (outputsMatch_iff.2 same)
      rw [none]
      exact ⟨fun _ => Nat.zero_le _, fun _ => full (outputsMatch_iff.2 same)⟩
    · exact similarity_hundred_iff.trans (hundredths_iff same small)
  refine ⟨outputsMatch_iff_unpaired, full, share, ?_⟩
  rintro (short | many)
  · rw [share (by omega), outputsMatch_iff_unpaired]
    omega
  · refine ⟨fun shown => ?_, full⟩
    by_cases same : normalize source.stdout = normalize target.stdout
    · exact outputsMatch_iff.2 same
    · exact absurd (similarity_hundred_iff.1 shown) (hundredths_of_many same many)

end Tandem.Compare
