import Tandem.Compare.Report
import Tandem.Proofs.Diff.Changed
import Tandem.Proofs.Text.Lines

/-!
The parts of a report agree with each other.

* `report_of_same`, `report_of_different`: what a report says about outputs that are the same up to
  line ends, and about all others.
* `report_coherent`: outputs match where their lines are the same, and just there nothing differs.
-/

namespace Tandem.Compare

open Tandem.Diff Tandem.Sandbox Tandem.Text

theorem similarity_self (text : String) : similarity text text = .ofNat 100 := by
  rw [similarity, similarityHundredths, if_pos rfl]
  decide +kernel

theorem unified_self (text : String) : unified text text = [] := if_pos rfl

/-- Without changed lines there is nothing to warn of. -/
theorem cosmetics_nothing (source target : String) : cosmetics source target ⟨[], []⟩ = [] := by
  have quiet (warning : Cosmetic) : Cosmetic.applies source target ⟨[], []⟩ warning = false := by
    cases warning <;> rfl
  simp [cosmetics, quiet]

theorem normalize_eq_iff {output output' : String} :
    normalize output = normalize output' ↔
      (Cut.of output.toList).bare = (Cut.of output'.toList).bare := by
  rw [normalize, normalize, String.ofList_inj, unifyNewlines_eq_iff]

section
variable {source target : Record}

theorem outputsMatch_iff : (Report.of source target).outputsMatch = true ↔
    normalize source.stdout = normalize target.stdout := decide_eq_true_iff

/-- Nothing is said about outputs that are the same but what the error output shows. -/
theorem report_of_same (same : normalize source.stdout = normalize target.stdout) :
    (Report.of source target).diffLines = [] ∧
      (Report.of source target).similarity = .ofNat 100 ∧
      (Report.of source target).warnings = migrationGaps target.stderr := by
  have quiet (text : String) : cosmetics text text (.ofUnified []) = [] :=
    cosmetics_nothing text text
  simp only [Report.of, same, unified_self, similarity_self, quiet, List.nil_append, and_self]

/-- The diff of outputs that are not the same shows a line that is not. -/
theorem report_of_different (differ : normalize source.stdout ≠ normalize target.stdout) :
    ∃ front hunk back, (Report.of source target).diffLines =
      ["--- source stdout", "+++ target stdout"] ++ (front ++ hunk ++ back) ∧
      ChangingHunk hunk := by
  rw [Report.of]
  exact unified_changes differ

end

/-- The outputs match if they have the same lines, a carriage return before a line feed not counted.
Just then the diff is empty, and then the similarity is full and all warnings are migration gaps.
Else the diff has its two headers and a hunk that shows a removed or an added line. -/
theorem report_coherent (source target : Record) :
    ((Report.of source target).outputsMatch = true ↔
      (Cut.of source.stdout.toList).bare = (Cut.of target.stdout.toList).bare) ∧
    ((Report.of source target).outputsMatch = true ↔ (Report.of source target).diffLines = []) ∧
    ((Report.of source target).outputsMatch = true →
      (Report.of source target).similarity = .ofNat 100 ∧
        (Report.of source target).warnings = migrationGaps target.stderr) ∧
    ((Report.of source target).outputsMatch = false →
      ∃ front hunk back, (Report.of source target).diffLines =
        ["--- source stdout", "+++ target stdout"] ++ (front ++ hunk ++ back) ∧
        ChangingHunk hunk) := by
  have decides := @outputsMatch_iff source target
  refine ⟨decides.trans normalize_eq_iff, ⟨?_, ?_⟩, ?_, ?_⟩
  · intro found
    exact (report_of_same (decides.1 found)).1
  · intro none
    by_cases same : normalize source.stdout = normalize target.stdout
    · exact decides.2 same
    · obtain ⟨front, hunk, back, diff, -⟩ := report_of_different same
      rw [diff] at none
      cases none
  · intro found
    exact (report_of_same (decides.1 found)).2
  · intro refused
    apply report_of_different
    intro same
    rw [decides.2 same] at refused
    cases refused

end Tandem.Compare
