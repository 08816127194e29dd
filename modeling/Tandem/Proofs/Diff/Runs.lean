import Tandem.Diff.Hunk

/-!
Runs of kept items in an alignment.

* `leading`, `trailing`: the kept items before the first change and after the last one.
* `longRuns`: how many runs of more than so many kept items stand between two changes;
  `longRuns_append` counts them in two parts, and `shortRuns_of_longRuns` says what it means that
  there are none.
-/

namespace Tandem.Diff

variable {α : Type}

namespace Mark

def isKept : Mark α → Bool
  | kept _ => true
  | _ => false

end Mark

/-- No mark is a change. -/
def Quiet (marks : List (Mark α)) : Prop := ∀ mark ∈ marks, mark.isKept = true

/-- Some mark is a change. -/
def Changing (marks : List (Mark α)) : Prop := ∃ mark ∈ marks, mark.isKept = false

/-- Every mark is a change. -/
def Loud (marks : List (Mark α)) : Prop := ∀ mark ∈ marks, mark.isKept = false

instance (marks : List (Mark α)) : Decidable (Changing marks) :=
  decidable_of_iff (marks.any (!·.isKept) = true) (by simp [Changing])

/-- The number of kept items before the first change. -/
def leading (marks : List (Mark α)) : Nat := (marks.takeWhile Mark.isKept).length

/-- The number of kept items after the last change. -/
def trailing (marks : List (Mark α)) : Nat := leading marks.reverse

/-- The number of changes that more than `n` kept items and then another change follow. -/
def longRuns (n : Nat) : List (Mark α) → Nat
  | [] => 0
  | mark :: rest =>
    if mark.isKept = false ∧ n < leading rest ∧ Changing rest then longRuns n rest + 1
    else longRuns n rest

/-- At most `n` kept items stand between a change and the next one. -/
def ShortRuns (n : Nat) (marks : List (Mark α)) : Prop :=
  ∀ before first run last after, marks = before ++ first :: (run ++ last :: after) →
    first.isKept = false → Quiet run → last.isKept = false → run.length ≤ n

section
variable {n : Nat} {mark : Mark α} {marks more run : List (Mark α)}

theorem changing_iff : Changing marks ↔ ¬ Quiet marks := by
  simp [Changing, Quiet]

theorem not_changing_of_quiet (quiet : Quiet run) : ¬ Changing run :=
  fun change => changing_iff.1 change quiet

theorem changing_append : Changing (marks ++ more) ↔ Changing marks ∨ Changing more := by
  simp [Changing, or_and_right, exists_or]

theorem changing_cons : Changing (mark :: marks) ↔ mark.isKept = false ∨ Changing marks := by
  simp [Changing]

theorem changing_reverse : Changing marks.reverse ↔ Changing marks := by
  simp [Changing]

/-! ## Ends -/

theorem leading_quiet_append (quiet : Quiet run) (marks : List (Mark α)) :
    leading (run ++ marks) = run.length + leading marks := by
  rw [leading, List.takeWhile_append_of_pos quiet, List.length_append, leading]

theorem leading_quiet (quiet : Quiet run) : leading run = run.length := by
  simpa [leading] using leading_quiet_append quiet []

theorem leading_change (change : mark.isKept = false) : leading (mark :: marks) = 0 := by
  simp [leading, change]

/-- What follows a change makes no difference to what leads to it. -/
theorem leading_append (change : Changing marks) : leading (marks ++ more) = leading marks := by
  induction marks with
  | nil => simp [Changing] at change
  | cons mark marks ih =>
    cases kept : mark.isKept with
    | false => rw [List.cons_append, leading_change kept, leading_change kept]
    | true =>
      have later : Changing marks := by simpa [changing_cons, kept] using change
      simpa [leading, kept] using ih later

theorem trailing_quiet (quiet : Quiet run) : trailing run = run.length := by
  rw [trailing, leading_quiet (by simpa [Quiet] using quiet), List.length_reverse]

theorem trailing_append_quiet (quiet : Quiet run) (marks : List (Mark α)) :
    trailing (marks ++ run) = trailing marks + run.length := by
  have turned : Quiet run.reverse := by simpa [Quiet] using quiet
  rw [trailing, List.reverse_append, leading_quiet_append turned, List.length_reverse, trailing,
    Nat.add_comm]

theorem trailing_append (change : Changing more) : trailing (marks ++ more) = trailing more := by
  rw [trailing, List.reverse_append, leading_append (changing_reverse.2 change), trailing]

theorem trailing_change (change : mark.isKept = false) :
    trailing (mark :: marks) = trailing marks := by
  by_cases later : Changing marks
  · rw [← List.singleton_append, trailing_append later]
  · have quiet : Quiet marks := by simpa [changing_iff] using later
    have alone : trailing [mark] = 0 := leading_change change
    rw [← List.singleton_append, trailing_append_quiet quiet, trailing_quiet quiet, alone,
      Nat.zero_add]

/-! ## Long runs -/

theorem longRuns_cons_quiet (kept : mark.isKept = true) :
    longRuns n (mark :: marks) = longRuns n marks := by
  simp [longRuns, kept]

theorem longRuns_quiet_append (quiet : Quiet run) (marks : List (Mark α)) :
    longRuns n (run ++ marks) = longRuns n marks := by
  induction run with
  | nil => rfl
  | cons mark run ih =>
    obtain ⟨kept, later⟩ := List.forall_mem_cons.1 quiet
    rw [List.cons_append, longRuns_cons_quiet kept, ih later]

theorem longRuns_quiet (quiet : Quiet run) : longRuns n run = 0 := by
  simpa [longRuns] using longRuns_quiet_append (n := n) quiet []

/-- Two parts have the long runs of both, and one more where what lies between the last change of
the first and the first change of the second is long. -/
theorem longRuns_append (change : Changing marks) (more : List (Mark α)) :
    longRuns n (marks ++ more) = longRuns n marks + longRuns n more +
      if Changing more ∧ n < trailing marks + leading more then 1 else 0 := by
  induction marks with
  | nil => simp [Changing] at change
  | cons mark marks ih =>
    by_cases later : Changing marks
    · have both : Changing (marks ++ more) := changing_append.2 (.inl later)
      have ends : trailing (mark :: marks) = trailing marks := by
        rw [← List.singleton_append, trailing_append later]
      rw [List.cons_append, longRuns, longRuns, leading_append later, ends, ih later]
      simp only [both, later, and_true]
      split <;> omega
    · -- The mark is the only change, so all that follows it is kept up to the second part.
      have quiet : Quiet marks := by simpa [changing_iff] using later
      have alone : mark.isKept = false := (changing_cons.1 change).resolve_right later
      have both : Changing (marks ++ more) ↔ Changing more := by
        simp [changing_append, later]
      rw [List.cons_append, longRuns, longRuns, leading_quiet_append quiet,
        longRuns_quiet_append quiet, trailing_change alone, trailing_quiet quiet,
        longRuns_quiet quiet]
      simp only [alone, both, later, true_and, and_false, if_false]
      by_cases long : Changing more ∧ n < marks.length + leading more
      · rw [if_pos long, if_pos long.symm]
        omega
      · rw [if_neg long, if_neg fun h => long h.symm]
        omega

theorem shortRuns_of_longRuns (none : longRuns n marks = 0) : ShortRuns n marks := by
  intro before first run last after parts change quiet change'
  subst parts
  have ends : Changing (last :: after) := changing_cons.2 (.inl change')
  have rest : Changing (run ++ last :: after) := changing_append.2 (.inr ends)
  have length : leading (run ++ last :: after) = run.length := by
    rw [leading_quiet_append quiet, leading_change change', Nat.add_zero]
  induction before with
  | nil =>
    rw [List.nil_append, longRuns, length] at none
    split at none
    · cases none
    · rename_i short
      exact Nat.le_of_not_lt fun long => short ⟨change, long, rest⟩
  | cons mark before ih =>
    rw [List.cons_append, longRuns] at none
    split at none
    · cases none
    · exact ih none

end

end Tandem.Diff
