import Tandem.Diff.Snake

/-!
The script between two sequences: what they share at both ends is kept, and the middle is split
where the two searches meet.
-/

namespace Tandem.Diff

section
variable {α : Type} [DecidableEq α]

/-- A kept run, if it is not empty. -/
def keepRun (old new length : Nat) : List Edit :=
  if length = 0 then [] else [.keep old new length]

/-- The part of two sequences between their common ends. -/
structure Middle (α : Type) where
  before : Nat
  old : List α
  new : List α
  after : Nat

/-- Cuts the common front, then the common back of what is left. -/
def Middle.of (old new : List α) : Middle α :=
  let before := commonLength old new
  let old := old.drop before
  let new := new.drop before
  let after := commonLength old.reverse new.reverse
  ⟨before, old.take (old.length - after), new.take (new.length - after), after⟩

theorem Middle.length_of_le (old new : List α) :
    (Middle.of old new).old.length ≤ old.length ∧
      (Middle.of old new).new.length ≤ new.length := by
  simp only [Middle.of, List.length_take, List.length_drop]
  omega

/-- A split that leaves something on both of its sides. -/
def properSplit? (old new : List α) : Option (Nat × Nat) :=
  (split? old.toArray new.toArray).filter fun (x, y) =>
    x ≤ old.length ∧ y ≤ new.length ∧ 0 < x + y ∧ x + y < old.length + new.length

theorem properSplit?_some {old new : List α} {x y : Nat} (h : properSplit? old new = some (x, y)) :
    x ≤ old.length ∧ y ≤ new.length ∧ 0 < x + y ∧ x + y < old.length + new.length := by
  obtain ⟨_, h⟩ := Option.filter_eq_some_iff.1 h
  simpa using h

/-- The edits that lead from `old` to `new`, standing at positions `i` and `j`. Where no split is
found, all of `old` is deleted and all of `new` inserted. -/
def script (old new : List α) (i j : Nat) : List Edit :=
  let m := Middle.of old new
  let i' := i + m.before
  let j' := j + m.before
  keepRun i j m.before ++
    (if m.old = [] ∧ m.new = [] then []
    else if m.new = [] then [.delete i' m.old.length j']
    else if m.old = [] then [.insert i' j' m.new.length]
    else
      match _met : properSplit? m.old m.new with
      | some (x, y) =>
        script (m.old.take x) (m.new.take y) i' j' ++
          script (m.old.drop x) (m.new.drop y) (i' + x) (j' + y)
      | none => [.delete i' m.old.length j', .insert i' j' m.new.length]) ++
    keepRun (i' + m.old.length) (j' + m.new.length) m.after
termination_by old.length + new.length
decreasing_by
  all_goals
    have proper := properSplit?_some _met
    have shorter := Middle.length_of_le old new
    simp only [m, List.length_take, List.length_drop] at proper ⊢
    omega

end

end Tandem.Diff
