/-!
Edit scripts between two sequences, addressed by position.

A script is a list of edits in order. Every edit names where it stands on both sides, also on the
side it leaves alone; that second position is a record of where the edit was made, and nothing but
a hunk header ever shows it.
-/

namespace Tandem.Diff

/-- The positions from `start` up to but not including `stop`. -/
structure Span where
  start : Nat
  stop : Nat
deriving DecidableEq, Repr

namespace Span

def length (s : Span) : Nat := s.stop - s.start

/-- The items of a sequence that a span names. -/
def slice {α : Type} (s : Span) (items : Array α) : List α :=
  (items.extract s.start s.stop).toList

end Span

inductive Edit where
  /-- `length` items at `old` and at `new` agree. -/
  | keep (old new length : Nat)
  /-- The items from `old` on are missing on the other side. -/
  | delete (old length new : Nat)
  /-- The items from `new` on are missing on this side. -/
  | insert (old new length : Nat)
  /-- A deletion and an insertion at one place. -/
  | replace (old oldLength new newLength : Nat)
deriving DecidableEq, Repr

namespace Edit

def isKeep : Edit → Bool
  | keep .. => true
  | _ => false

def oldSpan : Edit → Span
  | keep old _ n => ⟨old, old + n⟩
  | delete old n _ => ⟨old, old + n⟩
  | insert old _ _ => ⟨old, old⟩
  | replace old n _ _ => ⟨old, old + n⟩

def newSpan : Edit → Span
  | keep _ new n => ⟨new, new + n⟩
  | delete _ _ new => ⟨new, new⟩
  | insert _ new n => ⟨new, new + n⟩
  | replace _ _ new n => ⟨new, new + n⟩

/-- How many items an edit pairs with each other. -/
def kept : Edit → Nat
  | keep _ _ n => n
  | _ => 0

end Edit

/-- The number of leading items that two sequences share. -/
def commonLength {α : Type} [DecidableEq α] : List α → List α → Nat
  | a :: as, b :: bs => if a = b then commonLength as bs + 1 else 0
  | _, _ => 0

section
variable {α : Type} [DecidableEq α]

theorem commonLength_le_left (as bs : List α) : commonLength as bs ≤ as.length := by
  fun_induction commonLength as bs <;> simp_all

theorem commonLength_le_right (as bs : List α) : commonLength as bs ≤ bs.length := by
  fun_induction commonLength as bs <;> simp_all

theorem take_commonLength (as bs : List α) :
    as.take (commonLength as bs) = bs.take (commonLength as bs) := by
  fun_induction commonLength as bs <;> simp_all

end

end Tandem.Diff
