import Tandem.Diff.Unified
import Tandem.Proofs.Diff.Settling

/-!
Sections of a unified diff and how to read them as a patch.

* `Range.span`: the slice of a side that a header names.
* `ExactPatch`: the headers name what the bodies show, the sections stand in order, nothing outside
  them changes, and the patch carries either text to the other.
* `Chained`: sections that stand one after the other with equal lines around them;
  `chained_exact` makes an exact patch of them.
-/

namespace Tandem.Diff

/-- What a hunk header says of one side. -/
structure Range where
  line : Nat
  length : Option Nat
deriving DecidableEq, Repr

namespace Range

def text : Range → String
  | ⟨line, none⟩ => s!"{line}"
  | ⟨line, some n⟩ => s!"{line},{n}"

/-- Lines count from 1. A missing length means 1, and length 0 the empty slice after the line. -/
def span : Range → Span
  | ⟨line, none⟩ => ⟨line - 1, line - 1 + 1⟩
  | ⟨line, some 0⟩ => ⟨line, line⟩
  | ⟨line, some n⟩ => ⟨line - 1, line - 1 + n⟩

end Range

/-- The range that the header of a span shows. -/
def Span.range (s : Span) : Range :=
  match s.length with
  | 0 => ⟨s.start, some 0⟩
  | 1 => ⟨s.start + 1, none⟩
  | n => ⟨s.start + 1, some n⟩

theorem text_range (s : Span) : s.range.text = s.header := by
  unfold Span.range Span.header
  generalize s.length = n
  match n with
  | 0 => exact String.append_assoc
  | 1 => rfl
  | n + 2 => rfl

theorem span_range (s : Span) : s.range.span = ⟨s.start, s.start + s.length⟩ := by
  unfold Span.range
  generalize s.length = n
  match n with
  | 0 => rfl
  | 1 => rfl
  | n + 2 => rfl

namespace Mark
variable {α β : Type}

def map (f : α → β) : Mark α → Mark β
  | kept item => kept (f item)
  | removed item => removed (f item)
  | added item => added (f item)

def before? : Mark α → Option α
  | kept item => some item
  | removed item => some item
  | added _ => none

def after? : Mark α → Option α
  | kept item => some item
  | removed _ => none
  | added item => some item

def reversed : Mark α → Mark α
  | kept item => kept item
  | removed item => added item
  | added item => removed item

/-- A line of a body, under its sign. -/
def line : Mark String → String
  | kept text => .ofList (' ' :: text.toList)
  | removed text => .ofList ('-' :: text.toList)
  | added text => .ofList ('+' :: text.toList)

end Mark

/-- A hunk as it is read: two ranges and signed lines. -/
structure Section where
  old : Range
  new : Range
  body : List (Mark String)
deriving DecidableEq, Repr

namespace Section

def lines (s : Section) : List String :=
  s!"@@ -{s.old.text} +{s.new.text} @@" :: s.body.map Mark.line

/-- The lines with the signs ` ` and `-`. -/
def before (s : Section) : List String := s.body.filterMap Mark.before?

/-- The lines with the signs ` ` and `+`. -/
def after (s : Section) : List String := s.body.filterMap Mark.after?

def reversed (s : Section) : Section := ⟨s.new, s.old, s.body.map Mark.reversed⟩

end Section

/-- The text after a patch, from the line `i` on. A section that does not stand where its header says
is refused. -/
def applied? (i : Nat) : List Section → List String → Option (List String)
  | [], lines => some (lines.drop i)
  | s :: more, lines =>
    if i ≤ s.old.span.start ∧ s.old.span.slice lines.toArray = s.before then
      (applied? s.old.span.stop more lines).map fun rest =>
        Span.slice ⟨i, s.old.span.start⟩ lines.toArray ++ s.after ++ rest
    else none

/-- The spans of a side before, between and after these. -/
def outside (i : Nat) : List Span → Nat → List Span
  | [], n => [⟨i, n⟩]
  | s :: more, n => ⟨i, s.start⟩ :: outside s.stop more n

/-- These lines are exactly what the span names. -/
def Span.Names (s : Span) (lines part : List String) : Prop :=
  s.stop ≤ lines.length ∧ s.slice lines.toArray = part

/-- The sections are an exact patch between two texts. -/
structure ExactPatch (sections : List Section) (old new : List String) : Prop where
  before : ∀ s ∈ sections, s.old.span.Names old s.before
  after : ∀ s ∈ sections, s.new.span.Names new s.after
  ordered : sections.Pairwise fun s t =>
    s.old.span.stop ≤ t.old.span.start ∧ s.new.span.stop ≤ t.new.span.start
  around : (outside 0 (sections.map (·.old.span)) old.length).map (·.slice old.toArray) =
    (outside 0 (sections.map (·.new.span)) new.length).map (·.slice new.toArray)
  applies : applied? 0 sections old = some new
  reverts : applied? 0 (sections.map Section.reversed) new = some old

/-! ## Sections in a chain -/

/-- Sections that stand one after the other from the places `i` and `j` on, with nothing but equal
lines around them. -/
def Chained (old new : List String) (i j : Nat) : List Section → Prop
  | [] => ∃ g, Agree old new i j g ∧ i + g = old.length ∧ j + g = new.length
  | s :: more =>
    ∃ g, Agree old new i j g ∧ s.old.span.start = i + g ∧ s.new.span.start = j + g ∧
      s.old.span.Names old s.before ∧ s.new.span.Names new s.after ∧
      Chained old new s.old.span.stop s.new.span.stop more

theorem span_le (r : Range) : r.span.start ≤ r.span.stop := by
  fun_cases Range.span r <;> simp

theorem slice_of_agree {α : Type} {old new : List α} {i j g : Nat} (h : Agree old new i j g) :
    Span.slice ⟨i, i + g⟩ old.toArray = Span.slice ⟨j, j + g⟩ new.toArray := by
  rw [slice_toArray, slice_toArray]
  apply List.ext_getElem?
  intro k
  simp only [Span.length, Nat.add_sub_cancel_left, List.getElem?_take, List.getElem?_drop]
  split
  · rename_i inside
    exact h k inside
  · rfl

theorem slice_append_drop {α : Type} (items : List α) {i k : Nat} (h : i ≤ k) :
    Span.slice ⟨i, k⟩ items.toArray ++ items.drop k = items.drop i := by
  rw [slice_toArray]
  have rest : items.drop k = (items.drop i).drop (k - i) := by
    rw [List.drop_drop]
    congr 1
    omega
  rw [rest]
  exact List.take_append_drop _ _

theorem slice_eq_drop {α : Type} (items : List α) (i : Nat) :
    Span.slice ⟨i, items.length⟩ items.toArray = items.drop i := by
  rw [slice_toArray]
  exact List.take_of_length_le (by simp [Span.length])

theorem slice_whole {α : Type} (items : List α) :
    Span.slice ⟨0, items.length⟩ items.toArray = items :=
  slice_eq_drop items 0

section
variable {old new : List String}

theorem chained_ge {i j : Nat} {sections : List Section} (h : Chained old new i j sections) :
    ∀ s ∈ sections, i ≤ s.old.span.start ∧ j ≤ s.new.span.start := by
  induction sections generalizing i j with
  | nil => simp
  | cons s more ih =>
    obtain ⟨g, -, hi, hj, -, -, rest⟩ := h
    intro t ht
    rcases List.mem_cons.1 ht with rfl | ht
    · omega
    · have later := ih rest t ht
      have oldSpan := span_le s.old
      have newSpan := span_le s.new
      omega

theorem chained_names {i j : Nat} {sections : List Section} (h : Chained old new i j sections) :
    ∀ s ∈ sections, s.old.span.Names old s.before ∧ s.new.span.Names new s.after := by
  induction sections generalizing i j with
  | nil => simp
  | cons s more ih =>
    obtain ⟨g, -, -, -, before, after, rest⟩ := h
    exact List.forall_mem_cons.2 ⟨⟨before, after⟩, ih rest⟩

theorem chained_ordered {i j : Nat} {sections : List Section} (h : Chained old new i j sections) :
    sections.Pairwise fun s t =>
      s.old.span.stop ≤ t.old.span.start ∧ s.new.span.stop ≤ t.new.span.start := by
  induction sections generalizing i j with
  | nil => exact .nil
  | cons s more ih =>
    obtain ⟨g, -, -, -, -, -, rest⟩ := h
    exact .cons (chained_ge rest) (ih rest)

theorem chained_around {i j : Nat} {sections : List Section} (h : Chained old new i j sections) :
    (outside i (sections.map (·.old.span)) old.length).map (·.slice old.toArray) =
      (outside j (sections.map (·.new.span)) new.length).map (·.slice new.toArray) := by
  induction sections generalizing i j with
  | nil =>
    obtain ⟨g, gap, hi, hj⟩ := h
    simp only [List.map_nil, outside, List.map_cons]
    rw [← hi, ← hj, slice_of_agree gap]
  | cons s more ih =>
    obtain ⟨g, gap, hi, hj, -, -, rest⟩ := h
    simp only [List.map_cons, outside]
    rw [ih rest, hi, hj, slice_of_agree gap]

theorem chained_applied {i j : Nat} {sections : List Section} (h : Chained old new i j sections) :
    applied? i sections old = some (new.drop j) := by
  induction sections generalizing i j with
  | nil =>
    obtain ⟨g, gap, hi, hj⟩ := h
    have same := slice_of_agree gap
    rw [hi, hj, slice_eq_drop, slice_eq_drop] at same
    rw [applied?, same]
  | cons s more ih =>
    obtain ⟨g, gap, hi, hj, before, after, rest⟩ := h
    have stands : i ≤ s.old.span.start ∧ s.old.span.slice old.toArray = s.before :=
      ⟨by omega, before.2⟩
    have lead : Span.slice ⟨i, s.old.span.start⟩ old.toArray =
        Span.slice ⟨j, s.new.span.start⟩ new.toArray := by
      rw [hi, hj]
      exact slice_of_agree gap
    rw [applied?, if_pos stands, ih rest, Option.map_some, lead, ← after.2, List.append_assoc,
      slice_append_drop new (span_le s.new), slice_append_drop new (by omega)]

theorem agree_symm {i j g : Nat} (h : Agree old new i j g) : Agree new old j i g :=
  fun k hk => (h k hk).symm

theorem before_reversed (s : Section) : s.reversed.before = s.after := by
  simp only [Section.before, Section.after, Section.reversed, List.filterMap_map]
  congr 1
  funext mark
  cases mark <;> rfl

theorem after_reversed (s : Section) : s.reversed.after = s.before := by
  simp only [Section.before, Section.after, Section.reversed, List.filterMap_map]
  congr 1
  funext mark
  cases mark <;> rfl

theorem chained_reversed {i j : Nat} {sections : List Section} (h : Chained old new i j sections) :
    Chained new old j i (sections.map Section.reversed) := by
  induction sections generalizing i j with
  | nil =>
    obtain ⟨g, gap, hi, hj⟩ := h
    exact ⟨g, agree_symm gap, hj, hi⟩
  | cons s more ih =>
    obtain ⟨g, gap, hi, hj, before, after, rest⟩ := h
    refine ⟨g, agree_symm gap, hj, hi, ?_, ?_, ih rest⟩
    · rw [before_reversed]
      exact after
    · rw [after_reversed]
      exact before

/-- Sections in a chain over two whole texts are an exact patch between them. -/
theorem chained_exact {sections : List Section} (h : Chained old new 0 0 sections) :
    ExactPatch sections old new where
  before := fun s hs => (chained_names h s hs).1
  after := fun s hs => (chained_names h s hs).2
  ordered := chained_ordered h
  around := chained_around h
  applies := chained_applied h
  reverts := chained_applied (chained_reversed h)

end

end Tandem.Diff
