import Tandem.Proofs.Diff.Layout

/-!
The context that hunks show, and the unchanged lines between them.

* `Layout`: how hunks divide an alignment, with at most `n` kept items at their ends, at most
  `2 * n` between two changes, and the rest left out; `layout_of_laid`.
* `hunks_laid_out`: the diff printed of two different texts shows the alignment of their lines so
  divided, with three lines of context.
-/

namespace Tandem.Diff

open Tandem.Text

/-- The body of a hunk, and the kept items that are left out after it. -/
structure Block (α : Type) where
  shown : List (Mark α)
  hidden : List (Mark α)

def Block.all {α : Type} (b : Block α) : List (Mark α) := b.shown ++ b.hidden

/-- The blocks divide an alignment, up to what is left out before the first of them. -/
structure Layout {α : Type} (n : Nat) (marks before : List (Mark α)) (blocks : List (Block α)) :
    Prop where
  whole : marks = before ++ blocks.flatMap Block.all
  left_out : Quiet before ∧ ∀ b ∈ blocks, Quiet b.hidden
  changing : ∀ b ∈ blocks, Changing b.shown
  leading_le : ∀ b ∈ blocks, leading b.shown ≤ n
  trailing_le : ∀ b ∈ blocks, trailing b.shown ≤ n
  between : ∀ b ∈ blocks, ShortRuns (2 * n) b.shown
  /-- Only the first block can have less before its first change, where nothing is left out. -/
  opens : ∀ front b back, blocks = front ++ b :: back → leading b.shown < n →
    before = [] ∧ front = []
  /-- Only the last block can have less after its last change. -/
  closes : ∀ front b back, blocks = front ++ b :: back → trailing b.shown < n →
    b.hidden = [] ∧ back = []
  /-- Something is left out between a block and the next. -/
  apart : ∀ front b back, blocks = front ++ b :: back → back ≠ [] → b.hidden ≠ []

section
variable {α : Type} {n : Nat} {marks before shown hidden : List (Mark α)}

theorem eq_of_singleton_eq {β : Type} {item b : β} {front back : List β}
    (h : [item] = front ++ b :: back) : front = [] ∧ b = item ∧ back = [] := by
  cases front with
  | nil =>
    obtain ⟨same, none⟩ := List.cons.inj h
    exact ⟨rfl, same.symm, none.symm⟩
  | cons c front =>
    obtain ⟨-, none⟩ := List.cons.inj h
    simp at none

/-- A block that kept items stand before, and nothing after. -/
theorem layout_single (quiet : Quiet before) (quiet' : Quiet hidden) (change : Changing shown)
    (few : longRuns (2 * n) shown = 0) (near : leading shown ≤ n) (ends : trailing shown ≤ n)
    (whole : leading shown < n → before = []) (whole' : trailing shown < n → hidden = []) :
    Layout n (before ++ (shown ++ hidden)) before [⟨shown, hidden⟩] where
  whole := by simp [Block.all]
  left_out := ⟨quiet, by simpa using quiet'⟩
  changing := by simpa using change
  leading_le := by simpa using near
  trailing_le := by simpa using ends
  between := by simpa using shortRuns_of_longRuns few
  opens := by
    intro front b back parts less
    obtain ⟨rfl, rfl, rfl⟩ := eq_of_singleton_eq parts
    exact ⟨whole less, rfl⟩
  closes := by
    intro front b back parts less
    obtain ⟨rfl, rfl, rfl⟩ := eq_of_singleton_eq parts
    exact ⟨whole' less, rfl⟩
  apart := by
    intro front b back parts more
    obtain ⟨rfl, rfl, rfl⟩ := eq_of_singleton_eq parts
    exact absurd rfl more

/-- A block before others, with something left out between it and the first of them. -/
theorem layout_cons {blocks : List (Block α)} (rest : Layout n (hidden ++ marks) hidden blocks)
    (quiet : Quiet before) (change : Changing shown) (few : longRuns (2 * n) shown = 0)
    (near : leading shown ≤ n) (ends : trailing shown = n)
    (whole : leading shown < n → before = []) (some : hidden ≠ []) :
    Layout n (before ++ (shown ++ (hidden ++ marks))) before (⟨shown, hidden⟩ :: blocks) where
  whole := by
    have later := List.append_cancel_left rest.whole
    rw [List.flatMap_cons, ← later, Block.all, List.append_assoc]
  left_out := ⟨quiet, List.forall_mem_cons.2 ⟨rest.left_out.1, rest.left_out.2⟩⟩
  changing := List.forall_mem_cons.2 ⟨change, rest.changing⟩
  leading_le := List.forall_mem_cons.2 ⟨near, rest.leading_le⟩
  trailing_le := List.forall_mem_cons.2 ⟨Nat.le_of_eq ends, rest.trailing_le⟩
  between := List.forall_mem_cons.2 ⟨shortRuns_of_longRuns few, rest.between⟩
  opens := by
    intro front b back parts less
    cases front with
    | nil =>
      obtain ⟨rfl, -⟩ := List.cons.inj parts
      exact ⟨whole less, rfl⟩
    | cons _ front =>
      obtain ⟨-, parts⟩ := List.cons.inj parts
      exact absurd (rest.opens front b back parts less).1 some
  closes := by
    intro front b back parts less
    cases front with
    | nil =>
      obtain ⟨rfl, -⟩ := List.cons.inj parts
      exact absurd less (by simp [ends])
    | cons _ front => exact rest.closes front b back (List.cons.inj parts).2 less
  apart := by
    intro front b back parts more
    cases front with
    | nil =>
      obtain ⟨rfl, -⟩ := List.cons.inj parts
      exact some
    | cons _ front => exact rest.apart front b back (List.cons.inj parts).2 more

/-- Bodies that lie along an alignment divide it, kept items before it included. -/
theorem layout_of_laid {first : List (Mark α)} {more : List (List (Mark α))}
    (h : Laid n marks first more) (quiet : Quiet before) (change : Changing first)
    (near : leading first ≤ n) (whole : leading first < n → before = []) :
    ∃ blocks, Layout n (before ++ marks) before blocks ∧
      blocks.map Block.shown = first :: more := by
  induction h generalizing before with
  | @last shown hidden few _ ends whole' quiet' =>
    exact ⟨_, layout_single quiet quiet' change few near ends whole whole', rfl⟩
  | @next shown hidden marks second more few _ ends quiet' some change' begins _ ih =>
    obtain ⟨blocks, rest, bodies⟩ := ih quiet' change' (Nat.le_of_eq begins) (by simp [begins])
    exact ⟨_, layout_cons rest quiet change few near ends whole some, by simp [bodies]⟩

/-- Where the first body shows a change near its start, there is one body more than there are long
runs. -/
theorem length_of_begun {first : List (Mark α)} {more : List (List (Mark α))}
    (h : Laid n marks first more) (quiet : Quiet before) (change : Changing first)
    (near : leading first ≤ n) : more.length = longRuns (2 * n) (before ++ marks) := by
  obtain ⟨rest, rfl⟩ := laid_begins h
  have start : leading (first ++ rest) = leading first := leading_append change
  have counted := length_of_laid h
  rw [if_neg (by omega)] at counted
  rw [longRuns_quiet_append quiet, counted, Nat.add_zero]

/-- An alignment without a change pairs equal sequences. -/
theorem same_of_quiet (quiet : Quiet marks) :
    marks.filterMap Mark.before? = marks.filterMap Mark.after? := by
  induction marks with
  | nil => rfl
  | cons mark marks ih =>
    obtain ⟨here, later⟩ := List.forall_mem_cons.1 quiet
    cases mark with
    | kept item => exact congrArg (item :: ·) (ih later)
    | removed | added => cases here

end

section
variable {α : Type}

theorem changing_of_ne [DecidableEq α] {old new : List α} (differ : old ≠ new) :
    Changing (alignment old new (edits old new)) := by
  rw [changing_iff]
  intro quiet
  obtain ⟨before, after⟩ := sides_of_leads (edits_leads old new)
  exact differ (before.symm.trans ((same_of_quiet quiet).trans after))

/-- The bodies of hunks are the alignments of their groups. -/
theorem bodies_of_groups {old new : List α} {gs : List (List Edit)}
    (changing : ∀ group ∈ gs, Changing (alignment old new group)) :
    (gs.filterMap (Hunk.ofGroup? old.toArray new.toArray)).map Hunk.body =
      gs.map (alignment old new) := by
  induction gs with
  | nil => rfl
  | cons group more ih =>
    obtain ⟨here, later⟩ := List.forall_mem_cons.1 changing
    cases group with
    | nil =>
      obtain ⟨mark, member, -⟩ := here
      cases member
    | cons e es =>
      simp only [List.filterMap_cons, Hunk.ofGroup?, List.head?_cons, List.getLast?_cons,
        List.map_cons, ih later]
      rfl

end

/-- The alignment of the lines of two texts. -/
def lineAlignment (old new : String) : List (Mark (List Char)) :=
  alignment (pieces old.toList) (pieces new.toList) (lineEdits old new)

/-- What a section shows of a block: its items as lines, each under its own mark. -/
def Block.body (b : Block (List Char)) : List (Mark String) := b.shown.map (Mark.map line)

/-- The sections of a diff have the bodies of its hunks, as lines. -/
theorem body_sections {old new : String} {blocks : List (Block (List Char))}
    (bodies : (hunks (pieces old.toList) (pieces new.toList)).map Hunk.body =
      blocks.map Block.shown) :
    (sections old new).map Section.body = blocks.map Block.body := by
  have lines := congrArg (List.map (List.map (Mark.map line))) bodies
  rw [List.map_map, List.map_map] at lines
  rw [sections, List.map_map]
  exact lines

/-- The diff printed of two different texts is its two file headers and then sections, each a header
and the lines of a block under their signs, and the blocks divide the alignment of the lines of both
texts. Each shows a change, at most three unchanged lines before its first one and after its last
one, and at most six between two of them; fewer than three only where one end of both texts is
reached. At least one unchanged line is left out between a block and the next, and there is one
block more than there are runs of more than six unchanged lines between two changes. -/
theorem hunks_laid_out (old new : String) (differ : old ≠ new) :
    (lineAlignment old new).filterMap Mark.before? = pieces old.toList ∧
    (lineAlignment old new).filterMap Mark.after? = pieces new.toList ∧
    unified old new =
      ["--- source stdout", "+++ target stdout"] ++ (sections old new).flatMap Section.lines ∧
    ∃ (before : List (Mark (List Char))) (blocks : List (Block (List Char))),
      (sections old new).map Section.body = blocks.map Block.body ∧
      Layout 3 (lineAlignment old new) before blocks ∧
      blocks.length = longRuns 6 (lineAlignment old new) + 1 := by
  have change := changing_of_ne (pieces_ne differ)
  have fits := fits_of_leads (lineEdits_leads old new) (Nat.le_refl _) (Nat.le_refl _)
  have parted : Parted (lineEdits old new) := join_parted _
  obtain ⟨before, marks, first, more, whole, quiet, groups, laid, changing, near, opens⟩ :=
    groups_laid (n := contextLength) parted fits change
  have whole : lineAlignment old new = before ++ marks := whole
  obtain ⟨blocks, layout, shown⟩ := layout_of_laid laid quiet changing near opens
  have bodies : (hunks (pieces old.toList) (pieces new.toList)).map Hunk.body =
      blocks.map Block.shown := by
    rw [shown, ← groups]
    apply bodies_of_groups
    intro group member
    have found : alignment (pieces old.toList) (pieces new.toList) group ∈ first :: more :=
      groups ▸ List.mem_map_of_mem member
    exact List.forall_mem_cons.2 ⟨changing, changing_of_laid laid⟩ _ found
  obtain ⟨sideBefore, sideAfter⟩ := sides_of_leads (lineEdits_leads old new)
  refine ⟨sideBefore, sideAfter, unified_eq differ, before, blocks, body_sections bodies, ?_, ?_⟩
  · rwa [whole]
  · have counted : more.length = longRuns 6 (before ++ marks) :=
      length_of_begun laid quiet changing near
    rw [whole, ← counted, ← List.length_cons, ← shown, List.length_map]

/-- A hunk that begins and ends with a change, at the ends of both texts, with one unchanged line in
it. -/
theorem hunks_laid_out_stale : "b\na\n" ≠ "a\na\n" ∧
    lineAlignment "b\na\n" "a\na\n" =
      [.removed ['b', '\n'], .kept ['a', '\n'], .added ['a', '\n']] ∧
    unified "b\na\n" "a\na\n" =
      ["--- source stdout", "+++ target stdout"] ++
        (sections "b\na\n" "a\na\n").flatMap Section.lines ∧
    ∃ (before : List (Mark (List Char))) (blocks : List (Block (List Char))),
      (sections "b\na\n" "a\na\n").map Section.body = blocks.map Block.body ∧
      Layout 3 (lineAlignment "b\na\n" "a\na\n") before blocks ∧ blocks.length = 1 := by
  have differ : "b\na\n" ≠ "a\na\n" := by decide
  have found : lineEdits "b\na\n" "a\na\n" = [.delete 0 1 1, .keep 1 0 1, .insert 1 1 1] :=
    edits_pair (a := ['a', '\n']) (b := ['b', '\n']) (by decide)
  have marks : lineAlignment "b\na\n" "a\na\n" =
      [.removed ['b', '\n'], .kept ['a', '\n'], .added ['a', '\n']] := by
    rw [lineAlignment, found]
    decide
  obtain ⟨-, -, output, before, blocks, bodies, layout, count⟩ := hunks_laid_out _ _ differ
  have single : longRuns 6 (lineAlignment "b\na\n" "a\na\n") = 0 := by
    rw [marks]
    decide
  rw [single] at count
  exact ⟨differ, marks, output, before, blocks, bodies, layout, count⟩

end Tandem.Diff
