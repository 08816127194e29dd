import Tandem.Proofs.Diff.Grouping
import Tandem.Proofs.Diff.Section
import Tandem.Proofs.Text.Digits

/-!
The unified diff as a patch.

* `covers_chained`: the bodies of the hunks, under the ranges that they really span, are sections in a
  chain.
* `unified_exact_iff`: the headers are right just where the first edit of the script stands at the
  start of both texts and the last one stops at their ends. The place that an edit records on the
  side that it leaves alone can be out of date, and a hunk that begins or ends with that edit names
  it.
-/

namespace Tandem.Diff

open Tandem.Text

/-- A piece as a diff shows it, without its final line feed. -/
def line (piece : List Char) : String := .ofList (chomp piece)

def shown (text : String) : List String :=
  (pieces text.toList).map line

def Hunk.section (h : Hunk (List Char)) : Section :=
  ⟨h.old.range, h.new.range, h.body.map (Mark.map line)⟩

/-- The sections of the unified diff of two texts. -/
def sections (old new : String) : List Section :=
  (hunks (pieces old.toList) (pieces new.toList)).map Hunk.section

/-- The edits between the lines of two texts. -/
def lineEdits (old new : String) : List Edit :=
  edits (pieces old.toList) (pieces new.toList)

/-- The edits stand in order on both sides without a gap, and kept items are equal. -/
def Aligned {α : Type} (old new : List α) (i j : Nat) : List Edit → Nat → Nat → Prop
  | [], i', j' => i = i' ∧ j = j'
  | e :: es, i', j' =>
    e.oldSpan.start = i ∧ e.newSpan.start = j ∧ Agree old new i j e.kept ∧
      Aligned old new e.oldSpan.stop e.newSpan.stop es i' j'

/-! ## Bodies -/

theorem slice_map {α β : Type} (f : α → β) (s : Span) (items : List α) :
    s.slice (items.map f).toArray = (s.slice items.toArray).map f := by
  rw [slice_toArray, slice_toArray, List.map_take, List.map_drop]

theorem agree_map {α β : Type} (f : α → β) {old new : List α} {i j n : Nat}
    (h : Agree old new i j n) : Agree (old.map f) (new.map f) i j n := by
  intro k hk
  rw [List.getElem?_map, List.getElem?_map, h k hk]

theorem before_map {α β : Type} (f : α → β) (marks : List (Mark α)) :
    (marks.map (Mark.map f)).filterMap Mark.before? = (marks.filterMap Mark.before?).map f := by
  rw [List.filterMap_map, List.map_filterMap]
  congr 1
  funext mark
  cases mark <;> rfl

theorem after_map {α β : Type} (f : α → β) (marks : List (Mark α)) :
    (marks.map (Mark.map f)).filterMap Mark.after? = (marks.filterMap Mark.after?).map f := by
  rw [List.filterMap_map, List.map_filterMap]
  congr 1
  funext mark
  cases mark <;> rfl

section
variable {α : Type} {old new : List α}

theorem slice_append (items : List α) {i x k : Nat} (hx : i ≤ x) (hk : x ≤ k) :
    Span.slice ⟨i, x⟩ items.toArray ++ Span.slice ⟨x, k⟩ items.toArray =
      Span.slice ⟨i, k⟩ items.toArray := by
  simp only [slice_toArray, Span.length]
  have rest : items.drop x = (items.drop i).drop (x - i) := by
    rw [List.drop_drop]
    congr 1
    omega
  rw [rest, ← List.take_add]
  congr 1
  omega

theorem slice_nothing (items : List α) (i : Nat) : Span.slice ⟨i, i⟩ items.toArray = [] := by
  rw [slice_toArray]
  simp [Span.length]

theorem filterMap_kept (items : List α) :
    (items.map Mark.kept).filterMap Mark.before? = items ∧
      (items.map Mark.kept).filterMap Mark.after? = items := by
  constructor <;> exact (List.filterMap_map ..).trans List.filterMap_some

theorem filterMap_changed (gone here : List α) :
    (gone.map Mark.removed ++ here.map Mark.added).filterMap Mark.before? = gone ∧
      (gone.map Mark.removed ++ here.map Mark.added).filterMap Mark.after? = here := by
  induction gone with
  | nil =>
    induction here with
    | nil => exact ⟨rfl, rfl⟩
    | cons item here ih => exact ⟨ih.1, congrArg (item :: ·) ih.2⟩
  | cons item gone ih => exact ⟨congrArg (item :: ·) ih.1, ih.2⟩

/-- The body of an edit shows what the edit takes. -/
theorem marks_of_stands [DecidableEq α] {i j : Nat} {e : Edit} (h : e.Stands old new i j) :
    (e.marks old.toArray new.toArray).filterMap Mark.before? =
        Span.slice ⟨i, i + e.oldSpan.length⟩ old.toArray ∧
      (e.marks old.toArray new.toArray).filterMap Mark.after? =
        Span.slice ⟨j, j + e.newSpan.length⟩ new.toArray := by
  cases e with
  | keep o m n =>
    obtain ⟨rfl, rfl, -, kept⟩ := h
    rw [length_oldSpan_keep, length_newSpan_keep, ← slice_of_agree kept]
    exact filterMap_kept _
  | delete o n m =>
    obtain ⟨rfl, -⟩ := h
    rw [length_oldSpan_delete, length_newSpan_delete, Nat.add_zero, slice_nothing,
      ← slice_nothing new m]
    exact filterMap_changed _ _
  | insert o m n =>
    obtain ⟨rfl, -⟩ := h
    rw [length_oldSpan_insert, length_newSpan_insert, Nat.add_zero, slice_nothing,
      ← slice_nothing old o]
    exact filterMap_changed _ _
  | replace o n m k =>
    obtain ⟨rfl, rfl, -, -⟩ := h
    rw [length_oldSpan_replace, length_newSpan_replace]
    exact filterMap_changed _ _

/-- The body of a group shows the stretches that the group leads along. -/
theorem marks_of_leads [DecidableEq α] {i j i' j' : Nat} {es : List Edit}
    (h : Leads old new i j es i' j') :
    (es.flatMap (Edit.marks old.toArray new.toArray)).filterMap Mark.before? =
        Span.slice ⟨i, i'⟩ old.toArray ∧
      (es.flatMap (Edit.marks old.toArray new.toArray)).filterMap Mark.after? =
        Span.slice ⟨j, j'⟩ new.toArray := by
  induction es generalizing i j with
  | nil =>
    obtain ⟨rfl, rfl⟩ := h
    rw [slice_nothing, slice_nothing]
    exact ⟨rfl, rfl⟩
  | cons e es ih =>
    obtain ⟨stands, rest⟩ := h
    have here := marks_of_stands stands
    have later := ih rest
    have within := leads_le rest
    rw [List.flatMap_cons, List.filterMap_append, List.filterMap_append, here.1, here.2, later.1,
      later.2]
    exact ⟨slice_append old (Nat.le_add_right ..) within.1,
      slice_append new (Nat.le_add_right ..) within.2⟩

/-- A script that leads along both sequences shows the whole of them. -/
theorem sides_of_leads [DecidableEq α] {es : List Edit}
    (h : Leads old new 0 0 es old.length new.length) :
    (es.flatMap (Edit.marks old.toArray new.toArray)).filterMap Mark.before? = old ∧
      (es.flatMap (Edit.marks old.toArray new.toArray)).filterMap Mark.after? = new := by
  obtain ⟨before, after⟩ := marks_of_leads h
  exact ⟨before.trans (slice_whole old), after.trans (slice_whole new)⟩

end

/-! ## Sections -/

theorem span_range_of_le {i x : Nat} (h : i ≤ x) : (Span.mk i x).range.span = ⟨i, x⟩ := by
  rw [span_range]
  simp only [Span.length, Span.mk.injEq, true_and]
  omega

theorem chained_after_gap {old new : List String} {i j g : Nat} {sections : List Section}
    (h : Agree old new i j g) (rest : Chained old new (i + g) (j + g) sections) :
    Chained old new i j sections := by
  cases sections with
  | nil =>
    obtain ⟨g', h', hi, hj⟩ := rest
    exact ⟨g + g', agree_add h h', by omega, by omega⟩
  | cons s more =>
    obtain ⟨g', h', hi, hj, rest⟩ := rest
    exact ⟨g + g', agree_add h h', by omega, by omega, rest⟩

theorem closes_getLast? {i j : Nat} {es : List Edit} {e : Edit} (h : Closes i j es)
    (last : es.getLast? = some e) : e.oldSpan.stop = i ∧ e.newSpan.stop = j := by
  fun_induction Closes i j es with
  | case1 => simp at last
  | case2 only =>
    obtain rfl : only = e := by simpa using last
    exact h
  | case3 a b es ih => exact ih h (by simpa using last)

section
variable {settled : Prop} {old new : List (List Char)}

/-- The section that really shows a stretch of both texts. -/
def exactSection (old new : List (List Char)) (i x j y : Nat) (group : List Edit) : Section :=
  (Hunk.mk ⟨i, x⟩ ⟨j, y⟩ (group.flatMap (Edit.marks old.toArray new.toArray))).section

theorem exactSection_spans (old new : List (List Char)) {i x j y : Nat} (hx : i ≤ x) (hy : j ≤ y)
    (group : List Edit) :
    (exactSection old new i x j y group).old.span = ⟨i, x⟩ ∧
      (exactSection old new i x j y group).new.span = ⟨j, y⟩ :=
  ⟨span_range_of_le hx, span_range_of_le hy⟩

theorem exactSection_names {i x j y : Nat} {group : List Edit} (h : Leads old new i j group x y)
    (hx : x ≤ old.length) (hy : y ≤ new.length) :
    (Span.mk i x).Names (old.map line) (exactSection old new i x j y group).before ∧
      (Span.mk j y).Names (new.map line) (exactSection old new i x j y group).after := by
  have shows := marks_of_leads h
  refine ⟨⟨by simpa using hx, ?_⟩, ⟨by simpa using hy, ?_⟩⟩
  · rw [slice_map, ← shows.1]
    exact (before_map line _).symm
  · rw [slice_map, ← shows.2]
    exact (after_map line _).symm

theorem ofGroup?_cons (old new : Array (List Char)) (e : Edit) (es : List Edit) :
    ∃ last, (e :: es).getLast? = some last ∧ Hunk.ofGroup? old new (e :: es) =
      some ⟨⟨e.oldSpan.start, last.oldSpan.stop⟩, ⟨e.newSpan.start, last.newSpan.stop⟩,
        (e :: es).flatMap (Edit.marks old new)⟩ := by
  refine ⟨es.getLast?.getD e, List.getLast?_cons, ?_⟩
  simp only [Hunk.ofGroup?, List.head?_cons, List.getLast?_cons]

/-- The hunks of groups that cover two texts have the bodies of sections in a chain. Where every group
stands at its ends they are those sections. -/
theorem covers_chained {i j : Nat} {gs : List (List Edit)}
    (h : Covers settled old new i j gs old.length new.length) :
    ∃ chain, Chained (old.map line) (new.map line) i j chain ∧
      chain.map Section.body = (gs.filterMap (Hunk.ofGroup? old.toArray new.toArray)).map
        (Section.body ∘ Hunk.section) ∧
      (settled → chain = (gs.filterMap (Hunk.ofGroup? old.toArray new.toArray)).map
        Hunk.section) := by
  induction gs generalizing i j with
  | nil =>
    obtain ⟨g, gap, hi, hj⟩ := h
    exact ⟨[], ⟨g, agree_map line gap, by simpa using hi, by simpa using hj⟩, rfl, fun _ => rfl⟩
  | cons group more ih =>
    obtain ⟨g, x, y, gap, hgroup, framed, rest⟩ := h
    obtain ⟨chain, hchain, bodies, same⟩ := ih rest
    cases group with
    | nil =>
      obtain ⟨rfl, rfl⟩ := hgroup
      exact ⟨chain, chained_after_gap (agree_map line gap) hchain, bodies, same⟩
    | cons e es =>
      have within := leads_le hgroup
      have inside := covers_le rest
      have spans := exactSection_spans old new within.1 within.2 (e :: es)
      have names := exactSection_names hgroup inside.1 inside.2
      obtain ⟨last, hlast, hunk⟩ := ofGroup?_cons old.toArray new.toArray e es
      refine ⟨exactSection old new (i + g) x (j + g) y (e :: es) :: chain, ?_, ?_, fun c => ?_⟩
      · refine ⟨g, agree_map line gap, ?_⟩
        rw [spans.1, spans.2]
        exact ⟨rfl, rfl, names.1, names.2, hchain⟩
      · rw [List.filterMap_cons_some hunk, List.map_cons, List.map_cons, bodies]
        rfl
      · obtain ⟨⟨oldStart, newStart⟩, closes⟩ := framed c
        obtain ⟨oldStop, newStop⟩ := closes_getLast? closes hlast
        rw [List.filterMap_cons_some hunk, List.map_cons, ← same c, oldStart, newStart, oldStop,
          newStop]
        rfl

end

/-! ## No line holds a line feed -/

theorem chomp_cons {c : Char} {rest : List Char} (h : c ≠ '\n' ∨ rest ≠ []) :
    chomp (c :: rest) = c :: chomp rest := by
  cases rest with
  | nil => simp_all [chomp]
  | cons => simp [chomp]

theorem newline_not_mem_chomp {text : List Char} :
    ∀ piece ∈ pieces text, '\n' ∉ chomp piece := by
  fun_induction pieces text with
  | case1 => simp
  | case2 rest ih => simpa [chomp] using ih
  | case3 rest ih => simpa [chomp] using ih
  | case4 rest other ih => simpa [chomp] using ih
  | case5 c rest noFeed _ _ none ih =>
    have feed : c ≠ '\n' := fun same => noFeed same
    simp [chomp_cons (.inl feed), chomp, feed.symm]
  | case6 c rest noFeed _ _ piece more some ih =>
    have feed : c ≠ '\n' := fun same => noFeed same
    rw [some] at ih
    obtain ⟨first, others⟩ := List.forall_mem_cons.1 ih
    refine List.forall_mem_cons.2 ⟨?_, others⟩
    rw [chomp_cons (.inl feed), List.mem_cons, not_or]
    exact ⟨feed.symm, first⟩

theorem newline_not_mem_shown (text : String) :
    ∀ shownLine ∈ shown text, '\n' ∉ shownLine.toList := by
  intro shownLine h
  obtain ⟨piece, hpiece, rfl⟩ := List.mem_map.1 h
  rw [line, String.toList_ofList]
  exact newline_not_mem_chomp piece hpiece

theorem newline_not_mem_text (r : Range) : '\n' ∉ r.text.toList := by
  have feed (n : Nat) : '\n' ∉ (toString n).toList := not_mem_digits (by decide) n
  fun_cases Range.text r with
  | case1 first => exact feed first
  | case2 first n =>
    have comma : '\n' ∉ ",".toList := by decide
    rw [String.toList_append, String.toList_append, List.mem_append, List.mem_append]
    exact not_or.2 ⟨not_or.2 ⟨feed first, comma⟩, feed n⟩

theorem newline_not_mem_lines {s : Section} (before : ∀ text ∈ s.before, '\n' ∉ text.toList)
    (after : ∀ text ∈ s.after, '\n' ∉ text.toList) : ∀ text ∈ s.lines, '\n' ∉ text.toList := by
  refine List.forall_mem_cons.2 ⟨?_, ?_⟩
  · simp [toString, newline_not_mem_text]
  · intro text h
    obtain ⟨mark, hmark, rfl⟩ := List.mem_map.1 h
    cases mark with
    | kept item =>
      have feed := before item (List.mem_filterMap.2 ⟨_, hmark, rfl⟩)
      simpa [Mark.line] using feed
    | removed item =>
      have feed := before item (List.mem_filterMap.2 ⟨_, hmark, rfl⟩)
      simpa [Mark.line] using feed
    | added item =>
      have feed := after item (List.mem_filterMap.2 ⟨_, hmark, rfl⟩)
      simpa [Mark.line] using feed

/-! ## What the headers name -/

section
variable {old new : List String} {s : Section}

theorem length_slice {α : Type} {items : List α} {t : Span} (h : t.stop ≤ items.length) :
    (t.slice items.toArray).length = t.length := by
  rw [slice_toArray, List.length_take, List.length_drop]
  simp only [Span.length]
  omega

/-- As much stands before the first section on one side as on the other. -/
theorem exact_first {more : List Section} (h : ExactPatch (s :: more) old new) :
    s.old.span.start = s.new.span.start := by
  have first := congrArg (List.map List.length) h.around
  simp only [List.map_cons, outside, List.cons.injEq] at first
  have oldStop := (h.before s (List.mem_cons_self ..)).1
  have newStop := (h.after s (List.mem_cons_self ..)).1
  have oldSpan := span_le s.old
  have newSpan := span_le s.new
  rw [length_slice (by simp only; omega), length_slice (by simp only; omega)] at first
  simpa [Span.length] using first.1

theorem getLast?_outside (i n : Nat) (front : List Span) (t : Span) :
    (outside i (front ++ [t]) n).getLast? = some ⟨t.stop, n⟩ := by
  induction front generalizing i with
  | nil => rfl
  | cons u front ih =>
    rw [List.cons_append, outside, List.getLast?_cons, ih]
    rfl

/-- As much stands after the last section on one side as on the other. -/
theorem exact_last {front : List Section} (h : ExactPatch (front ++ [s]) old new) :
    old.length - s.old.span.stop = new.length - s.new.span.stop := by
  have last := congrArg List.getLast? (congrArg (List.map List.length) h.around)
  simp only [List.map_append, List.map_cons, List.map_nil, List.getLast?_map, getLast?_outside,
    Option.map_some, Option.some.injEq] at last
  rwa [length_slice (Nat.le_refl _), length_slice (Nat.le_refl _)] at last

end

/-- A group stands inside both sequences. -/
theorem covers_mem {α : Type} {settled : Prop} {old new : List α} {i j i' j' : Nat}
    {gs : List (List Edit)} (h : Covers settled old new i j gs i' j') :
    ∀ group ∈ gs, ∃ x y x' y', Leads old new x y group x' y' ∧ x' ≤ i' ∧ y' ≤ j' := by
  induction gs generalizing i j with
  | nil => simp
  | cons es more ih =>
    obtain ⟨g, x, y, -, hes, -, hmore⟩ := h
    have within := covers_le hmore
    exact List.forall_mem_cons.2 ⟨⟨_, _, _, _, hes, within⟩, ih hmore⟩

/-- A group stands with its first edit before both ends or at both starts. -/
theorem group_starts {α : Type} {old new : List α} {n : Nat} {e : Edit} {group es : List Edit}
    (hn : 0 < n) (h : Leads old new 0 0 es old.length new.length) (opens : Opens 0 0 es)
    (hgroup : e :: group ∈ groups n es) :
    e.oldSpan.start < old.length ∧ e.newSpan.start < new.length ∨
      e.oldSpan.start = 0 ∧ e.newSpan.start = 0 := by
  rcases groups_begin n es _ hgroup with ⟨o, m, k, rest, begins⟩ | first
  · obtain ⟨rfl, rfl⟩ := List.cons.inj begins
    have cover : Covers False old new 0 0 _ _ _ := groups_cover hn h False.elim
    obtain ⟨x, y, x', y', ⟨⟨rfl, rfl, pos, -⟩, tail⟩, hx, hy⟩ := covers_mem cover _ hgroup
    have within := leads_le tail
    simp only [length_oldSpan_keep, length_newSpan_keep] at within
    simp only [Edit.oldSpan, Edit.newSpan]
    omega
  · obtain ⟨rest, rfl⟩ := List.head?_eq_some_iff.1 first.symm
    exact .inr opens

section
variable {old new : String}

theorem sections_of_groups (old new : String) :
    sections old new = ((groups contextLength (lineEdits old new)).filterMap
      (Hunk.ofGroup? (pieces old.toList).toArray (pieces new.toList).toArray)).map Hunk.section :=
  rfl

theorem lineEdits_leads (old new : String) :
    Leads (pieces old.toList) (pieces new.toList) 0 0 (lineEdits old new)
      (pieces old.toList).length (pieces new.toList).length :=
  edits_leads _ _

/-- Where the headers are right, the script opens at both starts. -/
theorem opens_of_exact (h : ExactPatch (sections old new) (shown old) (shown new)) :
    Opens 0 0 (lineEdits old new) := by
  have leads := lineEdits_leads old new
  have split := sections_of_groups old new
  match hes : lineEdits old new with
  | [] => trivial
  | e :: es =>
    rw [hes] at leads split
    have starts (he : e.isKeep = false) : e.oldSpan.start = e.newSpan.start := by
      obtain ⟨group, more, hgroups⟩ := groups_cons contextLength he es
      obtain ⟨last, -, hunk⟩ := ofGroup?_cons (pieces old.toList).toArray
        (pieces new.toList).toArray e group
      rw [hgroups, List.filterMap_cons_some hunk, List.map_cons] at split
      rw [split] at h
      have first := exact_first h
      simpa [Hunk.section, span_range] using first
    cases e with
    | keep o m n => exact ⟨leads.1.1, leads.1.2.1⟩
    | delete o n m => exact ⟨leads.1.1, (starts rfl).symm.trans leads.1.1⟩
    | insert o m n => exact ⟨(starts rfl).trans leads.1.1, leads.1.1⟩
    | replace o n m k => exact ⟨leads.1.1, leads.1.2.1⟩

/-- What the header of the last hunk says where the script ends with a change. -/
theorem last_header {front : List Edit} {e : Edit} (he : e.isKeep = false)
    (hes : lineEdits old new = front ++ [e])
    (h : ExactPatch (sections old new) (shown old) (shown new)) :
    ∃ a group, a :: group ∈ groups contextLength (lineEdits old new) ∧
      let oldStop := a.oldSpan.start + (e.oldSpan.stop - a.oldSpan.start)
      let newStop := a.newSpan.start + (e.newSpan.stop - a.newSpan.start)
      oldStop ≤ (shown old).length ∧ newStop ≤ (shown new).length ∧
        (shown old).length - oldStop = (shown new).length - newStop := by
  have split := sections_of_groups old new
  obtain ⟨gs, group, hgroups⟩ := groups_snoc (n := contextLength) he front
  rw [← hes] at hgroups
  obtain ⟨a, rest, hrest⟩ : ∃ a rest, group ++ [e] = a :: rest :=
    List.exists_cons_of_ne_nil (by simp)
  obtain ⟨last, hlast, hunk⟩ := ofGroup?_cons (pieces old.toList).toArray
    (pieces new.toList).toArray a rest
  rw [hgroups, List.filterMap_append, hrest, List.filterMap_cons_some hunk, List.filterMap_nil,
    List.map_append, List.map_cons, List.map_nil] at split
  rw [← hrest, List.getLast?_concat] at hlast
  obtain rfl := Option.some.inj hlast
  rw [split] at h
  have oldNames := (h.before _ (List.mem_concat_self ..)).1
  have newNames := (h.after _ (List.mem_concat_self ..)).1
  have ends := exact_last h
  simp only [Hunk.section, span_range, Span.length] at oldNames newNames ends
  exact ⟨a, rest, by simp [hgroups, hrest], oldNames, newNames, ends⟩

/-- Where the headers are right, the script closes at both ends. -/
theorem closes_of_exact (h : ExactPatch (sections old new) (shown old) (shown new)) :
    Closes (shown old).length (shown new).length (lineEdits old new) := by
  have leads := lineEdits_leads old new
  have opens := opens_of_exact h
  have oldLength : (shown old).length = (pieces old.toList).length := List.length_map ..
  have newLength : (shown new).length = (pieces new.toList).length := List.length_map ..
  rcases List.eq_nil_or_concat (lineEdits old new) with none | ⟨front, e, hes⟩
  · rw [none]
    trivial
  rw [List.concat_eq_append] at hes
  have stops (he : e.isKeep = false)
      (one : e.oldSpan.stop = (shown old).length ∨ e.newSpan.stop = (shown new).length) :
      e.oldSpan.stop = (shown old).length ∧ e.newSpan.stop = (shown new).length := by
    obtain ⟨a, group, hgroup, oldNames, newNames, ends⟩ := last_header he hes h
    have starts := group_starts (by decide) leads opens hgroup
    rw [← oldLength, ← newLength] at starts
    omega
  rw [hes] at leads ⊢
  obtain ⟨x, y, -, stands, oldEnd, newEnd⟩ := leads_append.1 leads
  rw [← oldLength] at oldEnd
  rw [← newLength] at newEnd
  apply closes_concat
  cases e with
  | keep o m n =>
    obtain ⟨rfl, rfl, -, -⟩ := stands
    simpa [Edit.oldSpan, Edit.newSpan, Span.length] using And.intro oldEnd newEnd
  | delete o n m =>
    obtain ⟨rfl, -⟩ := stands
    rw [length_oldSpan_delete] at oldEnd
    exact stops rfl (.inl oldEnd)
  | insert o m n =>
    obtain ⟨rfl, -⟩ := stands
    rw [length_newSpan_insert] at newEnd
    exact stops rfl (.inr newEnd)
  | replace o n m k =>
    obtain ⟨rfl, rfl, -, -⟩ := stands
    simpa [Edit.oldSpan, Edit.newSpan, Span.length] using And.intro oldEnd newEnd

theorem newline_not_mem_fileHeaders : ∀ text ∈ fileHeaders, '\n' ∉ text.toList := by
  decide

theorem mem_of_names {t : Span} {items part : List String} (h : t.Names items part) :
    ∀ item ∈ part, item ∈ items := by
  intro item hi
  rw [← h.2, slice_toArray] at hi
  exact List.mem_of_mem_drop (List.mem_of_mem_take hi)

/-- Sections with the bodies of an exact patch show lines of the two texts. -/
theorem shows_of_bodies {exact shown : List Section} {old new : List String}
    (h : ExactPatch exact old new) (bodies : exact.map Section.body = shown.map Section.body) :
    ∀ s ∈ shown, (∀ item ∈ s.before, item ∈ old) ∧ ∀ item ∈ s.after, item ∈ new := by
  intro s hs
  have hbody : s.body ∈ exact.map Section.body := bodies ▸ List.mem_map_of_mem hs
  obtain ⟨t, ht, same⟩ := List.mem_map.1 hbody
  have before := mem_of_names (h.before t ht)
  have after := mem_of_names (h.after t ht)
  rw [Section.before, same] at before
  rw [Section.after, same] at after
  exact ⟨before, after⟩

theorem unified_eq (h : old ≠ new) :
    unified old new = fileHeaders ++ (sections old new).flatMap Section.lines := by
  have render (hunk : Hunk (List Char)) : hunk.render = hunk.section.lines := by
    simp only [Hunk.render, Section.lines, Hunk.section, text_range, List.map_map]
    congr 2
    funext mark
    cases mark <;> simp [Mark.render, Mark.map, Mark.line, line]
  rw [unified, if_neg h, sections, List.flatMap_map]
  congr 2
  funext hunk
  exact render hunk

theorem aligned_opens {α : Type} {as bs : List α} {i j i' j' : Nat} {es : List Edit}
    (h : Aligned as bs i j es i' j') : Opens i j es := by
  cases es with
  | nil => trivial
  | cons e es => exact ⟨h.1, h.2.1⟩

theorem aligned_closes {α : Type} {as bs : List α} {i j i' j' : Nat} {es : List Edit}
    (h : Aligned as bs i j es i' j') : Closes i' j' es := by
  induction es generalizing i j with
  | nil => trivial
  | cons e es ih =>
    obtain ⟨-, -, -, rest⟩ := h
    refine closes_cons_iff.2 ⟨?_, ih rest⟩
    rintro rfl
    exact rest

/-- The sections of a unified diff, under the ranges that they really span, are an exact patch. Where
the script opens and closes at the ends of both texts they are the sections shown. -/
theorem exact_of_framed (old new : String) :
    ∃ exact, ExactPatch exact (shown old) (shown new) ∧
      exact.map Section.body = (sections old new).map Section.body ∧
      (Opens 0 0 (lineEdits old new) ∧
        Closes (shown old).length (shown new).length (lineEdits old new) →
          exact = sections old new) := by
  have oldLength : (shown old).length = (pieces old.toList).length := List.length_map ..
  have newLength : (shown new).length = (pieces new.toList).length := List.length_map ..
  rw [oldLength, newLength]
  have cover := groups_cover (n := contextLength) (by decide) (lineEdits_leads old new) id
  obtain ⟨chain, hchain, bodies, same⟩ := covers_chained cover
  refine ⟨chain, chained_exact hchain, ?_, same⟩
  rw [bodies, sections_of_groups, List.map_map]

/-- Two different texts have a diff of file headers and sections, none of whose lines holds a line
feed. The bodies always are those of an exact patch; the headers too where the script opens and
closes at the ends of both texts, and not else. An alignment without gaps does. -/
theorem unified_exact_iff (old new : String) (h : old ≠ new) :
    unified old new = fileHeaders ++ (sections old new).flatMap Section.lines ∧
      (∀ text ∈ unified old new, '\n' ∉ text.toList) ∧
      (∃ exact, ExactPatch exact (shown old) (shown new) ∧
        exact.map Section.body = (sections old new).map Section.body) ∧
      (ExactPatch (sections old new) (shown old) (shown new) ↔
        Opens 0 0 (lineEdits old new) ∧
          Closes (shown old).length (shown new).length (lineEdits old new)) ∧
      (Aligned (pieces old.toList) (pieces new.toList) 0 0 (lineEdits old new)
          (shown old).length (shown new).length →
        ExactPatch (sections old new) (shown old) (shown new)) := by
  obtain ⟨exact, patch, bodies, same⟩ := exact_of_framed old new
  have framed (f : Opens 0 0 (lineEdits old new) ∧
      Closes (shown old).length (shown new).length (lineEdits old new)) :
      ExactPatch (sections old new) (shown old) (shown new) := same f ▸ patch
  refine ⟨unified_eq h, ?_, ⟨exact, patch, bodies⟩, ?_, ?_⟩
  · rw [unified_eq h]
    intro text ht
    rcases List.mem_append.1 ht with header | ht
    · exact newline_not_mem_fileHeaders text header
    · obtain ⟨s, hs, ht⟩ := List.mem_flatMap.1 ht
      obtain ⟨before, after⟩ := shows_of_bodies patch bodies s hs
      exact newline_not_mem_lines (fun item hi => newline_not_mem_shown old item (before item hi))
        (fun item hi => newline_not_mem_shown new item (after item hi)) text ht
  · exact ⟨fun found => ⟨opens_of_exact found, closes_of_exact found⟩, framed⟩
  · exact fun aligned => framed ⟨aligned_opens aligned, aligned_closes aligned⟩

end

/-! ## A place out of date -/

section
variable {α : Type} [DecidableEq α] {a b : α}

theorem properSplit?_pair (h : b ≠ a) : properSplit? [b] [a] = some (0, 1) := by
  simp [properSplit?, split?, meet?, round, departures, departures.go, agreement, meeting?,
    List.find?, Int.toNat?, h]

theorem script_pair (h : b ≠ a) :
    script [b, a] [a, a] 0 0 = [.insert 0 0 1, .delete 0 1 1, .keep 1 1 1] := by
  have middle : Middle.of [b, a] [a, a] = ⟨0, [b], [a], 1⟩ := by
    simp [Middle.of, commonLength, h]
  have front : script [] [a] 0 0 = [.insert 0 0 1] := by
    rw [script]
    rfl
  have back : script [b] [] 0 1 = [.delete 0 1 1] := by
    rw [script]
    rfl
  rw [script]
  simp only [middle]
  rw [if_neg (by simp), if_neg (by simp), if_neg (by simp)]
  split
  · rename_i x y met
    rw [middle, properSplit?_pair h] at met
    cases met
    simp [front, back, keepRun]
  · rename_i none
    rw [middle, properSplit?_pair h] at none
    cases none

/-- The insertion slides past the deletion and the kept item. The deletion then stands first on the
new side, and still records the place after the inserted item. -/
theorem edits_pair (h : b ≠ a) :
    edits [b, a] [a, a] = [.delete 0 1 1, .keep 1 0 1, .insert 1 1 1] := by
  simp [edits, script_pair h, settle, slide, slideUp, slideDown, shareAhead, weight, Span.slice,
    Edit.newSpan, commonLength, regrowBefore, keepRun]
  rfl

end

/-- The header names the second line of the new text, and the body shows both of them. -/
theorem unified_exact_iff_stale : "b\na\n" ≠ "a\na\n" ∧
    unified "b\na\n" "a\na\n" =
      fileHeaders ++ ["@@ -1 +2 @@", "-b", " a", "+a"] ∧
    ¬ ExactPatch (sections "b\na\n" "a\na\n") (shown "b\na\n") (shown "a\na\n") := by
  have different : "b\na\n" ≠ "a\na\n" := by decide
  have found : lineEdits "b\na\n" "a\na\n" = [.delete 0 1 1, .keep 1 0 1, .insert 1 1 1] :=
    edits_pair (a := ['a', '\n']) (b := ['b', '\n']) (by decide)
  obtain ⟨output, -, -, exact_iff, -⟩ := unified_exact_iff _ _ different
  refine ⟨different, ?_, fun exact => ?_⟩
  · rw [output, sections_of_groups, found]
    decide +kernel
  · have opens := (exact_iff.1 exact).1
    rw [found] at opens
    exact absurd opens.2 (by decide)

end Tandem.Diff
