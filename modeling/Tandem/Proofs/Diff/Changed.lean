import Tandem.Proofs.Diff.Patch

/-!
What a diff shows as changed.

* `hunks_alignment`: the changes in the hunks are those of an alignment of the whole sequences.
* `filter_of_unchanged`: so two sequences are equal in all that is not changed, and different
  sequences have a change: `exists_changed`.
* `unified_changes`: the diff printed of different texts has a hunk with a changed line in it.
* `ofUnified_hunks`: the changed lines read back from printed hunks are those of their bodies.
-/

namespace Tandem.Diff

open Tandem.Text

namespace Mark

variable {α : Type}

def removed? : Mark α → Option α
  | removed item => some item
  | _ => none

def added? : Mark α → Option α
  | added item => some item
  | _ => none

end Mark

section
variable {α : Type}

/-- Two alignments remove the same items in order, and add the same. -/
def SameChanges (marks marks' : List (Mark α)) : Prop :=
  marks.filterMap Mark.removed? = marks'.filterMap Mark.removed? ∧
    marks.filterMap Mark.added? = marks'.filterMap Mark.added?

theorem sameChanges_append {marks marks' more more' : List (Mark α)}
    (h : SameChanges marks marks') (h' : SameChanges more more') :
    SameChanges (marks ++ more) (marks' ++ more') := by
  constructor
  · rw [List.filterMap_append, List.filterMap_append, h.1, h'.1]
  · rw [List.filterMap_append, List.filterMap_append, h.2, h'.2]

theorem sameChanges_kept (items : List α) : SameChanges (items.map Mark.kept) [] := by
  constructor <;> simp [List.filterMap_map, Mark.removed?, Mark.added?]

/-- Where no changed item counts, both sides of an alignment count the same. -/
theorem filter_alignment {p : α → Bool} {marks : List (Mark α)}
    (removed : ∀ item ∈ marks.filterMap Mark.removed?, p item = false)
    (added : ∀ item ∈ marks.filterMap Mark.added?, p item = false) :
    (marks.filterMap Mark.before?).filter p = (marks.filterMap Mark.after?).filter p := by
  induction marks with
  | nil => rfl
  | cons mark marks ih =>
    cases mark with
    | kept item =>
      have rest := ih removed added
      simp only [List.filterMap_cons, Mark.before?, Mark.after?, List.filter_cons, rest]
    | removed item =>
      obtain ⟨here, later⟩ := List.forall_mem_cons.1 removed
      simp only [List.filterMap_cons, Mark.before?, Mark.after?, List.filter_cons, here,
        Bool.false_eq_true, if_false]
      exact ih later added
    | added item =>
      obtain ⟨here, later⟩ := List.forall_mem_cons.1 added
      simp only [List.filterMap_cons, Mark.before?, Mark.after?, List.filter_cons, here,
        Bool.false_eq_true, if_false]
      exact ih removed later

/-- The hunks of groups show what their edits mark. -/
theorem flatMap_body (old new : List α) (gs : List (List Edit)) :
    (gs.filterMap (Hunk.ofGroup? old.toArray new.toArray)).flatMap Hunk.body =
      gs.flatMap (·.flatMap (Edit.marks old.toArray new.toArray)) := by
  induction gs with
  | nil => rfl
  | cons group more ih =>
    cases group with
    | nil => exact ih
    | cons e es =>
      have hunk : ∃ h, Hunk.ofGroup? old.toArray new.toArray (e :: es) = some h ∧
          h.body = (e :: es).flatMap (Edit.marks old.toArray new.toArray) := by
        simp [Hunk.ofGroup?, List.getLast?_cons]
      obtain ⟨h, made, body⟩ := hunk
      rw [List.filterMap_cons_some made, List.flatMap_cons, List.flatMap_cons, ih, body]

variable [DecidableEq α] {old new : List α}

/-- An alignment of all that groups cover, with no other changes than those in the groups. -/
theorem covers_alignment {settled : Prop} {i j i' j' : Nat} {gs : List (List Edit)}
    (h : Covers settled old new i j gs i' j') :
    ∃ marks : List (Mark α),
      marks.filterMap Mark.before? = Span.slice ⟨i, i'⟩ old.toArray ∧
      marks.filterMap Mark.after? = Span.slice ⟨j, j'⟩ new.toArray ∧
      SameChanges marks (gs.flatMap (·.flatMap (Edit.marks old.toArray new.toArray))) := by
  induction gs generalizing i j with
  | nil =>
    obtain ⟨g, gap, rfl, rfl⟩ := h
    refine ⟨(Span.slice ⟨i, i + g⟩ old.toArray).map .kept, (filterMap_kept _).1, ?_, ?_⟩
    · rw [(filterMap_kept _).2, slice_of_agree gap]
    · exact sameChanges_kept _
  | cons group more ih =>
    obtain ⟨g, x, y, gap, leads, -, rest⟩ := h
    obtain ⟨marks, before, after, same⟩ := ih rest
    have shows := marks_of_leads leads
    have here := leads_le leads
    have later := covers_le rest
    refine ⟨(Span.slice ⟨i, i + g⟩ old.toArray).map .kept ++
      (group.flatMap (Edit.marks old.toArray new.toArray) ++ marks), ?_, ?_, ?_⟩
    · rw [List.filterMap_append, List.filterMap_append, (filterMap_kept _).1, shows.1, before,
        slice_append old here.1 later.1, slice_append old (Nat.le_add_right i g) (by omega)]
    · rw [List.filterMap_append, List.filterMap_append, (filterMap_kept _).2, shows.2, after,
        slice_append new here.2 later.2, slice_of_agree gap,
        slice_append new (Nat.le_add_right j g) (by omega)]
    · have marked : SameChanges (group.flatMap (Edit.marks old.toArray new.toArray) ++ marks)
          (group.flatMap (Edit.marks old.toArray new.toArray) ++
            more.flatMap (·.flatMap (Edit.marks old.toArray new.toArray))) :=
        sameChanges_append ⟨rfl, rfl⟩ same
      have whole := sameChanges_append (sameChanges_kept (Span.slice ⟨i, i + g⟩ old.toArray)) marked
      rwa [List.nil_append, ← List.flatMap_cons] at whole

/-- The changes in the hunks between two sequences are those of an alignment of all of both. -/
theorem hunks_alignment (old new : List α) :
    ∃ marks : List (Mark α), marks.filterMap Mark.before? = old ∧
      marks.filterMap Mark.after? = new ∧
      SameChanges marks ((hunks old new).flatMap Hunk.body) := by
  have cover : Covers False old new 0 0 (groups contextLength (edits old new)) _ _ :=
    groups_cover (by decide) (edits_leads old new) False.elim
  obtain ⟨marks, before, after, same⟩ := covers_alignment cover
  refine ⟨marks, before.trans (slice_whole old), after.trans (slice_whole new), ?_⟩
  rwa [hunks, flatMap_body]

/-- The items that a diff removes, in order. -/
def removals (old new : List α) : List α :=
  ((hunks old new).flatMap Hunk.body).filterMap Mark.removed?

/-- The items that a diff adds, in order. -/
def additions (old new : List α) : List α :=
  ((hunks old new).flatMap Hunk.body).filterMap Mark.added?

/-- Two sequences are equal in the items of which none is changed. -/
theorem filter_of_unchanged {p : α → Bool} (removed : ∀ item ∈ removals old new, p item = false)
    (added : ∀ item ∈ additions old new, p item = false) : old.filter p = new.filter p := by
  obtain ⟨marks, before, after, same⟩ := hunks_alignment old new
  rw [removals, ← same.1] at removed
  rw [additions, ← same.2] at added
  have equal := filter_alignment removed added
  rwa [before, after] at equal

/-- Different sequences have a change. -/
theorem exists_changed (differ : old ≠ new) :
    ∃ item, item ∈ removals old new ∨ item ∈ additions old new := by
  by_cases some : ∃ item, item ∈ removals old new ∨ item ∈ additions old new
  · exact some
  · have equal : old.filter (fun _ => true) = new.filter (fun _ => true) :=
      filter_of_unchanged (fun item removed => absurd ⟨item, .inl removed⟩ some)
        (fun item added => absurd ⟨item, .inr added⟩ some)
    rw [List.filter_eq_self.2 fun _ _ => rfl, List.filter_eq_self.2 fun _ _ => rfl] at equal
    exact absurd equal differ

/-- A change stands in a hunk. -/
theorem shown_of_changed {item : α} (h : item ∈ removals old new ∨ item ∈ additions old new) :
    ∃ h ∈ hunks old new, .removed item ∈ h.body ∨ .added item ∈ h.body := by
  obtain removed | added := h
  · obtain ⟨mark, member, found⟩ := List.mem_filterMap.1 removed
    obtain ⟨h, among, inside⟩ := List.mem_flatMap.1 member
    refine ⟨h, among, .inl ?_⟩
    cases mark <;> simp_all [Mark.removed?]
  · obtain ⟨mark, member, found⟩ := List.mem_filterMap.1 added
    obtain ⟨h, among, inside⟩ := List.mem_flatMap.1 member
    refine ⟨h, among, .inr ?_⟩
    cases mark <;> simp_all [Mark.added?]

theorem removals_subset (old new : List α) : ∀ item ∈ removals old new, item ∈ old := by
  intro item removed
  obtain ⟨marks, before, -, same⟩ := hunks_alignment old new
  rw [removals, ← same.1] at removed
  obtain ⟨mark, member, found⟩ := List.mem_filterMap.1 removed
  rw [← before]
  refine List.mem_filterMap.2 ⟨mark, member, ?_⟩
  cases mark <;> simp_all [Mark.removed?, Mark.before?]

theorem additions_subset (old new : List α) : ∀ item ∈ additions old new, item ∈ new := by
  intro item added
  obtain ⟨marks, -, after, same⟩ := hunks_alignment old new
  rw [additions, ← same.2] at added
  obtain ⟨mark, member, found⟩ := List.mem_filterMap.1 added
  rw [← after]
  refine List.mem_filterMap.2 ⟨mark, member, ?_⟩
  cases mark <;> simp_all [Mark.added?, Mark.after?]

end

/-! ## Printed hunks -/

/-- Entries of a diff that are a hunk with a change: a header, and then lines under a sign, one of
which is removed or added. -/
def ChangingHunk (entries : List String) : Prop :=
  ∃ header body, entries = header :: body ∧ ['@', '@', ' '] <+: header.toList ∧
    (∀ entry ∈ body, ∃ sign ∈ [' ', '-', '+'], entry.toList.head? = some sign) ∧
    ∃ entry ∈ body, entry.toList.head? = some '-' ∨ entry.toList.head? = some '+'

theorem signed_line (mark : Mark String) :
    ∃ sign ∈ [' ', '-', '+'], mark.line.toList.head? = some sign := by
  cases mark with
  | kept text => exact ⟨' ', by decide, by simp [Mark.line]⟩
  | removed text => exact ⟨'-', by decide, by simp [Mark.line]⟩
  | added text => exact ⟨'+', by decide, by simp [Mark.line]⟩

theorem changingHunk_lines {s : Section} {text : String}
    (change : .removed text ∈ s.body ∨ .added text ∈ s.body) : ChangingHunk s.lines := by
  refine ⟨_, s.body.map Mark.line, rfl, ?_, ?_, ?_⟩
  · simp [toString]
  · intro entry member
    obtain ⟨mark, -, rfl⟩ := List.mem_map.1 member
    exact signed_line mark
  · cases change with
    | inl removed => exact ⟨_, List.mem_map_of_mem removed, .inl (by simp [Mark.line])⟩
    | inr added => exact ⟨_, List.mem_map_of_mem added, .inr (by simp [Mark.line])⟩

theorem pieces_ne {old new : String} (differ : old ≠ new) :
    pieces old.toList ≠ pieces new.toList := by
  intro same
  apply differ
  rw [← String.toList_inj, ← flatten_pieces old.toList, same, flatten_pieces]

/-- The diff of two different texts is printed with a change. -/
theorem unified_changes {old new : String} (differ : old ≠ new) :
    ∃ front hunk back,
      unified old new = ["--- source stdout", "+++ target stdout"] ++ (front ++ hunk ++ back) ∧
      ChangingHunk hunk := by
  obtain ⟨item, changed⟩ := exists_changed (pieces_ne differ)
  obtain ⟨h, member, changed⟩ := shown_of_changed changed
  have among : h.section ∈ sections old new := List.mem_map_of_mem member
  have change : .removed (line item) ∈ h.section.body ∨ .added (line item) ∈ h.section.body := by
    cases changed with
    | inl removed => exact .inl (List.mem_map_of_mem removed)
    | inr added => exact .inr (List.mem_map_of_mem added)
  obtain ⟨front, back, parts⟩ := List.append_of_mem among
  refine ⟨front.flatMap Section.lines, h.section.lines, back.flatMap Section.lines, ?_,
    changingHunk_lines change⟩
  rw [unified_eq differ, parts, List.flatMap_append, List.flatMap_cons, List.append_assoc]
  rfl

/-! ## Changed lines -/

theorem unsigned?_header (h : Hunk (List Char)) (c : Char) (sign : c ≠ '@') :
    Changes.unsigned? c s!"@@ -{h.old.header} +{h.new.header} @@" = none := by
  simp [Changes.unsigned?, toString, sign.symm]

theorem isHunkHeader_header (h : Hunk (List Char)) :
    Changes.isHunkHeader s!"@@ -{h.old.header} +{h.new.header} @@" = true := by
  simp [Changes.isHunkHeader, toString]

theorem unsigned?_render (mark : Mark (List Char)) :
    Changes.unsigned? '-' mark.render = mark.removed?.map line ∧
      Changes.unsigned? '+' mark.render = mark.added?.map line := by
  cases mark <;> simp [Changes.unsigned?, Mark.render, Mark.removed?, Mark.added?, line]

theorem filterMap_unsigned?_render (hunks : List (Hunk (List Char))) :
    (hunks.flatMap Hunk.render).filterMap (Changes.unsigned? '-') =
        ((hunks.flatMap Hunk.body).filterMap Mark.removed?).map line ∧
      (hunks.flatMap Hunk.render).filterMap (Changes.unsigned? '+') =
        ((hunks.flatMap Hunk.body).filterMap Mark.added?).map line := by
  induction hunks with
  | nil => exact ⟨rfl, rfl⟩
  | cons h hunks ih =>
    have body : (h.body.map Mark.render).filterMap (Changes.unsigned? '-') =
          (h.body.filterMap Mark.removed?).map line ∧
        (h.body.map Mark.render).filterMap (Changes.unsigned? '+') =
          (h.body.filterMap Mark.added?).map line := by
      constructor
      · rw [List.filterMap_map, List.map_filterMap]
        congr 1
        funext mark
        exact (unsigned?_render mark).1
      · rw [List.filterMap_map, List.map_filterMap]
        congr 1
        funext mark
        exact (unsigned?_render mark).2
    simp only [List.flatMap_cons, Hunk.render, List.cons_append, List.filterMap_append,
      List.filterMap_cons_none (unsigned?_header h _ (by decide : '-' ≠ '@')),
      List.filterMap_cons_none (unsigned?_header h _ (by decide : '+' ≠ '@')), body, ih,
      List.map_append]
    trivial

/-- Nothing is dropped but the file headers. -/
theorem dropWhile_unified (hunks : List (Hunk (List Char))) :
    (fileHeaders ++ hunks.flatMap Hunk.render).dropWhile (fun text => !Changes.isHunkHeader text) =
      hunks.flatMap Hunk.render := by
  have dropped : ∀ text ∈ fileHeaders, (!Changes.isHunkHeader text) = true := by decide
  rw [List.dropWhile_append_of_pos dropped]
  cases hunks with
  | nil => rfl
  | cons h hunks =>
    rw [List.flatMap_cons, Hunk.render, List.cons_append, List.dropWhile_cons_of_neg]
    simp [isHunkHeader_header]

/-- The changed lines that are read back from printed hunks are those of their bodies. -/
theorem ofUnified_hunks (hunks : List (Hunk (List Char))) :
    Changes.ofUnified (fileHeaders ++ hunks.flatMap Hunk.render) =
      ⟨((hunks.flatMap Hunk.body).filterMap Mark.removed?).map line,
        ((hunks.flatMap Hunk.body).filterMap Mark.added?).map line⟩ := by
  rw [Changes.ofUnified]
  simp only [dropWhile_unified, filterMap_unsigned?_render]

theorem ofUnified_unified {old new : String} (differ : old ≠ new) :
    Changes.ofUnified (unified old new) =
      ⟨(removals (pieces old.toList) (pieces new.toList)).map line,
        (additions (pieces old.toList) (pieces new.toList)).map line⟩ := by
  rw [unified, if_neg differ, ofUnified_hunks, removals, additions]

theorem mem_all_ofUnified {old new : String} (differ : old ≠ new) (text : String) :
    text ∈ (Changes.ofUnified (unified old new)).all ↔
      ∃ piece, (piece ∈ removals (pieces old.toList) (pieces new.toList) ∨
        piece ∈ additions (pieces old.toList) (pieces new.toList)) ∧ line piece = text := by
  rw [ofUnified_unified differ, Changes.all, List.mem_append, List.mem_map, List.mem_map,
    ← exists_or]
  exact exists_congr fun piece => or_and_right.symm

end Tandem.Diff
