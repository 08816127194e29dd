import Tandem.Proofs.Compare.Mapping
import Tandem.Proofs.Compare.Report

/-!
Outputs that differ in the order of mappings and in nothing else.

* `SameUpToOrder`: such texts. They show a mapping both or neither, and so do their lines, one by
  one.
* `mapping_order_explained`: such outputs do not match, and the warning says why if a changed line
  shows a mapping. It does where what was reordered is grounded.
-/

namespace Tandem.Compare

open Tandem.Diff Tandem.Sandbox Tandem.Text Printed

/-- Texts that differ in the order of the entries of printed mappings, each with the property `p`,
and in nothing else. -/
inductive SameUpToOrder (p : Printed → Prop) : List Char → List Char → Prop where
  | nil : SameUpToOrder p [] []
  | char (c : Char) {text text' : List Char} (rest : SameUpToOrder p text text') :
      SameUpToOrder p (c :: text) (c :: text')
  | mapping {entries entries' : List (Atom × Printed)} {text text' : List Char}
      (allowed : p (.mapping entries)) (order : Reordered (.mapping entries) (.mapping entries'))
      (rest : SameUpToOrder p text text') :
      SameUpToOrder p ((Printed.mapping entries).text ++ text)
        ((Printed.mapping entries').text ++ text')

namespace SameUpToOrder

variable {p : Printed → Prop} {text text' : List Char}

theorem head_eq (h : SameUpToOrder p text text') : text.head? = text'.head? := by
  cases h <;> rfl

theorem opens_iff (h : SameUpToOrder p text text') : Opens text ↔ Opens text' := by
  have before : text.takeWhile (!isBrace ·) = text'.takeWhile (!isBrace ·) ∧
      (text.dropWhile (!isBrace ·)).head? = (text'.dropWhile (!isBrace ·)).head? := by
    induction h with
    | nil => exact ⟨rfl, rfl⟩
    | char c rest ih =>
      by_cases brace : isBrace c
      · simp [brace]
      · simp [brace, ih]
    | mapping allowed order rest ih => exact ⟨rfl, rfl⟩
  rw [Opens, Opens, before.1, before.2]

theorem showsMapping_iff (h : SameUpToOrder p text text') :
    ShowsMapping text ↔ ShowsMapping text' := by
  induction h with
  | nil => rfl
  | char c rest ih => rw [showsMapping_cons, showsMapping_cons, rest.opens_iff, ih]
  | mapping allowed order rest ih =>
    rw [showsMapping_text, showsMapping_text, order.grounded_iff, ih]

/-- Where every mapping that is reordered is grounded, a text that is not the same shows one. -/
theorem showsMapping_of_ne (h : SameUpToOrder Grounded text text') (differ : text ≠ text') :
    ShowsMapping text := by
  induction h with
  | nil => exact absurd rfl differ
  | char c rest ih =>
    have later := ih fun same => differ (congrArg (c :: ·) same)
    exact showsMapping_cons.2 (.inr later)
  | mapping grounded order rest ih => exact (showsMapping_text _ _).2 (.inl grounded)

/-! ## Line ends -/

theorem unify (h : SameUpToOrder p text text') :
    SameUpToOrder p (unifyNewlines text) (unifyNewlines text') := by
  induction h with
  | nil => exact .nil
  | @char c text text' rest ih =>
    rw [unifyNewlines_cons, unifyNewlines_cons, rest.head_eq]
    by_cases pair : c = '\r' ∧ text'.head? = some '\n'
    · rwa [if_pos pair, if_pos pair]
    · rw [if_neg pair, if_neg pair]
      exact .char c ih
  | mapping allowed order rest ih =>
    rw [unifyNewlines_front fun c member => (text_plain _ c member).2,
      unifyNewlines_front fun c member => (text_plain _ c member).2]
    exact .mapping allowed order ih

theorem eq_of_unify (h : SameUpToOrder p text text')
    (same : unifyNewlines text = unifyNewlines text') : text = text' := by
  induction h with
  | nil => rfl
  | @char c text text' rest ih =>
    rw [unifyNewlines_cons, unifyNewlines_cons, rest.head_eq] at same
    by_cases pair : c = '\r' ∧ text'.head? = some '\n'
    · rw [if_pos pair, if_pos pair] at same
      rw [ih same]
    · rw [if_neg pair, if_neg pair] at same
      rw [ih (List.cons.inj same).2]
  | mapping allowed order rest ih =>
    rw [unifyNewlines_front fun c member => (text_plain _ c member).2,
      unifyNewlines_front fun c member => (text_plain _ c member).2] at same
    obtain ⟨front, later⟩ := List.append_inj same order.length_eq
    rw [front, ih later]

/-- Two lists of lines of which each is the same as its partner, up to order. -/
def Paired (p : Printed → Prop) (lines lines' : List (List Char)) : Prop :=
  ∃ pairs : List (List Char × List Char), pairs.map Prod.fst = lines ∧
    pairs.map Prod.snd = lines' ∧ ∀ pair ∈ pairs, SameUpToOrder p pair.1 pair.2

theorem paired_cons {line line' : List Char} {lines lines' : List (List Char)}
    (first : SameUpToOrder p line line') (h : Paired p lines lines') :
    Paired p (line :: lines) (line' :: lines') := by
  obtain ⟨pairs, rfl, rfl, same⟩ := h
  exact ⟨(line, line') :: pairs, rfl, rfl, List.forall_mem_cons.2 ⟨first, same⟩⟩

theorem paired_extend {front front' : List Char} {lines lines' : List (List Char)}
    (before : ∀ text text', SameUpToOrder p text text' →
      SameUpToOrder p (front ++ text) (front' ++ text')) (h : Paired p lines lines') :
    Paired p (extend front lines) (extend front' lines') := by
  obtain ⟨pairs, rfl, rfl, same⟩ := h
  cases pairs with
  | nil =>
    have alone := before [] [] .nil
    rw [List.append_nil, List.append_nil] at alone
    exact ⟨[(front, front')], rfl, rfl, by simpa using alone⟩
  | cons pair pairs =>
    obtain ⟨first, later⟩ := List.forall_mem_cons.1 same
    exact paired_cons (before _ _ first) ⟨pairs, rfl, rfl, later⟩

theorem paired_pieces (h : SameUpToOrder p text text') :
    Paired p (pieces text) (pieces text') := by
  induction h with
  | nil => exact ⟨[], rfl, rfl, by simp⟩
  | @char c text text' rest ih =>
    rw [pieces_cons, pieces_cons, rest.head_eq]
    by_cases ends : c = '\n' ∨ c = '\r' ∧ text'.head? ≠ some '\n'
    · rw [if_pos ends, if_pos ends]
      exact paired_cons (.char c .nil) ih
    · rw [if_neg ends, if_neg ends]
      exact paired_extend (fun _ _ => .char c) ih
  | mapping allowed order rest ih =>
    rw [pieces_front (by simp [Printed.text]) (text_plain _),
      pieces_front (by simp [Printed.text]) (text_plain _)]
    exact paired_extend (fun _ _ => .mapping allowed order) ih

end SameUpToOrder

/-! ## The warning -/

theorem chomp_cases (piece : List Char) : piece = chomp piece ∨ piece = chomp piece ++ ['\n'] := by
  fun_induction chomp piece with
  | case1 => exact .inl rfl
  | case2 => exact .inr rfl
  | case3 c rest other ih =>
    obtain same | same := ih
    · exact .inl (congrArg (c :: ·) same)
    · exact .inr (congrArg (c :: ·) same)

theorem showsMapping_concat {text : List Char} {c : Char} (plain : ¬ isBrace c) :
    ShowsMapping (text ++ [c]) ↔ ShowsMapping text := by
  constructor
  · rintro ⟨before, body, after, parts, colon, free⟩
    obtain rfl | ⟨after, last, rfl⟩ := List.eq_nil_or_concat after
    · have whole : text ++ [c] = before ++ '\x7b' :: body ++ ['\x7d'] := by simpa using parts
      obtain ⟨-, same⟩ := List.append_inj' whole rfl
      obtain rfl := (List.cons.inj same).1
      exact absurd rfl plain
    · have whole : text ++ [c] = before ++ '\x7b' :: (body ++ '\x7d' :: after) ++ [last] := by
        simpa using parts
      exact ⟨before, body, after, (List.append_inj' whole rfl).1, colon, free⟩
  · intro shows
    exact @showsMapping_append [] text [c] shows

theorem showsMapping_line (piece : List Char) :
    ShowsMapping (line piece).toList ↔ ShowsMapping piece := by
  rw [line, String.toList_ofList]
  obtain same | same := chomp_cases piece
  · rw [← same]
  · conv => rhs; rw [same]
    rw [showsMapping_concat (by decide)]

theorem showsMapping_of_piece {piece text : List Char} (member : piece ∈ pieces text)
    (shows : ShowsMapping piece) : ShowsMapping text := by
  obtain ⟨before, after, parts⟩ := List.append_of_mem member
  rw [← flatten_pieces text, parts, List.flatten_append, List.flatten_cons, ← List.append_assoc]
  exact showsMapping_append shows

theorem mappingOrder_mem_cosmetics (source target : String) (changes : Changes) :
    Cosmetic.mappingOrder.message ∈ cosmetics source target changes ↔
      Cosmetic.applies source target changes .mappingOrder = true := by
  constructor
  · intro member
    obtain ⟨warning, found, same⟩ := List.mem_map.1 member
    have applies := (List.mem_filter.1 found).2
    cases warning with
    | mappingOrder => exact applies
    | stringMark => simp [Cosmetic.message] at same
    | typeName => simp [Cosmetic.message] at same
    | longInteger => simp [Cosmetic.message] at same
    | division => simp [Cosmetic.message] at same
  · intro applies
    exact List.mem_map_of_mem (List.mem_filter.2 ⟨List.mem_cons_self .., applies⟩)

theorem mappingOrder_not_mem_gaps (errorOutput : String) :
    Cosmetic.mappingOrder.message ∉ migrationGaps errorOutput := by
  have longer {text : String} (h : text.toList.head? = some 'M') (rest : String) :
      (text ++ rest).toList.head? = some 'M' := by
    rw [String.toList_append, List.head?_append, h]
    rfl
  have begins (gap : Gap) : gap.message.toList.head? = some 'M' := by
    cases gap with
    | builtin l => exact longer (longer (longer (longer (by decide) _) _) _) _
    | library l => exact longer (longer (longer (longer (by decide) _) _) _) _
    | method l => exact longer (longer (longer (longer (by decide) _) _) _) _
  intro member
  obtain ⟨gap, -, same⟩ := List.mem_map.1 member
  have first := begins gap
  rw [same] at first
  simp [Cosmetic.message] at first

section
variable {p : Printed → Prop} {lines lines' : List (List Char)}

/-- Lines in pairs that agree on a property are equal where they have it, if the lines with the
property are the same on both sides. -/
theorem eq_of_filter {has : List Char → Bool} {pairs : List (List Char × List Char)}
    (agree : ∀ pair ∈ pairs, has pair.1 = has pair.2)
    (same : (pairs.map Prod.fst).filter has = (pairs.map Prod.snd).filter has) :
    ∀ pair ∈ pairs, has pair.1 = true → pair.1 = pair.2 := by
  induction pairs with
  | nil => simp
  | cons pair pairs ih =>
    obtain ⟨here, later⟩ := List.forall_mem_cons.1 agree
    simp only [List.map_cons, List.filter_cons, ← here] at same
    cases shows : has pair.1 with
    | false =>
      rw [shows, if_neg Bool.false_ne_true, if_neg Bool.false_ne_true] at same
      exact List.forall_mem_cons.2 ⟨fun absent => by simp [shows] at absent, ih later same⟩
    | true =>
      rw [shows, if_pos rfl, if_pos rfl] at same
      obtain ⟨first, rest⟩ := List.cons.inj same
      exact List.forall_mem_cons.2 ⟨fun _ => first, ih later rest⟩

/-- Of two lines that are not the same and show a mapping, the diff shows one as changed, or else
another line that shows a mapping. -/
theorem changed_of_pair {pairs : List (List Char × List Char)}
    (same : ∀ pair ∈ pairs, SameUpToOrder p pair.1 pair.2) {pair : List Char × List Char}
    (member : pair ∈ pairs) (differ : pair.1 ≠ pair.2) (shows : ShowsMapping pair.1) :
    ∃ piece, (piece ∈ removals (pairs.map Prod.fst) (pairs.map Prod.snd) ∨
      piece ∈ additions (pairs.map Prod.fst) (pairs.map Prod.snd)) ∧ ShowsMapping piece := by
  by_cases some : ∃ piece, (piece ∈ removals (pairs.map Prod.fst) (pairs.map Prod.snd) ∨
      piece ∈ additions (pairs.map Prod.fst) (pairs.map Prod.snd)) ∧ ShowsMapping piece
  · exact some
  have agree : ∀ pair ∈ pairs, decide (ShowsMapping pair.1) = decide (ShowsMapping pair.2) := by
    intro pair inside
    rw [decide_eq_decide]
    exact (same pair inside).showsMapping_iff
  have kept : (pairs.map Prod.fst).filter (decide <| ShowsMapping ·) =
      (pairs.map Prod.snd).filter (decide <| ShowsMapping ·) := by
    refine filter_of_unchanged (fun piece removed => ?_) (fun piece added => ?_)
    · rw [decide_eq_false_iff_not]
      exact fun shows => some ⟨piece, .inl removed, shows⟩
    · rw [decide_eq_false_iff_not]
      exact fun shows => some ⟨piece, .inr added, shows⟩
  exact absurd (eq_of_filter agree kept pair member (decide_eq_true shows)) differ

end

section
variable {p : Printed → Prop} {old new : String}

/-- What a changed line shows, one of the texts shows. -/
theorem showsMapping_of_changed (differ : old ≠ new) {text : String}
    (changed : text ∈ (Changes.ofUnified (unified old new)).all)
    (shows : ShowsMapping text.toList) : ShowsMapping old.toList ∨ ShowsMapping new.toList := by
  obtain ⟨piece, removed | added, rfl⟩ := (mem_all_ofUnified differ text).1 changed
  · have inside := (showsMapping_line piece).1 shows
    exact .inl (showsMapping_of_piece (removals_subset _ _ piece removed) inside)
  · have inside := (showsMapping_line piece).1 shows
    exact .inr (showsMapping_of_piece (additions_subset _ _ piece added) inside)

/-- The warning is given just where a changed line shows a mapping. -/
theorem applies_mappingOrder_iff (differ : old ≠ new)
    (same : SameUpToOrder p old.toList new.toList) :
    Cosmetic.applies old new (.ofUnified (unified old new)) .mappingOrder = true ↔
      ∃ text ∈ (Changes.ofUnified (unified old new)).all, ShowsMapping text.toList := by
  simp only [Cosmetic.applies, Bool.and_eq_true, List.any_eq_true, shows_mappingAt]
  constructor
  · exact fun applies => applies.1.1
  · rintro ⟨text, changed, shows⟩
    obtain shown | shown := showsMapping_of_changed differ changed shows
    · exact ⟨⟨⟨text, changed, shows⟩, shown⟩, same.showsMapping_iff.1 shown⟩
    · exact ⟨⟨⟨text, changed, shows⟩, same.showsMapping_iff.2 shown⟩, shown⟩

/-- It is given where two lines with one number are not the same and show a mapping. -/
theorem applies_of_lines (differ : old ≠ new) (same : SameUpToOrder p old.toList new.toList)
    {i : Nat} {a b : List Char} (first : (pieces old.toList)[i]? = some a)
    (second : (pieces new.toList)[i]? = some b) (apart : a ≠ b) (shows : ShowsMapping a) :
    Cosmetic.applies old new (.ofUnified (unified old new)) .mappingOrder = true := by
  obtain ⟨pairs, left, right, paired⟩ := same.paired_pieces
  rw [← left, List.getElem?_map, Option.map_eq_some_iff] at first
  obtain ⟨pair, found, rfl⟩ := first
  rw [← right, List.getElem?_map, found] at second
  obtain rfl := Option.some.inj second
  obtain ⟨piece, changed, inside⟩ :=
    changed_of_pair paired (List.mem_of_getElem? found) apart shows
  rw [left, right] at changed
  have shown : line piece ∈ (Changes.ofUnified (unified old new)).all :=
    (mem_all_ofUnified differ _).2 ⟨piece, changed, rfl⟩
  apply (applies_mappingOrder_iff differ same).2
  exact ⟨line piece, shown, (showsMapping_line piece).2 inside⟩

/-- It is given where all that is reordered is grounded. -/
theorem applies_of_grounded (differ : old ≠ new)
    (same : SameUpToOrder Grounded old.toList new.toList) :
    Cosmetic.applies old new (.ofUnified (unified old new)) .mappingOrder = true := by
  obtain ⟨pairs, left, right, paired⟩ := same.paired_pieces
  by_cases apart : ∃ pair ∈ pairs, pair.1 ≠ pair.2
  · obtain ⟨pair, member, apart⟩ := apart
    have shows := (paired pair member).showsMapping_of_ne apart
    obtain ⟨i, found⟩ := List.mem_iff_getElem?.1 member
    refine applies_of_lines differ same (i := i) ?_ ?_ apart shows
    · rw [← left, List.getElem?_map, found]
      rfl
    · rw [← right, List.getElem?_map, found]
      rfl
  · refine absurd ?_ (pieces_ne differ)
    rw [← left, ← right]
    apply List.map_congr_left
    intro pair member
    exact Decidable.byContradiction fun different => apart ⟨pair, member, different⟩

end

/-- Outputs that differ in the order of mapping entries do not match. The warning says why just
where a changed line shows a mapping: braces around a colon and no further brace. So it does where
two lines with one number differ and show one, and in particular where every mapping that was
reordered has, at some depth, a mapping with entries and atoms for all their values. -/
theorem mapping_order_explained {source target : Record} (differ : source.stdout ≠ target.stdout)
    (same : SameUpToOrder (fun _ => True) source.stdout.toList target.stdout.toList) :
    (Report.of source target).outputsMatch = false ∧
    (Cosmetic.mappingOrder.message ∈ (Report.of source target).warnings ↔
      ∃ text ∈ (Changes.ofUnified (Report.of source target).diffLines).all,
        ShowsMapping text.toList) ∧
    (∀ (i : Nat) (a b : List Char), (pieces (normalize source.stdout).toList)[i]? = some a →
      (pieces (normalize target.stdout).toList)[i]? = some b → a ≠ b → ShowsMapping a →
        Cosmetic.mappingOrder.message ∈ (Report.of source target).warnings) ∧
    (SameUpToOrder Grounded source.stdout.toList target.stdout.toList →
      Cosmetic.mappingOrder.message ∈ (Report.of source target).warnings) := by
  have apart : normalize source.stdout ≠ normalize target.stdout := by
    intro equal
    apply differ
    rw [← String.toList_inj]
    exact same.eq_of_unify (String.ofList_inj.1 equal)
  have unify {p : Printed → Prop}
      (h : SameUpToOrder p source.stdout.toList target.stdout.toList) :
      SameUpToOrder p (normalize source.stdout).toList (normalize target.stdout).toList := by
    rw [normalize, normalize, String.toList_ofList, String.toList_ofList]
    exact h.unify
  have warns : Cosmetic.mappingOrder.message ∈ (Report.of source target).warnings ↔
      Cosmetic.applies (normalize source.stdout) (normalize target.stdout)
        (.ofUnified (Report.of source target).diffLines) .mappingOrder = true := by
    rw [Report.of, List.mem_append, mappingOrder_mem_cosmetics]
    exact or_iff_left (mappingOrder_not_mem_gaps _)
  rw [warns]
  refine ⟨decide_eq_false apart, applies_mappingOrder_iff apart (unify same), ?_, ?_⟩
  · intro i a b first second different shows
    exact applies_of_lines apart (unify same) first second different shows
  · intro grounded
    exact applies_of_grounded apart (unify grounded)

/-- A run that printed this and ended well. -/
def printing (output : String) : Record where
  exitCode := some 0
  exitSignal := none
  stdout := output
  stderr := ""
  truncated := false
  timedOut := false
  elapsedMs := .zero false
  memoryLimited := true
  fault := none

/-- Two empty mappings in a third one. -/
def hollow : String := "\x7ba: \x7b\x7d, b: \x7b\x7d\x7d\n"

def hollowReordered : String := "\x7bb: \x7b\x7d, a: \x7b\x7d\x7d\n"

/-- Outputs that differ in the order of empty mappings do not match, and nothing says why. -/
theorem mapping_order_explained_hollow :
    (Report.of (printing hollow) (printing hollowReordered)).outputsMatch = false ∧
    Cosmetic.mappingOrder.message ∉
      (Report.of (printing hollow) (printing hollowReordered)).warnings := by
  let a : Atom := ⟨['a'], by simp⟩
  let b : Atom := ⟨['b'], by simp⟩
  have order : Reordered (.mapping [(a, .mapping []), (b, .mapping [])])
      (.mapping [(b, .mapping []), (a, .mapping [])]) := by
    refine Reordered.mapping [(a, .mapping [], .mapping []), (b, .mapping [], .mapping [])] ?_
      (.swap ..)
    have empty : Reordered (.mapping []) (.mapping []) := .mapping [] (by simp) .nil
    intro e member
    simp only [List.mem_cons, List.not_mem_nil, or_false] at member
    obtain rfl | rfl := member <;> exact empty
  have same : SameUpToOrder (fun _ => True) hollow.toList hollowReordered.toList :=
    .mapping trivial order (.char '\n' .nil)
  obtain ⟨mismatch, warned, -⟩ :=
    @mapping_order_explained (printing hollow) (printing hollowReordered) (by decide) same
  refine ⟨mismatch, fun member => ?_⟩
  obtain ⟨text, changed, shows⟩ := warned.1 member
  have apart : normalize hollow ≠ normalize hollowReordered := by decide
  obtain shown | shown := showsMapping_of_changed apart changed shows
  · exact absurd shown (by decide)
  · exact absurd shown (by decide)

end Tandem.Compare
