import Tandem.Proofs.Compare.Gap

/-!
Missing modules whose trace stands within the name of another one.

A name goes on while it can, so of two traces with nothing between them the second begins within the
name of the first. It is then passed over, and a third one behind it is found again.

* `Within`: a text ends within the name of a missing module; `within_unique`: of one at most.
* `Depth`: how many traces stand within each other there.
* `reached_iff`: a trace is looked at if it stands within an even number of others.
-/

namespace Tandem.Compare

open Tandem.Text

/-- A text that calls a module missing and then has a part of its name, or nothing of it yet. -/
def Begun (begun : List Char) : Prop :=
  ∃ opening ∈ openings, ∃ part, begun = opening ++ part ∧ (∀ c ∈ part, isDotted c) ∧
    ∀ c ∈ part.head?, isNameStart c

/-- What follows `outer` calls a module missing, and `before` ends within its name. -/
def Within (outer before : List Char) : Prop := ∃ begun, before = outer ++ begun ∧ Begun begun

/-- How many names of missing modules a text ends in, each within the one before. -/
inductive Depth : List Char → Nat → Prop where
  | outermost {before : List Char} (none : ∀ outer, ¬ Within outer before) : Depth before 0
  | within {outer before : List Char} {n : Nat} (inside : Within outer before)
      (depth : Depth outer n) : Depth before (n + 1)

/-- A text starts by calling a module missing. -/
def StartsMissing (here : List Char) : Prop := ∃ opening ∈ openings, ∃ more, here = opening ++ more

section
variable {text outer before begun here : List Char} {a : List Char}

/-- A trace begins with the name of an error, as the name of a module could. -/
theorem StartsMissing.error (opens : StartsMissing here) :
    ∃ error rest, here = error ++ ':' :: rest ∧ IsName isNameChar error := by
  have named : ∀ opening ∈ openings, IsName isNameChar (opening.takeWhile isNameChar) ∧
      (opening.dropWhile isNameChar).head? = some ':' := by
    decide +kernel
  obtain ⟨opening, listed, more, rfl⟩ := opens
  obtain ⟨isName, colon⟩ := named opening listed
  obtain ⟨rest, ends⟩ := List.head?_eq_some_iff.1 colon
  refine ⟨opening.takeWhile isNameChar, rest ++ more, ?_, isName⟩
  rw [← List.cons_append, ← ends, ← List.append_assoc, List.takeWhile_append_dropWhile]

theorem StartsMissing.first (opens : StartsMissing here) :
    here.head? = some 'I' ∨ here.head? = some 'M' := by
  have starts : ∀ opening ∈ openings, opening.head? = some 'I' ∨ opening.head? = some 'M' := by
    decide
  obtain ⟨opening, listed, more, rfl⟩ := opens
  apply (starts opening listed).imp
  · intro start
    rw [List.head?_append, start]
    rfl
  · intro start
    rw [List.head?_append, start]
    rfl

/-- The letter that a trace begins with does not come again before the name. -/
theorem opening_tail {opening : List Char} (listed : opening ∈ openings) :
    ∃ first tail, opening = first :: tail ∧ 'I' ∉ tail ∧ 'M' ∉ tail := by
  have all : ∀ opening ∈ openings, opening ≠ [] ∧ 'I' ∉ opening.tail ∧ 'M' ∉ opening.tail := by
    decide
  obtain ⟨some, once⟩ := all opening listed
  obtain ⟨first, tail, rfl⟩ := List.exists_cons_of_ne_nil some
  exact ⟨first, tail, rfl, once⟩

theorem Begun.ne_nil (h : Begun begun) : begun ≠ [] := by
  obtain ⟨opening, listed, part, rfl, -⟩ := h
  have some : ∀ opening ∈ openings, opening ≠ [] := by decide
  exact List.append_ne_nil_of_left_ne_nil (some opening listed) part

theorem Begun.opens (h : Begun begun) (here : List Char) : StartsMissing (begun ++ here) := by
  obtain ⟨opening, listed, part, rfl, -⟩ := h
  exact ⟨opening, listed, part ++ here, List.append_assoc ..⟩

/-- A capture that reaches over the start of a trace has it within its name. -/
theorem begun_of_straddles {name : List Char} (opens : StartsMissing here)
    (straddles : Straddles missingModule? begun here name) : Begun begun := by
  obtain ⟨reach, rest, some, beyond, ends, captured⟩ := straddles
  obtain ⟨opening, listed, parts, isName, -⟩ := missingModule?_eq_some_iff.1 captured
  obtain ⟨first, tail, rfl, lacks⟩ := opening_tail listed
  obtain ⟨b, begun, rfl⟩ := List.exists_cons_of_ne_nil some
  obtain ⟨rfl, same⟩ := List.cons.inj parts
  have behind : ∃ later, begun = tail ++ later ∧ name ++ rest = later ++ here := by
    obtain start | start := opens.first
    · exact begins_behind same.symm start lacks.1
    · exact begins_behind same.symm start lacks.2
  obtain ⟨part, rfl, both⟩ := behind
  have shorter : rest.length < here.length := by
    have pos := List.length_pos_iff.2 beyond
    rw [ends, List.length_append]
    omega
  obtain ⟨late, -, whole⟩ | ⟨late, rfl, -⟩ := List.append_eq_append_iff.1 both
  · rw [whole, List.length_append] at shorter
    omega
  · refine ⟨b :: tail, listed, part, rfl, fun c member => ?_, fun c start => ?_⟩
    · exact isName.all isDotted_of_isNameStart c (List.mem_append_left _ member)
    · exact isName.head c (by simp [List.head?_append, Option.mem_def.1 start])

theorem exists_straddles_of_begun (opens : StartsMissing here) (named : Begun begun) :
    ∃ name, Straddles missingModule? begun here name := by
  have some := named.ne_nil
  obtain ⟨opening, listed, part, rfl, all, start⟩ := named
  obtain ⟨error, rest, rfl, isName⟩ := opens.error
  have whole : IsName isDotted (part ++ error) := by
    refine isName_of_all (List.append_ne_nil_of_right_ne_nil part isName.ne_nil) ?_ ?_
    · cases part with
      | nil => exact isName.head
      | cons c part => exact start
    · intro c member
      obtain before | behind := List.mem_append.1 member
      · exact all c before
      · exact isDotted_of_isNameChar (isName.all isNameChar_of_isNameStart c behind)
  refine ⟨part ++ error, error, ':' :: rest, some, isName.ne_nil, rfl,
    missingModule?_eq_some_iff.2 ⟨opening, listed, by simp, whole, ?_⟩⟩
  rintro c ⟨⟩
  decide

/-- A text ends within the name of one missing module at most. -/
theorem within_unique {begun' outer' : List Char} (same : outer ++ begun = outer' ++ begun')
    (h : Begun begun) (h' : Begun begun') : outer = outer' := by
  have backwards : ∀ opening ∈ openings, ∃ q init, opening.reverse = q :: init ∧ ¬ isDotted q := by
    have last : ∀ opening ∈ openings, opening.reverse.head?.any (!isDotted ·) = true := by decide
    intro opening listed
    obtain ⟨q, first, outside⟩ := (Option.any_eq_true _ _).1 (last opening listed)
    obtain ⟨init, ends⟩ := List.head?_eq_some_iff.1 first
    exact ⟨q, init, ends, by simpa using outside⟩
  have apart : ∀ opening ∈ openings, ∀ opening' ∈ openings, opening <:+ opening' →
      opening = opening' := by
    decide
  obtain ⟨opening, listed, part, rfl, all, -⟩ := h
  obtain ⟨opening', listed', part', rfl, all', -⟩ := h'
  obtain ⟨q, init, ends, outside⟩ := backwards opening listed
  obtain ⟨q', init', ends', outside'⟩ := backwards opening' listed'
  -- What stands behind the opening is the stretch that the text ends in, so the openings end alike.
  have reversed := congrArg List.reverse same
  simp only [List.reverse_append, List.append_assoc, ends, ends', List.cons_append] at reversed
  obtain ⟨sameParts, -, -⟩ := stretch_unique reversed (by simpa using all) outside
    (by simpa using all') outside'
  obtain rfl := List.reverse_inj.1 sameParts
  have both : outer ++ opening = outer' ++ opening' := by
    apply List.append_cancel_right
    rw [List.append_assoc, List.append_assoc, same]
  have one : opening = opening' := by
    obtain ends | ends := List.suffix_or_suffix_of_suffix (List.suffix_append outer opening)
      (both ▸ List.suffix_append outer' opening')
    · exact apart opening listed opening' listed' ends
    · exact (apart opening' listed' opening listed ends).symm
  subst one
  exact List.append_cancel_right both

theorem exists_depth (before : List Char) : ∃ n, Depth before n := by
  by_cases inside : ∃ outer, Within outer before
  · obtain ⟨outer, within⟩ := inside
    have shorter : outer.length < before.length := by
      obtain ⟨begun, rfl, some⟩ := within
      have pos := List.length_pos_iff.2 some.ne_nil
      rw [List.length_append]
      omega
    obtain ⟨n, depth⟩ := exists_depth outer
    exact ⟨n + 1, .within within depth⟩
  · exact ⟨0, .outermost (not_exists.1 inside)⟩
termination_by before.length

/-- What a trace at the start of a text names stands within no other name than its own. -/
theorem depth_opening {opening : List Char} (listed : opening ∈ openings) : Depth opening 1 := by
  have outermost : Depth [] 0 := by
    refine .outermost ?_
    rintro outer ⟨begun, none, some⟩
    exact some.ne_nil (List.nil_eq_append_iff.1 none).2
  refine .within ⟨opening, (List.nil_append _).symm, ?_⟩ outermost
  exact ⟨opening, listed, [], (List.append_nil _).symm, nofun, nofun⟩

/-- A trace is looked at if it stands within an even number of others. -/
theorem reached_iff {n : Nat} (depth : Depth before n) (opens : StartsMissing here)
    (parts : text = before ++ here) :
    Reached missingModule? text before here ↔ n % 2 = 0 := by
  induction depth generalizing here with
  | @outermost before none =>
    refine iff_of_true ?_ rfl
    obtain reached | ⟨outer, begun, a, rfl, -, straddles⟩ :=
      reached_or_straddled missingModule?_consumes parts
    · exact reached
    · exact absurd ⟨begun, rfl, begun_of_straddles opens straddles⟩ (none outer)
  | @within outer before n inside _ ih =>
    obtain ⟨begun, rfl, named⟩ := inside
    rw [List.append_assoc] at parts
    have before := ih (named.opens here) parts
    obtain ⟨a, straddles⟩ := exists_straddles_of_begun opens named
    constructor
    · intro reached
      have odd : ¬ n % 2 = 0 := fun even => straddles.not_reached (before.2 even) reached
      omega
    · intro even
      rw [← List.append_assoc] at parts
      obtain reached | ⟨outer', begun', a', same, reached, straddles'⟩ :=
        reached_or_straddled missingModule?_consumes parts
      · exact reached
      · have named' := begun_of_straddles opens straddles'
        obtain rfl := within_unique same named named'
        obtain rfl := List.append_cancel_left same
        have odd := before.1 reached
        omega

end

end Tandem.Compare
