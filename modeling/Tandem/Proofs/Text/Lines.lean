import Tandem.Text.Lines

/-!
Lines, and texts that differ in their line ends alone.

* `Cut.of` cuts a text at its line feeds and nowhere else: `join_of`, `of_join`.
* `unifyNewlines_eq_iff`: texts are the same with unified line ends if they have the same lines, a
  carriage return at the end of a line not counted.
-/

namespace Tandem.Text

/-- The lines that a line feed ends, without it, and what stands after the last line feed. -/
structure Cut where
  lines : List (List Char)
  rest : List Char
deriving DecidableEq, Repr

namespace Cut

/-- Cuts a text at every line feed. -/
def of : List Char → Cut
  | [] => ⟨[], []⟩
  | c :: text =>
    if c = '\n' then ⟨[] :: (of text).lines, (of text).rest⟩
    else
      match (of text).lines with
      | [] => ⟨[], c :: (of text).rest⟩
      | line :: more => ⟨(c :: line) :: more, (of text).rest⟩

def join (cut : Cut) : List Char := cut.lines.flatMap (· ++ ['\n']) ++ cut.rest

/-- No line feed stands within a line. -/
structure Proper (cut : Cut) : Prop where
  lines : ∀ line ∈ cut.lines, '\n' ∉ line
  rest : '\n' ∉ cut.rest

theorem join_of (text : List Char) : (of text).join = text := by
  fun_induction of text with
  | case1 => rfl
  | case2 text ih => simpa [join] using ih
  | case3 c text other none ih => simpa [join, none] using ih
  | case4 c text other line more some ih => simpa [join, some] using ih

theorem newline_not_mem_cons {c : Char} {text : List Char} :
    '\n' ∉ c :: text ↔ c ≠ '\n' ∧ '\n' ∉ text := by
  rw [List.mem_cons, not_or, eq_comm]

theorem proper_of (text : List Char) : (of text).Proper := by
  fun_induction of text with
  | case1 => exact ⟨by simp, by simp⟩
  | case2 text ih => exact ⟨List.forall_mem_cons.2 ⟨List.not_mem_nil, ih.lines⟩, ih.rest⟩
  | case3 c text other none ih =>
    exact ⟨by simp, newline_not_mem_cons.2 ⟨other, ih.rest⟩⟩
  | case4 c text other line more some ih =>
    have lines := ih.lines
    rw [some] at lines
    obtain ⟨first, later⟩ := List.forall_mem_cons.1 lines
    exact ⟨List.forall_mem_cons.2 ⟨newline_not_mem_cons.2 ⟨other, first⟩, later⟩, ih.rest⟩

theorem of_line {line : List Char} (h : '\n' ∉ line) (text : List Char) :
    of (line ++ '\n' :: text) = ⟨line :: (of text).lines, (of text).rest⟩ := by
  induction line with
  | nil => simp [of]
  | cons c line ih =>
    obtain ⟨other, later⟩ := newline_not_mem_cons.1 h
    rw [List.cons_append, of, if_neg other, ih later]

theorem of_rest {rest : List Char} (h : '\n' ∉ rest) : of rest = ⟨[], rest⟩ := by
  induction rest with
  | nil => rfl
  | cons c rest ih =>
    obtain ⟨other, later⟩ := newline_not_mem_cons.1 h
    rw [of, if_neg other, ih later]

theorem of_join {cut : Cut} (h : cut.Proper) : of cut.join = cut := by
  obtain ⟨lines, rest⟩ := cut
  obtain ⟨free, tail⟩ := h
  induction lines with
  | nil => exact of_rest tail
  | cons line lines ih =>
    obtain ⟨first, later⟩ := List.forall_mem_cons.1 free
    have whole : join ⟨line :: lines, rest⟩ = line ++ '\n' :: join ⟨lines, rest⟩ := by
      simp [join]
    rw [whole, of_line first, ih later tail]

end Cut

/-- A line without one carriage return at its end. -/
def dropReturn (line : List Char) : List Char :=
  if line.getLast? = some '\r' then line.dropLast else line

/-- What is left of a cut text where carriage returns before line feeds do not count. -/
def Cut.bare (cut : Cut) : Cut := ⟨cut.lines.map dropReturn, cut.rest⟩

theorem dropReturn_cons {c : Char} {line : List Char} (h : c ≠ '\r' ∨ line ≠ []) :
    dropReturn (c :: line) = c :: dropReturn line := by
  cases line with
  | nil => simp_all [dropReturn]
  | cons d line =>
    simp only [dropReturn, List.getLast?_cons_cons, List.dropLast_cons_cons]
    split <;> rfl

theorem mem_of_mem_dropReturn {c : Char} {line : List Char} (h : c ∈ dropReturn line) :
    c ∈ line := by
  rw [dropReturn] at h
  split at h
  · exact List.dropLast_subset line h
  · exact h

theorem proper_bare {cut : Cut} (h : cut.Proper) : cut.bare.Proper := by
  refine ⟨?_, h.rest⟩
  intro line member
  obtain ⟨whole, inside, rfl⟩ := List.mem_map.1 member
  exact fun feed => h.lines whole inside (mem_of_mem_dropReturn feed)

/-- An empty first line is a line feed. -/
theorem starts_of_empty_line {text : List Char} {more : List (List Char)}
    (h : (Cut.of text).lines = [] :: more) : ∃ later, text = '\n' :: later := by
  fun_cases Cut.of text with
  | case1 => cases h
  | case2 later => exact ⟨later, rfl⟩
  | case3 c later other none => simp [Cut.of, other, none] at h
  | case4 c later other line more some => simp [Cut.of, other, some] at h

/-- Unifying line ends drops one carriage return from every line that ends with one. -/
theorem unifyNewlines_eq (text : List Char) : unifyNewlines text = (Cut.of text).bare.join := by
  fun_induction unifyNewlines text with
  | case1 => rfl
  | case2 text ih => simp [Cut.of, Cut.bare, Cut.join, dropReturn, ih]
  | case3 c text single ih =>
    rw [ih]
    by_cases feed : c = '\n'
    · simp [feed, Cut.of, Cut.bare, Cut.join, dropReturn]
    · cases lines : (Cut.of text).lines with
      | nil => simp [feed, Cut.of, Cut.bare, Cut.join, lines]
      | cons line more =>
        have kept : c ≠ '\r' ∨ line ≠ [] := by
          rw [← Decidable.not_and_iff_or_not]
          rintro ⟨rfl, rfl⟩
          obtain ⟨later, rfl⟩ := starts_of_empty_line lines
          exact single later rfl rfl
        simp [feed, Cut.of, Cut.bare, Cut.join, lines, dropReturn_cons kept]

/-- Texts are the same with unified line ends if they have the same lines, a carriage return at the
end of a line not counted, and the same rest. -/
theorem unifyNewlines_eq_iff {text text' : List Char} :
    unifyNewlines text = unifyNewlines text' ↔ (Cut.of text).bare = (Cut.of text').bare := by
  rw [unifyNewlines_eq, unifyNewlines_eq]
  constructor
  · intro same
    have again := congrArg Cut.of same
    rwa [Cut.of_join (proper_bare (Cut.proper_of text)),
      Cut.of_join (proper_bare (Cut.proper_of text'))] at again
  · exact congrArg Cut.join

/-! ## Characters and plain stretches before a text -/

section
variable {c : Char} {front text : List Char}

theorem unifyNewlines_cons : unifyNewlines (c :: text) =
    if c = '\r' ∧ text.head? = some '\n' then unifyNewlines text else c :: unifyNewlines text := by
  by_cases pair : c = '\r' ∧ text.head? = some '\n'
  · obtain ⟨rfl, feed⟩ := pair
    obtain ⟨later, rfl⟩ := List.head?_eq_some_iff.1 feed
    rw [if_pos ⟨rfl, rfl⟩]
    simp [unifyNewlines]
  · rw [if_neg pair, unifyNewlines]
    rintro later rfl rfl
    exact pair ⟨rfl, rfl⟩

theorem unifyNewlines_front (plain : ∀ c ∈ front, c ≠ '\r') :
    unifyNewlines (front ++ text) = front ++ unifyNewlines text := by
  induction front with
  | nil => rfl
  | cons c front ih =>
    obtain ⟨first, later⟩ := List.forall_mem_cons.1 plain
    rw [List.cons_append, unifyNewlines_cons, if_neg fun pair => first pair.1, ih later,
      List.cons_append]

/-- Adds to the first piece, or makes one. -/
def extend (front : List Char) : List (List Char) → List (List Char)
  | [] => [front]
  | piece :: more => (front ++ piece) :: more

/-- A line feed ends a piece, and so does a carriage return that none follows. -/
theorem pieces_cons : pieces (c :: text) =
    if c = '\n' ∨ c = '\r' ∧ text.head? ≠ some '\n' then [c] :: pieces text
    else extend [c] (pieces text) := by
  by_cases feed : c = '\n'
  · simp [feed, pieces]
  by_cases ret : c = '\r'
  · by_cases pair : text.head? = some '\n'
    · obtain ⟨later, rfl⟩ := List.head?_eq_some_iff.1 pair
      simp [ret, pieces, extend]
    · rw [if_pos (.inr ⟨ret, pair⟩), ret, pieces]
      rintro later rfl
      exact pair rfl
  · rw [if_neg (by simp [feed, ret])]
    cases parts : pieces text <;> simp [pieces, ret, parts, extend]

theorem pieces_front (some : front ≠ []) (plain : ∀ c ∈ front, c ≠ '\n' ∧ c ≠ '\r') :
    pieces (front ++ text) = extend front (pieces text) := by
  induction front with
  | nil => exact absurd rfl some
  | cons c front ih =>
    obtain ⟨first, later⟩ := List.forall_mem_cons.1 plain
    have none : ¬ (c = '\n' ∨ c = '\r' ∧ (front ++ text).head? ≠ Option.some '\n') := by
      simp [first]
    rw [List.cons_append, pieces_cons, if_neg none]
    by_cases last : front = []
    · rw [last, List.nil_append]
    · rw [ih last later]
      cases pieces text <;> rfl

end

end Tandem.Text
