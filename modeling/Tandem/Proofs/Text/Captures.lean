import Tandem.Text.Scan

/-!
What is captured in a text.

* `Scanned`: how a text is read into captures, and `Consumes.scanned_iff`: that `captures` reads it
  so, and in no other way.
* `Reached`: the places at which the reading looks for a capture; `mem_captures_iff`: the captures
  are those at such places. A place is either reached or some capture reaches over it:
  `reached_or_straddled`, `Straddles.not_reached`.
* `captures_line`: captures that stay on their line are those of one line and then of the next.
-/

namespace Tandem.Text

section
variable {α : Type}

/-- What a search captures is at least one character long. -/
def Consumes (capture? : List Char → Option (α × List Char)) : Prop :=
  ∀ text a rest, capture? text = some (a, rest) → ∃ taken, taken ≠ [] ∧ text = taken ++ rest

/-- A line feed ends whatever a search captures, and what stands after it makes no difference. -/
def WithinLine (capture? : List Char → Option (α × List Char)) : Prop :=
  ∀ line later, capture? (line ++ '\n' :: later) =
    (capture? line).map fun (a, rest) => (a, rest ++ '\n' :: later)

/-- How a text is read from left to right: where there is a capture it is taken and the reading goes
on behind it, and elsewhere a single character is passed. -/
inductive Scanned (capture? : List Char → Option (α × List Char)) : List Char → List α → Prop where
  | done (none : capture? [] = none) : Scanned capture? [] []
  | pass {c : Char} {text : List Char} {items : List α} (none : capture? (c :: text) = none)
      (later : Scanned capture? text items) : Scanned capture? (c :: text) items
  | take {text rest : List Char} {a : α} {items : List α} (here : capture? text = some (a, rest))
      (later : Scanned capture? rest items) : Scanned capture? text (a :: items)

variable {capture? : List Char → Option (α × List Char)} {text rest : List Char} {a : α}
  {items : List α}

theorem Consumes.length_lt (consumes : Consumes capture?) (here : capture? text = some (a, rest)) :
    rest.length < text.length := by
  obtain ⟨taken, some, rfl⟩ := consumes text a rest here
  have pos := List.length_pos_iff.2 some
  rw [List.length_append]
  omega

theorem Consumes.captures_take (consumes : Consumes capture?)
    (here : capture? text = some (a, rest)) :
    captures capture? text = a :: captures capture? rest := by
  rw [captures.eq_def, here]
  exact if_pos (consumes.length_lt here)

theorem captures_pass {c : Char} (none : capture? (c :: text) = none) :
    captures capture? (c :: text) = captures capture? text := by
  rw [captures.eq_def, none]

theorem captures_done (none : capture? [] = none) : captures capture? [] = [] := by
  rw [captures.eq_def, none]

theorem Consumes.scanned (consumes : Consumes capture?) (text : List Char) :
    Scanned capture? text (captures capture? text) := by
  fun_induction captures capture? text with
  | case1 text a rest here shorter ih => exact .take here ih
  | case2 text a rest here longer => exact absurd (consumes.length_lt here) longer
  | case3 none => exact .done none
  | case4 c rest none ih => exact .pass none ih

/-- A text is read in one way only. -/
theorem Consumes.scanned_iff (consumes : Consumes capture?) :
    Scanned capture? text items ↔ items = captures capture? text := by
  constructor
  · intro read
    induction read with
    | done none => exact (captures_done none).symm
    | pass none _ ih => rw [captures_pass none, ih]
    | take here _ ih => rw [consumes.captures_take here, ih]
  · rintro rfl
    exact consumes.scanned text

/-- Where the reading of a text stops to look for a capture: behind `front`, before `here`. -/
inductive Reached (capture? : List Char → Option (α × List Char)) :
    List Char → List Char → List Char → Prop where
  | start (text : List Char) : Reached capture? text [] text
  | pass {c : Char} {text front here : List Char} (none : capture? (c :: text) = none)
      (later : Reached capture? text front here) : Reached capture? (c :: text) (c :: front) here
  | take {text taken rest front here whole : List Char} {a : α}
      (found : capture? text = some (a, rest)) (parts : text = taken ++ rest)
      (both : whole = taken ++ front) (later : Reached capture? rest front here) :
      Reached capture? text whole here

/-- A capture of `a` begins with `begun` and ends within `here`. -/
def Straddles (capture? : List Char → Option (α × List Char)) (begun here : List Char) (a : α) :
    Prop :=
  ∃ reach rest, begun ≠ [] ∧ reach ≠ [] ∧ here = reach ++ rest ∧
    capture? (begun ++ here) = some (a, rest)

section
variable {front here begun : List Char}

theorem Reached.parts (reached : Reached capture? text front here) : text = front ++ here := by
  induction reached with
  | start text => rfl
  | pass none _ ih => rw [ih, List.cons_append]
  | take found parts both _ ih => rw [parts, ih, both, List.append_assoc]

/-- What is captured is what stands at the places that are reached. -/
theorem mem_captures_iff (consumes : Consumes capture?) : a ∈ captures capture? text ↔
    ∃ front here rest, Reached capture? text front here ∧ capture? here = some (a, rest) := by
  constructor
  · have read := consumes.scanned text
    generalize captures capture? text = items at read
    intro member
    induction read with
    | done none => cases member
    | pass none _ ih =>
      obtain ⟨front, here, rest, reached, captured⟩ := ih member
      exact ⟨_, here, rest, .pass none reached, captured⟩
    | @take text rest b items found _ ih =>
      obtain rfl | later := List.mem_cons.1 member
      · exact ⟨[], text, rest, .start text, found⟩
      · obtain ⟨front, here, rest', reached, captured⟩ := ih later
        obtain ⟨taken, -, parts⟩ := consumes text b rest found
        exact ⟨_, here, rest', .take found parts rfl reached, captured⟩
  · rintro ⟨front, here, rest, reached, captured⟩
    induction reached with
    | start text =>
      rw [consumes.captures_take captured]
      exact List.mem_cons_self ..
    | pass none _ ih =>
      rw [captures_pass none]
      exact ih captured
    | take found parts both _ ih =>
      rw [consumes.captures_take found]
      exact List.mem_cons_of_mem _ (ih captured)

/-- Every place is reached, unless a capture that begins at a place before it ends after it. -/
theorem reached_or_straddled (consumes : Consumes capture?) (parts : text = front ++ here) :
    Reached capture? text front here ∨ ∃ outer begun a, front = outer ++ begun ∧
      Reached capture? text outer (begun ++ here) ∧ Straddles capture? begun here a := by
  have read := consumes.scanned text
  generalize captures capture? text = items at read
  induction read generalizing front with
  | done none =>
    obtain ⟨rfl, rfl⟩ := List.nil_eq_append_iff.1 parts
    exact .inl (.start [])
  | @pass c text items none _ ih =>
    cases front with
    | nil =>
      rw [List.nil_append] at parts
      subst parts
      exact .inl (.start _)
    | cons d front =>
      obtain ⟨rfl, rfl⟩ := List.cons.inj parts
      obtain reached | ⟨outer, begun, b, rfl, reached, straddles⟩ := ih rfl
      · exact .inl (.pass none reached)
      · exact .inr ⟨c :: outer, begun, b, rfl, .pass none reached, straddles⟩
  | @take text later b items found _ ih =>
    obtain ⟨taken, some, whole⟩ := consumes text b later found
    -- The capture ends at the place or before it, and the reading goes on, or else beyond it.
    obtain ⟨middle, rfl, begins⟩ | ⟨reach, ends, begins⟩ :=
      List.append_eq_append_iff.1 (whole.symm.trans parts)
    · obtain reached | ⟨outer, begun, b', rfl, reached, straddles⟩ := ih begins
      · exact .inl (.take found whole rfl reached)
      · exact .inr ⟨taken ++ outer, begun, b', (List.append_assoc ..).symm,
          .take found whole rfl reached, straddles⟩
    · by_cases ahead : front = []
      · subst ahead
        rw [List.nil_append] at parts
        subst parts
        exact .inl (.start _)
      by_cases stops : reach = []
      · subst stops
        rw [List.append_nil] at ends
        rw [List.nil_append] at begins
        subst begins ends
        exact .inl (.take found whole (List.append_nil _).symm (.start _))
      · subst parts
        exact .inr ⟨[], front, b, rfl, .start _, reach, later, ahead, stops, begins, found⟩

/-- How a reading begins that reaches a place. -/
theorem Reached.first (reached : Reached capture? text front here) : (front = [] ∧ here = text) ∨
    (∃ c rest later, text = c :: rest ∧ front = c :: later ∧ capture? text = none ∧
      Reached capture? rest later here) ∨
    ∃ taken rest later a, text = taken ++ rest ∧ front = taken ++ later ∧
      capture? text = some (a, rest) ∧ Reached capture? rest later here := by
  cases reached with
  | start => exact .inl ⟨rfl, rfl⟩
  | pass none later => exact .inr (.inl ⟨_, _, _, rfl, rfl, none, later⟩)
  | take found parts both later => exact .inr (.inr ⟨_, _, _, _, parts, both, found, later⟩)

/-- No place that a capture reaches over is reached. -/
theorem Straddles.not_reached {outer : List Char} (straddles : Straddles capture? begun here a)
    (reached : Reached capture? text outer (begun ++ here)) :
    ¬ Reached capture? text (outer ++ begun) here := by
  obtain ⟨reach, rest, some, beyond, ends, captured⟩ := straddles
  generalize place : begun ++ here = there at reached
  induction reached with
  | start text =>
    subst place
    intro other
    rw [List.nil_append] at other
    obtain ⟨nothing, -⟩ | ⟨_, _, _, -, -, none, -⟩ |
      ⟨taken, rest', later, _, parts, both, found, -⟩ := other.first
    · exact some nothing
    · rw [captured] at none
      cases none
    · rw [captured] at found
      cases found
      have lengths := congrArg List.length parts
      have more := congrArg List.length both
      have pos := List.length_pos_iff.2 beyond
      simp only [ends, List.length_append] at lengths more
      omega
  | @pass c text front there none _ ih =>
    intro other
    rw [List.cons_append] at other
    obtain ⟨⟨⟩, -⟩ | ⟨_, _, _, same, both, -, later⟩ | ⟨taken, rest', later, _, -, -, found, -⟩ :=
      other.first
    · cases same
      cases both
      exact ih place later
    · rw [none] at found
      cases found
  | @take text taken after front there whole b found parts both _ ih =>
    intro other
    obtain ⟨nothing, -⟩ | ⟨_, _, _, -, -, none, -⟩ |
      ⟨taken', _, later, _, parts', both', found', rest⟩ := other.first
    · exact some (List.append_eq_nil_iff.1 nothing).2
    · rw [none] at found
      cases found
    · rw [found] at found'
      cases found'
      have same := List.append_cancel_right (parts.symm.trans parts')
      subst same both
      rw [List.append_assoc] at both'
      rw [← List.append_cancel_left both'] at rest
      exact ih place rest

end

/-- Captures that end with their line are those of the line and then those of what follows it. -/
theorem captures_line (consumes : Consumes capture?) (within : WithinLine capture?)
    (line later : List Char) : captures capture? (line ++ '\n' :: later) =
      captures capture? line ++ captures capture? later := by
  refine Eq.symm (consumes.scanned_iff.1 ?_)
  have read := consumes.scanned line
  generalize captures capture? line = items at read
  induction read with
  | done none =>
    have passed := within [] later
    rw [none] at passed
    exact .pass passed (consumes.scanned later)
  | @pass c text items none _ ih =>
    have passed := within (c :: text) later
    rw [none] at passed
    exact .pass passed ih
  | @take text rest a items here _ ih =>
    have taken := within text later
    rw [here] at taken
    exact .take taken ih

end

end Tandem.Text
