import Tandem.Proofs.Text.Scan
import Tandem.Text.Phrase

/-!
Where phrases stand in a text.

* `Phrase.Stands`: a phrase takes up a stretch of a text, with white space of any length in it.
* `startsAt_iff`: the search takes all the white space that it can get and finds the same.
* `occursIn_amid`: what a phrase is found in may stand among other text, as long as no word goes on
  across its ends.
-/

namespace Tandem.Text

/-- No word goes on behind a text. -/
def OpensAfter (front : List Char) : Prop := front.getLast?.any isWord = false

/-- No word goes on into a text. -/
def EndsBefore (rest : List Char) : Prop := rest.head?.any isWord = false

def Blank (text : List Char) : Prop := ∀ c ∈ text, isBlank c = true

namespace Phrase

/-- A phrase takes up a stretch of a text: what stands before it, the stretch, and what follows. -/
inductive Stands : Phrase → Option Char → List Char → List Char → Prop where
  | done (before : Option Char) (rest : List Char) : Stands [] before [] rest
  | word {items : Phrase} {before : Option Char} {here rest : List Char} (w : String)
    (more : Stands items (w.toList.getLast?.or before) here rest) :
    Stands (.word w :: items) before (w.toList ++ here) rest
  | space {items : Phrase} {before : Option Char} {blanks here rest : List Char}
    (blank : Blank blanks) (more : Stands items (blanks.getLast?.or before) here rest) :
    Stands (.space :: items) before (blanks ++ here) rest
  | gap {items : Phrase} {before : Option Char} {blanks here rest : List Char}
    (some : blanks ≠ []) (blank : Blank blanks)
    (more : Stands items (blanks.getLast?.or before) here rest) :
    Stands (.gap :: items) before (blanks ++ here) rest
  | edge {items : Phrase} {before : Option Char} {here rest : List Char}
    (edge : isEdge before (here ++ rest).head? = true) (more : Stands items before here rest) :
    Stands (.edge :: items) before here rest

/-- Whether a phrase begins with a word that white space does not go on into. -/
def beginsFilled : Phrase → Bool
  | .word w :: _ => w.toList.head?.any fun c => !isBlank c
  | _ => false

/-- Whether all white space in a phrase ends where the next word begins. -/
def isSettled : Phrase → Bool
  | [] => true
  | .space :: items => beginsFilled items && isSettled items
  | .gap :: items => beginsFilled items && isSettled items
  | _ :: items => isSettled items

section
variable {items : Phrase} {before before' : Option Char} {text here rest rest' blanks : List Char}

/-! ## One item after the other -/

theorem stands_nil_iff : Stands [] before here rest ↔ here = [] := by
  constructor
  · intro h
    cases h
    rfl
  · rintro rfl
    exact .done before rest

theorem stands_word_iff {w : String} : Stands (.word w :: items) before here rest ↔
    ∃ more, here = w.toList ++ more ∧ Stands items (w.toList.getLast?.or before) more rest := by
  constructor
  · intro h
    cases h with
    | word w more => exact ⟨_, rfl, more⟩
  · rintro ⟨more, rfl, h⟩
    exact .word w h

theorem stands_space_iff : Stands (.space :: items) before here rest ↔
    ∃ blanks more, here = blanks ++ more ∧ Blank blanks ∧
      Stands items (blanks.getLast?.or before) more rest := by
  constructor
  · intro h
    cases h with
    | space blank more => exact ⟨_, _, rfl, blank, more⟩
  · rintro ⟨blanks, more, rfl, blank, h⟩
    exact .space blank h

theorem stands_gap_iff : Stands (.gap :: items) before here rest ↔
    ∃ blanks more, here = blanks ++ more ∧ blanks ≠ [] ∧ Blank blanks ∧
      Stands items (blanks.getLast?.or before) more rest := by
  constructor
  · intro h
    cases h with
    | gap some blank more => exact ⟨_, _, rfl, some, blank, more⟩
  · rintro ⟨blanks, more, rfl, some, blank, h⟩
    exact .gap some blank h

theorem stands_edge_iff : Stands (.edge :: items) before here rest ↔
    isEdge before (here ++ rest).head? = true ∧ Stands items before here rest := by
  constructor
  · intro h
    cases h with
    | edge edge more => exact ⟨edge, more⟩
  · rintro ⟨edge, h⟩
    exact .edge edge h

/-! ## The search -/

theorem Stands.begins (h : Stands items before here rest) (filled : beginsFilled items = true) :
    ∃ c more, here = c :: more ∧ ¬ isBlank c = true := by
  cases h with
  | word w more =>
    cases first : w.toList with
    | nil => simp [beginsFilled, first] at filled
    | cons c w' => exact ⟨c, _, rfl, by simpa [beginsFilled, first] using filled⟩
  | _ => cases filled

/-- White space in front of a settled phrase is all there is. -/
theorem Stands.behind_blanks (h : Stands items before here rest)
    (filled : beginsFilled items = true) (blank : Blank blanks) :
    (blanks ++ (here ++ rest)).takeWhile isBlank = blanks ∧
      (blanks ++ (here ++ rest)).dropWhile isBlank = here ++ rest := by
  obtain ⟨c, more, rfl, stops⟩ := h.begins filled
  apply stretch_iff.2
  refine ⟨rfl, blank, ?_⟩
  simpa using stops

theorem any_head?_iff_takeWhile (class? : Char → Bool) (text : List Char) :
    text.head?.any class? = true ↔ text.takeWhile class? ≠ [] := by
  cases text with
  | nil => simp
  | cons c text => by_cases inside : class? c <;> simp [inside]

/-- What the search finds at the start of a text is a stretch that the phrase takes up. -/
theorem startsAt_iff (settled : isSettled items = true) :
    startsAt items before text = true ↔
      ∃ here rest, text = here ++ rest ∧ Stands items before here rest := by
  induction items generalizing before text with
  | nil => simp [startsAt, stands_nil_iff]
  | cons item items ih =>
    cases item with
    | word w =>
      have settled' : isSettled items = true := settled
      rw [startsAt]
      constructor
      · intro h
        cases start : after? w.toList text with
        | none => simp [start] at h
        | some more =>
          rw [start] at h
          obtain ⟨here, rest, rfl, stands⟩ := (ih settled').1 h
          exact ⟨w.toList ++ here, rest, by simp [after?_eq_some_iff.1 start], .word w stands⟩
      · rintro ⟨here, rest, rfl, stands⟩
        obtain ⟨more, rfl, onward⟩ := stands_word_iff.1 stands
        have start : after? w.toList (w.toList ++ more ++ rest) = some (more ++ rest) :=
          after?_eq_some_iff.2 (List.append_assoc ..)
        rw [start]
        exact (ih settled').2 ⟨more, rest, rfl, onward⟩
    | space =>
      obtain ⟨filled, settled'⟩ := Bool.and_eq_true_iff.1 settled
      rw [startsAt, ih settled']
      constructor
      · rintro ⟨here, rest, parts, stands⟩
        obtain ⟨whole, blank, -⟩ := stretch isBlank text
        refine ⟨text.takeWhile isBlank ++ here, rest, ?_, .space blank stands⟩
        rw [List.append_assoc, ← parts]
        exact whole
      · rintro ⟨here, rest, rfl, stands⟩
        obtain ⟨blanks, more, rfl, blank, onward⟩ := stands_space_iff.1 stands
        obtain ⟨taken, left⟩ := onward.behind_blanks filled blank
        rw [List.append_assoc, taken, left]
        exact ⟨more, rest, rfl, onward⟩
    | gap =>
      obtain ⟨filled, settled'⟩ := Bool.and_eq_true_iff.1 settled
      rw [startsAt, Bool.and_eq_true, any_head?_iff_takeWhile, ih settled']
      constructor
      · rintro ⟨some, here, rest, parts, stands⟩
        obtain ⟨whole, blank, -⟩ := stretch isBlank text
        refine ⟨text.takeWhile isBlank ++ here, rest, ?_, .gap some blank stands⟩
        rw [List.append_assoc, ← parts]
        exact whole
      · rintro ⟨here, rest, rfl, stands⟩
        obtain ⟨blanks, more, rfl, some, blank, onward⟩ := stands_gap_iff.1 stands
        obtain ⟨taken, left⟩ := onward.behind_blanks filled blank
        rw [List.append_assoc, taken, left]
        exact ⟨some, more, rest, rfl, onward⟩
    | edge =>
      have settled' : isSettled items = true := settled
      rw [startsAt, Bool.and_eq_true, ih settled']
      constructor
      · rintro ⟨edge, here, rest, rfl, stands⟩
        exact ⟨here, rest, rfl, .edge edge stands⟩
      · rintro ⟨here, rest, rfl, stands⟩
        obtain ⟨edge, onward⟩ := stands_edge_iff.1 stands
        exact ⟨edge, here, rest, rfl, onward⟩

/-- A phrase occurs in a text that has a stretch which it takes up. -/
theorem occursIn_iff (settled : isSettled items = true) : occursIn items text = true ↔
    ∃ front here rest, text = front ++ (here ++ rest) ∧ Stands items front.getLast? here rest := by
  rw [occursIn, anywhere_iff]
  constructor
  · rintro ⟨front, more, rfl, starts⟩
    rw [Option.or_none] at starts
    obtain ⟨here, rest, rfl, stands⟩ := (startsAt_iff settled).1 starts
    exact ⟨front, here, rest, rfl, stands⟩
  · rintro ⟨front, here, rest, rfl, stands⟩
    refine ⟨front, here ++ rest, rfl, ?_⟩
    rw [Option.or_none]
    exact (startsAt_iff settled).2 ⟨here, rest, rfl, stands⟩

/-! ## Other text around it -/

/-- A phrase only looks at whether words go on across its ends. -/
theorem Stands.carried (h : Stands items before here rest)
    (behind : before'.any isWord = before.any isWord)
    (ahead : rest'.head?.any isWord = rest.head?.any isWord) :
    Stands items before' here rest' := by
  have onward (last : Option Char) {a a' : Option Char} (same : a'.any isWord = a.any isWord) :
      (last.or a').any isWord = (last.or a).any isWord := by
    cases last with
    | none => exact same
    | some c => rfl
  induction h generalizing before' with
  | done => exact .done before' rest'
  | word w _ ih => exact .word w (ih (onward _ behind) ahead)
  | space blank _ ih => exact .space blank (ih (onward _ behind) ahead)
  | gap some blank _ ih => exact .gap some blank (ih (onward _ behind) ahead)
  | @edge _ _ here rest edge _ ih =>
    refine .edge ?_ (ih behind ahead)
    have next : (here ++ rest').head?.any isWord = (here ++ rest).head?.any isWord := by
      cases here with
      | nil => exact ahead
      | cons c here => rfl
    rw [isEdge, behind, next]
    exact edge

/-- A phrase is still found where more text stands around, if no word goes on across. -/
theorem occursIn_amid {front back : List Char} (settled : isSettled items = true)
    (opens : OpensAfter front) (ends : EndsBefore back) (h : occursIn items text = true) :
    occursIn items (front ++ (text ++ back)) = true := by
  obtain ⟨front', here, rest, rfl, stands⟩ := (occursIn_iff settled).1 h
  apply (occursIn_iff settled).2
  refine ⟨front ++ front', here, rest ++ back, by simp, stands.carried ?_ ?_⟩
  · rw [List.getLast?_append]
    cases front'.getLast? with
    | none => exact opens
    | some c => rfl
  · cases rest with
    | nil => exact ends
    | cons c rest => rfl

end

end Phrase

end Tandem.Text
