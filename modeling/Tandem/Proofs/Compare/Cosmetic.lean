import Tandem.Text.Phrase
import Tandem.Proofs.Compare.Mapping
import Tandem.Proofs.Text.Captures
import Tandem.Proofs.Text.Scan

/-!
What the cosmetic warnings are due to.

* `ShowsMark`, `ShowsType`, `ShowsLong`: what the searches for a marked string literal, for the name
  of a type and for a long integer find in a line.
* `Divided`: how a line divides into numbers from left to right, each as long as it can be, and
  `divided_iff`: that the numbers of a line are those.
* `Cosmetic.Due`, `cosmetics_exact`: the warnings are those that are due, in order and each once.
-/

namespace Tandem.Compare

open Tandem.Text Tandem.Diff

/-! ## Signs in a line -/

/-- The mark of a string literal stands before a quote, and behind no part of a name. -/
def ShowsMark (line : List Char) : Prop :=
  ∃ before quote after, line = before ++ 'u' :: quote :: after ∧ (quote = '\'' ∨ quote = '"') ∧
    ∀ c ∈ before.getLast?, ¬ isNameChar c

/-- White space stands between the start of the name of a type and a quote. -/
def ShowsType (line : List Char) : Prop :=
  ∃ before opening blanks after, line = before ++ opening ++ blanks ++ '\'' :: after ∧
    (opening = "<type".toList ∨ opening = "<class".toList) ∧ blanks ≠ [] ∧ ∀ c ∈ blanks, isBlank c

/-- Digits and an `L` stand between two edges of words. -/
def ShowsLong (line : List Char) : Prop :=
  ∃ before digits after, line = before ++ digits ++ 'L' :: after ∧ digits ≠ [] ∧
    (∀ c ∈ digits, isDecimal c) ∧ isEdge before.getLast? digits.head? ∧
    isEdge (some 'L') after.head?

section
variable {before : Option Char} {text : List Char}

theorem shows_iff {p : Option Char → List Char → Bool} {line : String} :
    Cosmetic.shows p line = true ↔
      ∃ front rest, line.toList = front ++ rest ∧ p front.getLast? rest = true := by
  simp only [Cosmetic.shows, anywhere_iff, Option.or_none]

theorem markedStringAt_iff : markedStringAt before text = true ↔
    ∃ quote after, text = 'u' :: quote :: after ∧ (quote = '\'' ∨ quote = '"') ∧
      ∀ c ∈ before, ¬ isNameChar c := by
  unfold markedStringAt
  split
  · cases before <;> simp
  · rename_i other
    constructor
    · rintro ⟨⟩
    · rintro ⟨quote, after, rfl, -⟩
      exact absurd rfl (other quote after)

theorem shows_markedStringAt (line : String) :
    Cosmetic.shows markedStringAt line = true ↔ ShowsMark line.toList := by
  rw [shows_iff]
  constructor
  · rintro ⟨front, rest, parts, here⟩
    obtain ⟨quote, after, rfl, found⟩ := markedStringAt_iff.1 here
    exact ⟨front, quote, after, parts, found⟩
  · rintro ⟨front, quote, after, parts, found⟩
    exact ⟨front, 'u' :: quote :: after, parts, markedStringAt_iff.2 ⟨quote, after, rfl, found⟩⟩

theorem typeNameAt_iff : typeNameAt before text = true ↔
    ∃ opening blanks after, text = opening ++ (blanks ++ '\'' :: after) ∧
      (opening = "<type".toList ∨ opening = "<class".toList) ∧ blanks ≠ [] ∧
      ∀ c ∈ blanks, isBlank c := by
  have outside : ¬ isBlank '\'' := by decide
  have starts (rest : List Char) : afterAny? ["<type".toList, "<class".toList] text = some rest ↔
      ∃ opening, (opening = "<type".toList ∨ opening = "<class".toList) ∧
        text = opening ++ rest := by
    rw [afterAny?_eq_some_iff _ _ _ (by decide)]
    simp only [List.mem_cons, List.not_mem_nil, or_false]
  constructor
  · intro here
    cases found : afterAny? ["<type".toList, "<class".toList] text with
    | none =>
      rw [typeNameAt, found] at here
      cases here
    | some rest =>
      obtain ⟨opening, which, rfl⟩ := (starts rest).1 found
      simp only [typeNameAt, found, Bool.and_eq_true, beq_iff_eq] at here
      obtain ⟨blank, closes⟩ := here
      obtain ⟨after, ends⟩ := List.head?_eq_some_iff.1 closes
      obtain ⟨blanks, rfl, all⟩ := (dropWhile_eq_cons_iff _ outside).1 ends
      exact ⟨opening, blanks, after, rfl, which, (any_head?_iff outside all).1 blank, all⟩
  · rintro ⟨opening, blanks, after, rfl, which, some, all⟩
    have found := (starts (blanks ++ '\'' :: after)).2 ⟨opening, which, rfl⟩
    have ends := (dropWhile_eq_cons_iff after outside).2 ⟨blanks, rfl, all⟩
    simp only [typeNameAt, found, ends, (any_head?_iff outside all).2 some]
    rfl

theorem shows_typeNameAt (line : String) :
    Cosmetic.shows typeNameAt line = true ↔ ShowsType line.toList := by
  rw [shows_iff]
  constructor
  · rintro ⟨front, rest, parts, here⟩
    obtain ⟨opening, blanks, after, rfl, found⟩ := typeNameAt_iff.1 here
    exact ⟨front, opening, blanks, after, by simpa using parts, found⟩
  · rintro ⟨front, opening, blanks, after, parts, found⟩
    exact ⟨front, opening ++ (blanks ++ '\'' :: after), by simpa using parts,
      typeNameAt_iff.2 ⟨opening, blanks, after, rfl, found⟩⟩

/-! ## Long integers -/

theorem inRanges_mono {small large : List (Nat × Nat)} {c : Char}
    (h : (small.all fun r => large.any fun r' => r'.1.ble r.1 && r.2.ble r'.2) = true)
    (inside : inRanges small c = true) : inRanges large c = true := by
  obtain ⟨r, member, within⟩ := List.any_eq_true.1 inside
  obtain ⟨r', member', covers⟩ := List.any_eq_true.1 (List.all_eq_true.1 h r member)
  simp only [Bool.and_eq_true, decide_eq_true_eq, Nat.ble_eq] at within covers
  refine List.any_eq_true.2 ⟨r', member', ?_⟩
  simp only [Bool.and_eq_true, decide_eq_true_eq]
  omega

/-- Digits are parts of words, those of ASCII and all others. -/
theorem isWord_of_isDecimal {c : Char} (h : isDecimal c = true) : isWord c = true := by
  rw [isWord]
  split
  · rename_i ascii
    have others : ∀ r ∈ digitRanges, r = (0x30, 0x39) ∨ 0x80 ≤ r.1 := by decide
    obtain ⟨r, member, within⟩ := List.any_eq_true.1 h
    simp only [Bool.and_eq_true, decide_eq_true_eq] at within
    obtain rfl | beyond := others r member
    · have digit : c.isDigit = true := by
        simpa [Char.isDigit, UInt32.le_iff_toNat_le] using within
      simp [isNameChar, Char.isAlphanum, digit]
    · omega
  · exact inRanges_mono (by decide +kernel) h

theorem longIntegerAt_iff : longIntegerAt before text = true ↔
    ∃ digits after, text = digits ++ 'L' :: after ∧ digits ≠ [] ∧ (∀ c ∈ digits, isDecimal c) ∧
      isEdge before digits.head? ∧ isEdge (some 'L') after.head? := by
  have outside : ¬ isDecimal 'L' := by decide
  have letter : isWord 'L' = true := by decide
  have edge {digits : List Char} (some : digits ≠ []) (all : ∀ c ∈ digits, isDecimal c) :
      isEdge before digits.head? = !before.any isWord := by
    obtain ⟨c, rest, rfl⟩ := List.exists_cons_of_ne_nil some
    simp [isEdge, isWord_of_isDecimal (all c (List.mem_cons_self ..))]
  constructor
  · intro here
    simp only [longIntegerAt, Bool.and_eq_true] at here
    obtain ⟨⟨first, digit⟩, last⟩ := here
    split at last
    · rename_i after ends
      obtain ⟨digits, rfl, all⟩ := (dropWhile_eq_cons_iff _ outside).1 ends
      have some := (any_head?_iff outside all).1 digit
      refine ⟨digits, after, rfl, some, all, ?_, ?_⟩
      · rwa [edge some all]
      · simpa [isEdge, letter] using last
    · cases last
  · rintro ⟨digits, after, rfl, some, all, first, last⟩
    have ends := (dropWhile_eq_cons_iff after outside).2 ⟨digits, rfl, all⟩
    rw [edge some all] at first
    simp only [longIntegerAt, first, ends, (any_head?_iff outside all).2 some, Bool.true_and]
    simpa [isEdge, letter] using last

theorem shows_longIntegerAt (line : String) :
    Cosmetic.shows longIntegerAt line = true ↔ ShowsLong line.toList := by
  rw [shows_iff]
  constructor
  · rintro ⟨front, rest, parts, here⟩
    obtain ⟨digits, after, rfl, found⟩ := longIntegerAt_iff.1 here
    exact ⟨front, digits, after, by simpa using parts, found⟩
  · rintro ⟨front, digits, after, parts, found⟩
    exact ⟨front, digits ++ 'L' :: after, by simpa using parts,
      longIntegerAt_iff.2 ⟨digits, after, rfl, found⟩⟩

end

/-! ## Numbers -/

/-- Digits, or digits on both sides of a point. -/
inductive IsNumber : List Char → Prop where
  | whole {digits : List Char} (some : digits ≠ []) (all : ∀ c ∈ digits, isDecimal c) :
      IsNumber digits
  | decimal {digits decimals : List Char} (some : digits ≠ []) (all : ∀ c ∈ digits, isDecimal c)
      (some' : decimals ≠ []) (all' : ∀ c ∈ decimals, isDecimal c) :
      IsNumber (digits ++ '.' :: decimals)

/-- How a text divides into numbers: from left to right, passing what no number begins with, each
number as long as it can be. -/
inductive Divided : List Char → List (List Char) → Prop where
  | done : Divided [] []
  | pass {c : Char} {text : List Char} {ns : List (List Char)} (other : ¬ isDecimal c)
      (later : Divided text ns) : Divided (c :: text) ns
  | take {n rest : List Char} {ns : List (List Char)} (number : IsNumber n)
      (longest : ∀ m, IsNumber m → m <+: n ++ rest → m.length ≤ n.length)
      (later : Divided rest ns) : Divided (n ++ rest) (n :: ns)

section
variable {text n rest : List Char} {ns : List (List Char)}

theorem IsNumber.starts (number : IsNumber n) : ∃ c more, n = c :: more ∧ isDecimal c := by
  cases number with
  | @whole digits some all =>
    obtain ⟨c, more, rfl⟩ := List.exists_cons_of_ne_nil some
    exact ⟨c, more, rfl, all c (List.mem_cons_self ..)⟩
  | @decimal digits decimals some all some' all' =>
    obtain ⟨c, more, rfl⟩ := List.exists_cons_of_ne_nil some
    exact ⟨c, more ++ '.' :: decimals, rfl, all c (List.mem_cons_self ..)⟩

theorem takeWhile_isDecimal_eq_nil_iff :
    text.takeWhile isDecimal = [] ↔ ∀ c ∈ text.head?, ¬ isDecimal c := by
  cases text with
  | nil => simp
  | cons c text => simp [List.takeWhile_cons]

theorem number?_eq_none_iff : number? text = none ↔ ∀ c ∈ text.head?, ¬ isDecimal c := by
  rw [← takeWhile_isDecimal_eq_nil_iff]
  fun_cases number? text with
  | case1 digits none => exact iff_of_true rfl none
  | case2 digits some => exact iff_of_false (by simp) some
  | case3 digits some => exact iff_of_false (by simp) some
  | case4 digits some => exact iff_of_false (by simp) some

/-- A number that a text starts with is the digits that stand first, or those and what their point
has behind it. -/
theorem IsNumber.length_le (number : IsNumber n) (starts : n <+: text) :
    n.length ≤ (text.takeWhile isDecimal).length ∨
      ∃ more, text.dropWhile isDecimal = '.' :: more ∧ more.takeWhile isDecimal ≠ [] ∧
        n.length ≤ (text.takeWhile isDecimal).length + 1 + (more.takeWhile isDecimal).length := by
  obtain ⟨more, rfl⟩ := starts
  cases number with
  | @whole digits some all =>
    left
    rw [List.takeWhile_append_of_pos all, List.length_append]
    exact Nat.le_add_right ..
  | @decimal digits decimals some all some' all' =>
    have stops : ∀ c ∈ ('.' :: (decimals ++ more)).head?, ¬ isDecimal c := by
      rintro c ⟨⟩
      decide
    have parts := List.append_assoc digits ('.' :: decimals) more
    obtain ⟨here, after⟩ := stretch_iff.2 ⟨parts, all, stops⟩
    right
    refine ⟨decimals ++ more, after, ?_, ?_⟩
    · rw [List.takeWhile_append_of_pos all']
      simp [some']
    · rw [here, List.takeWhile_append_of_pos all']
      simp only [List.length_append, List.length_cons]
      omega

theorem number_of_number? (h : number? text = some (n, rest)) :
    text = n ++ rest ∧ IsNumber n ∧ ∀ m, IsNumber m → m <+: text → m.length ≤ n.length := by
  have all (text : List Char) : ∀ c ∈ text.takeWhile isDecimal, isDecimal c :=
    fun c member => List.all_eq_true.1 List.all_takeWhile c member
  have parts (text : List Char) : text = text.takeWhile isDecimal ++ text.dropWhile isDecimal :=
    List.takeWhile_append_dropWhile.symm
  revert h
  fun_cases number? text with
  | case1 => rintro ⟨⟩
  | case2 digits some more point decimals no =>
    subst digits decimals
    rintro ⟨⟩
    refine ⟨by rw [← point, ← parts], .whole some (all text), fun m number starts => ?_⟩
    obtain short | ⟨more', point', some', -⟩ := number.length_le starts
    · exact short
    · rw [point] at point'
      cases point'
      exact absurd no some'
  | case3 digits some more point decimals some' =>
    subst digits decimals
    rintro ⟨⟩
    refine ⟨?_, .decimal some (all text) some' (all more), fun m number starts => ?_⟩
    · rw [List.append_assoc, List.cons_append, ← parts more, ← point, ← parts]
    · rw [List.length_append, List.length_cons]
      obtain short | ⟨more', point', -, bounded⟩ := number.length_le starts
      · omega
      · rw [point] at point'
        cases point'
        omega
  | case4 digits some other =>
    subst digits
    rintro ⟨⟩
    refine ⟨parts text, .whole some (all text), fun m number starts => ?_⟩
    obtain short | ⟨more', point', -⟩ := number.length_le starts
    · exact short
    · exact absurd point' (other more')

/-- What is read at a place is the longest number there. -/
theorem number?_eq_some_iff : number? text = some (n, rest) ↔
    text = n ++ rest ∧ IsNumber n ∧ ∀ m, IsNumber m → m <+: text → m.length ≤ n.length := by
  constructor
  · exact number_of_number?
  · rintro ⟨rfl, number, longest⟩
    cases read : number? (n ++ rest) with
    | none =>
      obtain ⟨c, more, rfl, digit⟩ := number.starts
      exact absurd digit (number?_eq_none_iff.1 read c rfl)
    | some found =>
      obtain ⟨n', rest'⟩ := found
      obtain ⟨same, number', longest'⟩ := number_of_number? read
      have short := longest' n number (List.prefix_append n rest)
      have long := longest n' number' ⟨rest', same.symm⟩
      obtain ⟨rfl, rfl⟩ := List.append_inj same (Nat.le_antisymm short long)
      rfl

theorem number?_consumes : Consumes number? := by
  intro text n rest found
  obtain ⟨parts, number, -⟩ := number_of_number? found
  obtain ⟨c, more, rfl, -⟩ := number.starts
  exact ⟨c :: more, List.cons_ne_nil c more, parts⟩

theorem divided_iff_scanned : Divided text ns ↔ Scanned number? text ns := by
  constructor
  · intro division
    induction division with
    | done => exact .done (by decide)
    | pass other _ ih => exact .pass (number?_eq_none_iff.2 (by simpa using other)) ih
    | take number longest _ ih => exact .take (number?_eq_some_iff.2 ⟨rfl, number, longest⟩) ih
  · intro read
    induction read with
    | done => exact .done
    | pass none _ ih => exact .pass (number?_eq_none_iff.1 none _ rfl) ih
    | take here _ ih =>
      obtain ⟨rfl, number, longest⟩ := number_of_number? here
      exact .take number longest ih

/-- A text divides into numbers in one way. -/
theorem divided_iff : Divided text ns ↔ ns = numbers text :=
  divided_iff_scanned.trans number?_consumes.scanned_iff

end

/-! ## Reasons -/

namespace Cosmetic

/-- What gives reason for a warning. -/
def Due (source target : String) (changes : Changes) : Cosmetic → Prop
  | mappingOrder =>
    (∃ line ∈ changes.removed ++ changes.added, ShowsMapping line.toList) ∧
      ShowsMapping source.toList ∧ ShowsMapping target.toList
  | stringMark => ∃ line ∈ changes.removed ++ changes.added, ShowsMark line.toList
  | typeName => ∃ line ∈ changes.removed ++ changes.added, ShowsType line.toList
  | longInteger => ∃ line ∈ changes.removed, ShowsLong line.toList
  | division =>
    (∃ line ∈ changes.removed, ∃ ns, Divided line.toList ns ∧ ∃ n ∈ ns, '.' ∉ n) ∧
      ∃ line ∈ changes.added, ∃ ns, Divided line.toList ns ∧ ∃ n ∈ ns, '.' ∈ n

variable {source target : String} {changes : Changes} {w w' : Cosmetic}

theorem applies_iff : w.applies source target changes = true ↔ w.Due source target changes := by
  cases w with
  | mappingOrder =>
    simp only [applies, Due, Changes.all, Bool.and_eq_true, List.any_eq_true, shows_mappingAt,
      and_assoc]
  | stringMark => simp only [applies, Due, Changes.all, List.any_eq_true, shows_markedStringAt]
  | typeName => simp only [applies, Due, Changes.all, List.any_eq_true, shows_typeNameAt]
  | longInteger => simp only [applies, Due, List.any_eq_true, shows_longIntegerAt]
  | division => simp [applies, Due, divided_iff, hasPoint]

theorem mem_all (w : Cosmetic) : w ∈ all := by
  cases w <;> decide

theorem message_injective (same : w.message = w'.message) : w = w' := by
  revert same
  cases w <;> cases w' <;> simp [message]

end Cosmetic

/-- Each warning is given if it is due and at most once, and the warnings stand in their fixed
order. -/
theorem cosmetics_exact (source target : String) (changes : Changes) :
    (cosmetics source target changes).Sublist (Cosmetic.all.map Cosmetic.message) ∧
      (Cosmetic.all.map Cosmetic.message).Nodup ∧
      ∀ w : Cosmetic, w.message ∈ cosmetics source target changes ↔
        w.Due source target changes := by
  have distinct : Cosmetic.all.Nodup := by decide
  refine ⟨List.filter_sublist.map Cosmetic.message, ?_, fun w => ?_⟩
  · apply List.Pairwise.map Cosmetic.message _ distinct
    intro w w' other same
    exact other (Cosmetic.message_injective same)
  · rw [← Cosmetic.applies_iff, cosmetics, List.mem_map]
    constructor
    · rintro ⟨w', member, same⟩
      obtain rfl := Cosmetic.message_injective same
      exact (List.mem_filter.1 member).2
    · intro applies
      exact ⟨w, List.mem_filter.2 ⟨w.mem_all, applies⟩, rfl⟩

end Tandem.Compare
