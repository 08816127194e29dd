import Tandem.Text.Scan

/-!
What the searches of a text find.

* `anywhere_iff`: a search for a place succeeds if the text can be cut at such a place.
* `afterAny?_eq_some_iff`, `afterOptional_eq_iff`: the words that a text starts with.
* `stretch_iff`: a stretch of one class of characters, and what follows it.
* `after?_line` and the like: a line feed ends what is found.
-/

namespace Tandem.Text

/-! ## Places -/

section
variable {p : Option Char → List Char → Bool} {text : List Char}

/-- A search tries every place: at each, what follows it and the character before it. -/
theorem anywhere_iff {before : Option Char} : anywhere p before text = true ↔
    ∃ front rest, text = front ++ rest ∧ p (front.getLast?.or before) rest = true := by
  induction text generalizing before with
  | nil => simp [anywhere, and_assoc]
  | cons c text ih =>
    rw [anywhere, Bool.or_eq_true, ih]
    constructor
    · rintro (here | ⟨front, rest, rfl, later⟩)
      · exact ⟨[], c :: text, rfl, here⟩
      · refine ⟨c :: front, rest, rfl, ?_⟩
        cases front <;> simpa [List.getLast?_cons] using later
    · rintro ⟨front, rest, parts, holds⟩
      cases front with
      | nil =>
        rw [List.nil_append] at parts
        exact .inl (parts ▸ holds)
      | cons d front =>
        obtain ⟨rfl, rfl⟩ := List.cons.inj parts
        refine .inr ⟨front, rest, rfl, ?_⟩
        cases front <;> simpa [List.getLast?_cons] using holds

end

/-! ## Words, and stretches of one class -/

section
variable {class? : Char → Bool} {text run rest : List Char}

/-- Of words that do not begin alike, a text can only start with one. -/
theorem afterAny?_eq_some_iff (words : List (List Char)) (text rest : List Char)
    (apart : words.Pairwise fun word word' => ¬ word <+: word' ∧ ¬ word' <+: word) :
    afterAny? words text = some rest ↔ ∃ word ∈ words, text = word ++ rest := by
  rw [afterAny?]
  induction words with
  | nil => simp
  | cons word words ih =>
    obtain ⟨first, later⟩ := List.pairwise_cons.1 apart
    rw [List.findSome?_cons]
    cases start : after? word text with
    | some rest' =>
      obtain rfl := after?_eq_some_iff.1 start
      constructor
      · rintro ⟨⟩
        exact ⟨word, List.mem_cons_self .., rfl⟩
      · rintro ⟨word', member, same⟩
        obtain rfl | other := List.mem_cons.1 member
        · rw [List.append_cancel_left same]
        · obtain begins | begins := List.prefix_or_prefix_of_prefix (List.prefix_append word rest')
            (same ▸ List.prefix_append word' rest)
          · exact absurd begins (first word' other).1
          · exact absurd begins (first word' other).2
    | none =>
      simp only [ih later, List.mem_cons, exists_eq_or_imp]
      refine (or_iff_right fun same => ?_).symm
      rw [after?_eq_some_iff.2 same] at start
      cases start

/-- What a word may stand before is found with it and without it. -/
theorem afterOptional_eq_iff (word text rest : List Char) (other : ¬ word <+: rest) :
    afterOptional word text = rest ↔
      ∃ opening, (opening = [] ∨ opening = word) ∧ text = opening ++ rest := by
  rw [afterOptional]
  cases start : after? word text with
  | some rest' =>
    obtain rfl := after?_eq_some_iff.1 start
    constructor
    · rintro rfl
      exact ⟨word, .inr rfl, rfl⟩
    · rintro ⟨opening, rfl | rfl, same⟩
      · exact absurd ⟨rest', same⟩ other
      · exact List.append_cancel_left same
  | none =>
    constructor
    · rintro rfl
      exact ⟨[], .inl rfl, rfl⟩
    · rintro ⟨opening, rfl | rfl, same⟩
      · exact same
      · rw [after?_eq_some_iff.2 same] at start
        cases start

/-- A stretch of a class is followed by nothing of that class. -/
theorem stretch_iff : text.takeWhile class? = run ∧ text.dropWhile class? = rest ↔
    text = run ++ rest ∧ (∀ c ∈ run, class? c) ∧ ∀ c ∈ rest.head?, ¬ class? c := by
  constructor
  · rintro ⟨rfl, rfl⟩
    refine ⟨List.takeWhile_append_dropWhile.symm, ?_, ?_⟩
    · exact fun c member => List.all_eq_true.1 List.all_takeWhile c member
    · intro c first
      have stops := List.head?_dropWhile_not class? text
      rw [Option.mem_def.1 first] at stops
      simpa using stops
  · rintro ⟨rfl, all, stops⟩
    rw [List.takeWhile_append_of_pos all, List.dropWhile_append_of_pos all]
    cases rest with
    | nil => simp
    | cons c rest => simp [stops c rfl]

theorem stretch (class? : Char → Bool) (text : List Char) :
    text = text.takeWhile class? ++ text.dropWhile class? ∧
      (∀ c ∈ text.takeWhile class?, class? c) ∧ ∀ c ∈ (text.dropWhile class?).head?, ¬ class? c :=
  stretch_iff.1 ⟨rfl, rfl⟩

/-- A text is cut in one way only at the end of the stretch that it begins with. -/
theorem stretch_unique {run' rest' : List Char} {c c' : Char}
    (same : run ++ c :: rest = run' ++ c' :: rest') (all : ∀ d ∈ run, class? d)
    (outside : ¬ class? c) (all' : ∀ d ∈ run', class? d) (outside' : ¬ class? c') :
    run = run' ∧ c = c' ∧ rest = rest' := by
  have stops : ∀ d ∈ (c :: rest).head?, ¬ class? d := by simpa using outside
  have stops' : ∀ d ∈ (c' :: rest').head?, ¬ class? d := by simpa using outside'
  obtain ⟨here, ends⟩ := stretch_iff.2 ⟨rfl, all, stops⟩
  obtain ⟨here', ends'⟩ := stretch_iff.2 ⟨same, all', stops'⟩
  obtain ⟨first, later⟩ := List.cons.inj (ends.symm.trans ends')
  exact ⟨here.symm.trans here', first, later⟩

/-- What follows a stretch of a class begins with `c`, which is not of that class. -/
theorem dropWhile_eq_cons_iff {c : Char} (rest : List Char) (outside : ¬ class? c) :
    text.dropWhile class? = c :: rest ↔ ∃ run, text = run ++ c :: rest ∧ ∀ d ∈ run, class? d := by
  have stops : ∀ d ∈ (c :: rest).head?, ¬ class? d := by simpa using outside
  constructor
  · intro ends
    obtain ⟨parts, all, -⟩ := stretch_iff.1 ⟨rfl, ends⟩
    exact ⟨text.takeWhile class?, parts, all⟩
  · rintro ⟨run, parts, all⟩
    exact (stretch_iff.2 ⟨parts, all, stops⟩).2

/-- A text starts with some of a class if it has a stretch of it before `c`. -/
theorem any_head?_iff {c : Char} (outside : ¬ class? c) (all : ∀ d ∈ run, class? d) :
    (run ++ c :: rest).head?.any class? = true ↔ run ≠ [] := by
  cases run with
  | nil => simpa using outside
  | cons d run => simpa using all d (List.mem_cons_self ..)

/-- What begins with a character that a part of the text lacks begins behind that part. -/
theorem begins_behind {c : Char} {part more begun here : List Char}
    (parts : part ++ more = begun ++ here) (first : here.head? = some c) (lacks : c ∉ part) :
    ∃ later, begun = part ++ later ∧ more = later ++ here := by
  obtain ⟨later, begins, ends⟩ | ⟨late, begins, ends⟩ := List.append_eq_append_iff.1 parts
  · exact ⟨later, begins, ends⟩
  · cases late with
    | nil =>
      rw [List.append_nil] at begins
      exact ⟨[], by rw [begins, List.append_nil], ends.symm⟩
    | cons d late =>
      rw [ends] at first
      cases first
      exact absurd (begins ▸ List.mem_append_right _ (List.mem_cons_self ..)) lacks

end

/-! ## The end of a line

A word without a line feed is found in the line that a text begins with or not at all. -/

section
variable {word line later : List Char}

theorem after?_line (free : '\n' ∉ word) : after? word (line ++ '\n' :: later) =
    (after? word line).map (· ++ '\n' :: later) := by
  induction word generalizing line with
  | nil => rfl
  | cons w word ih =>
    rw [List.mem_cons, not_or] at free
    cases line with
    | nil => simp [after?, Ne.symm free.1]
    | cons c line =>
      by_cases same : w = c
      · simp [after?, same, ih free.2]
      · simp [after?, same]

theorem afterAny?_line {words : List (List Char)} (free : ∀ word ∈ words, '\n' ∉ word) :
    afterAny? words (line ++ '\n' :: later) =
      (afterAny? words line).map (· ++ '\n' :: later) := by
  rw [afterAny?, afterAny?]
  induction words with
  | nil => rfl
  | cons word words ih =>
    obtain ⟨first, others⟩ := List.forall_mem_cons.1 free
    rw [List.findSome?_cons, List.findSome?_cons, after?_line first, ih others]
    cases after? word line <;> rfl

theorem afterOptional_line (free : '\n' ∉ word) :
    afterOptional word (line ++ '\n' :: later) = afterOptional word line ++ '\n' :: later := by
  rw [afterOptional, afterOptional, after?_line free]
  cases after? word line <;> rfl

theorem stretch_line {class? : Char → Bool} (feed : ¬ class? '\n') (line later : List Char) :
    (line ++ '\n' :: later).takeWhile class? = line.takeWhile class? ∧
      (line ++ '\n' :: later).dropWhile class? = line.dropWhile class? ++ '\n' :: later := by
  induction line with
  | nil => simp [feed]
  | cons c line ih => by_cases inside : class? c <;> simp [inside, ih]

end

end Tandem.Text
