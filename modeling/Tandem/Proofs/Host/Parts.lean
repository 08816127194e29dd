import Tandem.Host.Path

/-!
The parts of a path that is put together.

* `below_text`: a place below a path is named by the path's text and one that depends on the place
  alone.
* `split_join`: the stretches of a joined path are those of both paths.
* `parts_absolute`, `parts_safe`: what is a part besides the names.
-/

namespace Tandem.Host

/-! ## Places below a path -/

/-- A name that a directory can list. -/
def Proper (name : String) : Prop := name ≠ "" ∧ '/' ∉ name.toList

/-- A place as the text that follows the path from which it is named. -/
def suffix : List String → String
  | [] => ""
  | name :: rel => "/" ++ name ++ suffix rel

namespace Path

/-- The place that is reached from a path by these names. -/
def below (root : Path) (rel : List String) : Path := rel.foldl (· / ·) root

/-- A path that a name is joined to by a separator. -/
def Open (p : Path) : Prop := p.text ≠ "" ∧ p.text.toList.getLast? ≠ some '/'

theorem open_of_proper {name : String} (h : Proper name) : Open ⟨name⟩ :=
  ⟨h.1, fun last => h.2 (List.mem_of_getLast? last)⟩

theorem open_append {front back : String} (h : Open ⟨back⟩) : Open ⟨front ++ back⟩ := by
  have some : back.toList ≠ [] := by simpa using h.1
  have last : (front ++ back).toList.getLast? = back.toList.getLast? := by
    rw [String.toList_append, List.getLast?_append, List.getLast?_eq_some_getLast some]
    rfl
  exact ⟨by simp [h.1], last ▸ h.2⟩

/-- Whatever a proper name is joined to, another name is joined to both by a separator. -/
theorem open_join {base : Path} {name : String} (h : Proper name) : Open (base / name) := by
  have last : Open ⟨name⟩ := open_of_proper h
  change Open (base.join ⟨name⟩)
  rw [join]
  split
  · exact last
  · split <;> exact open_append last

theorem join_proper {p : Path} {name : String} (h : Open p) (proper : Proper name) :
    p / name = ⟨p.text ++ "/" ++ name⟩ := by
  have relative : (Path.mk name).isAbsolute = false := by
    rw [isAbsolute, beq_eq_false_iff_ne]
    exact fun first => proper.2 (List.mem_of_mem_head? (by simp [first]))
  change p.join ⟨name⟩ = _
  simp [join, relative, isEmpty, h.1, h.2]

theorem below_text {p : Path} {rel : List String} (h : Open p)
    (proper : ∀ name ∈ rel, Proper name) : p.below rel = ⟨p.text ++ suffix rel⟩ := by
  induction rel generalizing p with
  | nil => simp [below, suffix]
  | cons name rel ih =>
    have first : Proper name := proper name (by simp)
    calc p.below (name :: rel) = (p / name).below rel := rfl
      _ = ⟨(p / name).text ++ suffix rel⟩ :=
        ih (open_join first) fun name' listed => proper name' (by simp [listed])
      _ = ⟨p.text ++ suffix (name :: rel)⟩ := by
        rw [join_proper h first, suffix]
        simp [String.append_assoc]

end Path

/-! ## Parts -/

/-- A name that means an entry and no other place. -/
structure EntryName (name : String) : Prop where
  proper : Proper name
  notCurrent : name ≠ "."
  notParent : name ≠ ".."

instance (name : String) : Decidable (EntryName name) :=
  decidable_of_iff ((name ≠ "" ∧ '/' ∉ name.toList) ∧ name ≠ "." ∧ name ≠ "..")
    ⟨fun ⟨proper, current, parent⟩ => ⟨proper, current, parent⟩,
      fun ⟨proper, current, parent⟩ => ⟨proper, current, parent⟩⟩

namespace Path

theorem split_ne_nil (text : List Char) : split text ≠ [] := by
  cases text with
  | nil => exact List.cons_ne_nil _ _
  | cons c rest =>
    rw [split.eq_def]
    split
    · exact List.cons_ne_nil _ _
    · exact List.cons_ne_nil _ _
    · split <;> exact List.cons_ne_nil _ _

theorem split_append (front back : List Char) :
    split (front ++ '/' :: back) = split front ++ split back := by
  induction front with
  | nil => rfl
  | cons c front ih =>
    by_cases separator : c = '/'
    · subst separator
      exact congrArg ([] :: ·) ih
    · rw [List.cons_append, split.eq_3 _ _ separator, split.eq_3 _ _ separator, ih]
      cases found : split front with
      | nil => exact absurd found (split_ne_nil front)
      | cons piece more => rfl

theorem split_plain {piece : List Char} (h : '/' ∉ piece) : split piece = [piece] := by
  induction piece with
  | nil => rfl
  | cons c piece ih =>
    rw [List.mem_cons, not_or] at h
    rw [split.eq_3 _ _ (Ne.symm h.1), ih h.2]

theorem isAbsolute_iff {p : Path} : p.isAbsolute = true ↔ ∃ rest, p.text.toList = '/' :: rest := by
  rw [isAbsolute, beq_iff_eq, List.head?_eq_some_iff]

theorem relative_of_plain {name : String} (h : '/' ∉ name.toList) :
    (Path.mk name).isAbsolute = false := by
  rw [isAbsolute, beq_eq_false_iff_ne]
  exact fun first => h (List.mem_of_mem_head? (by simp [first]))

theorem isAbsolute_join {base rel : Path} (h : rel.isAbsolute = false) :
    (base.join rel).isAbsolute = base.isAbsolute := by
  by_cases empty : base.text = ""
  · have none : base.isAbsolute = false := by simp [isAbsolute, empty]
    rw [join, h, none, isEmpty, empty]
    exact h
  · have kept (back : String) : (base.text ++ back).toList.head? = base.text.toList.head? := by
      obtain ⟨c, rest, text⟩ := List.exists_cons_of_ne_nil (mt String.toList_eq_nil_iff.1 empty)
      simp [text]
    rw [join, h, isEmpty, if_neg (by simpa using empty)]
    split <;> simp only [isAbsolute, String.append_assoc, kept]

/-- Whatever is joined to a path follows the same text. -/
theorem join_text (base : Path) :
    ∃ front, ∀ rel : Path, rel.isAbsolute = false → (base.join rel).text = front ++ rel.text := by
  by_cases empty : base.text = ""
  · refine ⟨"", fun rel h => ?_⟩
    simp [join, h, isEmpty, empty]
  · by_cases last : (base.text.toList.getLast? == some '/') = true
    · refine ⟨base.text, fun rel h => ?_⟩
      simp [join, h, isEmpty, empty, last]
    · refine ⟨base.text ++ "/", fun rel h => ?_⟩
      simp [join, h, isEmpty, empty, last]

/-- The stretches of a joined path are those of both, but for some without a character. -/
theorem split_join (base : Path) {rel : Path} (h : rel.isAbsolute = false) :
    ∃ front, split (base.join rel).text.toList = front ++ split rel.text.toList ∧
      ∀ (α : Type) (name? : List Char → Option α), name? [] = none →
        front.filterMap name? = (split base.text.toList).filterMap name? := by
  rw [join, h]
  by_cases empty : base.text = ""
  · refine ⟨[], by simp [isEmpty, empty], fun α name? nothing => ?_⟩
    simp [empty, split, nothing]
  · rw [isEmpty, if_neg (by simpa using empty)]
    split
    · rename_i last
      obtain ⟨front, ends⟩ := List.getLast?_eq_some_iff.1 (eq_of_beq last)
      refine ⟨split front, ?_, fun α name? nothing => ?_⟩
      · rw [String.toList_append, ends, List.append_assoc, List.singleton_append, split_append]
      · rw [ends, split_append, List.filterMap_append]
        simp [split, nothing]
    · refine ⟨split base.text.toList, ?_, fun α name? nothing => rfl⟩
      have joined : (base.text ++ "/" ++ rel.text).toList =
          base.text.toList ++ '/' :: rel.text.toList := by simp
      rw [joined, split_append]

theorem filterMap_split_join {α : Type} {name? : List Char → Option α} (nothing : name? [] = none)
    {base rel : Path} (h : rel.isAbsolute = false) :
    (split (base.join rel).text.toList).filterMap name? =
      (split base.text.toList).filterMap name? ++ (split rel.text.toList).filterMap name? := by
  obtain ⟨front, stretches, same⟩ := split_join base h
  rw [stretches, List.filterMap_append, same α name? nothing]

theorem getLast?_split_join {base rel : Path} (h : rel.isAbsolute = false) :
    (split (base.join rel).text.toList).getLast? = (split rel.text.toList).getLast? := by
  obtain ⟨front, stretches, -⟩ := split_join base h
  rw [stretches, List.getLast?_append, List.getLast?_eq_some_getLast (split_ne_nil _)]
  rfl

theorem part?_name {name : String} (h : EntryName name) :
    part? name.toList = some (.name name) := by
  rw [part?.eq_def]
  split
  · rename_i empty
    exact absurd (String.toList_eq_nil_iff.1 empty) h.proper.1
  · rename_i dot
    exact absurd (String.toList_inj.1 dot) h.notCurrent
  · rename_i dots
    exact absurd (String.toList_inj.1 dots) h.notParent
  · rw [String.ofList_toList]

theorem parts_absolute {p : Path} (h : p.isAbsolute = true) :
    p.parts = .root :: (split p.text.toList).filterMap part? := by
  obtain ⟨rest, text⟩ := isAbsolute_iff.1 h
  have some : p.isEmpty = false := by
    rw [isEmpty, String.isEmpty_eq_false_iff]
    rintro empty
    simp [empty] at text
  simp [parts, text, split, some, part?.eq_1]

/-- A stretch without a character comes first where a path starts at the root or is empty. -/
theorem eq_nil_or_isAbsolute {p : Path} {rest : List (List Char)}
    (h : split p.text.toList = [] :: rest) : p.isEmpty = true ∨ p.isAbsolute = true := by
  cases text : p.text.toList with
  | nil => exact .inl (by simpa [isEmpty] using text)
  | cons c more =>
    by_cases separator : c = '/'
    · exact .inr (isAbsolute_iff.2 ⟨more, separator ▸ text⟩)
    · rw [text, split.eq_3 _ _ separator] at h
      cases found : split more <;> rw [found] at h <;> cases h

theorem exists_names {parts : List Part} (h : ∀ part ∈ parts, ∃ name, part = .name name) :
    ∃ names : List String, parts = names.map .name := by
  induction parts with
  | nil => exact ⟨[], rfl⟩
  | cons part parts ih =>
    obtain ⟨⟨name, rfl⟩, others⟩ := List.forall_mem_cons.1 h
    obtain ⟨names, rfl⟩ := ih others
    exact ⟨name :: names, rfl⟩

theorem part?_eq_none {piece : List Char} (h : part? piece = none) :
    piece = [] ∨ piece = ['.'] := by
  rw [part?.eq_def] at h
  split at h <;> simp_all

theorem isSafe_iff {p : Path} :
    p.isSafe = true ↔ p.isEmpty = false ∧ p.isAbsolute = false ∧
      ∀ part ∈ p.parts, ∃ name, part = .name name := by
  simp only [isSafe, Bool.and_eq_true, Bool.not_eq_true', List.all_eq_true, and_assoc]
  refine and_congr_right fun _ => and_congr_right fun _ => forall_congr' fun part => ?_
  cases part <;> simp

/-- A safe path has no part but names, and at least one. -/
theorem parts_safe {p : Path} (h : p.isSafe = true) :
    p.parts = (split p.text.toList).filterMap part? ∧ ∃ names : List String,
      p.parts = names.map .name ∧ names ≠ [] := by
  obtain ⟨filled, relative, named⟩ := isSafe_iff.1 h
  obtain ⟨names, all⟩ := exists_names named
  obtain ⟨first, rest, pieces⟩ := List.exists_cons_of_ne_nil (split_ne_nil p.text.toList)
  have notEmpty : first ≠ [] := by
    rintro rfl
    obtain empty | absolute := eq_nil_or_isAbsolute pieces
    · simp [empty] at filled
    · simp [absolute] at relative
  have notCurrent : first ≠ ['.'] := by
    rintro rfl
    simp [parts, pieces] at named
  have whole : p.parts = (split p.text.toList).filterMap part? := by
    rw [parts, pieces]
    split <;> simp_all
  refine ⟨whole, names, all, ?_⟩
  rintro rfl
  rw [pieces, List.filterMap_cons] at whole
  cases known : part? first with
  | none => exact (part?_eq_none known).elim notEmpty notCurrent
  | some part =>
    rw [known, all] at whole
    cases whole

end Path

end Tandem.Host
