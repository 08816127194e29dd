import Tandem.Compare.Gap
import Tandem.Proofs.Text.Captures
import Tandem.Proofs.Text.Scan

/-!
The traces that missing names leave in an error output, as texts.

* `undefinedName?_eq_some_iff`, `missingModule?_eq_some_iff`, `missingAttribute?_eq_some_iff`: what
  each search captures at a place.
* Each of them takes something off the text, and what it takes stands on one line:
  `undefinedName?_withinLine`, `missingModule?_withinLine`, `missingAttribute?_withinLine`.
-/

namespace Tandem.Compare

open Tandem.Text

/-- A name: a character that a name begins with, and then more of a class. -/
def IsName (more : Char → Bool) (name : List Char) : Prop :=
  ∃ c tail, name = c :: tail ∧ isNameStart c ∧ ∀ d ∈ tail, more d

/-- Whether a text is a name. -/
def isName (more : Char → Bool) (name : List Char) : Bool :=
  name.head?.any isNameStart && name.tail.all more

theorem isName_iff {more : Char → Bool} {name : List Char} :
    isName more name = true ↔ IsName more name := by
  cases name <;> simp [isName, IsName, and_assoc]

instance (more : Char → Bool) : DecidablePred (IsName more) :=
  fun _ => decidable_of_iff _ isName_iff

section
variable {more : Char → Bool} {name text rest word optional : List Char}

/-! ## Names -/

theorem IsName.ne_nil (isName : IsName more name) : name ≠ [] := by
  obtain ⟨c, tail, rfl, -⟩ := isName
  exact List.cons_ne_nil c tail

theorem IsName.head (isName : IsName more name) : ∀ c ∈ name.head?, isNameStart c := by
  obtain ⟨c, tail, rfl, start, -⟩ := isName
  simpa using start

theorem IsName.all (isName : IsName more name) (starts : ∀ c, isNameStart c → more c) :
    ∀ c ∈ name, more c := by
  obtain ⟨c, tail, rfl, start, all⟩ := isName
  exact List.forall_mem_cons.2 ⟨starts c start, all⟩

theorem isName_of_all (some : name ≠ []) (head : ∀ c ∈ name.head?, isNameStart c)
    (all : ∀ c ∈ name, more c) : IsName more name := by
  obtain ⟨c, tail, rfl⟩ := List.exists_cons_of_ne_nil some
  exact ⟨c, tail, rfl, head c rfl, (List.forall_mem_cons.1 all).2⟩

theorem isNameChar_of_isNameStart (c : Char) (h : isNameStart c) : isNameChar c := by
  have parts : isNameChar c = (c.isAlpha || c.isDigit || c == '_') := rfl
  rw [isNameStart, Bool.or_eq_true] at h
  rw [parts, Bool.or_eq_true, Bool.or_eq_true]
  exact h.imp_left Or.inl

theorem IsName.not_quoted (isName : IsName more name) : ¬ ['\''] <+: name ++ rest := by
  obtain ⟨c, tail, rfl, start, -⟩ := isName
  rintro ⟨_, same⟩
  obtain ⟨rfl, -⟩ := List.cons.inj same
  exact absurd start (by decide)

theorem name?_eq_some_iff : name? more text = some (name, rest) ↔
    text = name ++ rest ∧ IsName more name ∧ ∀ c ∈ rest.head?, ¬ more c := by
  cases text with
  | nil =>
    refine iff_of_false (by simp [name?]) ?_
    rintro ⟨parts, ⟨c, tail, rfl, -⟩, -⟩
    cases parts
  | cons c text =>
    by_cases start : isNameStart c
    · simp only [name?, if_pos start, Option.some.injEq, Prod.mk.injEq]
      constructor
      · rintro ⟨rfl, ends⟩
        obtain ⟨parts, all, stops⟩ := stretch_iff.1 ⟨rfl, ends⟩
        exact ⟨by rw [List.cons_append, ← parts], ⟨c, _, rfl, start, all⟩, stops⟩
      · rintro ⟨parts, ⟨d, tail, rfl, -, all⟩, stops⟩
        obtain ⟨rfl, rfl⟩ := List.cons.inj parts
        obtain ⟨here, ends⟩ := stretch_iff.2 ⟨rfl, all, stops⟩
        exact ⟨congrArg (c :: ·) here, ends⟩
    · refine iff_of_false (by simp [name?, start]) ?_
      rintro ⟨parts, ⟨d, tail, rfl, start', -⟩, -⟩
      obtain ⟨rfl, -⟩ := List.cons.inj parts
      exact start start'

/-- A name that `close` ends, which begins with what cannot stand in a name. -/
theorem closedName?_eq_some_iff (close : String) (text name rest : List Char)
    (ends : close.toList.head?.any (!isNameChar ·) = true) :
    closedName? close text = some (name, rest) ↔
      text = name ++ (close.toList ++ rest) ∧ IsName isNameChar name := by
  have stops : ∀ c ∈ (close.toList ++ rest).head?, ¬ isNameChar c := by
    intro c first
    cases same : close.toList <;> simp_all
  simp only [closedName?, Option.bind_eq_bind, Option.bind_eq_some_iff, Prod.exists]
  constructor
  · rintro ⟨name', rest', named, rest'', closed, same⟩
    cases same
    obtain ⟨rfl, isName, -⟩ := name?_eq_some_iff.1 named
    rw [after?_eq_some_iff.1 closed]
    exact ⟨rfl, isName⟩
  · rintro ⟨rfl, isName⟩
    exact ⟨name, close.toList ++ rest, name?_eq_some_iff.2 ⟨rfl, isName, stops⟩, rest,
      after?_eq_some_iff.2 rfl, rfl⟩

/-! ## Builtins and modules -/

/-- The name of a missing builtin stands in quotes. -/
theorem undefinedName?_eq_some_iff : undefinedName? text = some (name, rest) ↔
    ∃ scope, (scope = [] ∨ scope = "global ".toList) ∧
      text = "NameError: ".toList ++ (scope ++ ("name '".toList ++
        (name ++ ("' is not defined".toList ++ rest)))) ∧
      IsName isNameChar name := by
  have within (text rest : List Char) :=
    afterOptional_eq_iff "global ".toList text ("name '".toList ++ rest) nofun
  have closed (text : List Char) :=
    closedName?_eq_some_iff "' is not defined" text name rest (by decide)
  simp only [undefinedName?, Option.bind_eq_bind, Option.bind_eq_some_iff, after?_eq_some_iff,
    within, closed]
  constructor
  · rintro ⟨_, rfl, _, ⟨scope, which, rfl⟩, rfl, isName⟩
    exact ⟨scope, which, rfl, isName⟩
  · rintro ⟨scope, which, rfl, isName⟩
    exact ⟨_, rfl, _, ⟨scope, which, rfl⟩, rfl, isName⟩

/-- A part of a dotted name. -/
def isDotted (c : Char) : Bool := isNameChar c || c == '.'

theorem isDotted_of_isNameChar {c : Char} (h : isNameChar c) : isDotted c := by
  simp [isDotted, h]

theorem isDotted_of_isNameStart (c : Char) (h : isNameStart c) : isDotted c :=
  isDotted_of_isNameChar (isNameChar_of_isNameStart c h)

/-- What stands before the name of a missing module. -/
def openings : List (List Char) :=
  ["ModuleNotFoundError: No module named ".toList, "ModuleNotFoundError: No module named '".toList,
   "ImportError: No module named ".toList, "ImportError: No module named '".toList]

theorem mem_openings {opening : List Char} : opening ∈ openings ↔
    ∃ error quote, (error = "ModuleNotFoundError".toList ∨ error = "ImportError".toList) ∧
      (quote = [] ∨ quote = ['\'']) ∧
      opening = error ++ (": No module named ".toList ++ quote) := by
  constructor
  · intro member
    simp only [openings, List.mem_cons, List.not_mem_nil, or_false] at member
    obtain rfl | rfl | rfl | rfl := member
    · exact ⟨_, [], .inl rfl, .inl rfl, by decide⟩
    · exact ⟨_, ['\''], .inl rfl, .inr rfl, by decide⟩
    · exact ⟨_, [], .inr rfl, .inl rfl, by decide⟩
    · exact ⟨_, ['\''], .inr rfl, .inr rfl, by decide⟩
  · rintro ⟨error, quote, rfl | rfl, rfl | rfl, rfl⟩ <;> decide

/-- The name of a missing module is as long as it can be. -/
theorem missingModule?_eq_some_iff : missingModule? text = some (name, rest) ↔
    ∃ opening ∈ openings, text = opening ++ (name ++ rest) ∧ IsName isDotted name ∧
      ∀ c ∈ rest.head?, ¬ isDotted c := by
  have errors (rest : List Char) := afterAny?_eq_some_iff
    ["ModuleNotFoundError".toList, "ImportError".toList] text rest (by decide)
  simp only [missingModule?, Option.bind_eq_bind, Option.bind_eq_some_iff, after?_eq_some_iff,
    errors, List.mem_cons, List.not_mem_nil, or_false, mem_openings]
  constructor
  · rintro ⟨_, ⟨error, which, rfl⟩, u, rfl, named⟩
    obtain ⟨same, isName, stops⟩ := name?_eq_some_iff.1 named
    obtain ⟨quote, which', rfl⟩ := (afterOptional_eq_iff _ _ _ isName.not_quoted).1 same
    exact ⟨_, ⟨error, quote, which, which', rfl⟩, by simp only [List.append_assoc], isName, stops⟩
  · rintro ⟨_, ⟨error, quote, which, which', rfl⟩, rfl, isName, stops⟩
    have same := (afterOptional_eq_iff _ _ (name ++ rest) isName.not_quoted).2 ⟨quote, which', rfl⟩
    exact ⟨_, ⟨error, which, List.append_assoc ..⟩, _, List.append_assoc ..,
      name?_eq_some_iff.2 ⟨same, isName, stops⟩⟩

/-! ## Attributes -/

/-- A text from some place of its first line on, the end of the line included. -/
def OnLine (text here : List Char) : Prop := ∃ front, text = front ++ here ∧ '\n' ∉ front

section
variable {α : Type} {capture? : List Char → Option (α × List Char)} {a : α} {c : Char}
  {here : List Char}

theorem onLine_nil : OnLine [] here ↔ here = [] := by
  simp [OnLine, and_assoc]

theorem onLine_cons : OnLine (c :: text) here ↔ here = c :: text ∨ c ≠ '\n' ∧ OnLine text here := by
  constructor
  · rintro ⟨front, parts, free⟩
    cases front with
    | nil => exact .inl parts.symm
    | cons d front =>
      obtain ⟨rfl, rfl⟩ := List.cons.inj parts
      rw [List.mem_cons, not_or] at free
      exact .inr ⟨Ne.symm free.1, front, rfl, free.2⟩
  · rintro (rfl | ⟨other, front, rfl, free⟩)
    · exact ⟨[], rfl, List.not_mem_nil⟩
    · refine ⟨c :: front, rfl, ?_⟩
      rw [List.mem_cons, not_or]
      exact ⟨Ne.symm other, free⟩

theorem onLine_newline : OnLine ('\n' :: text) here ↔ here = '\n' :: text := by
  rw [onLine_cons]
  exact or_iff_left fun later => later.1 rfl

theorem OnLine.ne_cons (on : OnLine text here) : here ≠ c :: text := by
  obtain ⟨front, rfl, -⟩ := on
  intro same
  have lengths := congrArg List.length same
  rw [List.length_cons, List.length_append] at lengths
  omega

theorem lastOnLine?_eq_none_iff : lastOnLine? capture? text = none ↔
    ∀ here, OnLine text here → capture? here = none := by
  induction text with
  | nil => simp [lastOnLine?, onLine_nil]
  | cons c text ih =>
    by_cases feed : c = '\n'
    · simp [lastOnLine?, onLine_cons, feed]
    · simp [lastOnLine?, onLine_cons, feed, ih, or_imp, forall_and, and_comm]

/-- Of the captures that begin on a line the last one is taken. -/
theorem lastOnLine?_eq_some_iff : lastOnLine? capture? text = some (a, rest) ↔
    ∃ here, OnLine text here ∧ capture? here = some (a, rest) ∧
      ∀ later, OnLine here later → later ≠ here → capture? later = none := by
  induction text with
  | nil =>
    simp only [lastOnLine?, onLine_nil, exists_eq_left]
    exact (and_iff_left fun later same other => absurd same other).symm
  | cons c text ih =>
    by_cases feed : c = '\n'
    · subst feed
      simp only [lastOnLine?, if_true, onLine_newline, exists_eq_left]
      exact (and_iff_left fun later same other => absurd same other).symm
    · rw [lastOnLine?, if_neg feed, Option.or_eq_some_iff, ih, lastOnLine?_eq_none_iff]
      constructor
      · rintro (⟨here, on, found, last⟩ | ⟨none, found⟩)
        · exact ⟨here, onLine_cons.2 (.inr ⟨feed, on⟩), found, last⟩
        · refine ⟨c :: text, onLine_cons.2 (.inl rfl), found, fun later on other => ?_⟩
          obtain same | ⟨-, on⟩ := onLine_cons.1 on
          · exact absurd same other
          · exact none later on
      · rintro ⟨here, on, found, last⟩
        obtain rfl | ⟨-, on⟩ := onLine_cons.1 on
        · refine .inr ⟨fun later on => ?_, found⟩
          exact last later (onLine_cons.2 (.inr ⟨feed, on⟩)) on.ne_cons
        · exact .inl ⟨here, on, found, last⟩

end

/-- The name of a missing attribute at a place, in quotes. -/
def attribute? (text : List Char) : Option (List Char × List Char) := do
  closedName? "'" (← after? "has no attribute '".toList text)

/-- The words that call a name missing from an object, and what follows them. -/
def lacking (name after : List Char) : List Char :=
  "has no attribute '".toList ++ (name ++ '\'' :: after)

theorem lacking_eq (name after : List Char) :
    lacking name after = "has no attribute '".toList ++ (name ++ '\'' :: after) :=
  rfl

theorem lacking_append (name more rest : List Char) :
    lacking name (more ++ rest) = lacking name more ++ rest := by
  rw [lacking_eq, lacking_eq, List.append_assoc, List.append_assoc, List.cons_append]

theorem attribute?_eq_some_iff : attribute? text = some (name, rest) ↔
    text = lacking name rest ∧ IsName isNameChar name := by
  have closed (text : List Char) := closedName?_eq_some_iff "'" text name rest (by decide)
  simp only [attribute?, Option.bind_eq_bind, Option.bind_eq_some_iff, after?_eq_some_iff, closed]
  constructor
  · rintro ⟨_, rfl, rfl, isName⟩
    exact ⟨rfl, isName⟩
  · rintro ⟨rfl, isName⟩
    exact ⟨_, rfl, rfl, isName⟩

/-- The last missing attribute that a line names. -/
theorem missingAttribute?_eq_some_iff : missingAttribute? text = some (name, rest) ↔
    ∃ line here, text = "AttributeError: ".toList ++ line ∧ OnLine line here ∧
      attribute? here = some (name, rest) ∧
      ∀ later, OnLine here later → later ≠ here → attribute? later = none := by
  simp only [missingAttribute?, Option.bind_eq_bind, Option.bind_eq_some_iff, after?_eq_some_iff]
  constructor
  · rintro ⟨line, parts, last⟩
    obtain ⟨here, found⟩ := lastOnLine?_eq_some_iff.1 last
    exact ⟨line, here, parts, found⟩
  · rintro ⟨line, here, parts, found⟩
    exact ⟨line, parts, lastOnLine?_eq_some_iff.2 ⟨here, found⟩⟩

/-! ## Captures take something and stay on their line -/

theorem undefinedName?_consumes : Consumes undefinedName? := by
  intro text name rest found
  obtain ⟨scope, -, rfl, -⟩ := undefinedName?_eq_some_iff.1 found
  refine ⟨"NameError: ".toList ++ (scope ++ ("name '".toList ++
    (name ++ "' is not defined".toList))), nofun, ?_⟩
  simp only [List.append_assoc]

theorem missingModule?_consumes : Consumes missingModule? := by
  intro text name rest found
  obtain ⟨opening, listed, rfl, -⟩ := missingModule?_eq_some_iff.1 found
  have some : ∀ opening ∈ openings, opening ≠ [] := by decide
  refine ⟨opening ++ name, ?_, (List.append_assoc ..).symm⟩
  exact List.append_ne_nil_of_left_ne_nil (some opening listed) name

theorem missingAttribute?_consumes : Consumes missingAttribute? := by
  intro text name rest found
  obtain ⟨_, here, rfl, ⟨front, rfl, -⟩, named, -⟩ := missingAttribute?_eq_some_iff.1 found
  obtain ⟨rfl, -⟩ := attribute?_eq_some_iff.1 named
  refine ⟨"AttributeError: ".toList ++ (front ++ lacking name []), ?_, ?_⟩
  · exact List.append_ne_nil_of_left_ne_nil (by decide) _
  · rw [List.append_assoc, List.append_assoc, ← lacking_append, List.nil_append]

section
variable {line later : List Char}

theorem name?_withinLine (feed : ¬ more '\n') : WithinLine (name? more) := by
  intro line later
  cases line with
  | nil => rfl
  | cons c line =>
    obtain ⟨here, ends⟩ := stretch_line feed line later
    by_cases start : isNameStart c
    · simp [name?, start, here, ends]
    · simp [name?, start]

theorem closedName?_withinLine (close : String) (free : '\n' ∉ close.toList) :
    WithinLine (closedName? close) := by
  intro line later
  rw [closedName?, closedName?, name?_withinLine (by decide)]
  cases name? isNameChar line with
  | none => rfl
  | some found =>
    simp only [Option.map_some, Option.bind_eq_bind, Option.bind_some, after?_line free]
    cases after? close.toList found.2 <;> rfl

theorem undefinedName?_withinLine : WithinLine undefinedName? := by
  intro line later
  rw [undefinedName?, undefinedName?, after?_line (by decide)]
  cases after? "NameError: ".toList line with
  | none => rfl
  | some rest =>
    simp only [Option.map_some, Option.bind_eq_bind, Option.bind_some]
    rw [afterOptional_line (by decide), after?_line (by decide)]
    cases after? "name '".toList (afterOptional "global ".toList rest) with
    | none => rfl
    | some rest => exact closedName?_withinLine _ (by decide) rest later

theorem missingModule?_withinLine : WithinLine missingModule? := by
  intro line later
  rw [missingModule?, missingModule?, afterAny?_line (by decide)]
  cases afterAny? ["ModuleNotFoundError".toList, "ImportError".toList] line with
  | none => rfl
  | some rest =>
    simp only [Option.map_some, Option.bind_eq_bind, Option.bind_some]
    rw [after?_line (by decide)]
    cases after? ": No module named ".toList rest with
    | none => rfl
    | some rest =>
      simp only [Option.map_some, Option.bind_some]
      rw [afterOptional_line (by decide)]
      exact name?_withinLine (by decide) _ later

theorem attribute?_withinLine : WithinLine attribute? := by
  intro line later
  rw [attribute?, attribute?, after?_line (by decide)]
  cases after? "has no attribute '".toList line with
  | none => rfl
  | some rest => exact closedName?_withinLine _ (by decide) rest later

theorem lastOnLine?_withinLine {α : Type} {capture? : List Char → Option (α × List Char)}
    (within : WithinLine capture?) : WithinLine (lastOnLine? capture?) := by
  intro line later
  induction line with
  | nil => exact within [] later
  | cons c line ih =>
    have here := within (c :: line) later
    rw [List.cons_append] at here ⊢
    by_cases feed : c = '\n'
    · rwa [lastOnLine?, lastOnLine?, if_pos feed, if_pos feed]
    · rw [lastOnLine?, lastOnLine?, if_neg feed, if_neg feed, ih, here, Option.map_or]

theorem missingAttribute?_withinLine : WithinLine missingAttribute? := by
  intro line later
  rw [missingAttribute?, missingAttribute?, after?_line (by decide)]
  cases after? "AttributeError: ".toList line with
  | none => rfl
  | some rest => exact lastOnLine?_withinLine attribute?_withinLine rest later

end

end

end Tandem.Compare
