import Tandem.Proofs.Compare.Nested

/-!
Which traces of missing names lead to a warning.

* `CallsUndefined`, `CallsMissing`, `LacksLast`: how a text names what is missing.
* `captured_undefined_iff`, `captured_missing_iff`, `captured_lacking_iff`: which names the searches
  capture, whatever else the text holds.
* `traces_reported`: there is a warning for every builtin that is named, for every module that is
  named within the names of an even number of others, and for every method that its line names last.
-/

namespace Tandem.Compare

open Tandem.Text

/-! ## Warnings and names -/

section
variable {l : Legacy} {table : List Legacy} {group : Legacy → Gap} {names : List (List Char)}
  {errorOutput : String}

theorem message_mem_migrationGaps {g : Gap} (known : g ∈ Gap.known) :
    g.message ∈ migrationGaps errorOutput ↔ g ∈ Gap.all errorOutput.toList := by
  rw [mem_migrationGaps]
  constructor
  · rintro ⟨g', member, same⟩
    rwa [Gap.message_injective known (Gap.known_of_mem_all member) same.symm]
  · exact fun member => ⟨g, member, rfl⟩

theorem mem_among_iff (found : Legacy.find? table l.name.toList = some l)
    (injective : ∀ l', group l' = group l → l' = l) :
    group l ∈ Gap.among table group names ↔ l.name.toList ∈ names := by
  simp only [Gap.among, List.mem_filterMap, Option.map_eq_some_iff]
  constructor
  · rintro ⟨name, member, l', found', same⟩
    obtain rfl := injective l' same
    have named := List.find?_some found'
    rwa [beq_iff_eq.1 named]
  · exact fun member => ⟨_, member, l, found, rfl⟩

theorem builtin_reported_iff (listed : l ∈ Legacy.builtins) :
    (Gap.builtin l).message ∈ migrationGaps errorOutput ↔
      l.name.toList ∈ captures undefinedName? errorOutput.toList := by
  have found : ∀ l ∈ Legacy.builtins, Legacy.find? Legacy.builtins l.name.toList = some l := by
    decide
  have known : Gap.builtin l ∈ Gap.known :=
    List.mem_append_left _ (List.mem_append_left _ (List.mem_map_of_mem listed))
  rw [message_mem_migrationGaps known, Gap.mem_all]
  refine Iff.trans (or_iff_left ?_) (mem_among_iff (found l listed) fun l' => Gap.builtin.inj)
  rintro (member | member) <;> obtain ⟨_, _, ⟨⟩⟩ := Gap.exists_of_mem_among member

theorem library_reported_iff (listed : l ∈ Legacy.modules) :
    (Gap.library l).message ∈ migrationGaps errorOutput ↔ l.name.toList ∈
      (captures missingModule? errorOutput.toList).map (·.takeWhile (· != '.')) := by
  have found : ∀ l ∈ Legacy.modules, Legacy.find? Legacy.modules l.name.toList = some l := by
    decide
  have known : Gap.library l ∈ Gap.known :=
    List.mem_append_left _ (List.mem_append_right _ (List.mem_map_of_mem listed))
  rw [message_mem_migrationGaps known, Gap.mem_all, or_left_comm]
  refine Iff.trans (or_iff_left ?_) (mem_among_iff (found l listed) fun l' => Gap.library.inj)
  rintro (member | member) <;> obtain ⟨_, _, ⟨⟩⟩ := Gap.exists_of_mem_among member

theorem method_reported_iff (listed : l ∈ Legacy.methods) :
    (Gap.method l).message ∈ migrationGaps errorOutput ↔
      l.name.toList ∈ captures missingAttribute? errorOutput.toList := by
  have found : ∀ l ∈ Legacy.methods, Legacy.find? Legacy.methods l.name.toList = some l := by
    decide
  have known : Gap.method l ∈ Gap.known :=
    List.mem_append_right _ (List.mem_map_of_mem listed)
  rw [message_mem_migrationGaps known, Gap.mem_all, ← or_assoc]
  refine Iff.trans (or_iff_right ?_) (mem_among_iff (found l listed) fun l' => Gap.method.inj)
  rintro (member | member) <;> obtain ⟨_, _, ⟨⟩⟩ := Gap.exists_of_mem_among member

end

/-! ## Builtins -/

/-- A text calls a name undefined. -/
def CallsUndefined (name text : List Char) : Prop :=
  ∃ before scope after, (scope = [] ∨ scope = "global ".toList) ∧
    text = before ++ ("NameError: ".toList ++ (scope ++ ("name '".toList ++
      (name ++ ("' is not defined".toList ++ after)))))

section
variable {text name rest begun here : List Char} {a : List Char}

/-- What begins with a word that no quote ends does not begin within a name in quotes. -/
theorem begins_behind_name {c : Char} {more : List Char} (close word : List Char) (q : Char)
    (parts : name ++ ('\'' :: close ++ rest) = begun ++ here) (isName : IsName isNameChar name)
    (starts : here = word ++ q :: more) (all : ∀ d ∈ word, isNameChar d) (outside : ¬ isNameChar q)
    (other : q ≠ '\'') (first : here.head? = some c) (lacks : c ∉ '\'' :: close) :
    ∃ later, begun = name ++ ('\'' :: close ++ later) ∧ rest = later ++ here := by
  obtain ⟨later, rfl, ends⟩ | ⟨late, rfl, ends⟩ := List.append_eq_append_iff.1 parts
  · obtain ⟨later, rfl, rfl⟩ := begins_behind ends first lacks
    exact ⟨later, rfl, rfl⟩
  · have inside : ∀ d ∈ late, isNameChar d := by
      intro d member
      exact isName.all isNameChar_of_isNameStart d (List.mem_append_right _ member)
    obtain ⟨-, same, -⟩ := stretch_unique (starts.symm.trans ends) all outside inside (by decide)
    exact absurd same other

/-- No trace of an undefined name begins within another one. -/
theorem not_straddles_undefined {more : List Char} (starts : here = "NameError: ".toList ++ more) :
    ¬ Straddles undefinedName? begun here a := by
  rintro ⟨reach, rest, some, beyond, ends, captured⟩
  obtain ⟨scope, which, parts, isName⟩ := undefinedName?_eq_some_iff.1 captured
  obtain ⟨b, begun, rfl⟩ := List.exists_cons_of_ne_nil some
  have first : here.head? = Option.some 'N' := by
    rw [starts]
    rfl
  have scopeLacks : 'N' ∉ scope := by
    obtain rfl | rfl := which <;> decide
  have afterFirst : "ameError: ".toList ++ _ = begun ++ here := (List.cons.inj parts).2.symm
  obtain ⟨_, rfl, afterError⟩ := begins_behind afterFirst first (by decide)
  obtain ⟨_, rfl, afterScope⟩ := begins_behind afterError first scopeLacks
  obtain ⟨_, rfl, afterQuote⟩ := begins_behind afterScope first (by decide)
  obtain ⟨later, -, behind⟩ := begins_behind_name " is not defined".toList "NameError".toList ':'
    afterQuote isName starts (by simp [isNameChar]) (by decide) (by decide) first (by decide)
  have lengths := congrArg List.length behind
  have pos := List.length_pos_iff.2 beyond
  rw [ends, List.length_append, List.length_append] at lengths
  omega

/-- Every builtin that a text calls undefined is captured. -/
theorem captured_undefined_iff (isName : IsName isNameChar name) :
    name ∈ captures undefinedName? text ↔ CallsUndefined name text := by
  rw [mem_captures_iff undefinedName?_consumes]
  constructor
  · rintro ⟨front, here, rest, reached, captured⟩
    obtain ⟨scope, which, rfl, -⟩ := undefinedName?_eq_some_iff.1 captured
    exact ⟨front, scope, rest, which, reached.parts⟩
  · rintro ⟨front, scope, rest, which, parts⟩
    obtain reached | ⟨_, _, _, -, -, straddles⟩ :=
      reached_or_straddled undefinedName?_consumes parts
    · exact ⟨front, _, rest, reached, undefinedName?_eq_some_iff.2 ⟨scope, which, rfl, isName⟩⟩
    · exact absurd straddles (not_straddles_undefined rfl)

end

/-! ## Modules -/

/-- A text calls a module missing, or a part of it, and does so within the names of `n` others. -/
def CallsMissing (name text : List Char) (n : Nat) : Prop :=
  ∃ before, ∃ opening ∈ openings, ∃ after, text = before ++ (opening ++ (name ++ after)) ∧
    (∀ c ∈ after.head?, ¬ isNameChar c) ∧ Depth before n

section
variable {text name rest after : List Char}

theorem isDotted_cases {c : Char} (dotted : isDotted c) (other : ¬ isNameChar c) : c = '.' := by
  simpa [isDotted, other] using dotted

/-- The first part of a dotted name, which ends at a point. -/
theorem takeWhile_point (isName : IsName isNameChar name) (ends : ∀ c ∈ after.head?, c = '.') :
    (name ++ after).takeWhile (· != '.') = name := by
  have plain : ∀ c ∈ name, (c != '.') = true := by
    intro c member
    rw [bne_iff_ne]
    rintro rfl
    exact absurd (isName.all isNameChar_of_isNameStart '.' member) (by decide)
  have stops : ∀ c ∈ after.head?, ¬ (c != '.') = true := by simpa using ends
  exact (stretch_iff.2 ⟨rfl, plain, stops⟩).1

theorem isName_with_part {part : List Char} (isName : IsName isNameChar name)
    (dotted : ∀ c ∈ part, isDotted c) : IsName isDotted (name ++ part) := by
  obtain ⟨c, tail, rfl, start, all⟩ := isName
  refine ⟨c, tail ++ part, rfl, start, fun d member => ?_⟩
  obtain inside | behind := List.mem_append.1 member
  · exact isDotted_of_isNameChar (all d inside)
  · exact dotted d behind

/-- What stands behind the first part of a dotted name does not go on with that part. -/
theorem first_part_ends {whole : List Char} (stops : ∀ c ∈ rest.head?, ¬ isDotted c) :
    ∀ c ∈ (whole.dropWhile (· != '.') ++ rest).head?, ¬ isNameChar c := by
  obtain ⟨-, -, point⟩ := stretch (· != '.') whole
  intro c first inside
  cases part : whole.dropWhile (· != '.') with
  | nil =>
    rw [part] at first
    exact stops c first (isDotted_of_isNameChar inside)
  | cons d more =>
    rw [part] at first point
    cases first
    obtain rfl : c = '.' := by simpa using point c rfl
    exact absurd inside (by decide)

/-- Every module is captured that a text calls missing, by itself or with a part of it, within the
names of an even number of others. -/
theorem captured_missing_iff (isName : IsName isNameChar name) :
    name ∈ (captures missingModule? text).map (·.takeWhile (· != '.')) ↔
      ∃ n, CallsMissing name text (2 * n) := by
  simp only [List.mem_map, mem_captures_iff missingModule?_consumes]
  constructor
  · rintro ⟨whole, ⟨front, here, rest, reached, captured⟩, rfl⟩
    obtain ⟨opening, listed, rfl, -, stops⟩ := missingModule?_eq_some_iff.1 captured
    obtain ⟨n, depth⟩ := exists_depth front
    have even := (reached_iff depth ⟨opening, listed, _, rfl⟩ reached.parts).1 reached
    obtain ⟨cut, -, -⟩ := stretch (· != '.') whole
    refine ⟨n / 2, front, opening, listed, whole.dropWhile (· != '.') ++ rest, ?_,
      first_part_ends stops, ?_⟩
    · rw [reached.parts, ← List.append_assoc (whole.takeWhile _), ← cut]
    · rwa [Nat.mul_div_cancel' (Nat.dvd_of_mod_eq_zero even)]
  · rintro ⟨n, front, opening, listed, after, parts, ends, depth⟩
    have reached := (reached_iff depth ⟨opening, listed, _, rfl⟩ parts).2 (Nat.mul_mod_right 2 n)
    obtain ⟨cut, dotted, stops⟩ := stretch isDotted after
    generalize after.takeWhile isDotted = part at cut dotted
    generalize after.dropWhile isDotted = rest at cut stops
    subst cut
    have point : ∀ c ∈ part.head?, c = '.' := by
      intro c first
      have outside := ends c (by simp [List.head?_append, Option.mem_def.1 first])
      exact isDotted_cases (dotted c (List.mem_of_head? first)) outside
    refine ⟨name ++ part, ⟨front, _, rest, reached, ?_⟩, takeWhile_point isName point⟩
    refine missingModule?_eq_some_iff.2 ⟨opening, listed, ?_, isName_with_part isName dotted, stops⟩
    rw [List.append_assoc]

end

/-! ## Methods -/

/-- A line calls a name missing from an object, and calls no other name missing behind it. -/
def LacksLast (name text : List Char) : Prop :=
  ∃ before between after, '\n' ∉ between ∧
    text = before ++ ("AttributeError: ".toList ++ (between ++ lacking name after)) ∧
    ∀ between' name' after', IsName isNameChar name' → after = between' ++ lacking name' after' →
      '\n' ∈ between'

section
variable {text name rest after here begun : List Char} {a : List Char}

theorem newline_not_mem_lacking (isName : IsName isNameChar name) {more : List Char}
    (free : '\n' ∉ more) : '\n' ∉ lacking name more := by
  have named : '\n' ∉ name := fun member =>
    absurd (isName.all isNameChar_of_isNameStart '\n' member) (by decide)
  simp [lacking_eq, named, free]

theorem OnLine.total {x y : List Char} (first : OnLine text x) (second : OnLine text y) :
    OnLine x y ∨ OnLine y x := by
  obtain ⟨front, rfl, free⟩ := first
  obtain ⟨front', parts, free'⟩ := second
  obtain ⟨late, rfl, same⟩ | ⟨late, rfl, same⟩ := List.append_eq_append_iff.1 parts
  · exact .inl ⟨late, same, fun member => free' (List.mem_append_right _ member)⟩
  · exact .inr ⟨late, same, fun member => free (List.mem_append_right _ member)⟩

/-- The words that call a name missing do not begin within such words. -/
theorem lacking_behind {name' after' front : List Char} (isName : IsName isNameChar name)
    (parts : lacking name after = front ++ lacking name' after') (some : front ≠ []) :
    ∃ between, front = lacking name between ∧ after = between ++ lacking name' after' := by
  obtain ⟨h, front, rfl⟩ := List.exists_cons_of_ne_nil some
  have afterFirst : "as no attribute '".toList ++ (name ++ '\'' :: after) = front ++ _ :=
    (List.cons.inj parts).2
  have letter : h = 'h' := (List.cons.inj parts).1.symm
  obtain ⟨_, rfl, afterQuote⟩ := begins_behind afterFirst (c := 'h') rfl (by decide)
  obtain ⟨between, rfl, behind⟩ := begins_behind_name [] "has".toList ' ' afterQuote isName rfl
    (by simp [isNameChar]) (by decide) (by decide) (c := 'h') rfl (by decide)
  exact ⟨between, by rw [letter]; rfl, behind⟩

/-- No other name is called missing behind the first one on its line. -/
theorem last_iff (isName : IsName isNameChar name) :
    (∀ later, OnLine (lacking name after) later → later ≠ lacking name after →
        attribute? later = none) ↔
      ∀ between' name' after', IsName isNameChar name' → after = between' ++ lacking name' after' →
        '\n' ∈ between' := by
  constructor
  · rintro last between' name' after' isName' rfl
    rw [lacking_append] at last
    refine Decidable.byContradiction fun free => ?_
    have on : OnLine (lacking name between' ++ lacking name' after') (lacking name' after') :=
      ⟨_, rfl, newline_not_mem_lacking isName free⟩
    have other : lacking name' after' ≠ lacking name between' ++ lacking name' after' := by
      intro same
      have lengths := congrArg List.length same
      simp only [lacking_eq, List.length_append, List.length_cons] at lengths
      omega
    have none := last _ on other
    rw [attribute?_eq_some_iff.2 ⟨rfl, isName'⟩] at none
    cases none
  · rintro inside later ⟨front, parts, free⟩ other
    cases named : attribute? later with
    | none => rfl
    | some found =>
      obtain ⟨name', after'⟩ := found
      obtain ⟨rfl, isName'⟩ := attribute?_eq_some_iff.1 named
      have some : front ≠ [] := by
        rintro rfl
        exact other parts.symm
      obtain ⟨between, rfl, behind⟩ := lacking_behind isName parts some
      have feed := inside between name' after' isName' behind
      exact absurd (by simp [lacking_eq, feed]) free

/-- Of the places on a line where a name is called missing one is the last. -/
theorem last_unique {here' : List Char} (on : OnLine text here) (on' : OnLine text here')
    (named : attribute? here ≠ none) (named' : attribute? here' ≠ none)
    (last : ∀ later, OnLine here later → later ≠ here → attribute? later = none)
    (last' : ∀ later, OnLine here' later → later ≠ here' → attribute? later = none) :
    here = here' := by
  refine Decidable.byContradiction fun other => ?_
  obtain later | later := on.total on'
  · exact named' (last here' later (Ne.symm other))
  · exact named (last' here later other)

theorem OnLine.behind (on : OnLine text here) {front : List Char} (free : '\n' ∉ front) :
    OnLine (front ++ text) here := by
  obtain ⟨between, rfl, free'⟩ := on
  exact ⟨front ++ between, (List.append_assoc ..).symm, by simp [free, free']⟩

/-- The words that call a name missing end on their line. -/
theorem OnLine.newline_not_mem {front : List Char} (isName : IsName isNameChar name)
    (on : OnLine (front ++ after) (lacking name after)) : '\n' ∉ front := by
  obtain ⟨between, split, free⟩ := on
  have both : front ++ after = between ++ lacking name [] ++ after := by
    rw [split, List.append_assoc, ← lacking_append]
    rfl
  rw [List.append_cancel_right both]
  simp [free, newline_not_mem_lacking isName]

/-- A capture that reaches over the start of another trace ends where that one ends. -/
theorem eq_of_straddles (captured : missingAttribute? here = some (name, rest))
    (straddles : Straddles missingAttribute? begun here a) : a = name := by
  obtain ⟨reach, rest', some, beyond, ends, wider⟩ := straddles
  obtain ⟨line, place, rfl, on, named, last⟩ := missingAttribute?_eq_some_iff.1 captured
  obtain ⟨line', place', parts, on', named', last'⟩ := missingAttribute?_eq_some_iff.1 wider
  obtain ⟨b, begun, rfl⟩ := List.exists_cons_of_ne_nil some
  have afterFirst : "ttributeError: ".toList ++ line' = begun ++ _ := (List.cons.inj parts).2.symm
  obtain ⟨between, rfl, whole⟩ := begins_behind afterFirst (c := 'A') rfl (by decide)
  -- Both traces stand on the line of the first, so that they have the same last name.
  have free : '\n' ∉ between := by
    obtain ⟨rfl, isName⟩ := attribute?_eq_some_iff.1 named'
    rw [whole, ends, ← List.append_assoc] at on'
    exact fun member => on'.newline_not_mem isName (List.mem_append_left _ member)
  have onWider : OnLine line' place := by
    rw [whole]
    exact (on.behind (by simp)).behind free
  have same := last_unique onWider on' (by simp [named]) (by simp [named']) last last'
  rw [same, named'] at named
  cases named
  rfl

/-- Of the names that a line calls missing the last one is captured, and no other. -/
theorem captured_lacking_iff (isName : IsName isNameChar name) :
    name ∈ captures missingAttribute? text ↔ LacksLast name text := by
  rw [mem_captures_iff missingAttribute?_consumes]
  constructor
  · rintro ⟨front, place, after, reached, captured⟩
    obtain ⟨line, here, rfl, ⟨between, rfl, free⟩, named, last⟩ :=
      missingAttribute?_eq_some_iff.1 captured
    obtain ⟨rfl, -⟩ := attribute?_eq_some_iff.1 named
    exact ⟨front, between, after, free, reached.parts, (last_iff isName).1 last⟩
  · rintro ⟨front, between, after, free, parts, last⟩
    have named : attribute? (lacking name after) = some (name, after) :=
      attribute?_eq_some_iff.2 ⟨rfl, isName⟩
    have captured := missingAttribute?_eq_some_iff.2
      ⟨_, _, rfl, ⟨between, rfl, free⟩, named, (last_iff isName).2 last⟩
    obtain reached | ⟨outer, begun, a, -, reached, straddles⟩ :=
      reached_or_straddled missingAttribute?_consumes parts
    · exact ⟨front, _, after, reached, captured⟩
    · obtain rfl := eq_of_straddles captured straddles
      obtain ⟨_, rest, -, -, -, wider⟩ := straddles
      exact ⟨outer, _, rest, reached, wider⟩

end

/-! ## Reports -/

/-- There is a warning for every missing builtin that an error output names, whatever else it holds,
for every missing module that it names within the names of an even number of others, and for every
missing method that is the last name that a line calls missing. There are no other warnings. -/
theorem traces_reported (errorOutput : String) :
    (∀ l ∈ Legacy.builtins, (Gap.builtin l).message ∈ migrationGaps errorOutput ↔
      CallsUndefined l.name.toList errorOutput.toList) ∧
    (∀ l ∈ Legacy.modules, (Gap.library l).message ∈ migrationGaps errorOutput ↔
      ∃ n, CallsMissing l.name.toList errorOutput.toList (2 * n)) ∧
    ∀ l ∈ Legacy.methods, (Gap.method l).message ∈ migrationGaps errorOutput ↔
      LacksLast l.name.toList errorOutput.toList := by
  have builtinNames : ∀ l ∈ Legacy.builtins, IsName isNameChar l.name.toList := by
    decide +kernel
  have moduleNames : ∀ l ∈ Legacy.modules, IsName isNameChar l.name.toList := by
    decide +kernel
  have methodNames : ∀ l ∈ Legacy.methods, IsName isNameChar l.name.toList := by
    decide +kernel
  refine ⟨fun l listed => ?_, fun l listed => ?_, fun l listed => ?_⟩
  · rw [builtin_reported_iff listed, captured_undefined_iff (builtinNames l listed)]
  · rw [library_reported_iff listed, captured_missing_iff (moduleNames l listed)]
  · rw [method_reported_iff listed, captured_lacking_iff (methodNames l listed)]

/-- A line that calls two names missing. -/
def crowded : String :=
  "AttributeError: a has no attribute 'has_key', b has no attribute 'iteritems'\n"

/-- A trace of a missing module within the name of another one. -/
def nested : String := "ImportError: No module named ImportError: No module named urllib2\n"

theorem captures_crowded : captures missingAttribute? crowded.toList = ["iteritems".toList] := by
  have first : missingAttribute? crowded.toList = some ("iteritems".toList, ['\n']) := by decide
  rw [missingAttribute?_consumes.captures_take first]
  simp (disch := decide) only [captures_pass, captures_done]

theorem captures_nested : captures missingModule? nested.toList = ["ImportError".toList] := by
  have first : missingModule? nested.toList =
      some ("ImportError".toList, ": No module named urllib2\n".toList) := by decide
  rw [missingModule?_consumes.captures_take first]
  simp (disch := decide) [captures_pass, captures_done]

theorem traces_reported_crowded :
    (∃ before after, crowded.toList =
      "AttributeError: ".toList ++ (before ++ lacking "has_key".toList after) ∧ '\n' ∉ before) ∧
    (Gap.method ⟨"has_key", some "the `in` operator"⟩).message ∉ migrationGaps crowded ∧
    ¬ LacksLast "has_key".toList crowded.toList ∧
    CallsMissing "urllib2".toList nested.toList 1 ∧
    (Gap.library ⟨"urllib2", some "urllib.request"⟩).message ∉ migrationGaps nested ∧
    ¬ ∃ n, CallsMissing "urllib2".toList nested.toList (2 * n) := by
  have hasKey : (⟨"has_key", some "the `in` operator"⟩ : Legacy) ∈ Legacy.methods := by decide
  have urllib2 : (⟨"urllib2", some "urllib.request"⟩ : Legacy) ∈ Legacy.modules := by decide
  have silent : (Gap.method ⟨"has_key", some "the `in` operator"⟩).message ∉
      migrationGaps crowded := by
    rw [method_reported_iff hasKey, captures_crowded]
    decide
  have silent' : (Gap.library ⟨"urllib2", some "urllib.request"⟩).message ∉
      migrationGaps nested := by
    rw [library_reported_iff urllib2, captures_nested]
    decide
  have opening : "ImportError: No module named ".toList ∈ openings := by decide
  refine ⟨⟨"a ".toList, ", b has no attribute 'iteritems'\n".toList, ?_, ?_⟩, silent, ?_,
    ⟨_, _, opening, ['\n'], ?_, ?_, depth_opening opening⟩, silent', ?_⟩
  · simp [crowded, lacking_eq]
  · simp
  · exact fun last => silent (((traces_reported crowded).2.2 _ hasKey).2 last)
  · simp [nested]
  · simp [isNameChar]
  · exact fun even => silent' (((traces_reported nested).2.1 _ urllib2).2 even)

end Tandem.Compare
