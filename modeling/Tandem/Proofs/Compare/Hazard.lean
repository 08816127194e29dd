import Mathlib.Data.List.Nodup
import Tandem.Compare.Hazard
import Tandem.Proofs.Text.Phrase

/-!
Which hazards a source text has.

* `Calls`, `Reads`, `Imports`: what a text holds where there is reason for a warning.
* `hazards_exact`: a text has each warning if there is reason for it, in the order of the table and
  once. More lines take no warning away.
-/

namespace Tandem.Compare

open Tandem.Text Tandem.Text.Phrase

/-- A name stands in a text, and no word goes on into it. -/
def Reads (name : String) (text : List Char) : Prop :=
  ∃ front rest, text = front ++ (name.toList ++ rest) ∧ OpensAfter front

/-- A name is called in a text: there is nothing but white space between it and the bracket. -/
def Calls (name : String) (text : List Char) : Prop :=
  ∃ front blanks rest, text = front ++ (name.toList ++ (blanks ++ '(' :: rest)) ∧ OpensAfter front ∧
    Blank blanks

/-- Words with white space between them. -/
def Spaced : (words : List String) → (text : List Char) → Prop
  | [], text => text = []
  | [word], text => text = word.toList
  | word :: words, text => ∃ blanks more, text = word.toList ++ (blanks ++ more) ∧ blanks ≠ [] ∧
      Blank blanks ∧ Spaced words more

/-- Words follow each other in a text, and no word goes on across their ends. -/
def Imports (words : List String) (text : List Char) : Prop :=
  ∃ front phrase rest, text = front ++ (phrase ++ rest) ∧ Spaced words phrase ∧ OpensAfter front ∧
    EndsBefore rest

/-- Every call of `input` is the end of a call of `raw_input`. -/
def OnlyRaw (text : List Char) : Prop :=
  ∀ front blanks rest, text = front ++ ("input".toList ++ (blanks ++ '(' :: rest)) →
    Blank blanks → "raw_".toList <:+ front

/-! ## Edges of words -/

section
variable {before next : Option Char} {word : String} {text : List Char}

theorem isEdge_of_next (inside : next.any isWord = true) :
    isEdge before next = true ↔ before.any isWord = false := by
  simp [isEdge, inside]

theorem isEdge_of_before (inside : before.any isWord = true) :
    isEdge before next = true ↔ next.any isWord = false := by
  simp [isEdge, inside]

theorem any_head?_word (begins : word.toList.head?.any isWord = true) :
    (word.toList ++ text).head?.any isWord = true := by
  cases first : word.toList with
  | nil => simp [first] at begins
  | cons c word => simpa [first] using begins

theorem any_getLast?_word (ends : word.toList.getLast?.any isWord = true) :
    (word.toList.getLast?.or before).any isWord = true := by
  cases last : word.toList.getLast? with
  | none => simp [last] at ends
  | some c => simpa [last] using ends

theorem Spaced.begins {words : List String} (h : Spaced (word :: words) text) :
    ∃ more, text = word.toList ++ more := by
  cases words with
  | nil => exact ⟨[], by simpa [Spaced] using h⟩
  | cons next words =>
    obtain ⟨blanks, more, rfl, -⟩ := h
    exact ⟨_, rfl⟩

end

namespace Hazard

/-! ## What the phrases of the table find -/

section
variable {name : String} {text : List Char}

/-- The phrase of a call is settled, because a bracket is no white space. -/
theorem occursIn_call_iff (begins : name.toList.head?.any isWord = true) :
    (call name).occursIn text = true ↔ Calls name text := by
  have settled : isSettled (call name) = true := by
    change (!isBlank '(' && true && true) = true
    decide
  rw [occursIn_iff settled]
  simp only [call, stands_edge_iff, stands_word_iff, stands_space_iff, stands_nil_iff]
  constructor
  · rintro ⟨front, here, rest, rfl, edge, more, rfl, blanks, more', rfl, blank, last, rfl, rfl⟩
    rw [List.append_assoc, isEdge_of_next (any_head?_word begins)] at edge
    refine ⟨front, blanks, rest, ?_, edge, blank⟩
    simp
  · rintro ⟨front, blanks, rest, rfl, opens, blank⟩
    refine ⟨front, name.toList ++ (blanks ++ ['(']), rest, by simp, ?_, _, rfl, blanks, _, rfl,
      blank, [], rfl, rfl⟩
    rw [List.append_assoc, isEdge_of_next (any_head?_word begins)]
    exact opens

theorem occursIn_reads_iff (begins : name.toList.head?.any isWord = true) :
    occursIn [.edge, .word name] text = true ↔ Reads name text := by
  rw [occursIn_iff rfl]
  simp only [stands_edge_iff, stands_word_iff, stands_nil_iff]
  constructor
  · rintro ⟨front, here, rest, rfl, edge, more, rfl, rfl⟩
    rw [List.append_assoc, isEdge_of_next (any_head?_word begins)] at edge
    exact ⟨front, rest, by simp, edge⟩
  · rintro ⟨front, rest, rfl, opens⟩
    refine ⟨front, name.toList ++ [], rest, by simp, ?_, [], rfl, rfl⟩
    rw [List.append_assoc, isEdge_of_next (any_head?_word begins)]
    exact opens

end

/-- Words with white space between them, up to the edge of the last one. -/
def gapped : List String → Phrase
  | [] => [.edge]
  | [word] => [.word word, .edge]
  | word :: words => .word word :: .gap :: gapped words

/-- A word that begins and ends with word characters. -/
def IsWhole (word : String) : Prop :=
  word.toList.head?.any isWord = true ∧ word.toList.getLast?.any isWord = true

section
variable {words : List String} {before : Option Char} {here rest text : List Char}

theorem stands_gapped_iff (some : words ≠ []) (whole : ∀ word ∈ words, IsWhole word) :
    Stands (gapped words) before here rest ↔ Spaced words here ∧ EndsBefore rest := by
  induction words generalizing before here with
  | nil => exact absurd rfl some
  | cons word words ih =>
    obtain ⟨first, others⟩ := List.forall_mem_cons.1 whole
    cases words with
    | nil =>
      simp only [gapped, Spaced, stands_word_iff, stands_edge_iff, stands_nil_iff]
      constructor
      · rintro ⟨more, rfl, edge, rfl⟩
        rw [isEdge_of_before (any_getLast?_word first.2)] at edge
        exact ⟨List.append_nil _, edge⟩
      · rintro ⟨rfl, ends⟩
        refine ⟨[], (List.append_nil _).symm, ?_, rfl⟩
        rw [isEdge_of_before (any_getLast?_word first.2)]
        exact ends
    | cons next words =>
      simp only [gapped, Spaced, stands_word_iff, stands_gap_iff]
      constructor
      · rintro ⟨-, rfl, blanks, more, rfl, filled, blank, stands⟩
        obtain ⟨spaced, ends⟩ := (ih (List.cons_ne_nil next words) others).1 stands
        exact ⟨⟨blanks, more, rfl, filled, blank, spaced⟩, ends⟩
      · rintro ⟨⟨blanks, more, rfl, filled, blank, spaced⟩, ends⟩
        refine ⟨_, rfl, blanks, more, rfl, filled, blank, ?_⟩
        exact (ih (List.cons_ne_nil next words) others).2 ⟨spaced, ends⟩

theorem occursIn_gapped_iff (some : words ≠ []) (whole : ∀ word ∈ words, IsWhole word)
    (settled : isSettled (gapped words) = true) :
    occursIn (.edge :: gapped words) text = true ↔ Imports words text := by
  have settled' : isSettled (.edge :: gapped words) = true := settled
  rw [occursIn_iff settled']
  simp only [stands_edge_iff, stands_gapped_iff some whole]
  obtain ⟨word, words, rfl⟩ := List.exists_cons_of_ne_nil some
  have begins := (whole word (List.mem_cons_self ..)).1
  constructor
  · rintro ⟨front, here, rest, rfl, edge, spaced, ends⟩
    obtain ⟨more, rfl⟩ := spaced.begins
    rw [List.append_assoc, isEdge_of_next (any_head?_word begins)] at edge
    exact ⟨front, _, rest, rfl, spaced, edge, ends⟩
  · rintro ⟨front, here, rest, rfl, spaced, opens, ends⟩
    refine ⟨front, here, rest, rfl, ?_, spaced, ends⟩
    obtain ⟨more, rfl⟩ := spaced.begins
    rw [List.append_assoc, isEdge_of_next (any_head?_word begins)]
    exact opens

end

/-! ## The table -/

/-- The warnings in order, each with what gives reason for it. -/
def reasons : List (String × (List Char → Prop)) :=
  [("File uses raw_input(); execution may hang without stdin input.", Calls "raw_input"),
   ("File uses input(); execution may hang without stdin input.", Calls "input"),
   ("File reads sys.stdin; execution may hang without stdin input.", Reads "sys.stdin.read"),
   ("File imports random; output may be non-deterministic.", fun text =>
      Imports ["import", "random"] text ∨ Imports ["from", "random", "import"] text),
   ("File generates UUIDs; output may be non-deterministic.", fun text =>
      Calls "uuid.uuid1" text ∨ Calls "uuid.uuid4" text),
   ("File calls os.urandom(); output may be non-deterministic.", Calls "os.urandom"),
   ("File calls datetime.now(); output may be non-deterministic.", Calls "datetime.now"),
   ("File calls datetime.utcnow(); output may be non-deterministic.", Calls "datetime.utcnow"),
   ("File calls time.time(); output may be non-deterministic.", Calls "time.time"),
   ("File calls time.clock(); output may be non-deterministic.", Calls "time.clock"),
   ("File calls date.today(); output may be non-deterministic.", Calls "date.today")]

theorem warnings_eq : table.map warning = reasons.map Prod.fst := by
  decide

theorem warnings_nodup : (table.map warning).Nodup := by
  decide

theorem table_settled : ∀ h ∈ table, ∀ p ∈ h.phrases, isSettled p = true := by
  decide

section
variable {h : Hazard} {text : List Char} {name name' warning : String}

theorem isIn_call_iff (begins : name.toList.head?.any isWord = true) :
    isIn ⟨[call name], warning⟩ text = true ↔ Calls name text := by
  simp [isIn, occursIn_call_iff begins]

/-- What is in a table once gives a warning if and only if it is found. -/
theorem warning_mem_iff {text : String} (listed : h ∈ table) :
    h.warning ∈ hazards text ↔ h.isIn text.toList = true := by
  rw [hazards, List.mem_map]
  constructor
  · rintro ⟨h', found, same⟩
    obtain ⟨listed', isIn⟩ := List.mem_filter.1 found
    rwa [← List.inj_on_of_nodup_map warnings_nodup listed' listed same]
  · intro isIn
    exact ⟨h, List.mem_filter.2 ⟨listed, isIn⟩, rfl⟩

/-- What the table finds is the reason for its warning. -/
theorem exists_hazard : ∀ r ∈ reasons, ∃ h ∈ table, h.warning = r.1 ∧
    ∀ text, h.isIn text = true ↔ r.2 text := by
  have whole : ∀ word ∈ ["import", "random", "from"], IsWhole word := by
    unfold IsWhole
    decide
  simp only [reasons, List.forall_mem_cons]
  refine ⟨⟨table[0], List.getElem_mem _, by decide, fun text => isIn_call_iff (by decide)⟩,
    ⟨table[1], List.getElem_mem _, by decide, fun text => isIn_call_iff (by decide)⟩,
    ⟨table[2], List.getElem_mem _, by decide, fun text => ?_⟩,
    ⟨table[3], List.getElem_mem _, by decide, fun text => ?_⟩,
    ⟨table[4], List.getElem_mem _, by decide, fun text => ?_⟩,
    ⟨table[5], List.getElem_mem _, by decide, fun text => isIn_call_iff (by decide)⟩,
    ⟨table[6], List.getElem_mem _, by decide, fun text => isIn_call_iff (by decide)⟩,
    ⟨table[7], List.getElem_mem _, by decide, fun text => isIn_call_iff (by decide)⟩,
    ⟨table[8], List.getElem_mem _, by decide, fun text => isIn_call_iff (by decide)⟩,
    ⟨table[9], List.getElem_mem _, by decide, fun text => isIn_call_iff (by decide)⟩,
    ⟨table[10], List.getElem_mem _, by decide, fun text => isIn_call_iff (by decide)⟩, by simp⟩
  · have reads : occursIn [.edge, .word "sys.stdin.read"] text = true ↔
        Reads "sys.stdin.read" text := occursIn_reads_iff (by decide)
    simp [table, isIn, reads]
  · have random : occursIn (.edge :: gapped ["import", "random"]) text = true ↔
        Imports ["import", "random"] text :=
      occursIn_gapped_iff (by simp) (fun word listed => whole word (by grind)) (by decide)
    have fromRandom : occursIn (.edge :: gapped ["from", "random", "import"]) text = true ↔
        Imports ["from", "random", "import"] text :=
      occursIn_gapped_iff (by simp) (fun word listed => whole word (by grind)) (by decide)
    simp only [gapped] at random fromRandom
    simp [table, isIn, random, fromRandom]
  · have timed : occursIn (call "uuid.uuid1") text = true ↔ Calls "uuid.uuid1" text :=
      occursIn_call_iff (by decide)
    have drawn : occursIn (call "uuid.uuid4") text = true ↔ Calls "uuid.uuid4" text :=
      occursIn_call_iff (by decide)
    simp [table, isIn, timed, drawn]

/-- What is found in some lines is found in more. -/
theorem isIn_amid {front back : List Char} (listed : h ∈ table) (opens : OpensAfter front)
    (ends : EndsBefore back) (found : h.isIn text = true) :
    h.isIn (front ++ (text ++ back)) = true := by
  rw [isIn, List.any_eq_true] at found ⊢
  obtain ⟨p, member, occurs⟩ := found
  exact ⟨p, member, occursIn_amid (table_settled h listed p member) opens ends occurs⟩

end

end Hazard

section
variable {s t : String} {text : List Char}

/-- Each warning comes from an entry of the table that finds something. -/
theorem mem_hazards_iff {warning : String} : warning ∈ hazards s ↔
    ∃ h ∈ Hazard.table, h.isIn s.toList = true ∧ h.warning = warning := by
  simp only [hazards, List.mem_map, List.mem_filter, and_assoc]

/-- More lines take no warning away. -/
theorem hazards_lines (s t : String) : hazards s ++ hazards t ⊆ hazards (s ++ "\n" ++ t) := by
  have feed : isWord '\n' = false := by decide
  have lines : (s ++ "\n" ++ t).toList = s.toList ++ '\n' :: t.toList := by simp
  intro warning listed
  apply mem_hazards_iff.2
  rw [lines]
  obtain before | after := List.mem_append.1 listed
  · obtain ⟨h, member, found, rfl⟩ := mem_hazards_iff.1 before
    have opens : OpensAfter [] := rfl
    exact ⟨h, member, Hazard.isIn_amid member opens feed found, rfl⟩
  · obtain ⟨h, member, found, rfl⟩ := mem_hazards_iff.1 after
    refine ⟨h, member, ?_, rfl⟩
    have opens : OpensAfter (s.toList ++ ['\n']) := by simp [OpensAfter, feed]
    have ends : EndsBefore [] := rfl
    simpa using Hazard.isIn_amid member opens ends found

/-- The line before `input` ends with a word character where it belongs to `raw_input`. -/
theorem OnlyRaw.not_calls (h : OnlyRaw text) : ¬ Calls "input" text := by
  rintro ⟨front, blanks, rest, parts, opens, blank⟩
  obtain ⟨front', rfl⟩ := h front blanks rest parts blank
  have inside : isWord '_' = true := by decide
  simp [OpensAfter, inside] at opens

end

/-- A text has the warnings that there is reason for, each once and in the order of the table. Lines
that are added take none away, and a call of `raw_input` is none of `input`. -/
theorem hazards_exact :
    (∀ text, (hazards text).Sublist (Hazard.reasons.map Prod.fst) ∧
      (hazards text).Nodup ∧
      ∀ r ∈ Hazard.reasons, r.1 ∈ hazards text ↔ r.2 text.toList) ∧
    (∀ s t, hazards s ++ hazards t ⊆ hazards (s ++ "\n" ++ t)) ∧
    ∀ text, OnlyRaw text.toList →
      "File uses input(); execution may hang without stdin input." ∉ hazards text := by
  have exactly (text : String) : ∀ r ∈ Hazard.reasons, r.1 ∈ hazards text ↔ r.2 text.toList := by
    intro r listed
    obtain ⟨h, member, same, means⟩ := Hazard.exists_hazard r listed
    rw [← same, Hazard.warning_mem_iff member, means]
  refine ⟨fun text => ?_, hazards_lines, fun text only => ?_⟩
  · have sublist : (hazards text).Sublist (Hazard.table.map Hazard.warning) :=
      List.filter_sublist.map Hazard.warning
    refine ⟨Hazard.warnings_eq ▸ sublist, ?_, exactly text⟩
    exact sublist.nodup Hazard.warnings_nodup
  · intro warned
    have listed : ("File uses input(); execution may hang without stdin input.", Calls "input") ∈
        Hazard.reasons := .tail _ (.head _)
    exact only.not_calls ((exactly text _ listed).1 warned)

/-- A prompt. -/
def prompt : String := "raw_input\n()"

theorem onlyRaw_prompt : OnlyRaw prompt.toList := by
  intro front blanks rest parts blank
  -- Of all places in the text, `input` stands behind the first four characters alone.
  obtain _ | ⟨c₁, _ | ⟨c₂, _ | ⟨c₃, _ | ⟨c₄, _ | ⟨c₅, front⟩⟩⟩⟩⟩ := front
  all_goals simp [prompt] at parts
  · obtain ⟨rfl, rfl, rfl, rfl, -⟩ := parts
    exact List.suffix_refl _
  · obtain ⟨-, -, -, -, -, parts⟩ := parts
    have listed : 'i' ∈ ['n', 'p', 'u', 't', '\n', '(', ')'] := by simp [parts]
    simp at listed

theorem hazards_exact_prompt :
    OnlyRaw prompt.toList ∧ Calls "raw_input" prompt.toList ∧
      "File uses raw_input(); execution may hang without stdin input." ∈ hazards prompt ∧
      "File uses input(); execution may hang without stdin input." ∉ hazards prompt := by
  have feed : Blank ['\n'] := by
    intro c listed
    obtain rfl := List.mem_singleton.1 listed
    decide
  have calls : Calls "raw_input" prompt.toList := ⟨[], ['\n'], [')'], by decide, rfl, feed⟩
  have listed : ("File uses raw_input(); execution may hang without stdin input.",
      Calls "raw_input") ∈ Hazard.reasons := .head _
  refine ⟨onlyRaw_prompt, calls, ?_, hazards_exact.2.2 prompt onlyRaw_prompt⟩
  exact ((hazards_exact.1 prompt).2.2 _ listed).2 calls

end Tandem.Compare
