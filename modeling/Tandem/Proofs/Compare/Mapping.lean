import Tandem.Compare.Cosmetic

/-!
Mappings as runtimes print them, and the search for one.

* `ShowsMapping`: what the search for a mapping finds, and `shows_mappingAt`: that it finds just
  that.
* `Printed`: an atom or a mapping, with its text; `Reordered`: the same one with its entries in
  another order, at any depth.
* `showsMapping_text`: a printed value shows a mapping if some mapping in it has entries, and atoms
  for all their values. In a mapping of empty mappings the search finds nothing.
-/

namespace Tandem.Compare

open Tandem.Text

/-! ## The search -/

/-- Braces around a colon and no further brace stand somewhere in a text. -/
def ShowsMapping (text : List Char) : Prop :=
  ∃ before body after, text = before ++ '\x7b' :: (body ++ '\x7d' :: after) ∧ ':' ∈ body ∧
    ∀ c ∈ body, ¬ isBrace c

/-- The next brace of a text closes one before it, with a colon between them. -/
def Opens (text : List Char) : Prop :=
  (text.dropWhile (!isBrace ·)).head? = some '\x7d' ∧ ':' ∈ text.takeWhile (!isBrace ·)

section
variable {c : Char} {front text : List Char}

theorem mappingAt_iff (before : Option Char) :
    mappingAt before (c :: text) = true ↔ c = '\x7b' ∧ Opens text := by
  by_cases brace : c = '\x7b'
  · subst brace
    simp [mappingAt, Opens]
  · have none : mappingAt before (c :: text) = false := by
      unfold mappingAt
      split
      · rename_i same
        exact absurd (List.cons.inj same).1 brace
      · rfl
    simp [none, brace]

theorem opens_front (free : ∀ d ∈ front, ¬ isBrace d) (brace : isBrace c) :
    Opens (front ++ c :: text) ↔ c = '\x7d' ∧ ':' ∈ front := by
  have passed : ∀ d ∈ front, (!isBrace d) = true := by simpa using free
  rw [Opens, List.dropWhile_append_of_pos passed, List.takeWhile_append_of_pos passed]
  simp [brace]

theorem opens_iff : Opens text ↔
    ∃ body after, text = body ++ '\x7d' :: after ∧ ':' ∈ body ∧ ∀ d ∈ body, ¬ isBrace d := by
  constructor
  · rintro ⟨closes, colon⟩
    obtain ⟨after, rest⟩ := List.head?_eq_some_iff.1 closes
    refine ⟨text.takeWhile (!isBrace ·), after, ?_, colon, ?_⟩
    · rw [← rest, List.takeWhile_append_dropWhile]
    · intro d member
      simpa using List.all_eq_true.1 List.all_takeWhile d member
  · rintro ⟨body, after, rfl, colon, free⟩
    exact (opens_front free rfl).2 ⟨rfl, colon⟩

theorem showsMapping_cons :
    ShowsMapping (c :: text) ↔ (c = '\x7b' ∧ Opens text) ∨ ShowsMapping text := by
  rw [opens_iff]
  constructor
  · rintro ⟨before, body, after, parts, colon, free⟩
    cases before with
    | nil =>
      obtain ⟨rfl, rfl⟩ := List.cons.inj parts
      exact .inl ⟨rfl, body, after, rfl, colon, free⟩
    | cons d before =>
      obtain ⟨rfl, rfl⟩ := List.cons.inj parts
      exact .inr ⟨before, body, after, rfl, colon, free⟩
  · rintro (⟨rfl, body, after, rfl, colon, free⟩ | ⟨before, body, after, rfl, colon, free⟩)
    · exact ⟨[], body, after, rfl, colon, free⟩
    · exact ⟨c :: before, body, after, rfl, colon, free⟩

theorem not_showsMapping_nil : ¬ ShowsMapping [] := by
  rintro ⟨before, body, after, parts, -⟩
  simp at parts

/-- The search for a mapping finds braces around a colon and no further brace, and nothing else. -/
theorem shows_mappingAt (line : String) :
    Cosmetic.shows mappingAt line = true ↔ ShowsMapping line.toList := by
  rw [Cosmetic.shows]
  generalize none = before
  induction line.toList generalizing before with
  | nil => simp [anywhere, mappingAt, not_showsMapping_nil]
  | cons c text ih =>
    rw [anywhere, Bool.or_eq_true, mappingAt_iff, ih, showsMapping_cons]

instance (text : List Char) : Decidable (ShowsMapping text) :=
  decidable_of_iff (Cosmetic.shows mappingAt (.ofList text) = true)
    (by rw [shows_mappingAt, String.toList_ofList])

theorem showsMapping_front (free : ∀ d ∈ front, ¬ isBrace d) :
    ShowsMapping (front ++ text) ↔ ShowsMapping text := by
  induction front with
  | nil => rfl
  | cons d front ih =>
    obtain ⟨first, later⟩ := List.forall_mem_cons.1 free
    have other : d ≠ '\x7b' := by
      rintro rfl
      exact first rfl
    rw [List.cons_append, showsMapping_cons, ih later]
    simp [other]

theorem showsMapping_append {more : List Char} (h : ShowsMapping text) :
    ShowsMapping (front ++ text ++ more) := by
  obtain ⟨before, body, after, rfl, colon, free⟩ := h
  exact ⟨front ++ before, body, after ++ more, by simp, colon, free⟩

end

/-! ## Printed values -/

/-- A key, or a value that is no mapping: a text without the signs of a mapping on one line. -/
structure Atom where
  text : List Char
  plain : ∀ c ∈ text, c ∉ ['\x7b', '\x7d', ':', ',', '\n', '\r']

/-- A value as it is printed. -/
inductive Printed where
  | atom (a : Atom)
  | mapping (entries : List (Atom × Printed))

namespace Printed

/-- What stands before further entries, if there are any. -/
def separator (rest : List (Atom × Printed)) : List Char :=
  if rest.isEmpty then [] else [',', ' ']

mutual

def text : Printed → List Char
  | atom a => a.text
  | mapping entries => '\x7b' :: (body entries ++ ['\x7d'])

/-- The entries of a mapping without its braces. -/
def body : List (Atom × Printed) → List Char
  | [] => []
  | (key, value) :: rest =>
    key.text ++ (':' :: ' ' :: (value.text ++ (separator rest ++ body rest)))

end

def isAtom : Printed → Bool
  | atom _ => true
  | mapping _ => false

/-- Some mapping in a value has entries, and atoms for all their values. -/
inductive Grounded : Printed → Prop where
  | atoms {entries : List (Atom × Printed)} (some : entries ≠ [])
      (all : ∀ e ∈ entries, e.2.isAtom) : Grounded (mapping entries)
  | within {entries : List (Atom × Printed)} {e : Atom × Printed} (member : e ∈ entries)
      (inner : Grounded e.2) : Grounded (mapping entries)

/-- The same value, but for the order of entries. -/
inductive Reordered : Printed → Printed → Prop where
  | atom (a : Atom) : Reordered (atom a) (atom a)
  | mapping (entries : List (Atom × Printed × Printed)) {others : List (Atom × Printed)}
      (within : ∀ e ∈ entries, Reordered e.2.1 e.2.2)
      (order : (entries.map fun e => (e.1, e.2.2)).Perm others) :
      Reordered (mapping (entries.map fun e => (e.1, e.2.1))) (mapping others)

section
variable {c : Char} {v v' : Printed} {entries others : List (Atom × Printed)}

theorem not_isBrace_atom (a : Atom) : ∀ c ∈ a.text, ¬ isBrace c := by
  intro c member brace
  have plain := a.plain c member
  simp_all [isBrace]

theorem not_isBrace_separator (rest : List (Atom × Printed)) :
    ∀ c ∈ separator rest, ¬ isBrace c := by
  rw [separator]
  split <;> simp [isBrace]

theorem not_grounded_atom (a : Atom) : ¬ Grounded (atom a) := by
  rintro ⟨⟩

theorem grounded_mapping_iff : Grounded (mapping entries) ↔
    (entries ≠ [] ∧ ∀ e ∈ entries, e.2.isAtom) ∨ ∃ e ∈ entries, Grounded e.2 := by
  constructor
  · rintro (⟨some, all⟩ | ⟨member, inner⟩)
    · exact .inl ⟨some, all⟩
    · exact .inr ⟨_, member, inner⟩
  · rintro (⟨some, all⟩ | ⟨e, member, inner⟩)
    · exact .atoms some all
    · exact .within member inner

/-- What stands before the value of an entry. -/
theorem not_isBrace_key (key : Atom) : ∀ c ∈ key.text ++ [':', ' '], ¬ isBrace c := by
  have signs : ∀ c ∈ [':', ' '], ¬ isBrace c := by simp [isBrace]
  intro c member
  obtain inside | sign := List.mem_append.1 member
  · exact not_isBrace_atom key c inside
  · exact signs c sign

/-- The entries of a mapping have no brace if they hold atoms alone, and else the first one opens a
mapping among them. -/
theorem body_cases (entries : List (Atom × Printed)) :
    ((∀ e ∈ entries, e.2.isAtom) ∧ (∀ c ∈ body entries, ¬ isBrace c) ∧
        (':' ∈ body entries ↔ entries ≠ [])) ∨
      (¬ ∀ e ∈ entries, e.2.isAtom) ∧ ∃ front back, body entries = front ++ '\x7b' :: back ∧
        ∀ c ∈ front, ¬ isBrace c := by
  induction entries with
  | nil => simp [body]
  | cons e rest ih =>
    obtain ⟨key, value⟩ := e
    have before := not_isBrace_key key
    cases value with
    | mapping inner =>
      refine .inr ⟨fun all => ?_, key.text ++ [':', ' '],
        body inner ++ ['\x7d'] ++ (separator rest ++ body rest), ?_, before⟩
      · exact absurd (all _ (List.mem_cons_self ..)) (by simp [isAtom])
      · simp [body, text]
    | atom a =>
      have shared : ∀ c ∈ key.text ++ [':', ' '] ++ a.text ++ separator rest, ¬ isBrace c := by
        intro c member
        obtain member | last := List.mem_append.1 member
        · obtain first | inside := List.mem_append.1 member
          · exact before c first
          · exact not_isBrace_atom a c inside
        · exact not_isBrace_separator rest c last
      have whole : body ((key, atom a) :: rest) =
          key.text ++ [':', ' '] ++ a.text ++ separator rest ++ body rest := by
        simp [body, text]
      obtain ⟨all, free, -⟩ | ⟨some, front, back, parts, free⟩ := ih
      · refine .inl ⟨List.forall_mem_cons.2 ⟨rfl, all⟩, ?_, ?_⟩
        · rw [whole]
          intro c member
          obtain first | later := List.mem_append.1 member
          · exact shared c first
          · exact free c later
        · simp [body]
      · refine .inr ⟨fun all => some (List.forall_mem_cons.1 all).2,
          key.text ++ [':', ' '] ++ a.text ++ separator rest ++ front, back, ?_, ?_⟩
        · rw [whole, parts, List.append_assoc _ front]
        · intro c member
          obtain first | later := List.mem_append.1 member
          · exact shared c first
          · exact free c later

/-- The brace of a mapping opens what the search looks for if the mapping has entries, and atoms for
all their values. -/
theorem opens_body (entries : List (Atom × Printed)) (rest : List Char) :
    Opens (body entries ++ '\x7d' :: rest) ↔ entries ≠ [] ∧ ∀ e ∈ entries, e.2.isAtom := by
  obtain ⟨all, free, colon⟩ | ⟨some, front, back, parts, free⟩ := body_cases entries
  · rw [opens_front free rfl, colon]
    exact ⟨fun opens => ⟨opens.2, all⟩, fun holds => ⟨rfl, holds.1⟩⟩
  · rw [parts, List.append_assoc, List.cons_append, opens_front free rfl]
    exact ⟨fun opens => absurd opens.1 (by decide), fun holds => absurd holds.2 some⟩

mutual

/-- A printed value shows a mapping if it is grounded. What follows it makes no difference. -/
theorem showsMapping_text (v : Printed) (rest : List Char) :
    ShowsMapping (v.text ++ rest) ↔ Grounded v ∨ ShowsMapping rest := by
  match v with
  | atom a =>
    rw [text, showsMapping_front (not_isBrace_atom a)]
    simp [not_grounded_atom]
  | mapping entries =>
    have inner := showsMapping_body entries ('\x7d' :: rest)
    have closing : ShowsMapping ('\x7d' :: rest) ↔ ShowsMapping rest := by
      simp [showsMapping_cons]
    rw [text, List.cons_append, List.append_assoc, List.singleton_append, showsMapping_cons,
      opens_body, inner, closing, grounded_mapping_iff]
    simp [or_assoc]

theorem showsMapping_body (entries : List (Atom × Printed)) (rest : List Char) :
    ShowsMapping (body entries ++ rest) ↔ (∃ e ∈ entries, Grounded e.2) ∨ ShowsMapping rest := by
  match entries with
  | [] => simp [body]
  | (key, value) :: more =>
    have here := showsMapping_text value (separator more ++ (body more ++ rest))
    have later := showsMapping_body more rest
    have whole : body ((key, value) :: more) ++ rest =
        key.text ++ [':', ' '] ++ (value.text ++ (separator more ++ (body more ++ rest))) := by
      simp [body]
    rw [whole, showsMapping_front (not_isBrace_key key), here,
      showsMapping_front (not_isBrace_separator more), later]
    simp [or_assoc]

end

/-! ## Entries in another order -/

theorem grounded_perm (order : entries.Perm others) :
    Grounded (mapping entries) ↔ Grounded (mapping others) := by
  have some : entries ≠ [] ↔ others ≠ [] := not_congr ⟨fun none => ?_, fun none => ?_⟩
  · simp only [grounded_mapping_iff, some, order.mem_iff]
  · exact (none ▸ order).nil_eq.symm
  · exact (none ▸ order).eq_nil

theorem Reordered.isAtom_eq (h : Reordered v v') : v.isAtom = v'.isAtom := by
  cases h <;> rfl

theorem Reordered.grounded_iff (h : Reordered v v') : Grounded v ↔ Grounded v' := by
  induction h with
  | atom a => rfl
  | mapping entries within order ih =>
    have mapped (side : Atom × Printed × Printed → Atom × Printed) :
        (∃ e ∈ entries.map side, Grounded e.2) ↔ ∃ e ∈ entries, Grounded (side e).2 := by
      constructor
      · rintro ⟨_, member, inner⟩
        obtain ⟨e, inside, rfl⟩ := List.mem_map.1 member
        exact ⟨e, inside, inner⟩
      · rintro ⟨e, member, inner⟩
        exact ⟨side e, List.mem_map_of_mem member, inner⟩
    rw [← grounded_perm order, grounded_mapping_iff, grounded_mapping_iff, mapped, mapped]
    simp only [ne_eq, List.map_eq_nil_iff, List.forall_mem_map]
    refine or_congr (and_congr_right fun _ => ?_) ?_
    · exact forall_congr' fun e => forall_congr' fun member => by rw [(within e member).isAtom_eq]
    · exact exists_congr fun e => and_congr_right fun member => ih e member

/-- The length of some entries, each with a separator. -/
def width : List (Atom × Printed) → Nat
  | [] => 0
  | e :: rest => e.1.text.length + e.2.text.length + 4 + width rest

theorem length_body (entries : List (Atom × Printed)) :
    (body entries).length = width entries - 2 := by
  induction entries with
  | nil => rfl
  | cons e rest ih =>
    obtain ⟨key, value⟩ := e
    cases rest with
    | nil =>
      simp [body, separator, width]
      omega
    | cons next more =>
      have some : 4 ≤ width (next :: more) := by
        rw [width]
        omega
      rw [body, width]
      generalize width (next :: more) = total at some ih
      simp [separator, ih]
      omega

theorem width_perm (order : entries.Perm others) : width entries = width others := by
  induction order with
  | nil => rfl
  | cons e _ ih => rw [width, width, ih]
  | swap e e' rest =>
    simp only [width]
    omega
  | trans _ _ first second => exact first.trans second

theorem width_sides {pairs : List (Atom × Printed × Printed)}
    (same : ∀ e ∈ pairs, e.2.1.text.length = e.2.2.text.length) :
    width (pairs.map fun e => (e.1, e.2.1)) = width (pairs.map fun e => (e.1, e.2.2)) := by
  induction pairs with
  | nil => rfl
  | cons e pairs ih =>
    obtain ⟨here, later⟩ := List.forall_mem_cons.1 same
    rw [List.map_cons, List.map_cons, width, width, here, ih later]

theorem Reordered.length_eq (h : Reordered v v') : v.text.length = v'.text.length := by
  induction h with
  | atom a => rfl
  | mapping entries within order ih =>
    simp only [text, List.length_cons, List.length_append, length_body, width_sides ih,
      width_perm order]

mutual

theorem text_plain (v : Printed) : ∀ c ∈ v.text, c ≠ '\n' ∧ c ≠ '\r' := by
  match v with
  | atom a =>
    intro c member
    have plain := a.plain c member
    simp_all
  | mapping entries =>
    have inner := body_plain entries
    intro c member
    simp only [text, List.mem_cons, List.mem_append, List.not_mem_nil, or_false] at member
    obtain rfl | member | rfl := member
    · decide
    · exact inner c member
    · decide

theorem body_plain (entries : List (Atom × Printed)) : ∀ c ∈ body entries, c ≠ '\n' ∧ c ≠ '\r' := by
  match entries with
  | [] => simp [body]
  | (key, value) :: rest =>
    have first := text_plain (.atom key)
    have here := text_plain value
    have later := body_plain rest
    have between : ∀ c ∈ separator rest, c ≠ '\n' ∧ c ≠ '\r' := by
      rw [separator]
      split <;> simp
    intro c member
    simp only [body, List.mem_append, List.mem_cons] at member
    obtain member | rfl | rfl | member | member | member := member
    · exact first c member
    · decide
    · decide
    · exact here c member
    · exact between c member
    · exact later c member

end

end

end Printed

end Tandem.Compare
