import Tandem.Proofs.Compare.Fingerprint

/-!
The gaps of an error output, line by line.

* `FirstOrder`: the elements of a list, each once, in the order in which they first stand in it;
  `firstOrder_eraseDups`.
* `Gap.builtinsIn`, `Gap.librariesIn`, `Gap.methodsIn`: what the searches of each group capture, as
  often as it stands in the text. What they capture in two lines is what they capture in each.
* `migrationGaps_linewise`: more output adds warnings and hides none. No warning is repeated, and
  they stand group after group, in each group in the order of the first captures.
-/

namespace Tandem.Compare

open Tandem.Text

/-! ## First occurrences -/

/-- The elements of a list, each once, in the order in which they first stand in it. -/
structure FirstOrder {α : Type} (found all : List α) : Prop where
  nodup : found.Nodup
  mem : ∀ a, a ∈ found ↔ a ∈ all
  order : found.Pairwise fun a b => ∃ before after, all = before ++ a :: after ∧ b ∉ before

namespace FirstOrder

variable {α : Type} {a : α} {found all : List α}

theorem order_snoc (first : FirstOrder found all) : found.Pairwise fun b c =>
    ∃ before after, all ++ [a] = before ++ b :: after ∧ c ∉ before := by
  apply first.order.imp
  rintro b c ⟨before, after, rfl, apart⟩
  exact ⟨before, after ++ [a], by simp, apart⟩

/-- What stood in the list before makes no difference. -/
theorem again (first : FirstOrder found all) (known : a ∈ all) : FirstOrder found (all ++ [a]) := by
  refine ⟨first.nodup, fun b => ?_, first.order_snoc⟩
  rw [first.mem, List.mem_append, List.mem_singleton]
  exact (or_iff_left_of_imp fun same => same ▸ known).symm

/-- What stands in the list for the first time comes last. -/
theorem snoc (first : FirstOrder found all) (new : a ∉ all) :
    FirstOrder (found ++ [a]) (all ++ [a]) := by
  have absent : a ∉ found := fun member => new ((first.mem a).1 member)
  refine ⟨?_, fun b => ?_, ?_⟩
  · refine List.nodup_append.2 ⟨first.nodup, List.pairwise_singleton .., ?_⟩
    rintro b member c last rfl
    exact absent (List.mem_singleton.1 last ▸ member)
  · rw [List.mem_append, List.mem_append, first.mem]
  · refine List.pairwise_append.2 ⟨first.order_snoc, List.pairwise_singleton .., ?_⟩
    intro b member c last
    obtain rfl := List.mem_singleton.1 last
    obtain ⟨before, after, rfl⟩ := List.append_of_mem ((first.mem b).1 member)
    refine ⟨before, after ++ [c], by simp, ?_⟩
    exact fun inside => new (List.mem_append_left _ inside)

end FirstOrder

section
variable {α : Type} [BEq α] [LawfulBEq α]

theorem eraseDups_snoc (all : List α) (a : α) :
    (all ++ [a]).eraseDups = if a ∈ all then all.eraseDups else all.eraseDups ++ [a] := by
  rw [List.eraseDups_append]
  by_cases known : a ∈ all <;> simp [List.removeAll, List.eraseDups_cons, known]

theorem firstOrder_eraseDups (all : List α) : FirstOrder all.eraseDups all := by
  rw [← List.reverse_reverse all]
  induction all.reverse with
  | nil => exact ⟨List.nodup_nil, fun a => Iff.rfl, .nil⟩
  | cons a earlier ih =>
    rw [List.reverse_cons, eraseDups_snoc]
    by_cases known : a ∈ earlier.reverse
    · rw [if_pos known]
      exact ih.again known
    · rw [if_neg known]
      exact ih.snoc known

/-- Lists with nothing in common keep their order. -/
theorem eraseDups_append_of_disjoint {all more : List α} (apart : ∀ a ∈ more, a ∉ all) :
    (all ++ more).eraseDups = all.eraseDups ++ more.eraseDups := by
  have kept : more.removeAll all = more := by
    rw [List.removeAll, List.filter_eq_self]
    simpa using apart
  rw [List.eraseDups_append, kept]

end

/-! ## Groups -/

namespace Gap

/-- The gaps of one group among some names, as often as they are named. -/
def among (table : List Legacy) (group : Legacy → Gap) (names : List (List Char)) : List Gap :=
  names.filterMap fun name => (Legacy.find? table name).map group

/-- The missing builtins that a text names. -/
def builtinsIn (text : List Char) : List Gap :=
  among Legacy.builtins builtin (captures undefinedName? text)

/-- The missing modules that a text names, each with whatever part of it is missing. -/
def librariesIn (text : List Char) : List Gap :=
  among Legacy.modules library ((captures missingModule? text).map (·.takeWhile (· != '.')))

/-- The missing methods that a text names. -/
def methodsIn (text : List Char) : List Gap :=
  among Legacy.methods method (captures missingAttribute? text)

/-- Every gap that there is a warning for. -/
def known : List Gap :=
  Legacy.builtins.map builtin ++ Legacy.modules.map library ++ Legacy.methods.map method

section
variable {g g' : Gap} {table : List Legacy} {group : Legacy → Gap} {names : List (List Char)}
  {text line later : List Char}

theorem exists_of_mem_among (h : g ∈ among table group names) : ∃ l ∈ table, g = group l := by
  obtain ⟨name, -, named⟩ := List.mem_filterMap.1 h
  obtain ⟨l, found, rfl⟩ := Option.map_eq_some_iff.1 named
  exact ⟨l, List.mem_of_find?_eq_some found, rfl⟩

theorem among_append (names more : List (List Char)) :
    among table group (names ++ more) = among table group names ++ among table group more :=
  List.filterMap_append

theorem builtinsIn_line (line later : List Char) :
    builtinsIn (line ++ '\n' :: later) = builtinsIn line ++ builtinsIn later := by
  rw [builtinsIn, captures_line undefinedName?_consumes undefinedName?_withinLine, among_append]
  rfl

theorem librariesIn_line (line later : List Char) :
    librariesIn (line ++ '\n' :: later) = librariesIn line ++ librariesIn later := by
  rw [librariesIn, captures_line missingModule?_consumes missingModule?_withinLine,
    List.map_append, among_append]
  rfl

theorem methodsIn_line (line later : List Char) :
    methodsIn (line ++ '\n' :: later) = methodsIn line ++ methodsIn later := by
  rw [methodsIn, captures_line missingAttribute?_consumes missingAttribute?_withinLine,
    among_append]
  rfl

/-- The groups have no gap in common. -/
theorem all_eq (text : List Char) : all text =
    (builtinsIn text).eraseDups ++ (librariesIn text).eraseDups ++ (methodsIn text).eraseDups := by
  have whole : all text = (builtinsIn text ++ librariesIn text ++ methodsIn text).eraseDups := by
    rw [librariesIn, among, List.filterMap_map]
    rfl
  rw [whole, eraseDups_append_of_disjoint, eraseDups_append_of_disjoint]
  · intro g library builtin
    obtain ⟨l, -, rfl⟩ := exists_of_mem_among library
    obtain ⟨l', -, ⟨⟩⟩ := exists_of_mem_among builtin
  · intro g method other
    obtain ⟨l, -, rfl⟩ := exists_of_mem_among method
    obtain builtin | library := List.mem_append.1 other
    · obtain ⟨l', -, ⟨⟩⟩ := exists_of_mem_among builtin
    · obtain ⟨l', -, ⟨⟩⟩ := exists_of_mem_among library

theorem mem_all : g ∈ all text ↔
    g ∈ builtinsIn text ∨ g ∈ librariesIn text ∨ g ∈ methodsIn text := by
  rw [all_eq, List.mem_append, List.mem_append, List.mem_eraseDups, List.mem_eraseDups,
    List.mem_eraseDups, or_assoc]

theorem nodup_all (text : List Char) : (all text).Nodup :=
  (firstOrder_eraseDups _).nodup

theorem known_of_mem_all (h : g ∈ all text) : g ∈ known := by
  rw [known, List.mem_append, List.mem_append, or_assoc]
  obtain member | member | member := mem_all.1 h
  · obtain ⟨l, listed, rfl⟩ := exists_of_mem_among member
    exact .inl (List.mem_map_of_mem listed)
  · obtain ⟨l, listed, rfl⟩ := exists_of_mem_among member
    exact .inr (.inl (List.mem_map_of_mem listed))
  · obtain ⟨l, listed, rfl⟩ := exists_of_mem_among member
    exact .inr (.inr (List.mem_map_of_mem listed))

/-- Warnings tell the gaps apart. -/
theorem message_injective (h : g ∈ known) (h' : g' ∈ known) (same : g.message = g'.message) :
    g = g' := by
  have distinct : ∀ g ∈ known, ∀ g' ∈ known, g.message = g'.message → g = g' := by decide +kernel
  exact distinct g h g' h' same

end

end Gap

theorem mem_migrationGaps {errorOutput warning : String} : warning ∈ migrationGaps errorOutput ↔
    ∃ g ∈ Gap.all errorOutput.toList, g.message = warning :=
  List.mem_map

theorem nodup_migrationGaps (errorOutput : String) : (migrationGaps errorOutput).Nodup := by
  rw [migrationGaps, List.Nodup, List.pairwise_map]
  refine (Gap.nodup_all _).imp_of_mem fun member member' other same => other ?_
  exact Gap.message_injective (Gap.known_of_mem_all member) (Gap.known_of_mem_all member') same

/-- More error output adds warnings and hides none. No warning is repeated, and they stand group
after group, in each in the order in which what they name is captured first. -/
theorem migrationGaps_linewise :
    (∀ s t warning : String, warning ∈ migrationGaps (s ++ "\n" ++ t) ↔
      warning ∈ migrationGaps s ∨ warning ∈ migrationGaps t) ∧
    ∀ errorOutput : String, (migrationGaps errorOutput).Nodup ∧ ∃ builtins libraries methods,
      migrationGaps errorOutput = (builtins ++ libraries ++ methods).map Gap.message ∧
      FirstOrder builtins (Gap.builtinsIn errorOutput.toList) ∧
      FirstOrder libraries (Gap.librariesIn errorOutput.toList) ∧
      FirstOrder methods (Gap.methodsIn errorOutput.toList) := by
  constructor
  · intro s t warning
    have lines : (s ++ "\n" ++ t).toList = s.toList ++ '\n' :: t.toList := by simp
    have gaps (g : Gap) : g ∈ Gap.all (s ++ "\n" ++ t).toList ↔
        g ∈ Gap.all s.toList ∨ g ∈ Gap.all t.toList := by
      simp only [lines, Gap.mem_all, Gap.builtinsIn_line, Gap.librariesIn_line, Gap.methodsIn_line,
        List.mem_append]
      grind
    simp only [mem_migrationGaps, gaps, or_and_right, exists_or]
  · intro errorOutput
    refine ⟨nodup_migrationGaps errorOutput, _, _, _, ?_, firstOrder_eraseDups _,
      firstOrder_eraseDups _, firstOrder_eraseDups _⟩
    rw [migrationGaps, Gap.all_eq]

end Tandem.Compare
