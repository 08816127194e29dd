import Tandem.Proofs.Machine.Lookup

/-!
The names that a safe path goes down by.

* `counted`: the stretches of a path that count. An empty one never does, a dot only where the path
  begins with it.
* `isSafe_iff_counted`: the check of a path in terms of these.
* `parts_counted`, `stepsOf_counted`, `key_counted`: whatever reads a safe path reads the same names
  in it.
* `counted_of_key`: the key of a safe path tells its names.
-/

namespace Tandem.Host.Path

open Tandem.Machine

/-- The stretches between separators that count. -/
def counted (p : Path) : List (List Char) :=
  match split p.text.toList with
  | [] => []
  | first :: rest => (first :: rest.filter (· ≠ ['.'])).filter (· ≠ [])

section
variable {p q : Path} {pieces rest : List (List Char)} {first piece : List Char}

theorem not_mem_of_split {text : List Char} (h : piece ∈ split text) : '/' ∉ piece := by
  induction text generalizing piece with
  | nil =>
    obtain rfl : piece = [] := by simpa [split] using h
    simp
  | cons c text ih =>
    by_cases separator : c = '/'
    · subst separator
      obtain rfl | later := List.mem_cons.1 (h : piece ∈ [] :: split text)
      · simp
      · exact ih later
    · rw [split.eq_3 _ _ separator] at h
      cases found : split text with
      | nil => exact absurd found (split_ne_nil text)
      | cons front more =>
        rw [found] at h ih
        obtain rfl | later := List.mem_cons.1 h
        · have free : '/' ∉ front := ih (List.mem_cons_self ..)
          simp [Ne.symm separator, free]
        · exact ih (List.mem_cons_of_mem _ later)

theorem part?_eq_parent_iff : part? piece = some .parent ↔ piece = ['.', '.'] := by
  rw [part?.eq_def]
  split <;> simp_all

theorem exists_name_of_part? {part : Part} (h : part? piece = some part)
    (other : piece ≠ ['.', '.']) : part = .name (String.ofList piece) := by
  rw [part?.eq_def] at h
  split at h <;> simp_all

/-- Stretches name no place but entries if none of them is a pair of dots. -/
theorem forall_name_iff : (∀ part ∈ pieces.filterMap part?, ∃ name, part = .name name) ↔
    ['.', '.'] ∉ pieces := by
  constructor
  · intro named dots
    obtain ⟨name, same⟩ := named .parent
      (List.mem_filterMap.2 ⟨_, dots, part?_eq_parent_iff.2 rfl⟩)
    cases same
  · intro none part listed
    obtain ⟨piece, member, found⟩ := List.mem_filterMap.1 listed
    refine ⟨_, exists_name_of_part? found ?_⟩
    rintro rfl
    exact none member

/-- A path that is neither empty nor absolute begins with a stretch that has characters. -/
theorem split_relative (filled : p.isEmpty = false) (relative : p.isAbsolute = false) :
    ∃ first rest, split p.text.toList = first :: rest ∧ first ≠ [] := by
  obtain ⟨first, rest, pieces⟩ := List.exists_cons_of_ne_nil (split_ne_nil p.text.toList)
  refine ⟨first, rest, pieces, ?_⟩
  rintro rfl
  obtain empty | absolute := eq_nil_or_isAbsolute pieces
  · rw [filled] at empty
    cases empty
  · rw [relative] at absolute
    cases absolute

theorem counted_relative (pieces : split p.text.toList = first :: rest) (some : first ≠ []) :
    p.counted = first :: (rest.filter (· ≠ ['.'])).filter (· ≠ []) := by
  simp [counted, pieces, some]

theorem hazard?_eq_none_iff : p.hazard? = none ↔ p.isSafe = true := by
  rw [hazard?]
  split
  · rename_i safe
    simp [safe]
  · rename_i refused
    split <;> simp [refused]

/-- A path is safe if it is neither empty nor absolute, and no stretch that counts leads up or
begins it with a dot. -/
theorem isSafe_iff_counted : p.isSafe = true ↔ p.text ≠ "" ∧ p.text.toList.head? ≠ some '/' ∧
    ['.', '.'] ∉ p.counted ∧ p.counted.head? ≠ some ['.'] := by
  have filled : p.isEmpty = false ↔ p.text ≠ "" := by simp [isEmpty]
  have relative : p.isAbsolute = false ↔ p.text.toList.head? ≠ some '/' := by simp [isAbsolute]
  rw [isSafe_iff, ← filled, ← relative]
  refine and_congr_right fun filled => and_congr_right fun relative => ?_
  obtain ⟨first, rest, pieces, some⟩ := split_relative filled relative
  rw [counted_relative pieces some]
  by_cases dot : first = ['.']
  · subst dot
    simp [parts, pieces]
  · have whole : p.parts = (first :: rest).filterMap part? := by
      rw [parts, pieces]
      split <;> simp_all
    rw [whole, forall_name_iff]
    simp [dot]

theorem counted_entryName (safe : p.isSafe = true) :
    ∀ piece ∈ p.counted, EntryName (String.ofList piece) := by
  obtain ⟨-, -, parent, current⟩ := isSafe_iff_counted.1 safe
  obtain ⟨filled, relative, -⟩ := isSafe_iff.1 safe
  obtain ⟨first, rest, pieces, some⟩ := split_relative filled relative
  rw [counted_relative pieces some] at parent current ⊢
  intro piece listed
  have stretch : piece ∈ split p.text.toList := by
    rw [pieces]
    grind
  have free := not_mem_of_split stretch
  have empty : piece ≠ [] := by grind
  have dots : piece ≠ ['.', '.'] := fun same => parent (same ▸ listed)
  have dot : piece ≠ ['.'] := by grind
  have text (other : String) : String.ofList piece = other ↔ piece = other.toList := by
    rw [← String.toList_inj, String.toList_ofList]
  refine ⟨⟨?_, ?_⟩, ?_, ?_⟩
  · simpa [text] using empty
  · simpa using free
  · simpa [text] using dot
  · simpa [text] using dots

/-- The names of a safe path. -/
theorem parts_counted (safe : p.isSafe = true) :
    p.parts = (p.counted.map String.ofList).map .name := by
  obtain ⟨-, -, parent, current⟩ := isSafe_iff_counted.1 safe
  obtain ⟨filled, relative, -⟩ := isSafe_iff.1 safe
  obtain ⟨first, rest, pieces, some⟩ := split_relative filled relative
  have named := counted_entryName safe
  rw [counted_relative pieces some] at named
  rw [(parts_safe safe).1, pieces, counted_relative pieces some]
  -- What does not count names no part, and what counts names itself.
  have kept (l : List (List Char)) : l.filterMap part? =
      ((l.filter (· ≠ ['.'])).filter (· ≠ [])).filterMap part? := by
    induction l with
    | nil => rfl
    | cons piece l ih =>
      by_cases empty : piece = []
      · simp [empty, ih, part?.eq_1]
      · by_cases dot : piece = ['.']
        · simp [dot, ih, part?.eq_2]
        · cases found : part? piece <;> simp [empty, dot, ih, found]
  have all (l : List (List Char)) (named : ∀ piece ∈ l, EntryName (String.ofList piece)) :
      l.filterMap part? = (l.map String.ofList).map .name := by
    induction l with
    | nil => rfl
    | cons piece l ih =>
      obtain ⟨here, later⟩ := List.forall_mem_cons.1 named
      have name := part?_name here
      rw [String.toList_ofList] at name
      simp [name, ih later]
  calc (first :: rest).filterMap part?
      = (first :: (rest.filter (· ≠ ['.'])).filter (· ≠ [])).filterMap part? := by
        rw [List.filterMap_cons, List.filterMap_cons, kept rest]
    _ = _ := all _ named

theorem counted_ne_nil (safe : p.isSafe = true) : p.counted ≠ [] := by
  obtain ⟨filled, relative, -⟩ := isSafe_iff.1 safe
  obtain ⟨first, rest, pieces, some⟩ := split_relative filled relative
  rw [counted_relative pieces some]
  exact List.cons_ne_nil _ _

theorem stepsOf_counted (safe : p.isSafe = true) :
    stepsOf p = (p.counted.map String.ofList).map .down :=
  stepsOf_names (.inl (parts_counted safe))

theorem key_counted (safe : p.isSafe = true) :
    p.key = "/".intercalate (p.counted.map String.ofList) := by
  rw [key, parts_counted safe, List.filterMap_map]
  exact congrArg _ List.filterMap_some

/-- The key of a safe path tells its names. -/
theorem counted_of_key (safe : p.isSafe = true) (safe' : q.isSafe = true) (same : p.key = q.key) :
    p.counted.map String.ofList = q.counted.map String.ofList := by
  have names (p : Path) (safe : p.isSafe = true) :
      (split p.key.toList).filterMap part? = (p.counted.map String.ofList).map .name := by
    rw [key_counted safe]
    apply filterMap_split_intercalate
    simpa using counted_entryName safe
  have mapped := names p safe
  rw [same, names q safe'] at mapped
  exact ((List.map_inj_right fun _ _ => Part.name.inj).1 mapped).symm

end

end Tandem.Host.Path
