import Tandem.Proofs.Host.Names

/-!
The absolute path of a place, beside the path that the place was asked for by.

* `isUnder_pathOf_iff`, `same_join_iff`: what comparing parts says about places.
* `text_pathOf_sublist`: the path of what lies straight below a place drops separators and dots of
  the path that it was asked for by, so that it can be asked for too.
-/

namespace Tandem.Machine

open Tandem.Host

section
variable {α : Type} {sep : List α} {pieces pieces' : List (List α)} {p q file : Path}
  {here there names : List String}

/-- Fewer pieces make a text with fewer characters. -/
theorem intercalate_sublist (h : pieces.Sublist pieces') :
    (sep.intercalate pieces).Sublist (sep.intercalate pieces') := by
  induction h with
  | slnil => exact List.Sublist.refl _
  | @cons front back piece sub ih =>
    cases back with
    | nil =>
      obtain rfl := List.sublist_nil.1 sub
      exact List.nil_sublist _
    | cons next back =>
      rw [List.intercalate_cons_cons]
      exact ih.trans (List.sublist_append_right _ _)
  | @cons_cons front back piece sub ih =>
    cases back with
    | nil =>
      obtain rfl := List.sublist_nil.1 sub
      exact List.Sublist.refl _
    | cons next back =>
      rw [List.intercalate_cons_cons]
      cases front with
      | nil => simp
      | cons first front =>
        rw [List.intercalate_cons_cons]
        exact (List.Sublist.refl _).append ih

theorem intercalate_split (text : List Char) : ['/'].intercalate (Path.split text) = text := by
  induction text with
  | nil => rfl
  | cons c text ih =>
    obtain ⟨piece, more, found⟩ := List.exists_cons_of_ne_nil (Path.split_ne_nil text)
    rw [found] at ih
    by_cases separator : c = '/'
    · subst separator
      rw [Path.split.eq_2, found, List.intercalate_cons_cons, ih]
      rfl
    · rw [Path.split.eq_3 _ _ separator, found]
      cases more with
      | nil => simpa using ih
      | cons next more =>
        rw [List.intercalate_cons_cons] at ih ⊢
        simp [← ih]

theorem counted_sublist (safe : p.isSafe = true) :
    p.counted.Sublist (Path.split p.text.toList) := by
  obtain ⟨filled, relative, -⟩ := Path.isSafe_iff.1 safe
  obtain ⟨first, rest, pieces, some⟩ := Path.split_relative filled relative
  rw [Path.counted_relative pieces some, pieces]
  exact (List.filter_sublist.trans List.filter_sublist).cons_cons first

/-- The key of a safe path is its text without the separators and dots that name nothing. -/
theorem key_sublist (safe : p.isSafe = true) : p.key.toList.Sublist p.text.toList := by
  have texts : (p.counted.map String.ofList).map String.toList = p.counted := by simp
  rw [Path.key_counted safe, String.toList_intercalate, texts]
  have fewer : (['/'].intercalate p.counted).Sublist
      (['/'].intercalate (Path.split p.text.toList)) := intercalate_sublist (counted_sublist safe)
  rwa [intercalate_split] at fewer

theorem utf8ByteSize_sublist {text text' : List Char} (h : text.Sublist text') :
    (String.ofList text).utf8ByteSize ≤ (String.ofList text').utf8ByteSize := by
  induction h with
  | slnil => exact Nat.le_refl _
  | cons c _ ih =>
    rw [String.ofList_cons, String.utf8ByteSize_append]
    omega
  | cons_cons c _ ih =>
    rw [String.ofList_cons, String.ofList_cons, String.utf8ByteSize_append,
      String.utf8ByteSize_append]
    omega

/-- A path that drops characters of one that can be asked for can be asked for. -/
theorem Sayable.of_sublist (h : Sayable q) (fewer : p.text.toList.Sublist q.text.toList)
    (filled : p.isEmpty = false) : Sayable p := by
  refine ⟨fun nul => h.noNul (fewer.subset nul), filled, ?_⟩
  have short := utf8ByteSize_sublist fewer
  rw [String.ofList_toList, String.ofList_toList] at short
  exact Nat.lt_of_le_of_lt short h.short

/-! ## Places below a place -/

theorem intercalate_append (some : pieces ≠ []) (some' : pieces' ≠ []) :
    sep.intercalate (pieces ++ pieces') =
      sep.intercalate pieces ++ (sep ++ sep.intercalate pieces') := by
  induction pieces with
  | nil => exact absurd rfl some
  | cons piece pieces ih =>
    cases pieces with
    | nil =>
      obtain ⟨next, more, rfl⟩ := List.exists_cons_of_ne_nil some'
      rw [List.singleton_append, List.intercalate_cons_cons]
      simp
    | cons next pieces =>
      rw [List.cons_append, List.cons_append, List.intercalate_cons_cons,
        List.intercalate_cons_cons, ← List.cons_append, ih (List.cons_ne_nil next pieces)]
      simp

theorem text_pathOf (names : List String) :
    (pathOf names).text.toList = '/' :: ['/'].intercalate (names.map String.toList) := by
  simp [pathOf, String.toList_intercalate]

theorem text_pathOf_snoc (front : List String) (name : String) :
    ∃ before, (pathOf (front ++ [name])).text.toList = before ++ '/' :: name.toList := by
  rw [text_pathOf, List.map_append]
  by_cases top : front = []
  · exact ⟨[], by simp [top]⟩
  · rw [intercalate_append (by simpa using top) (by simp)]
    exact ⟨'/' :: ['/'].intercalate (front.map String.toList), by simp⟩

section
variable (named : ∀ name ∈ here, EntryName name) (some : here ≠ [])
include named some

/-- The path of a place ends in the name of the place, but for the root. -/
theorem exists_text_pathOf :
    ∃ before name, EntryName name ∧ (pathOf here).text.toList = before ++ '/' :: name.toList := by
  obtain ⟨front, name, rfl⟩ : ∃ front name, here = front ++ [name] :=
    ⟨_, _, (List.dropLast_concat_getLast some).symm⟩
  obtain ⟨before, text⟩ := text_pathOf_snoc front name
  exact ⟨before, name, named name (by simp), text⟩

theorem getLast?_pathOf : (pathOf here).text.toList.getLast? ≠ .some '/' := by
  obtain ⟨before, name, entry, text⟩ := exists_text_pathOf named some
  have filled : name.toList ≠ [] := mt String.toList_eq_nil_iff.1 entry.proper.1
  rw [text, List.append_cons, List.getLast?_append, List.getLast?_eq_some_getLast filled]
  intro separator
  have same : name.toList.getLast filled = '/' := Option.some.inj separator
  exact entry.proper.2 (same ▸ List.getLast_mem filled)

theorem endsAsDirectory_pathOf : endsAsDirectory (pathOf here) = false := by
  obtain ⟨before, name, entry, text⟩ := exists_text_pathOf named some
  have last : (Path.split (pathOf here).text.toList).getLast? =
      (Path.split name.toList).getLast? := by
    rw [text, Path.split_append, List.getLast?_append,
      List.getLast?_eq_some_getLast (Path.split_ne_nil _)]
    rfl
  rw [endsAsDirectory, last]
  exact endsAsDirectory_name entry

end

/-- What lies straight below a place has a path that drops separators and dots of the one that it is
asked for by. -/
theorem text_pathOf_sublist (named : ∀ name ∈ here, EntryName name) (safe : file.isSafe = true) :
    (pathOf (here ++ file.counted.map String.ofList)).text.toList.Sublist
      ((pathOf here).join file).text.toList := by
  obtain ⟨-, relative, -⟩ := Path.isSafe_iff.1 safe
  have fewer := key_sublist safe
  rw [Path.key_counted safe, String.toList_intercalate] at fewer
  have filled : (pathOf here).isEmpty = false := by simp [pathOf, Path.isEmpty]
  rw [Path.join, relative, filled]
  by_cases top : here = []
  · subst top
    have ends : ((pathOf []).text.toList.getLast? == .some '/') = true := by decide
    have text : (pathOf []).text.toList = ['/'] := by decide
    simpa [ends, text, text_pathOf] using fewer
  · have more : ((pathOf here).text.toList.getLast? == .some '/') = false := by
      simpa using getLast?_pathOf named top
    have below : (file.counted.map String.ofList).map String.toList ≠ [] := by
      simpa using Path.counted_ne_nil safe
    rw [more, text_pathOf, List.map_append, intercalate_append (by simpa using top) below]
    simpa [text_pathOf] using fewer

theorem sayable_pathOf (named : ∀ name ∈ here, EntryName name) (safe : file.isSafe = true)
    (h : Sayable ((pathOf here).join file)) :
    Sayable (pathOf (here ++ file.counted.map String.ofList)) := by
  apply h.of_sublist (text_pathOf_sublist named safe)
  simp [pathOf, Path.isEmpty]

theorem isUnder_pathOf_iff (named : ∀ name ∈ here, EntryName name)
    (named' : ∀ name ∈ there, EntryName name) :
    (pathOf there).isUnder (pathOf here) = true ↔ here <+: there := by
  rw [Path.isUnder, parts_pathOf named, parts_pathOf named', List.isPrefixOf_iff_prefix,
    List.cons_prefix_cons, List.prefix_map_iff]
  simp only [true_and]
  constructor
  · rintro ⟨front, begins, same⟩
    obtain rfl := (List.map_inj_right fun _ _ => Part.name.inj).1 same
    exact begins
  · intro begins
    exact ⟨here, begins, rfl⟩

theorem same_join_iff (named : ∀ name ∈ here, EntryName name)
    (named' : ∀ name ∈ there, EntryName name) (safe : file.isSafe = true) :
    (pathOf there).same ((pathOf here).join file) = true ↔
      there = here ++ file.counted.map String.ofList := by
  rw [Path.same, beq_iff_eq, parts_pathOf named', parts_join_safe named safe,
    Path.parts_counted safe, List.cons_append, ← List.map_append, List.cons.injEq]
  simp only [true_and]
  exact List.map_inj_right fun _ _ => Part.name.inj

end

end Tandem.Machine
