import Tandem.Proofs.Machine.Walk

/-!
What paths name.

* `Sayable`, `Spells`: a path can be asked for, and is so many names.
* `Reaches`: a path names a directory; what is below it is found from there.
* `lookup_names_iff`: what a path finds that goes down by names, where no link is on the way.
-/

namespace Tandem.Machine

open Tandem.Host Tandem.Machine.Node

/-- A part as a step. -/
def step? : Part → Option Step
  | .parent => some .up
  | .name text => some (.down text)
  | _ => none

theorem stepOf?_eq (piece : List Char) : stepOf? piece = (Path.part? piece).bind step? := by
  rw [stepOf?.eq_def]
  split
  · rfl
  · rfl
  · rfl
  · rename_i filled notCurrent notParent
    rw [Path.part?.eq_4 piece filled notCurrent notParent]
    rfl

/-- The steps of a path are those of its parts. -/
theorem stepsOf_eq (p : Path) : stepsOf p = p.parts.filterMap step? := by
  have all (pieces : List (List Char)) :
      pieces.filterMap stepOf? = (pieces.filterMap Path.part?).filterMap step? := by
    rw [List.filterMap_filterMap]
    exact congrArg (List.filterMap · pieces) (funext stepOf?_eq)
  rw [stepsOf, all, Path.parts.eq_def]
  split
  · rename_i none
    exact absurd none (Path.split_ne_nil _)
  · rename_i rest first
    split
    · rename_i empty
      rw [Path.isEmpty, String.isEmpty_iff] at empty
      simp [empty, Path.split, Path.part?.eq_1]
    · rw [first, List.filterMap_cons_none Path.part?.eq_1, List.filterMap_cons_none rfl]
  · rename_i rest first
    rw [first, List.filterMap_cons_none Path.part?.eq_2, List.filterMap_cons_none rfl]
  · rfl

/-- Where a path starts, seen from a directory. -/
def startOf (cwd : List String) (p : Path) : List String := if p.isAbsolute then [] else cwd

/-- A path that can be asked for. -/
structure Sayable (p : Path) : Prop where
  noNul : '\x00' ∉ p.text.toList
  filled : p.isEmpty = false
  short : p.text.utf8ByteSize < pathLimit

instance (p : Path) : Decidable (Sayable p) :=
  decidable_of_iff ('\x00' ∉ p.text.toList ∧ p.isEmpty = false ∧ p.text.utf8ByteSize < pathLimit)
    ⟨fun ⟨noNul, filled, short⟩ => ⟨noNul, filled, short⟩,
      fun ⟨noNul, filled, short⟩ => ⟨noNul, filled, short⟩⟩

/-- A path names a directory, and leaves so many links to be followed below it. -/
structure Reaches (root : Node) (cwd : List String) (p : Path) (left : Nat) (there : List String) :
    Prop where
  leads : Leads root linkLimit (startOf cwd p) (stepsOf p) left there
  stands : ∃ node, root.get? there = some node ∧ node.isDirectory = true

section
variable {root root' node inner : Node} {follow : Bool} {left : Nat} {cwd here there : List String}
  {names : List String} {name : String} {place : Place} {p : Path}

theorem startOf_absolute (h : p.isAbsolute = true) (cwd : List String) : startOf cwd p = [] :=
  if_pos h

theorem startOf_relative (h : p.isAbsolute = false) (cwd : List String) : startOf cwd p = cwd := by
  rw [startOf, h]
  rfl

theorem startOf_join {rel : Path} (h : rel.isAbsolute = false) (cwd : List String) :
    startOf cwd (p.join rel) = startOf cwd p := by
  rw [startOf, Path.isAbsolute_join h, startOf]

theorem stepsOf_join {rel : Path} (h : rel.isAbsolute = false) :
    stepsOf (p.join rel) = stepsOf p ++ stepsOf rel :=
  Path.filterMap_split_join rfl h

theorem endsAsDirectory_join {rel : Path} (h : rel.isAbsolute = false) :
    endsAsDirectory (p.join rel) = endsAsDirectory rel := by
  rw [endsAsDirectory, Path.getLast?_split_join h, endsAsDirectory]

theorem stepsOf_name (named : EntryName name) : stepsOf ⟨name⟩ = [.down name] := by
  rw [stepsOf, Path.split_plain named.proper.2, List.filterMap_cons, stepOf?_eq,
    Path.part?_name named]
  rfl

theorem endsAsDirectory_name (named : EntryName name) : endsAsDirectory ⟨name⟩ = false := by
  rw [endsAsDirectory, Path.split_plain named.proper.2]
  have filled : name.toList ≠ [] := mt String.toList_eq_nil_iff.1 named.proper.1
  have notCurrent : name.toList ≠ ['.'] := fun same => named.notCurrent (String.toList_inj.1 same)
  simp only [List.getLast?_singleton]
  split <;> simp_all

theorem locate_ok_iff :
    locate root cwd follow p = .ok place ↔ Sayable p ∧
      walk root follow linkLimit (endsAsDirectory p) (startOf cwd p) (stepsOf p) = .ok place := by
  rw [locate]
  constructor
  · intro h
    split at h
    · cases h
    · split at h
      · cases h
      · split at h
        · cases h
        · rename_i noNul filled short
          exact ⟨⟨by simpa using noNul, by simpa using filled, Nat.not_le.1 short⟩, h⟩
  · rintro ⟨sayable, h⟩
    rw [sayable.filled]
    simp only [String.contains_char_eq, sayable.noNul, decide_false, Bool.false_eq_true, if_false,
      Nat.not_le.2 sayable.short]
    exact h

theorem lookup_ok_iff :
    lookup root cwd p = .ok (there, node) ↔ locate root cwd true p = .ok ⟨there, some node⟩ := by
  rw [lookup]
  constructor
  · intro h
    split at h
    · cases h
    · rename_i located
      cases h
      exact located
    · cases h
  · intro h
    rw [h]

theorem get?_of_lookup (h : lookup root cwd p = .ok (there, node)) : root.get? there = some node :=
  (walk_stands (locate_ok_iff.1 (lookup_ok_iff.1 h)).2).1

/-- What a path from the root leads to is no link. -/
theorem plain_of_lookup (h : lookup root cwd p = .ok (there, node)) (absolute : p.isAbsolute = true)
    (isDir : root.isDirectory = true) : node.kind ≠ .link := by
  have walked := (locate_ok_iff.1 (lookup_ok_iff.1 h)).2
  rw [startOf_absolute absolute] at walked
  exact (walk_stands walked).2 rfl ⟨root, rfl, isDir⟩

theorem sayable_of_lookup (h : lookup root cwd p = .ok (there, node)) : Sayable p :=
  (locate_ok_iff.1 (lookup_ok_iff.1 h)).1

theorem reaches_of_lookup (h : lookup root cwd p = .ok (there, node))
    (isDir : node.isDirectory = true) : ∃ left, Reaches root cwd p left there := by
  have walked := (locate_ok_iff.1 (lookup_ok_iff.1 h)).2
  rw [← List.append_nil (stepsOf p)] at walked
  obtain ⟨left, place, flag, leads, -, last⟩ :=
    leads_of_walk walked (.inr ⟨rfl, node, rfl, isDir⟩)
  obtain ⟨node', found, -, same⟩ := walk_nil_ok_iff.1 last
  cases same
  exact ⟨left, leads, node, found, isDir⟩

namespace Reaches

theorem mono (h : Reaches root cwd p left there) (grows : Grows root root') :
    Reaches root' cwd p left there := by
  obtain ⟨node, found, isDir⟩ := h.stands
  refine ⟨h.leads.mono grows, ?_⟩
  obtain ⟨node', found', rfl | ⟨-, isDir'⟩⟩ := grows there node found
  · exact ⟨node', found', isDir⟩
  · exact ⟨node', found', isDir'⟩

theorem lookup_ok_iff (h : Reaches root cwd p left there) :
    lookup root cwd p = .ok (names, node) ↔
      Sayable p ∧ names = there ∧ root.get? there = some node := by
  obtain ⟨inner, found, isDir⟩ := h.stands
  have walked (place : Place) : walk root true linkLimit (endsAsDirectory p) (startOf cwd p)
      (stepsOf p) = .ok place ↔ place = ⟨there, some inner⟩ := by
    obtain ⟨flag, -, goes⟩ := walk_leads h.leads (endsAsDirectory p) (.inr (.inl rfl))
    rw [← List.append_nil (stepsOf p), goes, walk_nil_ok_iff]
    simp [found, isDir]
  rw [Machine.lookup_ok_iff, locate_ok_iff, walked]
  simp [found, eq_comm]

/-- What a path names below a directory that another one names. -/
theorem locate_join (h : Reaches root cwd p left there) (named : EntryName name) :
    locate root cwd follow (p / name) = .ok place ↔
      Sayable (p / name) ∧ walk root follow left false there [.down name] = .ok place := by
  have relative : (Host.Path.mk name).isAbsolute = false := Path.relative_of_plain named.proper.2
  have walked : walk root follow linkLimit false (startOf cwd p) (stepsOf p ++ [.down name]) =
      .ok place ↔ walk root follow left false there [.down name] = .ok place := by
    obtain ⟨flag, same, goes⟩ :=
      walk_leads h.leads false (.inl (List.cons_ne_nil (Step.down name) []))
    rw [goes, same (List.cons_ne_nil _ _)]
  change locate root cwd follow (p.join ⟨name⟩) = .ok place ↔ Sayable (p.join ⟨name⟩) ∧ _
  rw [locate_ok_iff, startOf_join relative, stepsOf_join relative, endsAsDirectory_join relative,
    stepsOf_name named, endsAsDirectory_name named, walked]

/-- A directory in a directory is named by one name more. -/
theorem join (h : Reaches root cwd p left there) (named : EntryName name)
    (found : root.get? (there ++ [name]) = some inner) (isDir : inner.isDirectory = true)
    (short : name.utf8ByteSize ≤ nameLimit) :
    Reaches root cwd (p / name) left (there ++ [name]) := by
  have relative : (Host.Path.mk name).isAbsolute = false := Path.relative_of_plain named.proper.2
  refine ⟨?_, inner, found, isDir⟩
  change Leads root linkLimit (startOf cwd (p.join ⟨name⟩)) (stepsOf (p.join ⟨name⟩)) left _
  rw [startOf_join relative, stepsOf_join relative, stepsOf_name named]
  exact h.leads.trans (.down found isDir short .done)

end Reaches

theorem Sayable.of_join {rel : Path} (h : Sayable (p.join rel)) (relative : rel.isAbsolute = false)
    (filled : rel.isEmpty = false) : Sayable rel := by
  obtain ⟨front, text⟩ := p.join_text
  obtain ⟨noNul, -, short⟩ := h
  rw [text rel relative] at noNul short
  rw [String.utf8ByteSize_append] at short
  rw [String.toList_append, List.mem_append, not_or] at noNul
  exact ⟨noNul.2, filled, by omega⟩

/-- A path can be asked for with a dot where a name is, and means the directory then. -/
theorem Sayable.dot (h : Sayable (p / name)) (named : EntryName name) : Sayable (p / ".") := by
  obtain ⟨front, text⟩ := p.join_text
  have first : (p / name).text = front ++ name :=
    text ⟨name⟩ (Path.relative_of_plain named.proper.2)
  have second : (p / ".").text = front ++ "." := text ⟨"."⟩ rfl
  obtain ⟨noNul, -, short⟩ := h
  rw [first] at noNul short
  have some : 0 < name.utf8ByteSize :=
    Nat.pos_of_ne_zero (mt String.utf8ByteSize_eq_zero_iff.1 named.proper.1)
  refine ⟨?_, ?_, ?_⟩
  · rw [second]
    simp_all
  · rw [Path.isEmpty, second]
    simp
  · rw [second]
    rw [String.utf8ByteSize_append] at short ⊢
    have dot : ".".utf8ByteSize = 1 := rfl
    omega

/-- A dot in a directory is that directory. -/
theorem reaches_dot_iff :
    Reaches root cwd (p / ".") left there ↔ Reaches root cwd p left there := by
  have relative : (Host.Path.mk ".").isAbsolute = false := rfl
  have start : startOf cwd (p / ".") = startOf cwd p := startOf_join relative cwd
  have steps : stepsOf (p / ".") = stepsOf p := by
    have joined : stepsOf (p / ".") = stepsOf p ++ stepsOf ⟨"."⟩ := stepsOf_join relative
    rw [joined]
    simp [stepsOf, Path.split, stepOf?.eq_2]
  constructor
  · rintro ⟨leads, stands⟩
    exact ⟨start ▸ steps ▸ leads, stands⟩
  · rintro ⟨leads, stands⟩
    exact ⟨start.symm ▸ steps.symm ▸ leads, stands⟩

theorem Reaches.lookup_dot (h : Reaches root cwd p left there) (sayable : Sayable (p / ".")) :
    ∃ around, lookup root cwd (p / ".") = .ok (there, around) := by
  obtain ⟨around, stands, -⟩ := h.stands
  exact ⟨around, (reaches_dot_iff.2 h).lookup_ok_iff.2 ⟨sayable, rfl, stands⟩⟩

/-- What is found under a name is found in a directory. -/
theorem reaches_of_locate_join (h : locate root cwd follow (p / name) = .ok place)
    (named : EntryName name) : ∃ left there, Reaches root cwd p left there ∧
      Sayable (p / name) ∧ walk root follow left false there [.down name] = .ok place := by
  have relative : (Host.Path.mk name).isAbsolute = false := Path.relative_of_plain named.proper.2
  change locate root cwd follow (p.join ⟨name⟩) = .ok place at h
  rw [locate_ok_iff, startOf_join relative, stepsOf_join relative, endsAsDirectory_join relative,
    stepsOf_name named, endsAsDirectory_name named] at h
  obtain ⟨left, there, flag, leads, same, last⟩ :=
    leads_of_walk h.2 (.inl (List.cons_ne_nil (Step.down name) []))
  rw [same (List.cons_ne_nil _ _)] at last
  refine ⟨left, there, ⟨leads, ?_⟩, h.1, last⟩
  obtain ⟨-, descent⟩ := walk_down_ok_iff.1 last
  cases descent with
  | vacant around => exact around
  | linkItself found => exact isDirectory_of_get? found (List.cons_ne_nil name [])
  | through found => exact isDirectory_of_get? found (List.cons_ne_nil name [])
  | onward found => exact isDirectory_of_get? found (List.cons_ne_nil name [])

/-! ## Absolute paths of places -/

theorem isAbsolute_pathOf (names : List String) : (pathOf names).isAbsolute = true :=
  Path.isAbsolute_iff.2 ⟨("/".intercalate names).toList, by simp [pathOf]⟩

theorem filterMap_split_intercalate (named : ∀ name ∈ names, EntryName name) :
    (Path.split ("/".intercalate names).toList).filterMap Path.part? = names.map .name := by
  induction names with
  | nil => simp [Path.split, Path.part?.eq_1]
  | cons name names ih =>
    obtain ⟨first, others⟩ := List.forall_mem_cons.1 named
    have alone : (Path.split name.toList).filterMap Path.part? = [.name name] := by
      rw [Path.split_plain first.proper.2, List.filterMap_cons, Path.part?_name first]
      rfl
    cases names with
    | nil => simpa using alone
    | cons next names =>
      have text : ("/".intercalate (name :: next :: names)).toList =
          name.toList ++ '/' :: ("/".intercalate (next :: names)).toList := by
        simp [String.intercalate_cons_cons]
      rw [text, Path.split_append, List.filterMap_append, alone, ih others]
      rfl

theorem parts_pathOf (named : ∀ name ∈ names, EntryName name) :
    (pathOf names).parts = .root :: names.map .name := by
  have text : (pathOf names).text.toList = [] ++ '/' :: ("/".intercalate names).toList := by
    simp [pathOf]
  rw [Path.parts_absolute (isAbsolute_pathOf names), text, Path.split_append,
    List.filterMap_append, filterMap_split_intercalate named]
  simp [Path.split, Path.part?.eq_1]

theorem parts_join_safe {file : Path} (named : ∀ name ∈ names, EntryName name)
    (safe : file.isSafe = true) :
    ((pathOf names).join file).parts = .root :: names.map .name ++ file.parts := by
  have relative : file.isAbsolute = false := (Path.isSafe_iff.1 safe).2.1
  have absolute : ((pathOf names).join file).isAbsolute = true := by
    rw [Path.isAbsolute_join relative, isAbsolute_pathOf]
  have tree := parts_pathOf named
  rw [Path.parts_absolute (isAbsolute_pathOf names)] at tree
  rw [Path.parts_absolute absolute, Path.filterMap_split_join Path.part?.eq_1 relative,
    (Path.parts_safe safe).1, List.cons_append, ← (List.cons.inj tree).2]

/-- The steps of a path whose parts are names, at most after the root. -/
theorem stepsOf_names {p : Path}
    (h : p.parts = names.map .name ∨ p.parts = .root :: names.map .name) :
    stepsOf p = names.map .down := by
  have all : (names.map Part.name).filterMap step? = names.map .down := by
    rw [List.filterMap_map, ← List.filterMap_eq_map]
    rfl
  rw [stepsOf_eq]
  obtain same | same := h
  · rw [same, all]
  · rw [same, List.filterMap_cons_none rfl, all]

/-- What a path names that goes down by names alone, where no link is on the way. -/
theorem lookup_names_iff (steps : stepsOf p = names.map .down)
    (found : root.get? (startOf cwd p ++ names) = some node) (plain : node.kind ≠ .link) :
    lookup root cwd p = .ok (there, inner) ↔ Sayable p ∧
      (∀ name ∈ names, name.utf8ByteSize ≤ nameLimit) ∧
        (endsAsDirectory p = true → node.isDirectory = true) ∧
          there = startOf cwd p ++ names ∧ inner = node := by
  rw [lookup_ok_iff, locate_ok_iff, steps, walk_names_iff found plain]
  simp

/-- A path that is these names below where it starts, as it can be asked for. -/
structure Spells (p : Path) (names : List String) : Prop where
  sayable : Sayable p
  steps : stepsOf p = names.map .down
  short : ∀ name ∈ names, name.utf8ByteSize ≤ nameLimit
  plain : endsAsDirectory p = false

instance (p : Path) (names : List String) : Decidable (Spells p names) :=
  decidable_of_iff (Sayable p ∧ stepsOf p = names.map .down ∧
    (∀ name ∈ names, name.utf8ByteSize ≤ nameLimit) ∧ endsAsDirectory p = false)
    ⟨fun ⟨sayable, steps, short, plain⟩ => ⟨sayable, steps, short, plain⟩,
      fun ⟨sayable, steps, short, plain⟩ => ⟨sayable, steps, short, plain⟩⟩

namespace Spells

/-- What is called so is found, if no link is on the way. -/
theorem lookup_ok (h : Spells p names) (start : startOf cwd p = here)
    (found : root.get? (here ++ names) = some node) (plain : node.kind ≠ .link) :
    lookup root cwd p = .ok (here ++ names, node) := by
  subst start
  exact (lookup_names_iff h.steps found plain).2
    ⟨h.sayable, h.short, by simp [h.plain], rfl, rfl⟩

/-- A directory that is called so is reached without a link. -/
theorem reaches (h : Spells p names) (start : startOf cwd p = here)
    (found : root.get? (here ++ names) = some node) (isDir : node.isDirectory = true) :
    Reaches root cwd p linkLimit (here ++ names) := by
  subst start
  refine ⟨?_, node, found, isDir⟩
  rw [h.steps]
  exact leads_names found isDir h.short

/-- Nothing is found in a directory that has no such entry. -/
theorem locate_free (h : Spells p (names ++ [name])) (start : startOf cwd p = here)
    (around : root.get? (here ++ names) = some node) (isDir : node.isDirectory = true)
    (free : root.get? (here ++ names ++ [name]) = none) :
    locate root cwd follow p = .ok ⟨here ++ names ++ [name], none⟩ := by
  subst start
  obtain ⟨front, last⟩ := List.forall_mem_append.1 h.short
  have leads : Leads root linkLimit (startOf cwd p) (names.map .down) linkLimit
      (startOf cwd p ++ names) := leads_names around isDir front
  obtain ⟨flag, -, goes⟩ := walk_leads leads false (.inl (List.cons_ne_nil (Step.down name) []))
  refine locate_ok_iff.2 ⟨h.sayable, ?_⟩
  rw [h.plain, h.steps, List.map_append]
  exact (goes _).2 (walk_down_ok_iff.2
    ⟨last name (List.mem_singleton_self name), .vacant ⟨node, around, isDir⟩ free rfl rfl⟩)

/-- Seen from the root, names are the whole place. -/
theorem lookup_root (h : Spells p names) (found : root.get? names = some node)
    (plain : node.kind ≠ .link) : lookup root [] p = .ok (names, node) :=
  h.lookup_ok (ite_self _) found plain

theorem locate_root (h : Spells p names) (further : names ≠ [])
    (around : root.get? names.dropLast = some node) (isDir : node.isDirectory = true)
    (free : root.get? names = none) : locate root [] follow p = .ok ⟨names, none⟩ := by
  rw [← List.dropLast_concat_getLast further] at h free ⊢
  exact h.locate_free (ite_self _) around isDir free

theorem locate_found (h : Spells p names) (found : root.get? names = some node)
    (plain : node.kind ≠ .link) : locate root [] follow p = .ok ⟨names, some node⟩ := by
  have start : startOf [] p = [] := ite_self _
  rw [← List.nil_append names, ← start] at found
  refine locate_ok_iff.2 ⟨h.sayable, ?_⟩
  rw [h.plain, h.steps, walk_names_iff found plain]
  exact ⟨h.short, nofun, by rw [start, List.nil_append]⟩

end Spells

end

end Tandem.Machine
