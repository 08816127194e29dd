import Tandem.Proofs.Machine.Erase
import Tandem.Proofs.Machine.Lookup

/-!
The places that paths mean.

* `Opens`: a tree keeps its directories and links, so that paths lead where they led.
* `Means`: a path leads to a place, whether something is there or not.
* `Means.locate_eq`: in two trees with the same at that place, it is answered in the same way.
-/

namespace Tandem.Machine

open Tandem.Host Tandem.Machine.Node

/-- Whatever may be on the way to a place of the first tree is in the second one too. -/
def Opens (root root' : Node) : Prop :=
  ∀ names inner, root.get? names = some inner → inner.kind = .directory ∨ inner.kind = .link →
    ∃ inner', root'.get? names = some inner' ∧
      (inner' = inner ∨ inner.isDirectory = true ∧ inner'.isDirectory = true)

/-- A path leads to a place: to a directory, or to one entry of a directory, which is no link where
links are followed. -/
inductive Means (root : Node) (cwd : List String) : Bool → Path → List String → Prop where
  | directory {p : Path} {left : Nat} {there : List String}
    (reaches : Reaches root cwd p left there) : Means root cwd true p there
  | entry {follow : Bool} {p : Path} {left : Nat} {there : List String} {name : String}
    (reaches : Reaches root cwd p left there) (named : EntryName name)
    (plain : follow = true →
      ∀ node, root.get? (there ++ [name]) = some node → node.kind ≠ .link) :
    Means root cwd follow (p / name) (there ++ [name])

section
variable {root root' root'' node inner : Node} {follow flag : Bool} {links left : Nat}
  {cwd here there names place : List String} {steps rest : List Step} {name : String}
  {p : Path} {found : Place}

/-! ## Trees that keep their ways -/

theorem Node.Grows.opens (h : Grows root root') : Opens root root' :=
  fun names inner found _ => h names inner found

theorem Opens.refl (root : Node) : Opens root root :=
  fun _ inner found _ => ⟨inner, found, .inl rfl⟩

theorem Opens.trans (h : Opens root root') (h' : Opens root' root'') : Opens root root'' := by
  intro names inner found way
  obtain ⟨inner', found', rfl | ⟨isDir, isDir'⟩⟩ := h names inner found way
  · exact h' names inner' found' way
  · have way' : inner'.kind = .directory ∨ inner'.kind = .link := .inl (eq_of_beq isDir')
    obtain ⟨inner'', found'', rfl | ⟨-, isDir''⟩⟩ := h' names inner' found' way'
    · exact ⟨inner'', found'', .inr ⟨isDir, isDir'⟩⟩
    · exact ⟨inner'', found'', .inr ⟨isDir, isDir''⟩⟩

/-- A file may be written where no directory and no link is. -/
theorem opens_put (h : root.Offers place)
    (leaf : ∀ inner, root.get? place = some inner → inner.kind ≠ .directory ∧ inner.kind ≠ .link) :
    Opens root (root.put place node) := by
  intro names inner found way
  by_cases below : place <+: names
  · obtain ⟨rel, rfl⟩ := below
    obtain ⟨inner', there, more⟩ := Option.bind_eq_some_iff.1 (get?_append root place rel ▸ found)
    obtain ⟨noDirectory, noLink⟩ := leaf inner' there
    rw [get?_of_not_isDirectory (isDirectory_eq_false noDirectory)] at more
    split at more
    · obtain rfl := Option.some.inj more
      exact absurd way (by simp [noDirectory, noLink])
    · cases more
  · by_cases above : names <+: place
    · obtain ⟨rel, rfl⟩ := above
      have further : rel ≠ [] := by
        rintro rfl
        exact below (by simp)
      have put : (root.put (names ++ rel) node).get? (names ++ rel) = some node := get?_put h
      obtain ⟨inner', found', isDir'⟩ := isDirectory_of_get? put further
      exact ⟨inner', found', .inr ⟨h.isDirectory_above further found, isDir'⟩⟩
    · exact ⟨inner, (get?_put_apart ⟨below, above⟩).trans found, .inl rfl⟩

theorem Leads.opens (h : Leads root links here steps left there) (opens : Opens root root') :
    Leads root' links here steps left there := by
  induction h with
  | done => exact .done
  | up _ ih => exact .up ih
  | down found isDir short _ ih =>
    obtain ⟨inner', found', same | ⟨-, isDir'⟩⟩ := opens _ _ found (.inl (eq_of_beq isDir))
    · exact .down found' (same ▸ isDir) short ih
    · exact .down found' isDir' short ih
  | link found short _ ih =>
    obtain ⟨inner', found', rfl | ⟨isDir, -⟩⟩ := opens _ _ found (.inr rfl)
    · exact .link found' short ih
    · cases isDir

theorem Reaches.opens (h : Reaches root cwd p left there) (opens : Opens root root') :
    Reaches root' cwd p left there := by
  obtain ⟨node, found, isDir⟩ := h.stands
  refine ⟨h.leads.opens opens, ?_⟩
  obtain ⟨node', found', rfl | ⟨-, isDir'⟩⟩ := opens there node found (.inl (eq_of_beq isDir))
  · exact ⟨node', found', isDir⟩
  · exact ⟨node', found', isDir'⟩

/-! ## Walks, failures included -/

/-- A walk goes on from where its first steps lead, and fails where it fails from there. -/
theorem Leads.walk_eq (h : Leads root links here steps left there) (further : rest ≠ [])
    (flag : Bool) :
    walk root follow links flag here (steps ++ rest) = walk root follow left flag there rest := by
  induction h with
  | done => rfl
  | up _ ih => rw [List.cons_append, walk, ih]
  | @down links left here there steps name inner found isDir short _ ih =>
    obtain ⟨around, stands, child⟩ := get?_snoc_eq_some_iff.1 found
    obtain ⟨mode, entries, rfl⟩ := isDirectory_iff.1 isDir
    rw [List.cons_append, walk]
    simp [stands, isDirectory_of_child? child, Nat.not_lt.2 short, child, isDir, ih]
  | @link links left here there steps name target found short _ ih =>
    obtain ⟨around, stands, child⟩ := get?_snoc_eq_some_iff.1 found
    rw [List.cons_append, walk]
    simp only [stands, isDirectory_of_child? child, Nat.not_lt.2 short, child,
      flag_of_ne_nil further, ← ih, List.append_assoc]
    simp [further]

/-- A walk by one name. -/
theorem walk_entry (stands : root.get? here = some node) (isDir : node.isDirectory = true)
    (plain : follow = true → ∀ inner, root.get? (here ++ [name]) = some inner →
      inner.kind ≠ .link) :
    walk root follow links false here [.down name] =
      if nameLimit < name.utf8ByteSize then .error .nameTooLong
      else .ok ⟨here ++ [name], root.get? (here ++ [name])⟩ := by
  have entry : root.get? (here ++ [name]) = node.child? name := by
    rw [get?_append, stands, Option.bind_some, get?_singleton]
  rw [entry] at plain ⊢
  rw [walk]
  simp only [stands, isDir]
  cases child : node.child? name with
  | none => simp
  | some inner =>
    cases inner with
    | link target =>
      cases follow with
      | true => exact absurd rfl (plain rfl _ child)
      | false => simp
    | _ => simp [walk, entry, child]

/-- A path that cannot be asked for fails in the same way in every tree. -/
theorem locate_eq_of_not_sayable (h : ¬ Sayable p) (root root' : Node) :
    locate root cwd follow p = locate root' cwd follow p := by
  simp only [locate]
  split
  · rfl
  · split
    · rfl
    · split
      · rfl
      · rename_i noNul filled short
        exact absurd ⟨by simpa using noNul, by simpa using filled, Nat.not_le.1 short⟩ h

theorem locate_of_sayable (h : Sayable p) :
    locate root cwd follow p =
      walk root follow linkLimit (endsAsDirectory p) (startOf cwd p) (stepsOf p) := by
  rw [locate, h.filled]
  simp only [String.contains_char_eq, h.noNul, decide_false, Bool.false_eq_true, if_false,
    Nat.not_le.2 h.short]
  rfl

/-! ## What paths mean -/

theorem Reaches.locate_eq (h : Reaches root cwd p left there) (sayable : Sayable p) :
    locate root cwd true p = .ok ⟨there, root.get? there⟩ := by
  obtain ⟨node, found, -⟩ := h.stands
  rw [found]
  exact Machine.lookup_ok_iff.1 (h.lookup_ok_iff.2 ⟨sayable, rfl, found⟩)

theorem Reaches.locate_entry (h : Reaches root cwd p left there) (named : EntryName name)
    (plain : follow = true → ∀ node, root.get? (there ++ [name]) = some node → node.kind ≠ .link)
    (sayable : Sayable (p / name)) :
    locate root cwd follow (p / name) =
      if nameLimit < name.utf8ByteSize then .error .nameTooLong
      else .ok ⟨there ++ [name], root.get? (there ++ [name])⟩ := by
  obtain ⟨node, stands, isDir⟩ := h.stands
  have relative : (Host.Path.mk name).isAbsolute = false := Path.relative_of_plain named.proper.2
  rw [locate_of_sayable sayable]
  change walk root follow linkLimit (endsAsDirectory (p.join ⟨name⟩)) (startOf cwd (p.join ⟨name⟩))
    (stepsOf (p.join ⟨name⟩)) = _
  rw [startOf_join relative, stepsOf_join relative, endsAsDirectory_join relative,
    stepsOf_name named, endsAsDirectory_name named, h.leads.walk_eq (List.cons_ne_nil _ _),
    walk_entry stands isDir plain]

/-- An entry of a directory that is called by its name. -/
theorem Reaches.locate_found (h : Reaches root cwd p left there) (named : EntryName name)
    (found : root.get? (there ++ [name]) = some node) (short : name.utf8ByteSize ≤ nameLimit)
    (sayable : Sayable (p / name)) :
    locate root cwd false (p / name) = .ok ⟨there ++ [name], some node⟩ := by
  have located : locate root cwd false (p / name) = if nameLimit < _ then _ else _ :=
    h.locate_entry named nofun sayable
  rw [located, if_neg (Nat.not_lt.2 short), found]

namespace Means

theorem opens (h : Means root cwd follow p place) (opens : Opens root root')
    (same : root'.get? place = root.get? place) : Means root' cwd follow p place := by
  cases h with
  | directory reaches => exact .directory (reaches.opens opens)
  | entry reaches named plain => exact .entry (reaches.opens opens) named (same.symm ▸ plain)

/-- A path leads to a place whatever is put there that is no link. -/
theorem refill (h : Means root cwd follow p place) (opens : Opens root root')
    (plain : ∀ node, root'.get? place = some node → node.kind ≠ .link) :
    Means root' cwd follow p place := by
  cases h with
  | directory reaches => exact .directory (reaches.opens opens)
  | entry reaches named _ => exact .entry (reaches.opens opens) named fun _ => plain

theorem offers (h : Means root cwd follow p place) : root.Offers place := by
  cases h with
  | directory reaches =>
    obtain ⟨node, found, -⟩ := reaches.stands
    exact offers_of_get? found
  | entry reaches named plain =>
    obtain ⟨node, found, isDir⟩ := reaches.stands
    exact offers_snoc found isDir _

/-- What is found where a path leads. -/
theorem found_eq (h : Means root cwd follow p place)
    (located : locate root cwd follow p = .ok found) :
    found = ⟨place, root.get? place⟩ := by
  have sayable := (locate_ok_iff.1 located).1
  cases h with
  | directory reaches => exact Except.ok.inj (located.symm.trans (reaches.locate_eq sayable))
  | entry reaches named plain =>
    rw [reaches.locate_entry named plain sayable] at located
    split at located
    · cases located
    · exact (Except.ok.inj located).symm

/-- A path that leads to a place is answered as that place is, in every tree that keeps the way. -/
theorem locate_eq (h : Means root cwd follow p place) (opens : Opens root root')
    (same : root'.get? place = root.get? place) :
    locate root' cwd follow p = locate root cwd follow p := by
  by_cases sayable : Sayable p
  · cases h with
    | directory reaches =>
      rw [reaches.locate_eq sayable, (reaches.opens opens).locate_eq sayable, same]
    | entry reaches named plain =>
      rw [reaches.locate_entry named plain sayable,
        (reaches.opens opens).locate_entry named (same.symm ▸ plain) sayable, same]
  · exact locate_eq_of_not_sayable sayable root' root

end Means

end

end Tandem.Machine
