import Mathlib.Logic.Relation
import Tandem.Proofs.Project.Recorded

/-!
Changes to a document that have nothing to do with its marks.

* `Shuffles`: a change to the fields of a record, apart from one.
* `Revises`: such a change to a document or to an entry, or entries that change places.
* `Revises.legible`: one change leaves every mark as it is. `revised_legible`: so do any.
-/

namespace Tandem.Project

open Tandem.Document Tandem.Document.Reader

/-- A change to the fields of a record that has nothing to do with one of them: an unknown field is
added, or fields change places. -/
inductive Shuffles (name : String) : List (String × Tree) → List (String × Tree) → Prop where
  | added {other : String} {value : Tree} {front back : List (String × Tree)} : other ≠ name →
    Shuffles name (front ++ back) (front ++ (other, value) :: back)
  | reordered {fs fs' : List (String × Tree)} : fs'.Perm fs → Shuffles name fs fs'

/-- The document with these entries between other fields. -/
def documentOf (front entries back : List (String × Tree)) : Tree :=
  .record (membersOf (front ++ ("files", .record (membersOf entries)) :: back))

/-- A change to a document that has nothing to do with its marks. Entries change places with those
under other keys. -/
inductive Revises : Tree → Tree → Prop where
  | fields {fs fs' : List (String × Tree)} : Shuffles "files" fs fs' →
    Revises (.record (membersOf fs)) (.record (membersOf fs'))
  | entry {front back before after es es' : List (String × Tree)} {key : String} :
    Shuffles "migrated" es es' →
    Revises (documentOf front (before ++ (key, .record (membersOf es)) :: after) back)
      (documentOf front (before ++ (key, .record (membersOf es')) :: after) back)
  | entries {front back entries entries' : List (String × Tree)} :
    (∀ key, valuesOf key entries' = valuesOf key entries) →
    Revises (documentOf front entries back) (documentOf front entries' back)

section
variable {t t' e e' : Tree} {b : Bool} {name key : String}
  {fs fs' front back before after entries entries' : List (String × Tree)}

theorem Shuffles.values (h : Shuffles name fs fs') (once : (valuesOf name fs).length ≤ 1) :
    valuesOf name fs' = valuesOf name fs := by
  cases h with
  | added other => rw [valuesOf_append, valuesOf_cons_of_ne other, valuesOf_append]
  | reordered perm =>
    have same : (valuesOf name fs').Perm (valuesOf name fs) := (perm.filter _).map _
    match values : valuesOf name fs, once with
    | [], _ => exact List.perm_nil.1 (values ▸ same)
    | [value], _ => exact List.perm_singleton.1 (values ▸ same)

theorem Shuffles.tells (h : Shuffles "migrated" fs fs')
    (tells : Tells (.record (membersOf fs)) b) : Tells (.record (membersOf fs')) b := by
  obtain ⟨fs₀, same, comes⟩ := tells
  obtain rfl := membersOf_injective (Tree.record.inj same)
  exact ⟨fs', rfl, (h.values comes.length_le).symm ▸ comes⟩

theorem files_of_legible (legible : Legible (.record (membersOf fs)) entries) :
    valuesOf "files" fs = [] ∧ entries = [] ∨
      valuesOf "files" fs = [.record (membersOf entries)] := by
  obtain ⟨⟨fs₀, same, values⟩, -⟩ := legible
  obtain rfl := membersOf_injective (Tree.record.inj same)
  exact values

theorem Shuffles.legible (h : Shuffles "files" fs fs')
    (legible : Legible (.record (membersOf fs)) entries) :
    Legible (.record (membersOf fs')) entries := by
  have values := files_of_legible legible
  have once : (valuesOf "files" fs).length ≤ 1 := by
    obtain ⟨none, -⟩ | one := values
    · simp [none]
    · simp [one]
  rw [← h.values once] at values
  exact ⟨⟨fs', rfl, values⟩, legible.tells⟩

/-- An entry keeps its mark. -/
theorem Shuffles.marked_iff (h : Shuffles "migrated" fs fs')
    (tells : Tells (.record (membersOf fs)) b) {mark : Tree} :
    (∃ es, Tree.record (membersOf fs') = .record (membersOf es) ∧
        mark ∈ valuesOf "migrated" es) ↔
      ∃ es, Tree.record (membersOf fs) = .record (membersOf es) ∧
        mark ∈ valuesOf "migrated" es := by
  have inside {es : List (String × Tree)} :
      (∃ es', Tree.record (membersOf es) = .record (membersOf es') ∧
        mark ∈ valuesOf "migrated" es') ↔ mark ∈ valuesOf "migrated" es := by
    constructor
    · rintro ⟨es', same, there⟩
      obtain rfl := membersOf_injective (Tree.record.inj same)
      exact there
    · exact fun there => ⟨es, rfl, there⟩
  obtain ⟨fs₀, same, comes⟩ := tells
  obtain rfl := membersOf_injective (Tree.record.inj same)
  rw [inside, inside, h.values comes.length_le]

/-- The entries of a document may be exchanged for others that tell whether they are marked. -/
theorem Legible.exchange {kept : List (String × Tree)}
    (legible : Legible (documentOf front entries back) kept) :
    kept = entries ∧ ∀ entries', (∀ part ∈ entries', ∃ b, Tells part.2 b) →
      Legible (documentOf front entries' back) entries' := by
  have values := files_of_legible legible
  rw [valuesOf_append, valuesOf_cons_self] at values
  obtain ⟨none, -⟩ | one := values
  · simp at none
  · obtain ⟨atFront, middle, atBack⟩ : valuesOf "files" front = [] ∧
        Tree.record (membersOf entries) = .record (membersOf kept) ∧
        valuesOf "files" back = [] := by
      cases atFront : valuesOf "files" front with
      | nil => simpa [atFront] using one
      | cons value more => simp [atFront] at one
    refine ⟨membersOf_injective (Tree.record.inj middle.symm), ?_⟩
    intro entries' tells
    refine ⟨⟨_, rfl, .inr ?_⟩, tells⟩
    rw [valuesOf_append, valuesOf_cons_self, atFront, atBack, List.nil_append]

/-- One entry is exchanged for another of which the same is true. -/
theorem last_exchanged {P : Tree → Prop} (same : P e' ↔ P e) :
    (∃ u, (valuesOf name (before ++ (key, e') :: after)).getLast? = some u ∧ P u) ↔
      ∃ u, (valuesOf name (before ++ (key, e) :: after)).getLast? = some u ∧ P u := by
  rw [valuesOf_append, valuesOf_append]
  by_cases here : key = name
  · subst here
    rw [valuesOf_cons_self, valuesOf_cons_self, List.getLast?_append, List.getLast?_append,
      List.getLast?_cons, List.getLast?_cons]
    cases (valuesOf key after).getLast? with
    | none => simpa using same
    | some u => simp
  · rw [valuesOf_cons_of_ne here, valuesOf_cons_of_ne here]

/-! ## Changes -/

/-- One change leaves every mark as it is. -/
theorem Revises.legible (h : Revises t t') (legible : Legible t entries) :
    ∃ entries', Legible t' entries' ∧ ∀ key, Marks key t' ↔ Marks key t := by
  cases h with
  | fields shuffles =>
    have legible' := shuffles.legible legible
    exact ⟨entries, legible', fun key => legible'.marks_iff.trans legible.marks_iff.symm⟩
  | @entry front back before after es es' key shuffles =>
    obtain ⟨rfl, exchange⟩ := legible.exchange
    obtain ⟨earlier, others⟩ := List.forall_mem_append.1 legible.tells
    obtain ⟨⟨b, tells⟩, later⟩ := List.forall_mem_cons.1 others
    have still : ∃ b, Tells (.record (membersOf es')) b := ⟨b, shuffles.tells tells⟩
    have legible' := exchange (before ++ (key, .record (membersOf es')) :: after)
      (List.forall_mem_append.2 ⟨earlier, List.forall_mem_cons.2 ⟨still, later⟩⟩)
    refine ⟨_, legible', ?_⟩
    intro key
    rw [legible'.marks_iff, legible.marks_iff]
    exact last_exchanged (shuffles.marked_iff tells)
  | @entries front back old new same =>
    obtain ⟨rfl, exchange⟩ := legible.exchange
    have tells : ∀ part ∈ new, ∃ b, Tells part.2 b := by
      rintro ⟨key, e⟩ member
      apply legible.tells (key, e)
      rwa [← mem_valuesOf, ← same, mem_valuesOf]
    have legible' := exchange new tells
    refine ⟨new, legible', ?_⟩
    intro key
    rw [legible'.marks_iff, legible.marks_iff, same]

/-- Any changes of this kind leave every mark as it is. -/
theorem revised_legible (h : Relation.ReflTransGen Revises t t') (legible : Legible t entries) :
    ∃ entries', Legible t' entries' ∧ ∀ key, Marks key t' ↔ Marks key t := by
  induction h with
  | refl => exact ⟨entries, legible, fun _ => Iff.rfl⟩
  | tail _ step ih =>
    obtain ⟨between, legibleBetween, same⟩ := ih
    obtain ⟨entries', legible', same'⟩ := step.legible legibleBetween
    exact ⟨entries', legible', fun key => (same' key).trans (same key)⟩

end

end Tandem.Project
