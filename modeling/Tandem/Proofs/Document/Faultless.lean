import Tandem.Proofs.Document.Records

/-!
Readers that take no value with a flaw.

* `Reader.Clean`: such a reader.
* `clean_fields`, `Clean.table`: records are read by such readers if their parts are.
* `Clean.ofText_iff`: such a reader reads documents and nothing else.
* `text_iff`, `word64_iff`, `optional_some_iff`: what the readers of texts, words and of what may be
  left out take.
-/

namespace Tandem.Document.Reader

section
variable {α : Type} {r : Reader α} {strict : Bool} {known : List Field} {name title : String}

/-- A reader that takes no value with a flaw. -/
def Clean (r : Reader α) : Prop := ∀ t a, t.Honest → r t = .ok a → t.passing = none

theorem clean_bool : bool.Clean := by
  intro t b honest read
  unfold bool at read
  split at read
  · exact honest _ (List.mem_singleton.2 rfl) _ rfl
  · exact absurd read refuse_ne_ok

theorem bool_iff {t : Tree} {b : Bool} (whole : t.passing = none) :
    bool t = .ok b ↔ t = .atom (.ok (.bool b)) none := by
  constructor
  · intro read
    unfold bool at read
    split at read
    · obtain rfl := Except.ok.inj read
      exact congrArg _ whole
    · exact absurd read refuse_ne_ok
  · rintro rfl
    rfl

theorem Clean.table (h : r.Clean) : (Reader.table r).Clean := by
  intro t entries honest read
  match t with
  | .record members =>
    rw [honest_record] at honest
    obtain ⟨fs, rfl, same⟩ := (table_record_iff honest).1 read
    refine passing_membersOf.2 ?_
    intro part member
    have there : (part.1, r part.2) ∈ entries.map fun entry => (entry.1, .ok entry.2) :=
      same ▸ List.mem_map.2 ⟨part, member, rfl⟩
    obtain ⟨entry, -, reads⟩ := List.mem_map.1 there
    exact h part.2 entry.2 (honest_membersOf.1 honest part member) (Prod.mk.inj reads).2.symm
  | .missing _ | .atom .. | .text .. | .list _ => exact absurd read refuse_ne_ok

/-- A field whose check no value with a flaw passes. -/
def Field.Clean (f : Field) : Prop :=
  ∀ value : Tree, value.Honest → f.check value = .ok () → value.passing = none

theorem Clean.field {mayEnd : Bool} (h : r.Clean) : (field name r mayEnd).Clean := by
  intro value honest passes
  obtain ⟨a, read⟩ := check_field_iff.1 passes
  exact h value a honest read

theorem passing_of_listedFields {known : List Field} {items : Items} {found : Fields} {count : Nat}
    (clean : ∀ f ∈ known, f.Clean) (honest : items.Honest)
    (h : listedFields title count known items = .ok found) : items.passing = none := by
  match known, items with
  | _, .closed => rfl
  | [], .cut .. => cases h
  | [], .cons .. => cases h
  | _ :: _, .cut .. => cases h
  | f :: known, .cons head tail =>
    obtain ⟨first, others⟩ := List.forall_mem_cons.1 clean
    obtain ⟨atHead, atTail⟩ := honest_cons_item.1 honest
    rw [listedFields] at h
    dsimp only [bind, Except.bind, pure, Except.pure] at h
    cases passes : f.check head with
    | error e =>
      rw [passes] at h
      cases h
    | ok =>
      rw [passes] at h
      cases goesOn : listedFields title count known tail with
      | error e =>
        rw [goesOn] at h
        cases h
      | ok rest =>
        exact passing_cons_item.2
          ⟨first head atHead passes, passing_of_listedFields others atTail goesOn⟩

theorem clean_fields (distinct : (known.map Field.name).Nodup) (clean : ∀ f ∈ known, f.Clean) :
    Clean (fields title strict known) := by
  intro t found honest read
  match t with
  | .record members =>
    rw [honest_record] at honest
    obtain ⟨fs, rfl, fits, -⟩ := (fields_record_iff distinct honest).1 read
    refine passing_membersOf.2 ?_
    intro part member
    by_cases named : ∃ f ∈ known, f.name = part.1
    · obtain ⟨f, isKnown, same⟩ := named
      have there : part.2 ∈ valuesOf f.name fs := mem_valuesOf.2 (same ▸ member)
      exact clean f isKnown part.2 (honest_membersOf.1 honest part member)
        (fits.checks f isKnown part.2 there)
    · exact (fits.others part member fun f isKnown same => named ⟨f, isKnown, same⟩).2
  | .list items => exact passing_of_listedFields clean (honest_list.1 honest) read
  | .missing _ | .atom .. | .text .. => exact absurd read refuse_ne_ok

theorem Clean.single {default : α} (h : r.Clean) : (Reader.single title name default r).Clean := by
  intro t a honest read
  have distinct : ([Reader.field name r true].map Field.name).Nodup := List.nodup_singleton _
  have clean : ∀ f ∈ [Reader.field name r true], f.Clean := List.forall_mem_singleton.2 h.field
  rw [Reader.single] at read
  cases found : fields title false [Reader.field name r true] t with
  | error e =>
    rw [found] at read
    cases read
  | ok kept => exact clean_fields distinct clean t kept honest found

theorem Clean.map {β : Type} (h : r.Clean) (f : α → β) : Clean fun t => f <$> r t := by
  intro t b honest read
  dsimp only at read
  cases found : r t with
  | error e =>
    rw [found] at read
    cases read
  | ok a => exact h t a honest found

/-- A clean reader reads documents and nothing else. -/
theorem Clean.ofText_iff (clean : r.Clean) {text : List Char} {a : α} :
    r.ofText text = .ok a ↔ ∃ t, Written text t ∧ r t = .ok a := by
  constructor
  · intro read
    rw [ofText] at read
    cases parsed : Tree.ofText text with
    | mk t rest =>
      have honest := honest_ofText text
      rw [parsed] at honest read
      cases found : r t with
      | error e => simp [found] at read
      | ok b =>
        simp only [found] at read
        split at read
        · rename_i nothing
          obtain rfl := Except.ok.inj read
          obtain rfl := List.isEmpty_iff.1 nothing
          exact ⟨t, written_iff.2 ⟨parsed, clean t b honest found⟩, found⟩
        · cases read
  · rintro ⟨t, written, read⟩
    rw [ofText, (written_iff.1 written).1]
    dsimp only
    rw [read]
    rfl

end

/-! ## Texts, words and what may be left out -/

section
variable {α β : Type} {r : Reader α} {t : Tree} {a : α} {expected : String}

theorem clean_text (expected : String) : (text expected).Clean := by
  intro t s honest read
  unfold text at read
  split at read
  · exact honest _ (List.mem_singleton.mpr rfl) _ rfl
  · exact absurd read refuse_ne_ok

theorem text_iff {s : String} (whole : t.passing = none) :
    text expected t = .ok s ↔ t = .text (.ok s) none := by
  constructor
  · intro read
    unfold text at read
    split at read
    · have same := Except.ok.inj read
      subst same
      exact congrArg _ whole
    · exact absurd read refuse_ne_ok
  · rintro rfl
    rfl

theorem clean_integer (low high : Int) (expected : String) :
    Clean (integer low high expected) := by
  intro t n honest read
  unfold integer at read
  split at read
  · exact honest _ (List.mem_singleton.mpr rfl) _ rfl
  · exact absurd read refuse_ne_ok

theorem integer_iff {low high n : Int} (whole : t.passing = none) :
    integer low high expected t = .ok n ↔
      t = .atom (.ok (.number (.int n))) none ∧ low ≤ n ∧ n ≤ high := by
  constructor
  · intro read
    unfold integer at read
    split at read
    · split at read
      · rename_i inside
        have same := Except.ok.inj read
        subst same
        exact ⟨congrArg _ whole, inside⟩
      · cases read
    · exact absurd read refuse_ne_ok
  · rintro ⟨rfl, inside⟩
    rw [integer, if_pos inside]

theorem clean_word64 (expected : String) : (word64 expected).Clean :=
  Clean.map (clean_integer 0 18446744073709551615 expected) _

/-- What is read as a word is an integer that is one. -/
theorem word64_iff {n : UInt64} (whole : t.passing = none) :
    word64 expected t = .ok n ↔ t = .atom (.ok (.number (.int n.toNat))) none := by
  have size : UInt64.size = 18446744073709551616 := rfl
  constructor
  · intro read
    unfold word64 at read
    cases found : integer 0 18446744073709551615 expected t with
    | error e =>
      rw [found] at read
      cases read
    | ok m =>
      rw [found] at read
      have same := Except.ok.inj read
      obtain ⟨rfl, least, most⟩ := (integer_iff whole).mp found
      have value : (n.toNat : Int) = m := by
        rw [← same, UInt64.toNat_ofNat_of_lt' (by omega)]
        omega
      rw [value]
  · rintro rfl
    have small := n.toNat_lt_size
    rw [word64, (integer_iff rfl).mpr ⟨rfl, by omega, by omega⟩]
    exact congrArg Except.ok UInt64.ofNat_toNat

theorem Clean.optional (h : r.Clean) : (Reader.optional r).Clean := by
  intro t a? honest read
  unfold Reader.optional at read
  split at read
  · exact honest _ (List.mem_singleton.mpr rfl) _ rfl
  · exact h.map some t a? honest read

theorem optional_some_iff (refuses : ∀ passing, r (.atom (.ok .null) passing) ≠ .ok a) :
    optional r t = .ok (some a) ↔ r t = .ok a := by
  unfold optional
  split
  · exact iff_of_false nofun (refuses _)
  · cases r t <;> simp

theorem optional_none_iff (whole : t.passing = none) :
    optional r t = .ok none ↔ t = .atom (.ok .null) none := by
  unfold optional
  constructor
  · intro read
    split at read
    · exact congrArg _ whole
    · cases found : r t with
      | error e =>
        rw [found] at read
        cases read
      | ok a =>
        rw [found] at read
        cases read
  · rintro rfl
    rfl

/-- A field that may be left out, with something done to what it comes to. -/
theorem absent_map (f : α → β) (default : α) (name : String) (r : Reader α) (found : Fields) :
    absent (f default) name (fun t => f <$> r t) found = f <$> absent default name r found := by
  rw [absent, absent]
  cases found.lookup name <;> rfl

end

end Tandem.Document.Reader
