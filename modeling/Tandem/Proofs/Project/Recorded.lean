import Tandem.Project.State
import Tandem.Proofs.Document.Faultless

/-!
What a document records about the files of a project.

* `Damaged`: a document that no marks can be read from.
* `Marks`: a document in which the last entry under a key has its mark.
* `Legible`: a document with entries that all tell whether they are marked.
* `legible_or_damaged`, `Legible.not_damaged`: a document is one or the other.
* `reader_iff`: what is read from a document, by its entries.
-/

namespace Tandem.Project

open Tandem.Document Tandem.Document.Reader Tandem.Host

/-- What is wrong with an entry that does not tell whether it is marked. -/
inductive BadEntry : Tree → Prop where
  | noRecord {t : Tree} : (∀ members, t ≠ .record members) → BadEntry t
  | unnamed {members : Members} {flaw : Flaw} : .error flaw ∈ members.names →
    BadEntry (.record members)
  | twice {fields : List (String × Tree)} : 2 ≤ (valuesOf "migrated" fields).length →
    BadEntry (.record (membersOf fields))
  | wrong {fields : List (String × Tree)} {value : Tree} : value ∈ valuesOf "migrated" fields →
    (∀ b, value ≠ .atom (.ok (.bool b)) none) → BadEntry (.record (membersOf fields))

/-- What is wrong with a document that no marks can be read from. -/
inductive Damaged : Tree → Prop where
  | noRecord {t : Tree} : (∀ members, t ≠ .record members) → Damaged t
  | unnamed {members : Members} {flaw : Flaw} : .error flaw ∈ members.names →
    Damaged (.record members)
  | twice {fields : List (String × Tree)} : 2 ≤ (valuesOf "files" fields).length →
    Damaged (.record (membersOf fields))
  | wrong {fields : List (String × Tree)} {files : Tree} : files ∈ valuesOf "files" fields →
    (∀ members, files ≠ .record members) → Damaged (.record (membersOf fields))
  | unnamedEntry {fields : List (String × Tree)} {members : Members} {flaw : Flaw} :
    .record members ∈ valuesOf "files" fields → .error flaw ∈ members.names →
    Damaged (.record (membersOf fields))
  | entry {fields entries : List (String × Tree)} {key : String} {t : Tree} :
    .record (membersOf entries) ∈ valuesOf "files" fields → (key, t) ∈ entries → BadEntry t →
    Damaged (.record (membersOf fields))

/-- A document in which the last entry under a key has its mark. -/
inductive Marks (key : String) : Tree → Prop where
  | mk {fields entries entry : List (String × Tree)} :
    .record (membersOf entries) ∈ valuesOf "files" fields →
    (valuesOf key entries).getLast? = some (.record (membersOf entry)) →
    .atom (.ok (.bool true)) none ∈ valuesOf "migrated" entry →
    Marks key (.record (membersOf fields))

/-- A document that has a list where a record with named fields should be. -/
inductive Listed : Tree → Prop where
  | whole {items : Items} : Listed (.list items)
  | entry {fields entries : List (String × Tree)} {key : String} {items : Items} :
    .record (membersOf entries) ∈ valuesOf "files" fields → (key, .list items) ∈ entries →
    Listed (.record (membersOf fields))

section
variable {t : Tree} {b b' : Bool} {key : String} {fs fields entries : List (String × Tree)}

/-! ## Entries -/

/-- An entry that tells whether it is marked. -/
def Tells (t : Tree) (b : Bool) : Prop :=
  ∃ fs, t = .record (membersOf fs) ∧ ComesTo (valuesOf "migrated" fs) bool false b

theorem whole_of_mem (whole : (Tree.record (membersOf fs)).passing = none) {name : String}
    {value : Tree} (there : value ∈ valuesOf name fs) : value.passing = none :=
  passing_membersOf.1 whole _ (mem_valuesOf.1 there)

theorem honest_of_mem (honest : (Tree.record (membersOf fs)).Honest) {name : String}
    {value : Tree} (there : value ∈ valuesOf name fs) : value.Honest :=
  honest_membersOf.1 (honest_record.1 honest) _ (mem_valuesOf.1 there)

theorem tells_or_bad (whole : t.passing = none) : (∃ b, Tells t b) ∨ BadEntry t := by
  cases t with
  | missing | atom | text | list => exact .inr (.noRecord fun _ same => by cases same)
  | record members =>
    obtain ⟨fs, rfl⟩ | ⟨flaw, there⟩ := membersOf_or_unnamed whole
    · cases values : valuesOf "migrated" fs with
      | nil => exact .inl ⟨false, fs, rfl, .inl ⟨values, rfl⟩⟩
      | cons value more =>
        cases more with
        | nil =>
          have there : value ∈ valuesOf "migrated" fs := values ▸ List.mem_singleton.2 rfl
          by_cases isBool : ∃ b, value = .atom (.ok (.bool b)) none
          · obtain ⟨b, rfl⟩ := isBool
            exact .inl ⟨b, fs, rfl, .inr ⟨_, values, rfl⟩⟩
          · exact .inr (.wrong there fun b same => isBool ⟨b, same⟩)
        | cons => exact .inr (.twice (by simp [values]))
    · exact .inr (.unnamed there)

theorem Tells.not_bad (whole : t.passing = none) (tells : Tells t b) : ¬ BadEntry t := by
  obtain ⟨fs, rfl, comes⟩ := tells
  intro bad
  generalize same : Tree.record (membersOf fs) = t at bad
  cases bad with
  | noRecord other => exact other _ same.symm
  | unnamed there =>
    obtain rfl := Tree.record.inj same
    exact named_membersOf there
  | twice many =>
    obtain rfl := membersOf_injective (Tree.record.inj same)
    have once := comes.length_le
    omega
  | wrong there other =>
    obtain rfl := membersOf_injective (Tree.record.inj same)
    exact other b ((bool_iff (whole_of_mem whole there)).1 (comes.reads _ there))

/-- An entry is marked if a mark stands in it. -/
theorem Tells.marked_iff (whole : t.passing = none) (tells : Tells t b) :
    b = true ↔ ∃ fs, t = .record (membersOf fs) ∧
      .atom (.ok (.bool true)) none ∈ valuesOf "migrated" fs := by
  obtain ⟨fs, rfl, comes⟩ := tells
  constructor
  · rintro rfl
    obtain ⟨-, other⟩ | ⟨value, one, read⟩ := comes
    · cases other
    · have there : value ∈ valuesOf "migrated" fs := one ▸ List.mem_singleton.2 rfl
      rw [(bool_iff (whole_of_mem whole there)).1 read] at there
      exact ⟨fs, rfl, there⟩
  · rintro ⟨fs', same, there⟩
    obtain rfl := membersOf_injective (Tree.record.inj same)
    exact (Except.ok.inj (comes.reads _ there)).symm

/-- What a reading is wrapped in can be taken off again. -/
theorem map_eq_ok_iff {ε α β : Type} {f : α → β} {g : β → α} {r : Except ε α} {a : β}
    (left : Function.LeftInverse g f) (right : Function.RightInverse g f) :
    f <$> r = .ok a ↔ r = .ok (g a) := by
  cases r with
  | error e => exact iff_of_false nofun nofun
  | ok x =>
    constructor
    · intro same
      obtain rfl := Except.ok.inj same
      rw [left]
    · intro same
      obtain rfl := Except.ok.inj same
      exact congrArg Except.ok (right a)

theorem fileState_eq (t : Tree) :
    FileState.reader t = FileState.mk <$> single "FileState" "migrated" false bool t := by
  simp only [FileState.reader, single, FileState.known, map_bind, bind_pure_comp]

theorem clean_fileState : FileState.reader.Clean := by
  rw [funext fileState_eq]
  exact clean_bool.single.map _

theorem fileState_iff {state : FileState} (honest : t.Honest) (whole : t.passing = none)
    (other : ∀ items, t ≠ .list items) :
    FileState.reader t = .ok state ↔ Tells t state.migrated := by
  rw [fileState_eq, map_eq_ok_iff (g := FileState.migrated) (fun _ => rfl) fun _ => rfl,
    single_iff honest whole other]
  rfl

/-! ## Documents -/

/-- A document whose entries all tell whether they are marked. -/
structure Legible (t : Tree) (entries : List (String × Tree)) : Prop where
  files : ∃ fields, t = .record (membersOf fields) ∧ (valuesOf "files" fields = [] ∧ entries = [] ∨
    valuesOf "files" fields = [.record (membersOf entries)])
  tells : ∀ part ∈ entries, ∃ b, Tells part.2 b

/-- Where a document has its files in one place, they tell what they should or it is damaged. -/
theorem legible_or_damaged_files {files : Tree}
    (whole : (Tree.record (membersOf fs)).passing = none) (values : valuesOf "files" fs = [files]) :
    (∃ entries, Legible (.record (membersOf fs)) entries) ∨ Damaged (.record (membersOf fs)) := by
  have there : files ∈ valuesOf "files" fs := values ▸ List.mem_singleton.2 rfl
  have wholeFiles := whole_of_mem whole there
  cases files with
  | missing | atom | text | list => exact .inr (.wrong there fun _ same => by cases same)
  | record inner =>
    obtain ⟨entries, rfl⟩ | ⟨flaw, unnamed⟩ := membersOf_or_unnamed wholeFiles
    · by_cases tells : ∀ part ∈ entries, ∃ b, Tells part.2 b
      · exact .inl ⟨entries, ⟨fs, rfl, .inr values⟩, tells⟩
      · simp only [not_forall] at tells
        obtain ⟨part, member, silent⟩ := tells
        have wholePart := passing_membersOf.1 wholeFiles part member
        exact .inr (.entry there member ((tells_or_bad wholePart).resolve_left silent))
    · exact .inr (.unnamedEntry there unnamed)

theorem legible_or_damaged (whole : t.passing = none) :
    (∃ entries, Legible t entries) ∨ Damaged t := by
  cases t with
  | missing | atom | text | list => exact .inr (.noRecord fun _ same => by cases same)
  | record members =>
    obtain ⟨fs, rfl⟩ | ⟨flaw, there⟩ := membersOf_or_unnamed whole
    · cases values : valuesOf "files" fs with
      | nil => exact .inl ⟨[], ⟨fs, rfl, .inl ⟨values, rfl⟩⟩, by simp⟩
      | cons files more =>
        cases more with
        | nil => exact legible_or_damaged_files whole values
        | cons => exact .inr (.twice (by simp [values]))
    · exact .inr (.unnamed there)

/-- A document that can be read has its entries in one place. -/
theorem Legible.entries_of_mem {files : Tree}
    (legible : Legible (.record (membersOf fields)) entries)
    (there : files ∈ valuesOf "files" fields) : files = .record (membersOf entries) := by
  obtain ⟨⟨fs, same, values⟩, -⟩ := legible
  obtain rfl := membersOf_injective (Tree.record.inj same)
  obtain ⟨none, -⟩ | one := values
  · exact absurd (none ▸ there) List.not_mem_nil
  · exact List.mem_singleton.1 (one ▸ there)

theorem Legible.not_damaged (whole : t.passing = none) (legible : Legible t entries) :
    ¬ Damaged t := by
  intro damaged
  have ⟨⟨fs, record, values⟩, tells⟩ := legible
  cases damaged with
  | noRecord other => exact other _ record
  | unnamed there =>
    obtain rfl := Tree.record.inj record
    exact named_membersOf there
  | twice many =>
    obtain rfl := membersOf_injective (Tree.record.inj record)
    obtain ⟨none, -⟩ | one := values
    · simp [none] at many
    · simp [one] at many
  | wrong there other => exact other _ (legible.entries_of_mem there)
  | unnamedEntry there unnamed =>
    obtain rfl := Tree.record.inj (legible.entries_of_mem there)
    exact named_membersOf unnamed
  | entry there member bad =>
    obtain rfl := membersOf_injective (Tree.record.inj (legible.entries_of_mem there))
    obtain ⟨b, tellsEntry⟩ := tells _ member
    exact tellsEntry.not_bad (passing_membersOf.1 (whole_of_mem whole there) _ member) bad

/-- The last entry under a key is the one that counts. -/
theorem Legible.marks_iff (legible : Legible t entries) :
    Marks key t ↔ ∃ e, (valuesOf key entries).getLast? = some e ∧
      ∃ fs, e = .record (membersOf fs) ∧
        .atom (.ok (.bool true)) none ∈ valuesOf "migrated" fs := by
  constructor
  · rintro ⟨there, last, mark⟩
    obtain rfl := membersOf_injective (Tree.record.inj (legible.entries_of_mem there))
    exact ⟨_, last, _, rfl, mark⟩
  · rintro ⟨e, last, fs, rfl, mark⟩
    obtain ⟨⟨fields, rfl, ⟨-, rfl⟩ | one⟩, -⟩ := legible
    · cases last
    · exact .mk (one ▸ List.mem_singleton.2 rfl) last mark

/-! ## What is read -/

theorem projectState_eq (t : Tree) : ProjectState.reader t =
    ProjectState.mk <$> single "ProjectState" "files" [] (table FileState.reader) t := by
  simp only [ProjectState.reader, single, ProjectState.known, map_bind, bind_pure_comp]

theorem clean_projectState : ProjectState.reader.Clean := by
  rw [funext projectState_eq]
  exact clean_fileState.table.single.map _

theorem projectState_iff {state : ProjectState} (honest : t.Honest) (whole : t.passing = none)
    (other : ∀ items, t ≠ .list items) :
    ProjectState.reader t = .ok state ↔ ∃ fs, t = .record (membersOf fs) ∧
      ComesTo (valuesOf "files" fs) (table FileState.reader) [] state.files := by
  rw [projectState_eq, map_eq_ok_iff (g := ProjectState.files) (fun _ => rfl) fun _ => rfl,
    single_iff honest whole other]

/-- A document is read if its entries all tell whether they are marked, as what they tell. -/
theorem reader_iff {state : ProjectState} (honest : t.Honest) (whole : t.passing = none)
    (named : ¬ Listed t) :
    ProjectState.reader t = .ok state ↔ ∃ entries, Legible t entries ∧
      entries.map (fun part => (part.1, FileState.reader part.2)) =
        state.files.map fun file => (file.1, .ok file.2) := by
  have other : ∀ items, t ≠ .list items := by
    rintro items rfl
    exact named .whole
  rw [projectState_iff honest whole other]
  constructor
  · rintro ⟨fs, rfl, ⟨none, files⟩ | ⟨value, one, read⟩⟩
    · exact ⟨[], ⟨⟨fs, rfl, .inl ⟨none, rfl⟩⟩, by simp⟩, by simp [files]⟩
    · have there : value ∈ valuesOf "files" fs := one ▸ List.mem_singleton.2 rfl
      have honestFiles := honest_of_mem honest there
      have wholeFiles := whole_of_mem whole there
      match value with
      | .missing _ | .atom .. | .text .. | .list _ => exact absurd read refuse_ne_ok
      | .record members =>
        obtain ⟨entries, rfl, same⟩ := (table_record_iff (honest_record.1 honestFiles)).1 read
        refine ⟨entries, ⟨⟨fs, rfl, .inr one⟩, ?_⟩, same⟩
        intro part member
        have found : (part.1, FileState.reader part.2) ∈
            state.files.map fun file => (file.1, .ok file.2) :=
          same ▸ List.mem_map.2 ⟨part, member, rfl⟩
        obtain ⟨file, -, reads⟩ := List.mem_map.1 found
        have honestPart := honest_membersOf.1 (honest_record.1 honestFiles) part member
        have wholePart := passing_membersOf.1 wholeFiles part member
        have read := (Prod.mk.inj reads).2.symm
        refine ⟨file.2.migrated, (fileState_iff honestPart wholePart ?_).1 read⟩
        intro items list
        obtain ⟨key, e⟩ := part
        obtain rfl : e = .list items := list
        exact named (.entry there member)
  · rintro ⟨entries, ⟨⟨fs, rfl, files⟩, -⟩, same⟩
    obtain ⟨none, rfl⟩ | one := files
    · refine ⟨fs, rfl, .inl ⟨none, ?_⟩⟩
      exact List.map_eq_nil_iff.1 same.symm
    · have there : Tree.record (membersOf entries) ∈ valuesOf "files" fs :=
        one ▸ List.mem_singleton.2 rfl
      refine ⟨fs, rfl, .inr ⟨_, one, (table_record_iff ?_).2 ⟨entries, rfl, same⟩⟩⟩
      exact honest_record.1 (honest_of_mem honest there)

theorem Legible.not_listed (legible : Legible t entries) : ¬ Listed t := by
  intro listed
  have ⟨⟨fs, record, _⟩, tells⟩ := legible
  cases listed with
  | whole => cases record
  | entry there member =>
    obtain rfl := membersOf_injective (Tree.record.inj (legible.entries_of_mem there))
    obtain ⟨b, fs, same, -⟩ := tells _ member
    cases same

theorem Legible.entry (legible : Legible t entries) (honest : t.Honest) (whole : t.passing = none)
    {part : String × Tree} (member : part ∈ entries) : part.2.Honest ∧ part.2.passing = none := by
  obtain ⟨⟨fs, rfl, ⟨-, rfl⟩ | one⟩, -⟩ := legible
  · cases member
  · have there : Tree.record (membersOf entries) ∈ valuesOf "files" fs :=
      one ▸ List.mem_singleton.2 rfl
    exact ⟨honest_membersOf.1 (honest_record.1 (honest_of_mem honest there)) part member,
      passing_membersOf.1 (whole_of_mem whole there) part member⟩

theorem Tells.read (tells : Tells t b) (honest : t.Honest) (whole : t.passing = none) :
    FileState.reader t = .ok ⟨b⟩ := by
  refine (fileState_iff honest whole ?_).2 tells
  rintro items rfl
  obtain ⟨fs, same, -⟩ := tells
  cases same

theorem Legible.read (legible : Legible t entries) (honest : t.Honest) (whole : t.passing = none) :
    ∃ state, ProjectState.reader t = .ok state := by
  have files : ∃ files : List (String × FileState),
      entries.map (fun part => (part.1, FileState.reader part.2)) =
        files.map fun file => (file.1, .ok file.2) := by
    have reads : ∀ part ∈ entries, ∃ b, FileState.reader part.2 = .ok ⟨b⟩ := by
      intro part member
      obtain ⟨b, tells⟩ := legible.tells part member
      obtain ⟨honestPart, wholePart⟩ := legible.entry honest whole member
      exact ⟨b, tells.read honestPart wholePart⟩
    clear legible
    induction entries with
    | nil => exact ⟨[], rfl⟩
    | cons part entries ih =>
      obtain ⟨⟨b, first⟩, others⟩ := List.forall_mem_cons.1 reads
      obtain ⟨files, same⟩ := ih others
      exact ⟨(part.1, ⟨b⟩) :: files, by rw [List.map_cons, List.map_cons, first, same]⟩
  obtain ⟨files, same⟩ := files
  exact ⟨⟨files⟩, (reader_iff honest whole legible.not_listed).2 ⟨entries, legible, same⟩⟩

/-- What is read marks the files that the document marks. -/
theorem isMigrated_iff {state : ProjectState} {file : Path} (honest : t.Honest)
    (whole : t.passing = none) (named : ¬ Listed t) (read : ProjectState.reader t = .ok state) :
    state.isMigrated file = true ↔ Marks file.key t := by
  obtain ⟨entries, legible, same⟩ := (reader_iff honest whole named).1 read
  have last := congrArg (fun parts => (valuesOf file.key parts).getLast?) same
  simp only [valuesOf_map, List.getLast?_map] at last
  rw [legible.marks_iff, ProjectState.isMigrated, lookup_reverse]
  cases atEnd : (valuesOf file.key entries).getLast? with
  | none =>
    rw [atEnd, Option.map_none] at last
    rw [Option.map_eq_none_iff.1 last.symm]
    simp
  | some e =>
    have member : (file.key, e) ∈ entries := mem_valuesOf.1 (List.mem_of_getLast? atEnd)
    obtain ⟨honestEntry, wholeEntry⟩ := legible.entry honest whole member
    obtain ⟨b, tells⟩ := legible.tells _ member
    rw [atEnd, Option.map_some, tells.read honestEntry wholeEntry] at last
    obtain ⟨f, found, marked⟩ := Option.map_eq_some_iff.1 last.symm
    obtain rfl := Except.ok.inj marked
    rw [found]
    simpa using tells.marked_iff wholeEntry

end

end Tandem.Project
