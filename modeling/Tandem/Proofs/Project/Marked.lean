import Tandem.Project.Store
import Tandem.Proofs.Machine.Stuck
import Tandem.Proofs.Project.Revised
import Tandem.Proofs.Sandbox.Interpreter
import Tandem.Proofs.Text.Utf8

/-!
Whether a file of a project is marked.

* `Recalls`: what the store answers, by what reading the record of the project gives.
* `Rejected`: what it answers with an error.
* `marks_recorded`: any other record is answered with the mark of the file's last entry.
-/

namespace Tandem.Project

open Tandem.Document Tandem.Document.Reader Tandem.Host Tandem.Host.Task Tandem.Machine Tandem.Text

/-- What the store answers, by what reading the record gives. -/
inductive Recalls (record file : Path) : Except IoError Utf8.Bytes → Except Chain Bool → Prop where
  | absent {e : IoError} : e.kind = .notFound → Recalls record file (.error e) (.ok false)
  | unread {e : IoError} : e.kind ≠ .notFound → Recalls record file (.error e)
    (.error ((Chain.one e.message).within s!"read project state: {record.text}"))
  | notText {bytes : Utf8.Bytes} : Utf8.decode? bytes = none → Recalls record file (.ok bytes)
    (.error ((Chain.one IoError.notUtf8.message).within s!"read project state: {record.text}"))
  | refused {bytes : Utf8.Bytes} {text : List Char} {e : ReadError} :
    Utf8.decode? bytes = some text → ProjectState.reader.ofText text = .error e →
    Recalls record file (.ok bytes)
      (.error ((Chain.one e.message).within s!"parse project state JSON: {record.text}"))
  | read {bytes : Utf8.Bytes} {text : List Char} {state : ProjectState} :
    Utf8.decode? bytes = some text → ProjectState.reader.ofText text = .ok state →
    Recalls record file (.ok bytes) (.ok (state.isMigrated file))

section
variable {s : DiskStore} {id : String} {file : Path} {events : List (Event host)}
  {answer : Except IoError Utf8.Bytes} {r : Except Chain Bool}

theorem exists_recalls (record file : Path) (answer : Except IoError Utf8.Bytes) :
    ∃ r, Recalls record file answer r := by
  cases answer with
  | error e =>
    by_cases nothing : e.kind = .notFound
    · exact ⟨_, .absent nothing⟩
    · exact ⟨_, .unread nothing⟩
  | ok bytes =>
    cases text : Utf8.decode? bytes with
    | none => exact ⟨_, .notText text⟩
    | some chars =>
      cases read : ProjectState.reader.ofText chars with
      | error e => exact ⟨_, .refused text read⟩
      | ok state => exact ⟨_, .read text read⟩

/-- The store reads the record and makes no other call. -/
theorem exists_next (s : DiskStore) (file : Path) (known : isIdentifier id = true) :
    ∃ next : Except IoError Utf8.Bytes → Task host (Except Chain Bool),
      s.isMigrated id file = .call (.readFile (s.root / id / "state.json")) next ∧
        ∀ answer r, Recalls (s.root / id / "state.json") file answer r → next answer = done r := by
  rw [DiskStore.isMigrated, DiskStore.state, DiskStore.projectDir, if_pos known]
  refine ⟨_, rfl, ?_⟩
  intro answer r recalls
  cases recalls with
  | absent nothing =>
    simp only [Pure.pure, Host.Task.bind, if_pos nothing]
    rfl
  | unread other =>
    simp only [Pure.pure, Host.Task.bind, if_neg other]
    rfl
  | notText text =>
    simp only [Pure.pure, Host.Task.bind, text]
    rfl
  | refused text read =>
    simp only [Pure.pure, Host.Task.bind, text, String.toList_ofList, read]
    rfl
  | read text read =>
    simp only [Pure.pure, Host.Task.bind, text, String.toList_ofList, read]
    rfl

theorem path_isMigrated_iff (known : isIdentifier id = true) :
    Path (s.isMigrated id file) events r ↔
      ∃ answer, events = [⟨.readFile (s.root / id / "state.json"), answer⟩] ∧
        Recalls (s.root / id / "state.json") file answer r := by
  obtain ⟨next, asks, answers⟩ := exists_next s file known
  rw [asks, path_call_iff]
  constructor
  · rintro ⟨answer, rest, rfl, tail⟩
    obtain ⟨r', recalls⟩ := exists_recalls (s.root / id / "state.json") file answer
    rw [answers answer r' recalls] at tail
    obtain ⟨rfl, rfl⟩ := path_done_iff.1 tail
    exact ⟨answer, rfl, recalls⟩
  · rintro ⟨answer, rfl, recalls⟩
    exact ⟨answer, [], rfl, answers answer r recalls ▸ .done r⟩

/-- A machine answers by what it has at the place of the record, and stays as it is. -/
theorem run_isMigrated {programs : Programs} {m : Machine} (known : isIdentifier id = true)
    (recalls : Recalls (s.root / id / "state.json") file
      (Files.read m.view (s.root / id / "state.json")) r) :
    m.run programs (s.isMigrated id file) = (r, m) := by
  obtain ⟨next, asks, answers⟩ := exists_next s file known
  rw [asks, Machine.run, Host.Task.run]
  change (next (Files.read m.view _)).run _ m = _
  rw [answers _ r recalls]
  rfl

/-! ## Documents -/

/-- What the store answers with an error. -/
inductive Rejected : Except IoError Utf8.Bytes → Prop where
  | unread {e : IoError} : e.kind ≠ .notFound → Rejected (.error e)
  | notText {bytes : Utf8.Bytes} : (∀ text, bytes ≠ Utf8.encode text) → Rejected (.ok bytes)
  | noDocument {text : List Char} : (∀ t, ¬ Written text t) → Rejected (.ok (Utf8.encode text))
  | damaged {text : List Char} {t : Tree} : Written text t → Damaged t →
    Rejected (.ok (Utf8.encode text))

/-- The fields of records are given by their names, not as a list. -/
def Named (answer : Except IoError Utf8.Bytes) : Prop :=
  ∀ text t, answer = .ok (Utf8.encode text) → Written text t → ¬ Listed t

section
variable {record : Path} {text text' : List Char} {t t' : Tree}

/-- A document is read if nothing is wrong with it. -/
theorem readable_iff (named : ∀ t, Written text t → ¬ Listed t) :
    (∃ state, ProjectState.reader.ofText text = .ok state) ↔ ∃ t, Written text t ∧ ¬ Damaged t := by
  constructor
  · rintro ⟨state, read⟩
    obtain ⟨t, written, read⟩ := clean_projectState.ofText_iff.1 read
    obtain ⟨entries, legible, -⟩ :=
      (reader_iff written.honest written.whole (named t written)).1 read
    exact ⟨t, written, legible.not_damaged written.whole⟩
  · rintro ⟨t, written, intact⟩
    obtain ⟨entries, legible⟩ := (legible_or_damaged written.whole).resolve_right intact
    obtain ⟨state, read⟩ := legible.read written.honest written.whole
    exact ⟨state, clean_projectState.ofText_iff.2 ⟨t, written, read⟩⟩

theorem rejected_text_iff :
    Rejected (.ok (Utf8.encode text)) ↔ ∀ t, Written text t → Damaged t := by
  constructor
  · intro rejected t written
    generalize same : Utf8.encode text = bytes at rejected
    cases rejected with
    | notText other => exact absurd same.symm (other text)
    | noDocument none =>
      obtain rfl := Utf8.encode_injective same
      exact absurd written (none t)
    | damaged written' damaged =>
      obtain rfl := Utf8.encode_injective same
      rwa [written.unique written']
  · intro damaged
    by_cases isDocument : ∃ t, Written text t
    · obtain ⟨t, written⟩ := isDocument
      exact .damaged written (damaged t written)
    · exact .noDocument fun t written => isDocument ⟨t, written⟩

theorem recalls_error_iff (named : Named answer) (recalls : Recalls record file answer r) :
    (∃ e, r = .error e) ↔ Rejected answer := by
  cases recalls with
  | absent nothing =>
    refine iff_of_false nofun ?_
    rintro (other | -)
    exact other nothing
  | unread other => exact iff_of_true ⟨_, rfl⟩ (.unread other)
  | notText none =>
    refine iff_of_true ⟨_, rfl⟩ (.notText ?_)
    rintro text rfl
    rw [Utf8.decode?_encode] at none
    cases none
  | refused decoded read =>
    obtain rfl := Utf8.decode?_eq_some_iff.1 decoded
    refine iff_of_true ⟨_, rfl⟩ (rejected_text_iff.2 ?_)
    intro t written
    by_contra intact
    obtain ⟨state, read'⟩ :=
      (readable_iff fun t written => named _ t rfl written).2 ⟨t, written, intact⟩
    rw [read] at read'
    cases read'
  | read decoded read =>
    obtain rfl := Utf8.decode?_eq_some_iff.1 decoded
    refine iff_of_false nofun ?_
    intro rejected
    obtain ⟨t, written, intact⟩ :=
      (readable_iff fun t written => named _ t rfl written).1 ⟨_, read⟩
    exact intact (rejected_text_iff.1 rejected t written)

/-- A document that nothing is wrong with is answered with the mark of the file's last entry. -/
theorem recalls_document (written : Written text t) (intact : ¬ Damaged t)
    (recalls : Recalls record file (.ok (Utf8.encode text)) r) :
    ∃ b, r = .ok b ∧ (b = true ↔ Marks file.key t) := by
  obtain ⟨entries, legible⟩ := (legible_or_damaged written.whole).resolve_right intact
  obtain ⟨state, read⟩ := legible.read written.honest written.whole
  have reads : ProjectState.reader.ofText text = .ok state :=
    clean_projectState.ofText_iff.2 ⟨t, written, read⟩
  have marks : state.isMigrated file = true ↔ Marks file.key t :=
    isMigrated_iff written.honest written.whole legible.not_listed read
  generalize same : Utf8.encode text = bytes at recalls
  cases recalls with
  | notText none =>
    rw [← same, Utf8.decode?_encode] at none
    cases none
  | refused decoded fails =>
    obtain rfl := Utf8.encode_injective (same.trans (Utf8.decode?_eq_some_iff.1 decoded))
    rw [reads] at fails
    cases fails
  | read decoded reads' =>
    obtain rfl := Utf8.encode_injective (same.trans (Utf8.decode?_eq_some_iff.1 decoded))
    rw [reads] at reads'
    obtain rfl := Except.ok.inj reads'
    exact ⟨_, rfl, marks⟩

theorem recalls_true_iff (named : Named answer) (recalls : Recalls record file answer r) :
    r = .ok true ↔ ¬ Rejected answer ∧
      ∃ text t, answer = .ok (Utf8.encode text) ∧ Written text t ∧ Marks file.key t := by
  constructor
  · intro marked
    have accepted : ¬ Rejected answer := by
      intro rejected
      obtain ⟨e, rfl⟩ := (recalls_error_iff named recalls).2 rejected
      cases marked
    refine ⟨accepted, ?_⟩
    have again := recalls
    cases recalls with
    | absent | unread | notText | refused => cases marked
    | read decoded reads =>
      obtain rfl := Utf8.decode?_eq_some_iff.1 decoded
      obtain ⟨t, written, intact⟩ :=
        (readable_iff fun t written => named _ t rfl written).1 ⟨_, reads⟩
      obtain ⟨b, same, marks⟩ := recalls_document written intact again
      exact ⟨_, t, rfl, written, marks.1 (Except.ok.inj (same.symm.trans marked))⟩
  · rintro ⟨accepted, text, t, rfl, written, marked⟩
    have intact : ¬ Damaged t := fun damaged => accepted (.damaged written damaged)
    obtain ⟨b, rfl, marks⟩ := recalls_document written intact recalls
    rw [marks.2 marked]

/-- A change that has nothing to do with the marks is no change to the answer. -/
theorem recalls_revised (written : Written text t) (intact : ¬ Damaged t)
    (written' : Written text' t') (revised : Relation.ReflTransGen Revises t t')
    (recalls : Recalls record file (.ok (Utf8.encode text)) r) :
    Recalls record file (.ok (Utf8.encode text')) r := by
  obtain ⟨entries, legible⟩ := (legible_or_damaged written.whole).resolve_right intact
  obtain ⟨entries', legible', same⟩ := revised_legible revised legible
  obtain ⟨r', recalls'⟩ := exists_recalls record file (.ok (Utf8.encode text'))
  obtain ⟨b, rfl, marks⟩ := recalls_document written intact recalls
  have intact' := legible'.not_damaged written'.whole
  obtain ⟨b', rfl, marks'⟩ := recalls_document written' intact' recalls'
  have same : b' = b := Bool.eq_iff_iff.2 ((marks'.trans (same file.key)).trans marks.symm)
  rwa [← same]

end

/-- Whether a file is marked depends on its last entry alone. The store reads the record of the
project and does nothing else; what it cannot read it refuses, and a record that is not there has no
marks. A document is refused whatever is wrong with it, also in the entry of another file; any other
is answered with the mark of the last entry under the key of the file, and changes that have nothing
to do with marks are no changes to any answer. -/
theorem marks_recorded (s : DiskStore) (file : Path) (known : isIdentifier id = true) :
    (∀ events r, Path (s.isMigrated id file) events r →
      ∃ answer, events = [⟨.readFile (s.root / id / "state.json"), answer⟩]) ∧
    ∀ answer, Named answer → ∃ r,
      Path (s.isMigrated id file) [⟨.readFile (s.root / id / "state.json"), answer⟩] r ∧
      ((∃ e, r = .error e) ↔ Rejected answer) ∧
      (∀ e, answer = .error e → e.kind = .notFound → r = .ok false) ∧
      (r = .ok true ↔ ¬ Rejected answer ∧
        ∃ text t, answer = .ok (Utf8.encode text) ∧ Written text t ∧ Marks file.key t) ∧
      ∀ text t text' t', answer = .ok (Utf8.encode text) → Written text t → ¬ Damaged t →
        Written text' t' → Relation.ReflTransGen Revises t t' →
          Path (s.isMigrated id file)
            [⟨.readFile (s.root / id / "state.json"), .ok (Utf8.encode text')⟩] r := by
  constructor
  · intro events r path
    obtain ⟨answer, same, -⟩ := (path_isMigrated_iff known).1 path
    exact ⟨answer, same⟩
  intro answer named
  obtain ⟨r, recalls⟩ := exists_recalls (s.root / id / "state.json") file answer
  refine ⟨r, (path_isMigrated_iff known).2 ⟨answer, rfl, recalls⟩, recalls_error_iff named recalls,
    ?_, recalls_true_iff named recalls, ?_⟩
  · rintro e rfl nothing
    cases recalls with
    | absent => rfl
    | unread other => exact absurd nothing other
  · rintro text t text' t' rfl written intact written' revised
    exact (path_isMigrated_iff known).2
      ⟨_, rfl, recalls_revised written intact written' revised recalls⟩

end

/-! ## Documents that show it -/

def demoStore : DiskStore := ⟨⟨"/projects"⟩⟩

/-- A record of one file, with its mark. -/
def markedRecord : Value :=
  .record [("files", .record [("main.py", .record [("migrated", .bool true)])])]

/-- The same record with other fields beside those that count. -/
def longRecord : Value :=
  .record [("name", .text "demo"),
    ("files", .record [("main.py", .record [("lines", .int 3), ("migrated", .bool true)])])]

/-- The fields of the one entry. -/
def markedFields : List (String × Tree) := [("migrated", .atom (.ok (.bool true)) none)]

def markedEntries : List (String × Tree) := [("main.py", .record (membersOf markedFields))]

theorem markedRecord_legible : Legible markedRecord.tree markedEntries := by
  refine ⟨⟨[("files", .record (membersOf markedEntries))], rfl, .inr valuesOf_cons_self⟩, ?_⟩
  refine List.forall_mem_singleton.2 ⟨true, markedFields, rfl, .inr ⟨_, valuesOf_cons_self, rfl⟩⟩

theorem markedRecord_marks : Marks "main.py" markedRecord.tree := by
  have last : (valuesOf "main.py" markedEntries).getLast? =
      some (.record (membersOf markedFields)) := congrArg List.getLast? valuesOf_cons_self
  have mark : .atom (.ok (.bool true)) none ∈ valuesOf "migrated" markedFields :=
    mem_valuesOf.2 (List.mem_singleton.2 rfl)
  exact markedRecord_legible.marks_iff.2 ⟨_, last, markedFields, rfl, mark⟩

theorem longRecord_revises : Relation.ReflTransGen Revises markedRecord.tree longRecord.tree := by
  let name : String × Tree := ("name", .text (.ok "demo") none)
  let lines : String × Tree := ("lines", (Value.int 3).tree)
  have named : Shuffles "files" [("files", .record (membersOf markedEntries))]
      [name, ("files", .record (membersOf markedEntries))] :=
    @Shuffles.added _ _ _ [] _ (by decide)
  have counted : Shuffles "migrated" markedFields (lines :: markedFields) :=
    @Shuffles.added _ _ _ [] _ (by decide)
  have first : Revises markedRecord.tree (documentOf [name] markedEntries []) := .fields named
  have second : Revises (documentOf [name] markedEntries []) longRecord.tree :=
    @Revises.entry [name] [] [] [] _ _ "main.py" counted
  exact .tail (.single first) second

theorem marks_recorded_demo : isIdentifier "demo" = true ∧
    Path (demoStore.isMigrated "demo" ⟨"main.py"⟩)
      [⟨.readFile (demoStore.root / "demo" / "state.json"),
        .ok (Utf8.encode markedRecord.line.toList)⟩] (.ok true) ∧
    Path (demoStore.isMigrated "demo" ⟨"main.py"⟩)
      [⟨.readFile (demoStore.root / "demo" / "state.json"),
        .ok (Utf8.encode longRecord.line.toList)⟩] (.ok true) := by
  have known : isIdentifier "demo" = true := by decide
  have written := markedRecord.written_line
  have intact := markedRecord_legible.not_damaged written.whole
  have named : Named (.ok (Utf8.encode markedRecord.line.toList)) := by
    intro text t same written'
    obtain rfl := Utf8.encode_injective (Except.ok.inj same)
    exact written.unique written' ▸ markedRecord_legible.not_listed
  have accepted : ¬ Rejected (.ok (Utf8.encode markedRecord.line.toList)) := fun rejected =>
    intact (rejected_text_iff.1 rejected _ written)
  obtain ⟨-, answers⟩ := marks_recorded demoStore ⟨"main.py"⟩ known
  obtain ⟨r, path, -, -, marked, revised⟩ := answers _ named
  have key : (Host.Path.mk "main.py").key = "main.py" := by decide
  obtain rfl := marked.2 ⟨accepted, _, _, rfl, written, key ▸ markedRecord_marks⟩
  exact ⟨known, path,
    revised _ _ _ _ rfl written intact longRecord.written_line longRecord_revises⟩

/-! ## What is refused without a value of the wrong type -/

/-- A file stands where the directory of the project should be. -/
def blockedMachine : Machine :=
  ⟨.directory 0o755 [("projects", .directory 0o755 [("demo", .file 0o644 [])])], [], [], 1, 0, 0,
    [], 100⟩

/-- A record of one unknown field, with half a surrogate pair for its name. -/
def halfNamed : List Char :=
  ['\x7b', '"', '\\', 'u', 'd', '8', '0', '0', '"', ':', '1', '\x7d']

def halfTree : Tree :=
  .record (.cons (.error .malformed) none (.atom (.ok (.number (.int 1))) none) .closed)

theorem halfNamed_written : Written halfNamed halfTree := by
  refine ⟨?_, rfl⟩
  have half : IsUnit ['d', '8', '0', '0'] (((13 * 16 + 8) * 16 + 0) * 16 + 0) :=
    .mk rfl rfl rfl rfl
  have alone : ¬ GoesOnLow [] := by
    rintro ⟨u, n, rest, -, -, same⟩
    cases same
  have name : Body ['\\', 'u', 'd', '8', '0', '0'] (.error .malformed) :=
    .half half (.inr ⟨rfl, alone⟩) .nil
  have digit : AreDigits ['1'] := ⟨List.cons_ne_nil _ _, List.forall_mem_singleton.2 rfl⟩
  have one : IsNumeral ['1'] ⟨false, [1], none, none⟩ :=
    .positive (.mk digit nofun .absent .absent)
  have close : Lexes ['\x7d'] [.recordClose] := .sign .recordClose .done
  have value : Lexes ['1', '\x7d'] [.atom (.ok (.number (.int 1))) none, .recordClose] :=
    .numeral one (Value.stops_sign .recordClose) close
  exact .sign .recordOpen (.text name (.sign .colon value))

theorem halfTree_named : ¬ Listed halfTree := by
  intro listed
  generalize same : halfTree = t at listed
  cases listed with
  | whole => cases same
  | @entry fields =>
    have unnamed : .error .malformed ∈ (membersOf fields).names :=
      Tree.record.inj same ▸ List.mem_singleton.2 rfl
    exact named_membersOf unnamed

theorem blocked_unread : Recalls (demoStore.root / "demo" / "state.json") ⟨"main.py"⟩
    (Files.read blockedMachine.view (demoStore.root / "demo" / "state.json"))
    (.error ⟨"read project state: /projects/demo/state.json",
      ["Not a directory (os error 20)"]⟩) := by
  have absolute : (demoStore.root / "demo" / "state.json").isAbsolute = true := by decide
  have isFile : blockedMachine.files.get? ["projects", "demo"] = some (.file 0o644 []) := rfl
  have wall : Stuck blockedMachine.files linkLimit false ["projects"]
      [.down "demo", .down "state.json"] .notDirectory :=
    .wall (by decide) isFile (by decide) rfl (.inl (by decide))
  have stuck : Stuck blockedMachine.files linkLimit false []
      [.down "projects", .down "demo", .down "state.json"] .notDirectory :=
    .onward (by decide) rfl rfl wall
  have failed : lookup blockedMachine.files [] (demoStore.root / "demo" / "state.json") =
      .error .notDirectory :=
    (lookup_error_iff absolute rfl).2 (stuck.hindered (by decide) (by decide) (by decide))
  have answer : Files.read blockedMachine.view (demoStore.root / "demo" / "state.json") =
      .error .notDirectory := by
    change (do Files.contents (← lookup blockedMachine.files [] _).2) = _
    rw [failed]
    rfl
  rw [answer]
  exact .unread (by decide)

/-- A record that is not there may be an error, where something else is in the way, and so may one
of which all values have their types. -/
theorem record_unread :
    (blockedMachine.files.get? ["projects", "demo", "state.json"] = none ∧
      blockedMachine.run Sandbox.willing (demoStore.isMigrated "demo" ⟨"main.py"⟩) =
        (.error ⟨"read project state: /projects/demo/state.json",
          ["Not a directory (os error 20)"]⟩, blockedMachine)) ∧
    Written halfNamed halfTree ∧
      ∃ e, Path (demoStore.isMigrated "demo" ⟨"main.py"⟩)
        [⟨.readFile (demoStore.root / "demo" / "state.json"), .ok (Utf8.encode halfNamed)⟩]
        (.error e) := by
  have known : isIdentifier "demo" = true := by decide
  refine ⟨⟨rfl, run_isMigrated known blocked_unread⟩, halfNamed_written, ?_⟩
  obtain ⟨r, recalls⟩ := exists_recalls (demoStore.root / "demo" / "state.json") ⟨"main.py"⟩
    (.ok (Utf8.encode halfNamed))
  have named : Named (.ok (Utf8.encode halfNamed)) := by
    intro text t same written
    obtain rfl := Utf8.encode_injective (Except.ok.inj same)
    exact halfNamed_written.unique written ▸ halfTree_named
  have damaged : Damaged halfTree := .unnamed (List.mem_singleton.2 rfl)
  obtain ⟨e, rfl⟩ := (recalls_error_iff named recalls).2 (.damaged halfNamed_written damaged)
  exact ⟨e, (path_isMigrated_iff known).2 ⟨_, rfl, recalls⟩⟩

end Tandem.Project
