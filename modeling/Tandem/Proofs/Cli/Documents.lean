import Tandem.Cli.Reply
import Tandem.Proofs.Project.OutcomeForm

/-!
What the documents of the command line say.

* `holds_text`, `holds_out`: both layouts of a document are texts of one tree.
* `compareDocument_shows`, `runDocument_gives`: the tree has each part of what was to be said.
* `documents_lose_nothing`: so neither the written forms of values nor the documents lose anything.
-/

namespace Tandem.Cli

open Tandem.Compare Tandem.Document Tandem.Document.Reader Tandem.Host Tandem.Project Tandem.Sandbox

/-- The text is that of one document with nothing wrong in it, and `t` is the document's tree. -/
def Holds (text : String) (t : Tree) : Prop :=
  Tree.ofText text.toList = (t, []) ∧ t.passing = none

/-- A document is read as its tree, whatever white space follows it. -/
theorem ofText_text (a : Announcement) {rest : List Char} (ends : Stops rest)
    (blank : tokens rest = []) :
    Tree.ofText (a.text.toList ++ rest) = (a.document.sorted.tree, []) := by
  unfold Announcement.text
  cases a.layout with
  | line => simpa [Value.line] using a.document.sorted.ofText_compact ends blank
  | page => simpa [Value.page] using a.document.sorted.ofText_pretty ends blank

theorem holds_text (a : Announcement) : Holds a.text a.document.sorted.tree := by
  refine ⟨?_, a.document.sorted.passing_tree⟩
  have read := ofText_text a stops_nil (by rw [tokens])
  rwa [List.append_nil] at read

/-- A document that is put out is followed by the end of its line. -/
theorem holds_out {r : Reply} {a : Announcement} (h : r.announcement = some a) :
    Holds r.out a.document.sorted.tree := by
  refine ⟨?_, a.document.sorted.passing_tree⟩
  have ends : Stops ['\n'] := stops_cons (by decide) (by decide) (by decide)
  have blank : tokens ['\n'] = [] := by rw [Value.tokens_space (by decide), tokens]
  have text : r.out.toList = a.text.toList ++ ['\n'] := by simp [Reply.out, Reply.line, h]
  rw [text]
  exact ofText_text a ends blank

/-! ## What stands in a document -/

/-- A record with names that differ. -/
structure IsDocument (v : Value) : Prop where
  isRecord : v = .record v.fields
  distinct : (v.fields.map Prod.fst).Nodup

section
variable {α : Type} {v u : Value} {r : Reader α} {a : α} {name : String} {names : List String}

theorem IsDocument.gives (h : IsDocument v) (has : Has v.fields name r a) :
    v.sorted.tree.Gives [name] r a := by
  apply has.gives h.distinct
  rw [← h.isRecord, v.sorted_sorted]

theorem IsDocument.gives_inside (h : IsDocument v) (there : v.fields.lookup name = some u)
    (inside : ∀ w : Value, w.sorted = u.sorted → w.tree.Gives names r a) :
    v.sorted.tree.Gives (name :: names) r a := by
  refine gives_of_sorted h.distinct ?_ there inside
  rw [← h.isRecord, v.sorted_sorted]

end

theorem isDocument_compare (o : Outcome) : IsDocument (compareDocument o) :=
  ⟨rfl, by simp [compareDocument, Value.fields]⟩

theorem isDocument_run (interpreter entry : Path) (r : Record) :
    IsDocument (runDocument interpreter entry r) :=
  ⟨rfl, by simp [runDocument, Value.fields]⟩

theorem isDocument_probe (interpreter : Path) (available : Bool) :
    IsDocument (probeDocument interpreter available) :=
  ⟨rfl, by simp [probeDocument, Value.fields]⟩

theorem isDocument_error (version kind message : String) :
    IsDocument (errorDocument version kind message) :=
  ⟨rfl, by simp [errorDocument, Value.fields]⟩

/-- What a comparison's document gives back. -/
structure Shows (t : Tree) (o : Outcome) : Prop where
  version : t.Gives ["schema_version"] string compareVersion
  ok : t.Gives ["ok"] bool true
  projectId : t.Gives ["project_id"] string o.projectId
  filePath : t.Gives ["file_path"] string o.filePath
  status : t.Gives ["status"] Status.reader o.status
  source : t.Gives ["source"] Record.reader o.source
  target : t.Gives ["target"] Record.reader o.target
  outputsMatch : t.Gives ["outputs_match"] bool o.report.outputsMatch
  exitCodesMatch : t.Gives ["exit_codes_match"] bool o.report.exitCodesMatch
  similarity : t.Gives ["similarity_pct"] double o.report.similarity
  diffLines : t.Gives ["diff_lines"] (list string) o.report.diffLines
  warnings : t.Gives ["warnings"] (list string) o.report.warnings

theorem compareDocument_shows {o : Outcome} (back : o.NumbersReadBack) :
    Shows (compareDocument o).sorted.tree o := by
  have gives {α : Type} {r : Reader α} {a : α} {v : Value} (name : String)
      (there : (compareDocument o).fields.lookup name = some v) (restores : r.Restores v a) :
      (compareDocument o).sorted.tree.Gives [name] r a :=
    (isDocument_compare o).gives ⟨v, there, restores⟩
  exact {
    version := gives _ rfl (restores_string _)
    ok := gives _ rfl (restores_bool _)
    projectId := gives _ rfl (restores_string _)
    filePath := gives _ rfl (restores_string _)
    status := gives _ rfl (Status.restores _)
    source := gives _ rfl (Record.restores back.source)
    target := gives _ rfl (Record.restores back.target)
    outputsMatch := gives _ rfl (restores_bool _)
    exitCodesMatch := gives _ rfl (restores_bool _)
    similarity := gives _ rfl (restores_double back.similarity)
    diffLines := gives _ rfl (restores_texts _)
    warnings := gives _ rfl (restores_texts _) }

theorem runDocument_gives {r : Record} (interpreter entry : Path) (back : ReadsBack r.elapsedMs) :
    (runDocument interpreter entry r).sorted.tree.Gives ["result"] Record.reader r :=
  (isDocument_run interpreter entry r).gives ⟨r.value, rfl, Record.restores back⟩

/-! ## Nothing is lost -/

/-- Faults, records, reports and outcomes are read back from each text of them, and outcomes and
records from the documents that announce them, in either layout. A double is taken to be read back
from its own text: the reader scales by powers of ten in doubles, so this says something about the
number. -/
theorem documents_lose_nothing (f : Fault) {r : Record} {c : Report} {o : Outcome}
    (interpreter entry : Path) (elapsed : ReadsBack r.elapsedMs)
    (similarity : ReadsBack c.similarity) (numbers : o.NumbersReadBack) :
    Fault.reader.Recovers f.value f ∧ Record.reader.Recovers r.value r ∧
      Report.reader.Recovers c.value c ∧ Outcome.reader.Recovers o.value o ∧
      (∃ t, (∀ layout, Holds (Announcement.mk layout (compareDocument o)).text t) ∧ Shows t o) ∧
      ∃ t, (∀ layout, Holds (Announcement.mk layout (runDocument interpreter entry r)).text t) ∧
        t.Gives ["result"] Record.reader r := by
  have compared : ∀ layout, Holds (Announcement.mk layout (compareDocument o)).text
      (compareDocument o).sorted.tree := by
    intro layout
    exact holds_text ⟨layout, compareDocument o⟩
  have ran : ∀ layout, Holds (Announcement.mk layout (runDocument interpreter entry r)).text
      (runDocument interpreter entry r).sorted.tree := by
    intro layout
    exact holds_text ⟨layout, runDocument interpreter entry r⟩
  refine ⟨f.restores.recovers, (Record.restores elapsed).recovers,
    (Report.restores similarity).recovers, (Outcome.restores numbers).recovers, ?_, ?_⟩
  · exact ⟨_, compared, compareDocument_shows numbers⟩
  · exact ⟨_, ran, runDocument_gives interpreter entry elapsed⟩

/-! ## An outcome with everything in it that has to be escaped -/

/-- A quote, a backslash, control characters with and without a short escape, and a line
separator. -/
def awkward : String := "\"\\\n\x01\x7f\u2028é"

def awkwardFault : Fault := ⟨.unsafePath, awkward⟩

/-- A run that was ended by a signal after one and a half milliseconds. -/
def signalled : Record where
  exitCode := none
  exitSignal := some 9
  stdout := awkward
  stderr := ""
  truncated := true
  timedOut := true
  elapsedMs := ⟨false, 6755399441055744, -52, by decide⟩
  memoryLimited := false
  fault := none

def awkwardReport : Report := ⟨false, false, [awkward, ""], .zero false, [awkward]⟩

def awkwardOutcome : Outcome :=
  ⟨awkward, "main.py", .targetFailed, signalled, .ofFault awkwardFault, awkwardReport⟩

theorem readsBack_zero : ReadsBack (.zero false) := by
  apply readsBack_of_number
  decide +kernel

theorem readsBack_signalled : ReadsBack signalled.elapsedMs := by
  apply readsBack_of_number
  decide +kernel

theorem awkward_documents_lose_nothing :
    awkwardOutcome.NumbersReadBack ∧
      Outcome.reader.ofText awkwardOutcome.value.line.toList = .ok awkwardOutcome ∧
      ∃ t, Holds (Announcement.mk .line (compareDocument awkwardOutcome)).text t ∧
        Holds (Announcement.mk .page (compareDocument awkwardOutcome)).text t ∧
        t.Gives ["source"] Record.reader signalled ∧
        t.Gives ["diff_lines"] (list string) [awkward, ""] := by
  have numbers : awkwardOutcome.NumbersReadBack :=
    ⟨readsBack_signalled, readsBack_zero, readsBack_zero⟩
  obtain ⟨-, -, -, outcome, ⟨t, texts, shows⟩, -⟩ := documents_lose_nothing awkwardFault
    ⟨"python3"⟩ ⟨"main.py"⟩ readsBack_signalled (c := awkwardReport) readsBack_zero numbers
  exact ⟨numbers, (outcome _ rfl).1, t, texts .line, texts .page, shows.source, shows.diffLines⟩

end Tandem.Cli
