import Tandem.Project.OutcomeForm
import Tandem.Proofs.Document.Reading

/-!
Faults, run records, reports and outcomes are read back from their written forms.

A record of a run leaves out the signal and the fault that it has not got, and its reader takes a
field that is not there for an absent one. Numbers are kept where the reader finds them again; the
rest is kept always.
-/

namespace Tandem

open Tandem.Compare Tandem.Document Tandem.Document.Reader Tandem.Number Tandem.Project
  Tandem.Sandbox

namespace Sandbox

theorem FaultKind.restores (kind : FaultKind) : reader.Restores (.text kind.name) kind := by
  apply restores_variant
  cases kind <;> rfl

theorem Fault.distinct_fields (f : Fault) : (f.value.fields.map Prod.fst).Nodup := by
  simp [value, Value.fields]

theorem Fault.restores (f : Fault) : reader.Restores f.value f := by
  intro w same
  have kind : Has f.value.fields "kind" FaultKind.reader f.kind :=
    ⟨.text f.kind.name, rfl, FaultKind.restores f.kind⟩
  have message : Has f.value.fields "message" string f.message :=
    ⟨.text f.message, rfl, restores_string f.message⟩
  have suits : ∀ f' ∈ [field "kind" FaultKind.reader false, field "message" string false],
      Suits f.value.fields f' := by
    simp only [List.forall_mem_cons]
    exact ⟨kind.suits, message.suits, by simp⟩
  obtain ⟨found, read, finds⟩ := fields_of_sorted "SandboxFault" f.distinct_fields suits same
  simp only [List.forall_mem_cons] at finds
  unfold reader
  rw [read]
  simp only [bind, Except.bind, kind.required finds.1, message.required finds.2.1]
  rfl

/-! ## Runs -/

theorem optional_exitValue (code : Int32) :
    (optional int32).Restores (exitValue code) (some code) := by
  apply restores_optional _ (restores_int32 code)
  intro passing
  exact nofun

theorem optional_fault (f : Fault) : (optional Fault.reader).Restores f.value (some f) := by
  apply restores_optional _ f.restores
  intro passing
  exact nofun

section
variable {α : Type} {r : Reader α} {write : α → Value} {name : String}

@[simp] theorem lookup_fieldOf? (a : Option α) (n : String) :
    (fieldOf? name write a).lookup n = if n = name then a.map write else none := by
  cases a with
  | none => simp [fieldOf?]
  | some a => exact Value.lookup_cons_if n name (write a) []

theorem mayHave_of_lookup {fields : List (String × Value)} {a : Option α}
    (there : fields.lookup name = a.map write)
    (restores : ∀ b, (optional r).Restores (write b) (some b)) : MayHave fields name r a := by
  cases a with
  | none => exact .inr ⟨there, rfl⟩
  | some a => exact .inl ⟨_, there, restores a⟩

end

namespace Record

theorem distinct_fields (r : Record) : (r.value.fields.map Prod.fst).Nodup := by
  cases signal : r.exitSignal <;> cases fault : r.fault <;>
    simp [value, Value.fields, fieldOf?, signal, fault]

theorem has_exitCode (r : Record) : Has r.value.fields "exit_code" (optional int32) r.exitCode := by
  refine ⟨(r.exitCode.map exitValue).getD .null, by simp [value, Value.fields], ?_⟩
  cases r.exitCode with
  | none => exact restores_null
  | some code => exact optional_exitValue code

theorem has_timedOut (r : Record) : Has r.value.fields "timed_out" bool r.timedOut :=
  ⟨.bool r.timedOut, by simp [value, Value.fields, List.lookup_append], restores_bool _⟩

theorem restores {r : Record} (back : ReadsBack r.elapsedMs) : reader.Restores r.value r := by
  intro w same
  have signal : MayHave r.value.fields "exit_signal" int32 r.exitSignal :=
    mayHave_of_lookup (by simp [value, Value.fields, List.lookup_append]) optional_exitValue
  have out : Has r.value.fields "stdout" string r.stdout :=
    ⟨.text r.stdout, by simp [value, Value.fields, List.lookup_append], restores_string _⟩
  have err : Has r.value.fields "stderr" string r.stderr :=
    ⟨.text r.stderr, by simp [value, Value.fields, List.lookup_append], restores_string _⟩
  have truncated : Has r.value.fields "truncated" bool r.truncated :=
    ⟨.bool r.truncated, by simp [value, Value.fields, List.lookup_append], restores_bool _⟩
  have elapsed : Has r.value.fields "execution_time_ms" double r.elapsedMs :=
    ⟨.real r.elapsedMs, by simp [value, Value.fields, List.lookup_append], restores_double back⟩
  have limited : Has r.value.fields "memory_limit_enforced" bool r.memoryLimited :=
    ⟨.bool r.memoryLimited, by simp [value, Value.fields, List.lookup_append], restores_bool _⟩
  have fault : MayHave r.value.fields "fault" Fault.reader r.fault :=
    mayHave_of_lookup (by simp [value, Value.fields, List.lookup_append]) optional_fault
  have suits : ∀ f ∈ known, Suits r.value.fields f := by
    simp only [known, List.forall_mem_cons]
    exact ⟨r.has_exitCode.suits, signal.suits, out.suits, err.suits, truncated.suits,
      r.has_timedOut.suits, elapsed.suits, limited.suits, fault.suits, by simp⟩
  obtain ⟨found, read, finds⟩ := fields_of_sorted "ExecutionResult" r.distinct_fields suits same
  simp only [known, List.forall_mem_cons] at finds
  obtain ⟨f1, f2, f3, f4, f5, f6, f7, f8, f9, -⟩ := finds
  unfold reader
  rw [read]
  simp only [bind, Except.bind, r.has_exitCode.absent f1, signal.absent f2, out.required f3,
    err.required f4, truncated.required f5, r.has_timedOut.required f6, elapsed.required f7,
    limited.required f8, fault.absent f9]
  rfl

end Record

end Sandbox

/-! ## Comparisons -/

namespace Compare.Report

theorem distinct_fields (r : Report) : (r.value.fields.map Prod.fst).Nodup := by
  simp [value, Value.fields]

theorem restores {r : Report} (back : ReadsBack r.similarity) : reader.Restores r.value r := by
  intro w same
  have outputs : Has r.value.fields "outputs_match" bool r.outputsMatch :=
    ⟨.bool r.outputsMatch, rfl, restores_bool _⟩
  have codes : Has r.value.fields "exit_codes_match" bool r.exitCodesMatch :=
    ⟨.bool r.exitCodesMatch, rfl, restores_bool _⟩
  have diff : Has r.value.fields "diff_lines" (list string) r.diffLines :=
    ⟨texts r.diffLines, rfl, restores_texts _⟩
  have similarity : Has r.value.fields "similarity_pct" double r.similarity :=
    ⟨.real r.similarity, rfl, restores_double back⟩
  have warnings : Has r.value.fields "warnings" (list string) r.warnings :=
    ⟨texts r.warnings, rfl, restores_texts _⟩
  have suits : ∀ f ∈ known, Suits r.value.fields f := by
    simp only [known, List.forall_mem_cons]
    exact ⟨outputs.suits, codes.suits, diff.suits, similarity.suits, warnings.suits, by simp⟩
  obtain ⟨found, read, finds⟩ := fields_of_sorted "ComparisonReport" r.distinct_fields suits same
  simp only [known, List.forall_mem_cons] at finds
  obtain ⟨f1, f2, f3, f4, f5, -⟩ := finds
  unfold reader
  rw [read]
  simp only [bind, Except.bind, outputs.required f1, codes.required f2, diff.required f3,
    similarity.required f4, warnings.required f5]
  rfl

end Compare.Report

namespace Project

theorem Status.restores (s : Status) : reader.Restores (.text s.name) s := by
  apply restores_variant
  cases s <;> rfl

namespace Outcome

/-- The three numbers of an outcome are read back from their texts. -/
structure NumbersReadBack (o : Outcome) : Prop where
  source : ReadsBack o.source.elapsedMs
  target : ReadsBack o.target.elapsedMs
  similarity : ReadsBack o.report.similarity

theorem distinct_fields (o : Outcome) : (o.value.fields.map Prod.fst).Nodup := by
  simp [value, Value.fields]

theorem restores {o : Outcome} (back : o.NumbersReadBack) : reader.Restores o.value o := by
  intro w same
  have project : Has o.value.fields "project_id" string o.projectId :=
    ⟨.text o.projectId, rfl, restores_string _⟩
  have file : Has o.value.fields "file_path" string o.filePath :=
    ⟨.text o.filePath, rfl, restores_string _⟩
  have status : Has o.value.fields "status" Status.reader o.status :=
    ⟨.text o.status.name, rfl, Status.restores _⟩
  have source : Has o.value.fields "source" Record.reader o.source :=
    ⟨o.source.value, rfl, Record.restores back.source⟩
  have target : Has o.value.fields "target" Record.reader o.target :=
    ⟨o.target.value, rfl, Record.restores back.target⟩
  have report : Has o.value.fields "report" Report.reader o.report :=
    ⟨o.report.value, rfl, Report.restores back.similarity⟩
  have suits : ∀ f ∈ known, Suits o.value.fields f := by
    simp only [known, List.forall_mem_cons]
    exact ⟨project.suits, file.suits, status.suits, source.suits, target.suits, report.suits,
      by simp⟩
  obtain ⟨found, read, finds⟩ := fields_of_sorted "CompareOutcome" o.distinct_fields suits same
  simp only [known, List.forall_mem_cons] at finds
  obtain ⟨f1, f2, f3, f4, f5, f6, -⟩ := finds
  unfold reader
  rw [read]
  simp only [bind, Except.bind, project.required f1, file.required f2, status.required f3,
    source.required f4, target.required f5, report.required f6]
  rfl

end Outcome

end Project

end Tandem
