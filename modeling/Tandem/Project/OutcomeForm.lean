import Tandem.Compare.ReportForm
import Tandem.Project.Outcome
import Tandem.Sandbox.RecordForm

/-!
The written form of outcomes.
-/

namespace Tandem.Project

open Tandem.Compare Tandem.Document Tandem.Sandbox

def Runtime.reader : Reader Runtime := Reader.variant (Runtime.all.map fun r => (r.name, r))

def Status.reader : Reader Status := Reader.variant (Status.all.map fun s => (s.name, s))

namespace Outcome

def value (o : Outcome) : Value :=
  .record
    [("project_id", .text o.projectId), ("file_path", .text o.filePath),
     ("status", .text o.status.name), ("source", o.source.value), ("target", o.target.value),
     ("report", o.report.value)]

def known : List Reader.Field :=
  [Reader.field "project_id" Reader.string false,
   Reader.field "file_path" Reader.string false,
   Reader.field "status" Status.reader false,
   Reader.field "source" Record.reader false,
   Reader.field "target" Record.reader false,
   Reader.field "report" Report.reader false]

def reader : Reader Outcome := fun t => do
  let fs ← Reader.fields "CompareOutcome" false known t
  return {
    projectId := ← Reader.required "project_id" Reader.string fs
    filePath := ← Reader.required "file_path" Reader.string fs
    status := ← Reader.required "status" Status.reader fs
    source := ← Reader.required "source" Record.reader fs
    target := ← Reader.required "target" Record.reader fs
    report := ← Reader.required "report" Report.reader fs }

end Outcome

end Tandem.Project
