import Tandem.Host.Path
import Tandem.Project.OutcomeForm

/-!
The documents that the command line writes. Each carries the version of its kind.

An `Announcement` is a document with its layout. Its text has the fields in order of their names.
-/

namespace Tandem.Cli

open Tandem.Document Tandem.Host Tandem.Project Tandem.Sandbox

def runVersion : String := "parity.run.report@0.1.0"

def compareVersion : String := "parity.compare.report@0.1.0"

def probeVersion : String := "parity.probe.report@0.1.0"

def compareDocument (o : Outcome) : Value :=
  .record
    [("schema_version", .text compareVersion), ("ok", .bool true),
     ("project_id", .text o.projectId), ("file_path", .text o.filePath),
     ("status", .text o.status.name), ("outputs_match", .bool o.report.outputsMatch),
     ("exit_codes_match", .bool o.report.exitCodesMatch),
     ("similarity_pct", .real o.report.similarity),
     ("diff_lines", Compare.Report.texts o.report.diffLines),
     ("warnings", Compare.Report.texts o.report.warnings),
     ("source", o.source.value), ("target", o.target.value)]

def runDocument (interpreter entry : Path) (r : Record) : Value :=
  .record
    [("schema_version", .text runVersion), ("ok", .bool true),
     ("interpreter", .text interpreter.text), ("entry_file", .text entry.text),
     ("result", r.value)]

def probeDocument (interpreter : Path) (available : Bool) : Value :=
  .record
    [("schema_version", .text probeVersion), ("interpreter", .text interpreter.text),
     ("available", .bool available)]

def errorDocument (version kind message : String) : Value :=
  .record
    [("schema_version", .text version), ("ok", .bool false),
     ("error", .record [("kind", .text kind), ("message", .text message)])]

/-- How a document is laid out. -/
inductive Layout where
  | line
  | page
deriving DecidableEq, Repr

structure Announcement where
  layout : Layout
  document : Value

def Announcement.text (a : Announcement) : String :=
  match a.layout with
  | .line => a.document.sorted.line
  | .page => a.document.sorted.page

end Tandem.Cli
