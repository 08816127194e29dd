import Tandem.Host.Chain
import Tandem.Host.Path
import Tandem.Project.Outcome
import Tandem.Text.Identifier
import Tandem.Text.Quoted

/-!
Reasons to refuse a comparison before either program runs.
-/

namespace Tandem.Project

open Tandem.Host Tandem.Text

inductive Refusal where
  | invalidRequest (message : String)
  | invalidProjectId (projectId : String)
  | projectNotFound (projectId : String)
  | pathTraversal (file : Path)
  | fileNotFound (file : Path)
  | notMigrated (file : Path)
  | interpreterUnavailable (runtime : Runtime) (interpreter : Path)
  | store (failure : Chain)
deriving DecidableEq, Repr

namespace Refusal

def kind : Refusal → String
  | invalidRequest _ => "invalid_request"
  | invalidProjectId _ => "invalid_project_id"
  | projectNotFound _ => "project_not_found"
  | pathTraversal _ => "path_traversal"
  | fileNotFound _ => "file_not_found"
  | notMigrated _ => "not_migrated"
  | interpreterUnavailable .. => "interpreter_unavailable"
  | store _ => "store"

def message : Refusal → String
  | invalidRequest message => s!"invalid request: {message}"
  | invalidProjectId id =>
    s!"invalid project id {quoted id} (expected {identifierForm})"
  | projectNotFound id => s!"project not found: {id}"
  | pathTraversal file => s!"file path escapes the project root: {file.text}"
  | fileNotFound file => s!"file not found in project source: {file.text}"
  | notMigrated file =>
    s!"{file.text} has not been transformed yet; migrate it before running a comparison"
  | interpreterUnavailable runtime interpreter =>
    s!"{runtime.name} runtime not available: {interpreter.text} did not answer --version"
  | store failure => s!"project store: {failure.text}"

/-- The failure behind a refusal, in its outermost words. -/
def cause? : Refusal → Option String
  | store failure => some failure.outer
  | _ => none

end Refusal

end Tandem.Project
