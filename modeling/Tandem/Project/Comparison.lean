import Tandem.Compare.Hazard
import Tandem.Config.Settings
import Tandem.Project.Entry
import Tandem.Project.Store
import Tandem.Sandbox.Probe
import Tandem.Sandbox.Run

/-!
The comparison of a file of a project under both runtimes.

* `check` goes through everything that can refuse a comparison, in a fixed order, before any working
  directory exists. What only looks at the request comes first, what starts a process last.
* `runSide` runs one side in a copy of its tree. What goes wrong there becomes a record.
* `conclude` compares the two records, so that a comparison that was not refused has an outcome.
-/

namespace Tandem.Project

open Tandem.Config Tandem.Host Tandem.Sandbox Tandem.Text

/-- What someone asks to have compared. -/
structure Inquiry where
  projectId : String
  file : Path
  timeoutSeconds : Option UInt64
  input : Option String
deriving DecidableEq, Repr

/-- A checked inquiry: all that its two runs need. -/
structure Plan where
  inquiry : Inquiry
  timeoutSeconds : UInt64
  sourceTree : Path
  migratedTree : Path
  /-- What the source file's text lets expect. -/
  warnings : List String
deriving DecidableEq, Repr

namespace Plan

def tree (p : Plan) : Runtime → Path
  | .source => p.sourceTree
  | .target => p.migratedTree

end Plan

/-- The interpreter of a runtime. -/
def interpreterOf (s : Settings) : Runtime → Path
  | .source => s.sourceInterpreter
  | .target => s.targetInterpreter

/-- The timeout that is asked for, within the limits of the settings. -/
def timeoutFor (s : Settings) (q : Inquiry) : Except Refusal UInt64 :=
  let timeout := q.timeoutSeconds.getD s.timeoutSeconds
  if timeout = 0 ∨ s.maxTimeoutSeconds < timeout then
    .error <| .invalidRequest <|
      s!"timeout_seconds must be between 1 and {s.maxTimeoutSeconds.toNat}, got {timeout.toNat}"
  else .ok timeout

/-- What only looks at the request: its timeout, its project and its path. -/
def checkRequest (s : Settings) (q : Inquiry) : Except Refusal UInt64 := do
  let timeout ← timeoutFor s q
  if !isIdentifier q.projectId then throw (.invalidProjectId q.projectId)
  if q.file.isEmpty then throw (.invalidRequest "file path is empty")
  if !q.file.isSafe then throw (.pathTraversal q.file)
  return timeout

/-- An answer of the store. -/
def fromStore {α : Type} (t : Task host (Except Chain α)) : ExceptT Refusal (Task host) α := do
  match ← t with
  | .ok a => return a
  | .error e => throw (.store e)

/-- A value that has to be there. -/
def orRefuse {α : Type} (r : Refusal) : Option α → ExceptT Refusal (Task host) α
  | some a => return a
  | none => throw r

/-- Both trees, and the entry file in the source tree. The migrated tree has to hold the entry too,
and the file has to be recorded as migrated. -/
def checkTrees (store : ProjectStore) (q : Inquiry) :
    ExceptT Refusal (Task host) (Path × Path × Path) := do
  let source ← orRefuse (.projectNotFound q.projectId) (← fromStore (store.sourceTree q.projectId))
  let entry ← orRefuse (.fileNotFound q.file) (← resolveEntry source q.file)
  if !(← fromStore (store.isMigrated q.projectId q.file)) then throw (.notMigrated q.file)
  let migrated ← orRefuse (.notMigrated q.file) (← fromStore (store.migratedTree q.projectId))
  let _ ← orRefuse (.notMigrated q.file) (← resolveEntry migrated q.file)
  return (source, migrated, entry)

/-- Whether the interpreter of a runtime answers. -/
def checkInterpreter (s : Settings) (r : Runtime) : ExceptT Refusal (Task host) Unit := do
  if !(← Probe.available (interpreterOf s r)) then
    throw (.interpreterUnavailable r (interpreterOf s r))

/-- Everything that can refuse a comparison. -/
def check (s : Settings) (store : ProjectStore) (q : Inquiry) :
    ExceptT Refusal (Task host) Plan := do
  let timeout ← (checkRequest s q : Except Refusal UInt64)
  let (source, migrated, entry) ← checkTrees store q
  checkInterpreter s .source
  checkInterpreter s .target
  match ← ask (.readFile entry) with
  | .error e =>
    throw (.store ((Chain.one e.message).within s!"read source file: {entry.text}"))
  | .ok bytes =>
    return ⟨q, timeout, source, migrated, Compare.hazards (String.ofList (Utf8.decode bytes))⟩

/-- The parent of working directories. -/
def scratchDirectory (s : Settings) : Task host Path :=
  match s.scratchDir with
  | some path => return path
  | none => do return temporaryDirectory (← ask .environment)

/-- The run of one side. A fault of the sandbox gives the record of a run that never started. -/
def runSide (s : Settings) (p : Plan) (r : Runtime) : Task host Record := do
  match ← WorkDir.seed (← scratchDirectory s) (p.tree r) r.directoryName with
  | .error e => return .ofFault (SandboxError.ofPreparation e).fault
  | .ok directory =>
    let request : Request := {
      interpreter := interpreterOf s r
      directory
      entry := p.inquiry.file
      input := p.inquiry.input
      limits := s.limits p.timeoutSeconds
      moduleVariable := s.moduleVariable? }
    match ← request.run with
    | .ok record => return record
    | .error e => return .ofFault e.fault

/-- The record of a side that broke down without leaving one. -/
def brokenDown (r : Runtime) : Record := .ofFault ⟨.io, s!"{r.name} run panicked"⟩

/-- What is said about a side that never started. -/
def faultWarning? (r : Runtime) (record : Record) : Option String :=
  record.fault.map fun f =>
    s!"The {r.name} runtime could not run ({f.kind.name}): {f.message}"

/-- The outcome of two runs. Warnings come in the order of the file's text, the comparison, and the
sides that never started. -/
def conclude (p : Plan) (source target : Option Record) : Outcome :=
  let source := source.getD (brokenDown .source)
  let target := target.getD (brokenDown .target)
  let report := Compare.Report.of source target
  { projectId := p.inquiry.projectId
    filePath := p.inquiry.file.text
    status := .of source target
    source, target
    report := { report with
      warnings := p.warnings ++ report.warnings ++ (faultWarning? .source source).toList ++
        (faultWarning? .target target).toList } }

/-- The comparison: refused, or else run on both sides side by side. -/
def compare (s : Settings) (store : ProjectStore) (q : Inquiry) :
    Task host (Except Refusal Outcome) := do
  match ← (check s store q).run with
  | .error r => return .error r
  | .ok plan =>
    let (source, target) ← both (runSide s plan .source) (runSide s plan .target)
    return .ok (conclude plan (some source) (some target))

end Tandem.Project
