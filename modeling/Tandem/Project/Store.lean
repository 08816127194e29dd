import Tandem.Host.Call
import Tandem.Host.Chain
import Tandem.Project.State
import Tandem.Text.Identifier
import Tandem.Text.Quoted

/-!
Where projects are kept.

A project on disk is a directory with the trees `source` and `migrated` and the record `state.json`.
-/

namespace Tandem.Project

open Tandem.Document Tandem.Host Tandem.Text

/-- What a store of projects can be asked. A tree that does not exist is none. -/
structure ProjectStore where
  sourceTree : (id : String) → Task host (Except Chain (Option Path))
  migratedTree : (id : String) → Task host (Except Chain (Option Path))
  isMigrated : (id : String) → (file : Path) → Task host (Except Chain Bool)

/-- Projects as directories below one root. -/
structure DiskStore where
  root : Path
deriving DecidableEq, Repr

namespace DiskStore

variable (s : DiskStore)

def projectDir (id : String) : Except Chain Path :=
  if isIdentifier id then .ok (s.root / id)
  else .error (.one s!"invalid project id: {quoted id}")

/-- A tree of a project, if it is a directory. -/
def tree (id name : String) : Task host (Except Chain (Option Path)) := do
  match s.projectDir id with
  | .error e => return .error e
  | .ok dir =>
    let path := dir / name
    match ← ask (.stat path) with
    | .ok .directory => return .ok (some path)
    | _ => return .ok none

/-- The record of a project. One that has none has recorded nothing. -/
def state (id : String) : Task host (Except Chain ProjectState) := do
  match s.projectDir id with
  | .error e => return .error e
  | .ok dir =>
    let path := dir / "state.json"
    match ← readText path with
    | .error e =>
      if e.kind = .notFound then return .ok .empty
      else return .error ((Chain.one e.message).within s!"read project state: {path.text}")
    | .ok text =>
      match ProjectState.reader.ofText text.toList with
      | .ok state => return .ok state
      | .error e =>
        return .error ((Chain.one e.message).within s!"parse project state JSON: {path.text}")

def isMigrated (id : String) (file : Path) : Task host (Except Chain Bool) := do
  return (← s.state id).map (·.isMigrated file)

def store : ProjectStore where
  sourceTree id := s.tree id "source"
  migratedTree id := s.tree id "migrated"
  isMigrated id file := s.isMigrated id file

end DiskStore

end Tandem.Project
