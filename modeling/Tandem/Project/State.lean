import Tandem.Document.Reader
import Tandem.Host.Path

/-!
What a project has recorded about its files.

Only the mark of a transformed file matters; all else in the record is passed over.
-/

namespace Tandem.Project

open Tandem.Document Tandem.Host

structure FileState where
  migrated : Bool
deriving DecidableEq, Repr

/-- The files of a project by their keys. Of several entries with one key the last counts. -/
structure ProjectState where
  files : List (String × FileState)
deriving DecidableEq, Repr

namespace FileState

def known : List Reader.Field := [Reader.field "migrated" Reader.bool true]

def reader : Reader FileState := fun t => do
  let fs ← Reader.fields "FileState" false known t
  return ⟨← Reader.absent false "migrated" Reader.bool fs⟩

end FileState

namespace ProjectState

def empty : ProjectState := ⟨[]⟩

def known : List Reader.Field := [Reader.field "files" (Reader.table FileState.reader) true]

def reader : Reader ProjectState := fun t => do
  let fs ← Reader.fields "ProjectState" false known t
  return ⟨← Reader.absent [] "files" (Reader.table FileState.reader) fs⟩

/-- Whether the last entry under a path's key is marked. -/
def isMigrated (s : ProjectState) (file : Path) : Bool :=
  match s.files.reverse.lookup file.key with
  | some f => f.migrated
  | none => false

end ProjectState

end Tandem.Project
