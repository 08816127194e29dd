import Tandem.Host.Call
import Tandem.Host.Chain

/-!
Copying a tree into a directory.

Directories and regular files are copied, links and special files are passed over: a link may lead
out of the tree, and a special file means nothing in a copy.
-/

namespace Tandem.Sandbox

open Tandem.Host

/-- No path of so many bytes names anything. Every level of a tree makes paths longer, so no tree
that paths can reach has as many levels. -/
def pathBytes : Nat := 4096

/-- The failure of a call, in a context. -/
def failed (context : String) (e : IoError) : Chain := (Chain.one e.message).within context

/-- Copies the entries of a directory one after the other until one fails. `descend` copies what a
directory holds. -/
def copyEntries (descend : Path → Path → Task host (Except Chain Unit)) (source target : Path) :
    List (Except IoError Entry) → Task host (Except Chain Unit)
  | [] => return .ok ()
  | .error e :: _ => return .error (failed "read_dir entry" e)
  | .ok ⟨name, kind⟩ :: rest => do
    let result ← match kind with
      | .error e => pure (.error (failed "file_type" e))
      | .ok .directory => do
        match ← ask (.createDir (target / name)) with
        | .error e => pure (.error (failed s!"create_dir: {(target / name).text}" e))
        | .ok () => descend (source / name) (target / name)
      | .ok .file => do
        match ← ask (.copyFile (source / name) (target / name)) with
        | .error e =>
          pure (.error
            (failed s!"copy file from {(source / name).text} to {(target / name).text}" e))
        | .ok () => pure (.ok ())
      | .ok _ => pure (.ok ())
    match result with
    | .error e => return .error e
    | .ok () => copyEntries descend source target rest

/-- Copies what a directory holds, through at most so many levels. -/
def copyLevels : Nat → Path → Path → Task host (Except Chain Unit)
  | 0, source, _ => return .error (failed s!"read_dir: {source.text}" .nameTooLong)
  | levels + 1, source, target => do
    match ← ask (.listDir source) with
    | .error e => return .error (failed s!"read_dir: {source.text}" e)
    | .ok entries => copyEntries (copyLevels levels) source target entries

/-- Copies what a directory holds into another one. -/
def copyContents (source target : Path) : Task host (Except Chain Unit) :=
  copyLevels pathBytes source target

end Tandem.Sandbox
