import Tandem.Sandbox.Copy
import Tandem.Text.Identifier
import Tandem.Text.Quoted

/-!
Working directories: each belongs to one run, has a name that nothing had before, and is removed
with the run.
-/

namespace Tandem.Sandbox

open Tandem.Host Tandem.Text

/-- A directory of its owner's. -/
structure WorkDir where
  path : Path
deriving DecidableEq, Repr

namespace WorkDir

/-- The rights of a directory that its owner alone may enter. -/
def ownerOnly : Nat := 0o700

/-- The most names that are tried for one directory. -/
def attempts : Nat := 10000

/-- The name of the `n`th directory of a process. -/
def name (label : String) (pid : UInt32) (n : Nat) : String := s!"{label}_{pid.toNat}_{n}"

/-- Tries so many names, each with a number of its own. -/
def createWith (base : Path) (label : String) (pid : UInt32) :
    Nat → Task host (Except Chain WorkDir)
  | 0 => return .error (.one s!"failed to create unique temp dir under {base.text}")
  | tries + 1 => do
    let path := base / name label pid (← ask .nextNumber)
    match ← ask (.createDir path) with
    | .ok () =>
      match ← ask (.setMode path ownerOnly) with
      | .ok () => return .ok ⟨path⟩
      | .error e => return .error (failed s!"chmod 0700: {path.text}" e)
    | .error e =>
      if e.kind = .alreadyExists then createWith base label pid tries
      else return .error (failed s!"create temp dir: {path.text}" e)

/-- A new directory below `base`, its name beginning with a label. -/
def create (base : Path) (label : String) : Task host (Except Chain WorkDir) := do
  if isIdentifier label then
    createWith base label (← ask .processId) attempts
  else
    return .error (.one s!"invalid temp dir prefix {quoted label} (expected {identifierForm})")

/-- Removes a directory with all it holds. That it cannot be removed is no failure of its owner. -/
def remove (d : WorkDir) : Task host Unit := do
  let _ ← ask (.removeTree d.path)

/-- A new directory with a copy of a tree in it. If the copy fails, the directory is removed. -/
def seed (base tree : Path) (label : String) : Task host (Except Chain WorkDir) := do
  match ← ask (.stat tree) with
  | .error e => return .error (failed s!"stat source tree: {tree.text}" e)
  | .ok .directory =>
    match ← create base label with
    | .error e => return .error e
    | .ok d =>
      match ← copyContents tree d.path with
      | .ok () => return .ok d
      | .error e =>
        d.remove
        return .error (e.within s!"seed {d.path.text} from {tree.text}")
  | .ok _ => return .error (.one s!"source tree is not a directory: {tree.text}")

end WorkDir

end Tandem.Sandbox
