import Tandem.Host.Call
import Tandem.Project.Refusal

/-!
The entry file of a tree: a regular file that a copy of the tree holds at the same place.
-/

namespace Tandem.Project

open Tandem.Host

/-- The absolute path of `file` below a tree, or none where it names no regular file. A link that
leads out of the tree is refused. One that stays inside names none: a copy holds no links, so that a
guest would not find the entry. -/
def resolveEntry (tree file : Path) : ExceptT Refusal (Task host) (Option Path) := do
  let root ← match ← ask (.resolve tree) with
    | .ok root => pure root
    | .error e =>
      throw (.store ((Chain.one e.message).within s!"resolve project tree: {tree.text}"))
  match ← ask (.resolve (root.join file)) with
  | .error e =>
    if e.kind = .notFound then return none
    else throw (.store ((Chain.one e.message).within s!"resolve {file.text}"))
  | .ok place =>
    if !place.isUnder root then throw (.pathTraversal file)
    else if !place.same (root.join file) then return none
    else
      match ← ask (.stat place) with
      | .ok .file => return some place
      | _ => return none

end Tandem.Project
