import Tandem.Diff.Compaction

/-!
Hunks: the changed places of a script with a few kept items around them.

`groups` cuts a script wherever more than twice the context is kept; `Hunk.ofGroup` reads the items
of one group off the two sequences.
-/

namespace Tandem.Diff

/-- The kept items shown before and after a change. -/
def contextLength : Nat := 3

/-- A leading kept run cut to its last `n` items. -/
def trimFirst (n : Nat) : List Edit → List Edit
  | .keep o m k :: rest => .keep (o + (k - n)) (m + (k - n)) (min k n) :: rest
  | edits => edits

/-- A closing kept run cut to its first `n` items. -/
def trimLast (n : Nat) : List Edit → List Edit
  | [] => []
  | [.keep o m k] => [.keep o m (min k n)]
  | e :: rest => e :: trimLast n rest

/-- The group that these edits begin with and the groups that follow it. A kept run longer than
`2 * n` ends one group with its first `n` items and begins the next with its last `n`. -/
def splitGroups (n : Nat) : List Edit → List Edit × List (List Edit)
  | [] => ([], [])
  | .keep o m k :: rest =>
    let (group, more) := splitGroups n rest
    if 2 * n < k then
      ([.keep o m n], (.keep (o + (k - n)) (m + (k - n)) n :: group) :: more)
    else (.keep o m k :: group, more)
  | e :: rest =>
    let (group, more) := splitGroups n rest
    (e :: group, more)

/-- Whether a group shows no change. -/
def isQuiet : List Edit → Bool
  | [] => true
  | [.keep ..] => true
  | _ => false

/-- All groups but a last one that shows no change. -/
def dropQuietLast : List (List Edit) → List (List Edit)
  | [] => []
  | [group] => if isQuiet group then [] else [group]
  | group :: more => group :: dropQuietLast more

/-- The groups of a script, each with up to `n` kept items at either end. -/
def groups (n : Nat) (edits : List Edit) : List (List Edit) :=
  let (group, more) := splitGroups n (trimLast n (trimFirst n edits))
  dropQuietLast (group :: more)

/-- One line of a hunk's body. -/
inductive Mark (α : Type) where
  | kept (item : α)
  | removed (item : α)
  | added (item : α)
deriving DecidableEq, Repr

/-- A stretch of both sequences and what happens to it, in order. -/
structure Hunk (α : Type) where
  old : Span
  new : Span
  body : List (Mark α)
deriving DecidableEq, Repr

section
variable {α : Type} [DecidableEq α]

/-- The items of one edit. A replacement removes everything before it adds anything. -/
def Edit.marks (old new : Array α) : Edit → List (Mark α)
  | .keep o m n => ((Edit.keep o m n).oldSpan.slice old).map .kept
  | e => (e.oldSpan.slice old).map .removed ++ (e.newSpan.slice new).map .added

/-- The hunk of a group: from where its first edit starts to where its last edit stops. -/
def Hunk.ofGroup? (old new : Array α) (group : List Edit) : Option (Hunk α) :=
  match group.head?, group.getLast? with
  | some first, some last =>
    some {
      old := ⟨first.oldSpan.start, last.oldSpan.stop⟩
      new := ⟨first.newSpan.start, last.newSpan.stop⟩
      body := group.flatMap (Edit.marks old new) }
  | _, _ => none

/-- The hunks between two sequences. -/
def hunks (old new : List α) : List (Hunk α) :=
  (groups contextLength (edits old new)).filterMap (Hunk.ofGroup? old.toArray new.toArray)

end

end Tandem.Diff
