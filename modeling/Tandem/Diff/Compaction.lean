import Tandem.Diff.Script

/-!
Moving edits to their final place.

Every deletion and then every insertion slides as far towards the front as it can and back again as
far as it can. Sliding merges edits of one kind, swaps a deletion with an insertion, and carries an
insertion across kept items that equal its own last (first) ones. Neighbours of one kind are joined
at the end: `join`.
-/

namespace Tandem.Diff

section
variable {α : Type} [DecidableEq α]

/-- A bound on the steps that a slide across these edits can take. -/
def weight : List Edit → Nat
  | [] => 0
  | .keep _ _ n :: rest => n + 1 + weight rest
  | _ :: rest => 1 + weight rest

theorem weight_keepRun_append_le (o m n : Nat) (rest : List Edit) :
    weight (keepRun o m n ++ rest) ≤ n + 1 + weight rest := by
  by_cases h : n = 0 <;> simp [keepRun, weight, h]

/-- A script taken apart at one edit. The edits before it stand nearest first. -/
structure Cursor where
  before : List Edit
  edit : Edit
  after : List Edit

/-- How far the insertion `e` goes back into `n` kept items that end at `stop`. -/
def shareBack (old new : Array α) (stop n : Nat) (e : Edit) : Nat :=
  min n (commonLength (Span.slice ⟨stop - n, stop⟩ old).reverse (e.newSpan.slice new).reverse)

/-- How far the insertion `e` goes on into `n` kept items that begin at `start`. -/
def shareAhead (old new : Array α) (start n : Nat) (e : Edit) : Nat :=
  min n (commonLength (Span.slice ⟨start, start + n⟩ old) (e.newSpan.slice new))

/-- The edits after an insertion that moved `n` items towards the front. -/
def regrowAfter (old new n : Nat) : List Edit → List Edit
  | .keep o m k :: rest => .keep (o - n) (m - n) (k + n) :: rest
  | rest => .keep (old - n) (new - n) n :: rest

/-- The edits before an insertion that moved `n` items towards the back, nearest first. -/
def regrowBefore (old new n : Nat) : List Edit → List Edit
  | .keep o m k :: rest => .keep o m (k + n) :: rest
  | rest => .keep old new n :: rest

def slideUp (old new : Array α) : Cursor → Cursor
  | ⟨.insert o m k :: before, .insert _ _ k', after⟩ =>
    slideUp old new ⟨before, .insert o m (k + k'), after⟩
  | ⟨.delete o k m :: before, .delete _ k' _, after⟩ =>
    slideUp old new ⟨before, .delete o (k + k') m, after⟩
  | ⟨.delete o k m :: before, e@(.insert ..), after⟩ =>
    slideUp old new ⟨before, e, .delete o k m :: after⟩
  | ⟨.insert o m k :: before, e@(.delete ..), after⟩ =>
    slideUp old new ⟨before, e, .insert o m k :: after⟩
  | ⟨.keep o m n :: before, .insert o' m' k, after⟩ =>
    let s := shareBack old new (o + n) n (.insert o' m' k)
    if _stuck : s = 0 then ⟨.keep o m n :: before, .insert o' m' k, after⟩
    else
      slideUp old new
        ⟨keepRun o m (n - s) ++ before, .insert (o' - s) (m' - s) k,
          regrowAfter (o + n) (m' + k) s after⟩
  | c => c
termination_by c => weight c.before
decreasing_by
  iterate 4 · simp only [weight]; omega
  have kept : s ≤ n := Nat.min_le_left ..
  have lighter := weight_keepRun_append_le o m (n - s) before
  simp only [s, weight] at kept lighter _stuck ⊢
  omega

def slideDown (old new : Array α) : Cursor → Cursor
  | ⟨before, .insert o m k, .insert _ _ k' :: after⟩ =>
    slideDown old new ⟨before, .insert o m (k + k'), after⟩
  | ⟨before, .delete o k m, .delete _ k' _ :: after⟩ =>
    slideDown old new ⟨before, .delete o (k + k') m, after⟩
  | ⟨before, e@(.insert ..), .delete o k m :: after⟩ =>
    slideDown old new ⟨.delete o k m :: before, e, after⟩
  | ⟨before, e@(.delete ..), .insert o m k :: after⟩ =>
    slideDown old new ⟨.insert o m k :: before, e, after⟩
  | ⟨before, .insert o' m' k, .keep o m n :: after⟩ =>
    let s := shareAhead old new o n (.insert o' m' k)
    if _stuck : s = 0 then ⟨before, .insert o' m' k, .keep o m n :: after⟩
    else
      slideDown old new
        ⟨regrowBefore o m' s before, .insert (o' + s) (m' + s) k,
          keepRun (o + s) (m + s) (n - s) ++ after⟩
  | c => c
termination_by c => weight c.after
decreasing_by
  iterate 4 · simp only [weight]; omega
  have kept : s ≤ n := Nat.min_le_left ..
  have lighter := weight_keepRun_append_le (o + s) (m + s) (n - s) after
  simp only [s, weight] at kept lighter _stuck ⊢
  omega

/-- Where an edit ends up, which stays if it is none of those to move. -/
def slide (old new : Array α) (moves : Edit → Bool) (c : Cursor) : Cursor :=
  if moves c.edit then slideDown old new (slideUp old new c) else c

/-- Slides every edit that `moves` picks, front to back. `before` stands nearest first.

An edit that merges leaves fewer edits to move; one that does not ends no further front than it
began, so that less is left behind it. -/
def settle (old new : Array α) (moves : Edit → Bool) (before : List Edit) :
    List Edit → List Edit
  | [] => before.reverse
  | e :: after =>
    let c := slide old new moves ⟨before, e, after⟩
    let moving := before.countP moves + (e :: after).countP moves
    let moving' := (c.edit :: c.before).countP moves + c.after.countP moves
    if moving' < moving ∨ moving' = moving ∧ weight c.after < weight (e :: after) then
      settle old new moves (c.edit :: c.before) c.after
    else c.before.reverse ++ c.edit :: c.after
termination_by edits => (before.countP moves + edits.countP moves, weight edits)
decreasing_by exact Prod.lex_def.2 ‹_›

/-- Puts an edit in front of a joined script. -/
def absorb : Edit → List Edit → List Edit
  | .keep o m n, .keep _ _ n' :: rest => .keep o m (n + n') :: rest
  | .delete o k m, .delete _ k' _ :: rest => .delete o (k + k') m :: rest
  | .delete o k _, .insert _ m' n' :: rest => .replace o k m' n' :: rest
  | .delete o k _, .replace _ k' m' n' :: rest => .replace o (k + k') m' n' :: rest
  | .insert o m n, .insert _ _ n' :: rest => .insert o m (n + n') :: rest
  | .insert _ m n, .delete o' k' _ :: rest => .replace o' k' m n :: rest
  | .insert _ m n, .replace o' k' _ n' :: rest => .replace o' k' m (n + n') :: rest
  | e, rest => e :: rest

/-- The script with neighbouring deletions and insertions made into one edit, and neighbouring
kept runs into one. -/
def join (edits : List Edit) : List Edit :=
  edits.foldr absorb []

/-- The edits between two sequences in their final form. -/
def edits (old new : List α) : List Edit :=
  let oldItems := old.toArray
  let newItems := new.toArray
  let deleting := fun | Edit.delete .. => true | _ => false
  let inserting := fun | Edit.insert .. => true | _ => false
  join <| settle oldItems newItems inserting [] <|
    settle oldItems newItems deleting [] <| script old new 0 0

end

end Tandem.Diff
