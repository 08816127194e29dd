import Tandem.Diff.Edit

/-!
Where to split two sequences that share neither a first nor a last item.

Two searches run in turn, one from the front and one from the back, each keeping the furthest point
that it reaches on every diagonal with `d` edits. The split is where they first meet.
-/

namespace Tandem.Diff

section
variable {α : Type} [DecidableEq α]

/-- The length of the common run of `old` from `x` on and `new` from `y` on. -/
def agreement (old new : Array α) (x y : Nat) : Nat :=
  if h : x < old.size ∧ y < new.size then
    if old[x] = new[y] then agreement old new (x + 1) (y + 1) + 1 else 0
  else 0
termination_by old.size - x

/-- Where the next round starts on each diagonal, lowest diagonal first: one insertion from the
diagonal above or one deletion from the diagonal below, whichever is further. -/
def departures : List Nat → List Nat
  | [] => [0]
  | x :: xs => x :: go x xs
where
  go (below : Nat) : List Nat → List Nat
    | [] => [below + 1]
    | above :: rest => (if below < above then above else below + 1) :: go above rest

/-- One diagonal of a round: where it was entered and how far agreement carried it. -/
structure Reach where
  diagonal : Nat
  entry : Nat
  stop : Nat

/-- Round `d` of a search, from the stops of the round before. Diagonal `i` holds the points with
`y = x + d - 2 * i`. -/
def round (old new : Array α) (d : Nat) (stops : List Nat) : List Reach :=
  (departures stops).mapIdx fun i x =>
    ⟨i, x, x + agreement old new x (x + d - 2 * i)⟩

/-- The first diagonal, highest first, on which a round meets the other search. -/
def meeting? (width : Nat) (offset : Int) (others : Array Nat) (d : Nat) (reaches : List Reach) :
    Option Reach :=
  reaches.reverse.find? fun r =>
    match (offset + d - r.diagonal).toNat?.bind (others[·]?) with
    | some other => width ≤ r.stop + other
    | none => false

/-- Rounds `d`, `d + 1`, … of both searches, until they meet or the rounds are used up. `dlo` and
`wen` are the two sequences backwards. An odd difference of lengths is met by the search from the
front, an even one by the search from the back. -/
def meet? (old new dlo wen : Array α) (front back : List Nat) (d : Nat) : Nat → Option (Nat × Nat)
  | 0 => none
  | rounds + 1 =>
    let delta : Int := (old.size : Int) - new.size
    let ahead := round old new d front
    let front := ahead.map Reach.stop
    match if delta % 2 = 1 then meeting? old.size (delta / 2) back.toArray d ahead else none with
    | some r => some (r.entry, r.entry + d - 2 * r.diagonal)
    | none =>
      let behind := round dlo wen d back
      let back := behind.map Reach.stop
      match if delta % 2 = 0 then meeting? old.size (delta / 2) front.toArray d behind else none with
      | some r => some (old.size - r.stop, new.size - (r.stop + d - 2 * r.diagonal))
      | none => meet? old new dlo wen front back (d + 1) rounds

/-- The point at which to split the two sequences, if the searches meet. -/
def split? (old new : Array α) : Option (Nat × Nat) :=
  meet? old new old.reverse new.reverse [] [] 0 ((old.size + new.size + 1) / 2 + 1)

end

end Tandem.Diff
