import Tandem.Proofs.Project.Side
import Tandem.Proofs.Project.Sides
import Tandem.Proofs.Sandbox.WorkingCopy

/-!
What belongs to a side, and what a side does to it.

* `Alone`: what a side finds that runs alone: its working directory, and all else as it was.
* `Hides`: what the sides share, without what belongs to one of them.
* `answers_without`: what one side asks for is answered as if the other one were not there.
* `Hides.effect`: what the other side does cannot be seen by one that does not see what is its.
-/

namespace Tandem.Project.Sides

open Tandem.Host Tandem.Machine Tandem.Machine.Node Tandem.Sandbox Tandem.Text
open Tandem.Host.Task (Event)

/-- What is there before the sides start: a scratch directory and two trees, none of which holds the
scratch directory. -/
structure Stage (σ : Type) where
  ground : Ground σ
  files : Node
  /-- The scratch directory. -/
  base : Path
  scratch : List String
  tree : Runtime → Path
  here : Runtime → List String
  sound : files.Sound
  reaches : ∃ left, Reaches files ground.directory base left scratch
  trees : ∀ r, ∃ left, Reaches files ground.directory (tree r) left (here r)
  outside : ∀ r, ¬ here r <+: scratch

namespace Stage

variable {σ : Type} (S : Stage σ)

/-- The names that a side tries for its working directory. -/
def name (r : Runtime) (n : Nat) : String := WorkDir.name r.directoryName S.ground.processId n

def path (r : Runtime) (n : Nat) : Path := S.base / S.name r n

def place (r : Runtime) (n : Nat) : List String := S.scratch ++ [S.name r n]

/-- A path that a side tries, and the place that it leads to. -/
def Own (r : Runtime) (path : Path) (place : List String) : Prop :=
  ∃ n, path = S.path r n ∧ place = S.place r n

variable {S} {r o : Runtime} {path : Path} {place place' rel : List String} {n n' : Nat}

theorem name_entryName (r : Runtime) (n : Nat) : EntryName (S.name r n) :=
  Sandbox.name_entryName (directoryName_isIdentifier r) _ n

/-- The two sides never try the same name. -/
theorem name_ne (h : r ≠ o) : S.name r n ≠ S.name o n' := by
  intro same
  have text (r : Runtime) (n : Nat) :
      ∃ rest, (S.name r n).toList = r.directoryName.toList ++ rest := by
    have name : S.name r n = r.directoryName ++ "_" ++ toString S.ground.processId.toNat ++ "_" ++
        toString n := rfl
    simp only [name, String.toList_append, List.append_assoc]
    exact ⟨_, rfl⟩
  have length (r : Runtime) : r.directoryName.toList.length = 10 := by
    cases r <;> decide
  obtain ⟨rest, first⟩ := text r n
  obtain ⟨rest', second⟩ := text o n'
  rw [same, second] at first
  have labels := (List.append_inj first ((length o).trans (length r).symm)).1
  cases r <;> cases o <;> first | exact h rfl | exact absurd labels (by decide)

theorem Own.unique (h : S.Own r path place) (h' : S.Own r path place') : place = place' := by
  obtain ⟨n, rfl, rfl⟩ := h
  obtain ⟨n', same, rfl⟩ := h'
  obtain ⟨front, text⟩ := S.base.join_text
  have joined (n : Nat) : (S.path r n).text = front ++ S.name r n :=
    text ⟨S.name r n⟩ (Path.relative_of_plain (name_entryName r n).proper.2)
  have texts := congrArg Path.text same
  rw [joined, joined] at texts
  have names : S.name r n = S.name r n' := by
    have lists := congrArg String.toList texts
    simp only [String.toList_append, List.append_cancel_left_eq] at lists
    exact String.toList_inj.1 lists
  rw [Stage.place, Stage.place, names]

theorem Own.ne_nil (h : S.Own r path place) : place ≠ [] := by
  obtain ⟨n, -, rfl⟩ := h
  simp [Stage.place]

/-- A place of the scratch directory where nothing was is not in a tree, and no tree is in it. -/
theorem apart_tree {entry : String} (free : S.files.get? (S.scratch ++ [entry]) = none)
    (r : Runtime) (rel : List String) : Apart (S.scratch ++ [entry]) (S.here r ++ rel) := by
  obtain ⟨left, reaches⟩ := S.trees r
  obtain ⟨node, stands, -⟩ := reaches.stands
  have outer : ¬ S.here r <+: S.scratch ++ [entry] := by
    intro within
    obtain same | within := List.prefix_concat_iff.1 within
    · rw [same, free] at stands
      cases stands
    · exact S.outside r within
  refine ⟨fun within => ?_, fun within => outer ((List.prefix_append _ _).trans within)⟩
  obtain inner | within := List.prefix_or_prefix_of_prefix within (List.prefix_append _ rel)
  · obtain ⟨more, same⟩ := inner
    rw [← same, get?_append, free] at stands
    cases stands
  · exact outer within

theorem apart_names {entry entry' : String} (h : entry ≠ entry') (rel rel' : List String) :
    Apart (S.scratch ++ [entry] ++ rel) (S.scratch ++ [entry'] ++ rel') := by
  refine Apart.append ⟨fun within => ?_, fun within => ?_⟩ rel rel'
  · obtain ⟨rfl, -⟩ := List.cons_prefix_cons.1 ((List.prefix_append_right_inj _).1 within)
    exact h rfl
  · obtain ⟨rfl, -⟩ := List.cons_prefix_cons.1 ((List.prefix_append_right_inj _).1 within)
    exact h rfl

end Stage

section
variable {σ : Type} {S : Stage σ} {r o : Runtime} {w whole w' whole' : Shared σ}
  {held held' : Option Path} {hidden : List String}

/-! ## One side -/

/-- What a side finds while nobody else is there. Whatever it has made and its guest leaves is in
the place of its working directory. -/
inductive Alone (S : Stage σ) (r : Runtime) : Option Path → Shared σ → Prop where
  | before {w : Shared σ} (files : w.files = S.files) (empty : ∀ pid, w.guests pid = none) :
    Alone S r none w
  | within {w : Shared σ} {path : Path} {place : List String} (own : S.Own r path place)
    (free : S.files.get? place = none) (rest : w.files.erase place = S.files)
    (guests : ∀ pid guest, w.guests pid = some guest → guest.owner = r ∧ guest.place = place) :
    Alone S r (some path) w

/-- The calls that look at nothing that changes, but for the counter. -/
def Looks : Call → Prop
  | .environment | .processId | .nextNumber | .now | .sleep _ => True
  | _ => False

/-- What a side asks for, that holds this directory. It reads in its tree, changes what is in its
own place, and looks after its own guest. -/
inductive Asks (S : Stage σ) (r : Runtime) (w : Shared σ) : Option Path → Call → Prop where
  | look {held : Option Path} {c : Call} (looks : Looks c) : Asks S r w held c
  | stat (held : Option Path) : Asks S r w held (.stat (S.tree r))
  | list {held : Option Path} {path : Path} {left : Nat} {rel : List String}
    (reaches : Reaches S.files S.ground.directory path left (S.here r ++ rel)) :
    Asks S r w held (.listDir path)
  | found (n : Nat) : Asks S r w none (.createDir (S.path r n))
  | own {path : Path} {place : List String} (own : S.Own r path place)
    (means : Means w.files S.ground.directory true path place) (mode : Nat) :
    Asks S r w (some path) (.setMode path mode)
  | make {path target : Path} {place rel : List String} (own : S.Own r path place)
    (means : Means w.files S.ground.directory false target (place ++ rel)) :
    Asks S r w (some path) (.createDir target)
  | copy {path source target : Path} {place rel rel' : List String} (own : S.Own r path place)
    (read : Means S.files S.ground.directory true source (S.here r ++ rel))
    (means : Means w.files S.ground.directory true target (place ++ rel')) :
    Asks S r w (some path) (.copyFile source target)
  | remove {path : Path} {place : List String} (own : S.Own r path place) :
    Asks S r w (some path) (.removeTree path)
  | spawn {path : Path} {place : List String} {launch : Launch} (own : S.Own r path place)
    (means : Means w.files S.ground.directory true path place)
    (directory : launch.directory = some path) : Asks S r w (some path) (.spawn launch)
  | tend {held : Option Path} {c : Call} {pid : UInt32} {guest : Resident σ}
    (known : w.guests pid = some guest) (owner : guest.owner = r) (about : About pid c) :
    Asks S r w held c

/-- What a move of a side does to what is shared. -/
inductive Effect (S : Stage σ) (r : Runtime) (w : Shared σ) :
    Option Path → Option Path → Shared σ → Prop where
  | idle (held : Option Path) : Effect S r w held held w
  | count (held : Option Path) {n : Nat} (fresh : w.counter ≤ n) :
    Effect S r w held held { w with counter := n + 1 }
  | found {n : Nat} (free : w.files.get? (S.place r n) = none) :
    Effect S r w none (some (S.path r n))
      { w with files := w.files.put (S.place r n) .emptyDirectory }
  | fill {path : Path} {place : List String} (own : S.Own r path place) (rel : List String)
    (node? : Option Node) :
    Effect S r w (some path) (some path) { w with files := w.files.fill (place ++ rel) node? }
  | arrive {path : Path} {place : List String} (own : S.Own r path place) {pid : UInt32}
    (fresh : w.guests pid = none) (state : σ) :
    Effect S r w (some path) (some path) (w.settle pid ⟨r, place, state⟩)
  | go (held : Option Path) {pid : UInt32} {guest : Resident σ} (known : w.guests pid = some guest)
    (owner : guest.owner = r) (state : σ) :
    Effect S r w held held (w.settle pid { guest with state })

theorem Shared.guests_settle {pid other : UInt32} {guest : Resident σ} :
    (w.settle pid guest).guests other = if other = pid then some guest else w.guests other := rfl

/-- A side that runs alone stays alone with what is its. -/
theorem Alone.effect (h : Alone S r held w) (effect : Effect S r w held held' w') :
    Alone S r held' w' := by
  cases effect with
  | idle => exact h
  | count _ fresh =>
    cases h with
    | before files empty => exact .before files empty
    | within own free rest guests => exact .within own free rest guests
  | @found n free =>
    obtain ⟨files, empty⟩ := h
    have own : S.Own r (S.path r n) (S.place r n) := ⟨n, rfl, rfl⟩
    exact .within own (files ▸ free) ((erase_put_free own.ne_nil free).trans files)
      fun pid guest known => nomatch (empty pid).symm.trans known
  | fill own rel node? =>
    obtain - | ⟨own', free, rest, guests⟩ := h
    obtain rfl := own.unique own'
    exact .within own free ((erase_fill_below own.ne_nil rel node?).trans rest) guests
  | arrive own fresh state =>
    obtain - | ⟨own', free, rest, guests⟩ := h
    obtain rfl := own.unique own'
    refine .within own free rest fun other guest known => ?_
    rw [Shared.guests_settle] at known
    split at known
    · cases known
      exact ⟨rfl, rfl⟩
    · exact guests other guest known
  | @go _ pid guest known owner state =>
    cases h with
    | before files empty => cases (empty pid).symm.trans known
    | within own free rest guests =>
      refine .within own free rest fun other guest' known' => ?_
      rw [Shared.guests_settle] at known'
      split at known'
      · cases known'
        exact guests pid guest known
      · exact guests other guest' known'

theorem Alone.grows (h : Alone S r held w) : Grows S.files w.files := by
  cases h with
  | before files empty =>
    rw [files]
    exact fun names inner found => ⟨inner, found, .inl rfl⟩
  | within own free rest guests =>
    rw [← rest]
    exact grows_erase own.ne_nil

/-! ## One side beside the other -/

/-- What is shared, without what belongs to a side: its working directory, which is in a place of
the scratch directory that the other side never tries, and its guests. -/
structure Hides (S : Stage σ) (o : Runtime) (held : Option Path) (hidden : List String)
    (w whole : Shared σ) : Prop where
  place : ∃ entry, hidden = S.scratch ++ [entry] ∧ ∀ r n, r ≠ o → entry ≠ S.name r n
  free : S.files.get? hidden = none
  own : ∀ path, held = some path → S.Own o path hidden
  /-- As long as it has made nothing, nothing is hidden. -/
  vacant : held = none → whole.files.get? hidden = none
  files : w.files = whole.files.erase hidden
  counter : w.counter ≤ whole.counter
  guests : ∀ pid, w.guests pid = (whole.guests pid).filter fun guest => guest.owner ≠ o

namespace Hides

theorem ne_nil (h : Hides S o held hidden w whole) : hidden ≠ [] := by
  obtain ⟨entry, rfl, -⟩ := h.place
  simp

theorem grows (h : Hides S o held hidden w whole) : Grows w.files whole.files := by
  rw [h.files]
  exact grows_erase h.ne_nil

theorem apart_tree (h : Hides S o held hidden w whole) (r : Runtime) (rel : List String) :
    Apart hidden (S.here r ++ rel) := by
  obtain ⟨entry, same, -⟩ := h.place
  have free := h.free
  rw [same] at free ⊢
  exact Stage.apart_tree free r rel

theorem apart_place (h : Hides S o held hidden w whole) (other : r ≠ o) (n : Nat)
    (rel : List String) : Apart hidden (S.place r n ++ rel) := by
  obtain ⟨entry, rfl, strange⟩ := h.place
  simpa [Stage.place] using Stage.apart_names (strange r n other) [] rel

theorem apart_own (h : Hides S o held hidden w whole) (other : r ≠ o) {path : Path}
    {place : List String} (own : S.Own r path place) (rel : List String) :
    Apart hidden (place ++ rel) := by
  obtain ⟨n, -, rfl⟩ := own
  exact h.apart_place other n rel

theorem apart_own_place (h : Hides S o held hidden w whole) (other : r ≠ o) {path : Path}
    {place : List String} (own : S.Own r path place) : Apart hidden place := by
  simpa using h.apart_own other own []

theorem known (h : Hides S o held hidden w whole) {pid : UInt32} {guest : Resident σ}
    (known : w.guests pid = some guest) : whole.guests pid = some guest := by
  rw [h.guests, Option.filter_eq_some_iff] at known
  exact known.1

/-- What a side does is not seen without what is its. -/
theorem effect (h : Hides S r held hidden w whole) (grows : Grows S.files whole.files)
    (effect : Effect S r whole held held' whole') :
    ∃ hidden', Hides S r held' hidden' w whole' := by
  cases effect with
  | idle => exact ⟨hidden, h⟩
  | count _ fresh =>
    exact ⟨hidden, { h with counter := Nat.le_succ_of_le (Nat.le_trans h.counter fresh) }⟩
  | @found n free =>
    have own : S.Own r (S.path r n) (S.place r n) := ⟨n, rfl, rfl⟩
    refine ⟨S.place r n, {
      place := ⟨S.name r n, rfl, fun o m other => Stage.name_ne other.symm⟩
      free := ?_
      own := fun path same => Option.some.inj same ▸ own
      vacant := nofun
      files := ?_
      counter := h.counter
      guests := h.guests }⟩
    · cases stands : S.files.get? (S.place r n) with
      | none => rfl
      | some node =>
        obtain ⟨node', found, -⟩ := grows _ _ stands
        cases free.symm.trans found
    · rw [h.files, erase_of_get? (h.vacant rfl)]
      exact (erase_put_free own.ne_nil free).symm
  | fill own rel node? =>
    obtain rfl := own.unique (h.own _ rfl)
    exact ⟨_, { h with
      vacant := nofun
      files := h.files.trans (erase_fill_below own.ne_nil rel node?).symm }⟩
  | arrive own fresh state =>
    refine ⟨hidden, { h with guests := fun other => ?_ }⟩
    rw [Shared.guests_settle, h.guests]
    split
    · rename_i same
      simp [same, fresh, Option.filter]
    · rfl
  | go _ known owner state =>
    refine ⟨hidden, { h with guests := fun other => ?_ }⟩
    rw [Shared.guests_settle, h.guests]
    split
    · rename_i same
      simp [same, known, owner, Option.filter]
    · rfl

/-- What a side does leaves alone the place that is hidden from it. -/
theorem get?_effect (h : Hides S o held hidden w whole) (other : r ≠ o) {v v' : Shared σ}
    {mine mine' : Option Path} (effect : Effect S r v mine mine' v') :
    v'.files.get? hidden = v.files.get? hidden := by
  cases effect with
  | idle | count | arrive | go => rfl
  | @found n free => exact get?_put_apart (by simpa using (h.apart_place other n []).symm)
  | fill own rel node? => exact get?_fill_apart (h.apart_own other own rel).symm node?

end Hides

end

end Tandem.Project.Sides
