import Tandem.Proofs.Project.Asking

/-!
What a side asks for, from its first call to its last.

* `Keeps`: a task of a side asks for nothing else, whatever is answered and whatever its guest does.
* `keeps_bind`, `keeps_ask`: two tasks in a row, and one call.
* `Filling`: a working directory that is filled from a tree. No link is ever in it.
* `runSide_keeps`: a side as a whole. `leave_keeps`: one that breaks down.
-/

namespace Tandem.Project.Sides

open Tandem.Host Tandem.Machine Tandem.Machine.Node Tandem.Sandbox Tandem.Text
open Tandem.Host.Task (Event Calls)

/-- What the guests of a side make of what is shared by their steps. -/
inductive Drifts {σ : Type} (g : Ground σ) (r : Runtime) : Shared σ → Shared σ → Prop where
  | still (w : Shared σ) : Drifts g r w w
  | act {w next w' : Shared σ} {pid : UInt32} (first : Acts g r w pid next)
    (rest : Drifts g r next w') : Drifts g r w w'

/-- A task of a side that runs alone asks for what the side may ask for, and comes to this. Its
guest may make steps before every call and at the end. -/
def Keeps {σ α : Type} (S : Stage σ) (r : Runtime) (post : α → Option Path → Shared σ → Prop) :
    Task host α → Option Path → Shared σ → Prop
  | .done a, held, w => ∀ w', Drifts S.ground r w w' → post a held w'
  | .call c next, held, w => ∀ w', Drifts S.ground r w w' → Asks S r w' held c ∧
    ∀ m answer w'', Answers S.ground r w' m ⟨c, answer⟩ w'' →
      Keeps S r post (next answer) (holds held ⟨c, answer⟩) w''

/-- There are no guests. -/
def Quiet {σ : Type} (w : Shared σ) : Prop := ∀ pid, w.guests pid = none

section
variable {σ α β : Type} {S : Stage σ} {g : Ground σ} {r : Runtime} {w w' next : Shared σ}
  {held : Option Path} {c : Call} {pid : UInt32} {post : α → Option Path → Shared σ → Prop}
  {post' : β → Option Path → Shared σ → Prop} {t : Task host α}

/-! ## Tasks in a row -/

theorem Keeps.acts (h : Keeps S r post t held w) (acts : Acts S.ground r w pid next) :
    Keeps S r post t held next := by
  cases t with
  | done a => exact fun w' drifts => h w' (.act acts drifts)
  | call c more => exact fun w' drifts => h w' (.act acts drifts)

theorem keeps_done {a : α} (h : ∀ w', post a held w') : Keeps S r post (.done a) held w :=
  fun w' _ => h w'

theorem keeps_bind {f : α → Task host β} (h : Keeps S r post t held w)
    (more : ∀ a held w, post a held w → Keeps S r post' (f a) held w) :
    Keeps S r post' (t >>= f) held w := by
  induction t generalizing held w with
  | done a => exact more a held w (h w (.still w))
  | call c next ih =>
    intro w' drifts
    obtain ⟨asks, later⟩ := h w' drifts
    exact ⟨asks, fun m answer w'' answers => ih answer (later m answer w'' answers)⟩

theorem Keeps.mono {more : α → Option Path → Shared σ → Prop} (h : Keeps S r post t held w)
    (weak : ∀ a held w, post a held w → more a held w) : Keeps S r more t held w := by
  induction t generalizing held w with
  | done a => exact fun w' drifts => weak a held w' (h w' drifts)
  | call c next ih =>
    intro w' drifts
    obtain ⟨asks, later⟩ := h w' drifts
    exact ⟨asks, fun m answer w'' answers => ih answer (later m answer w'' answers)⟩

/-- A working directory that is filled. No guest is there yet, and no link is in it. -/
structure Filling (S : Stage σ) (r : Runtime) (path : Path) (place : List String) (w : Shared σ) :
    Prop where
  own : S.Own r path place
  free : S.files.get? place = none
  rest : w.files.erase place = S.files
  quiet : Quiet w
  plain : ∀ rel node, w.files.get? (place ++ rel) = some node → node.kind ≠ .link

/-- A working directory that was filled further. -/
structure Filled (S : Stage σ) (r : Runtime) (path : Path) (place : List String) (w : Shared σ)
    (held : Option Path) (w' : Shared σ) : Prop where
  held : held = some path
  filling : Filling S r path place w'
  opens : Opens w.files w'.files

section
variable {path source target : Path} {place rel rel' : List String} {left left' : Nat}
  {name : String} {node inner : Node} {kind : Except IoError FileKind}
  {listed : List (Except IoError Entry)} {descend : Path → Path → Task host (Except Chain Unit)}

namespace Filling

variable (h : Filling S r path place w)
include h

theorem alone : Alone S r (some path) w :=
  .within h.own h.free h.rest fun pid _ known => nomatch (h.quiet pid).symm.trans known

theorem grows : Grows S.files w.files := h.alone.grows

theorem filled : Filled S r path place w (some path) w := ⟨rfl, h, .refl _⟩

/-- The path of the directory leads to it. -/
theorem means : Means w.files S.ground.directory true path place := by
  obtain ⟨n, rfl, rfl⟩ := h.own
  obtain ⟨left, reaches⟩ := S.reaches
  exact .entry (reaches.mono h.grows) (Stage.name_entryName r n) fun _ node found =>
    h.plain [] node (by simpa [Stage.place] using found)

/-- More is put into the directory. -/
theorem put (offers : w.files.Offers (place ++ rel))
    (plain : ∀ names inner, node.get? names = some inner → inner.kind ≠ .link) :
    Filling S r path place { w with files := w.files.put (place ++ rel) node } := by
  refine { h with
    rest := (erase_fill_below h.own.ne_nil rel (some node)).trans h.rest
    plain := fun names inner found => ?_ }
  by_cases below : place ++ rel <+: place ++ names
  · obtain ⟨more, same⟩ := below
    rw [← same, get?_put_below offers] at found
    exact plain more inner found
  · obtain isDir | before := exists_of_get?_put offers found below
    · exact plain_of_isDirectory isDir
    · exact h.plain names inner before

/-- A directory is made in the directory. -/
theorem make (reaches : Reaches w.files S.ground.directory target left (place ++ rel))
    (named : EntryName name) {files : Node}
    (made : Files.createDir ⟨w.files, S.ground.directory⟩ (target / name) = .ok files) :
    Filled S r path place w (some path) { w with files } ∧
      Reaches files S.ground.directory (target / name) left (place ++ (rel ++ [name])) := by
  obtain ⟨short, free, rfl⟩ := Files.createDir_ok made reaches named
  obtain ⟨around, stands, isDir⟩ := reaches.stands
  have offers := offers_snoc stands isDir name
  have grows : Grows w.files (w.files.put (place ++ rel ++ [name]) .emptyDirectory) :=
    grows_put_free offers free
  have filling : Filling S r path place { w with
      files := w.files.put (place ++ rel ++ [name]) .emptyDirectory } := by
    rw [List.append_assoc] at offers ⊢
    refine h.put offers fun names inner found => ?_
    cases names with
    | nil => cases found; exact nofun
    | cons => cases found
  refine ⟨⟨rfl, filling, grows.opens⟩, ?_⟩
  rw [← List.append_assoc]
  exact (reaches.mono grows).join named (get?_put offers) rfl short

/-- A file is written in the directory, or nothing happens. -/
theorem write (means : Means w.files S.ground.directory true target (place ++ rel)) {files : Node}
    (written : (∃ mode bytes, files = w.files.put (place ++ rel) (.file mode bytes) ∧
      ∀ inner, w.files.get? (place ++ rel) = some inner → inner.kind = .file) ∨
        files = w.files) : Filled S r path place w (some path) { w with files } := by
  obtain ⟨mode, bytes, rfl, leaf⟩ | rfl := written
  · refine ⟨rfl, h.put means.offers fun names inner found => ?_, ?_⟩
    · rw [get?_of_not_isDirectory rfl] at found
      split at found
      · cases found; exact nofun
      · cases found
    · exact opens_put means.offers fun inner found => by simp [leaf inner found]
  · exact h.filled

/-- A file is copied into the directory, or a part of it, or nothing. -/
theorem copy (means : Means w.files S.ground.directory true target (place ++ rel)) {m : Manner}
    {answer : Except IoError Unit}
    (answers : Answers S.ground r w m ⟨.copyFile source target, answer⟩ w') :
    Filled S r path place w (some path) w' := by
  obtain ⟨files, changed, rfl⟩ := answers
  refine h.write means ?_
  cases changed with
  | faithful done => exact (Files.copy_fills means done).imp_right And.left
  | failed | refused => exact .inr rfl
  | halfway left =>
    obtain ⟨bytes, written⟩ := left
    exact (Files.write_fills means written).imp_right And.left

end Filling

/-- As far as the entries of a listing could be read, they are entries of a directory. -/
def Known (S : Stage σ) (place : List String) (listed : List (Except IoError Entry)) : Prop :=
  ∀ name kind, .ok ⟨name, .ok kind⟩ ∈ listed → EntryName name ∧
    ∃ inner, S.files.get? (place ++ [name]) = some inner ∧ inner.kind = kind

theorem Filling.known (h : Filling S r path place w)
    (reaches : Reaches S.files S.ground.directory source left (S.here r ++ rel)) {m : Manner}
    (shows : Listed (Files.listDir ⟨w.files, S.ground.directory⟩ source) m (.ok listed)) :
    Known S (S.here r ++ rel) listed := by
  obtain ⟨node, found, isDir⟩ := reaches.stands
  have found' : w.files.get? (S.here r ++ rel) = some node := (h.alone.get?_tree rel).trans found
  have sound := (S.sound.get? found).2
  obtain ⟨mode, entries, rfl⟩ := isDirectory_iff.1 isDir
  have inside (all : List (Except IoError Entry))
      (shown : Files.listDir ⟨w.files, S.ground.directory⟩ source = .ok all) (name : String)
      (kind : FileKind) (entry : .ok ⟨name, .ok kind⟩ ∈ all) : EntryName name ∧
        ∃ inner, S.files.get? (S.here r ++ rel ++ [name]) = some inner ∧ inner.kind = kind := by
    obtain rfl := Files.listDir_ok shown (reaches.mono h.grows) found'
    obtain ⟨⟨first, inner⟩, listed, same⟩ := List.mem_map.1 entry
    cases same
    have child := lookup_of_mem sound.distinct listed
    exact ⟨(sound.child child).1, inner, get?_snoc_eq_some_iff.2 ⟨_, found, child⟩, rfl⟩
  intro name kind entry
  cases shows with
  | faithful shown order => exact inside _ shown name kind (order.mem_iff.1 entry)
  | halfway shown part =>
    obtain read | ⟨e, unread | ⟨name', unread⟩⟩ := part _ entry
    · exact inside _ shown name kind read
    · cases unread
    · cases unread

end

/-! ## Seeding -/

section
variable (files : w.files = S.files) (quiet : Quiet w)
include files quiet

end

/-! ## The guest -/

/-- A guest of a side's is known by its process id. -/
def Tended (r : Runtime) (pid : UInt32) (w : Shared σ) : Prop :=
  ∃ guest, w.guests pid = some guest ∧ guest.owner = r

theorem Tended.settle (h : Tended r pid w) {pid' : UInt32} {guest : Resident σ}
    (owner : guest.owner = r) : Tended r pid (w.settle pid' guest) := by
  obtain ⟨guest', known, owner'⟩ := h
  by_cases same : pid = pid'
  · exact ⟨guest, if_pos same, owner⟩
  · exact ⟨guest', (if_neg same).trans known, owner'⟩

theorem Tended.drifts (h : Tended r pid w) (drifts : Drifts g r w w') : Tended r pid w' := by
  induction drifts with
  | still => exact h
  | act first _ ih =>
    obtain ⟨known, owner, -⟩ := first
    exact ih (Tended.settle h owner)

/-- A working directory is removed whatever became of it. -/
theorem remove_keeps {d : WorkDir} {place : List String} (own : S.Own r d.path place) :
    Keeps S r (fun _ _ _ => True) d.remove (some d.path) w :=
  fun _ _ => ⟨.remove own, fun _ _ _ _ => keeps_done fun _ => trivial⟩

/-- A side that breaks down asks for no more than the removal of its working directory. -/
theorem leave_keeps {path : Path} {place : List String} (own : S.Own r path place) :
    Keeps S r (fun _ _ _ => True) (leave path) (some path) w :=
  keeps_bind (remove_keeps (d := ⟨path⟩) own) fun _ _ _ _ => keeps_done fun _ => trivial

end

end Tandem.Project.Sides
