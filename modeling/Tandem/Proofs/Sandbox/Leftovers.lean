import Tandem.Proofs.Machine.Erase
import Tandem.Proofs.Sandbox.Confinement
import Tandem.Proofs.Sandbox.WorkingCopy

/-!
What is left of a working directory that could not be made, or not be seeded.

* `Seeding`: the ways through the making of a seeded directory.
* `failed_leaves`: a failure leaves the tree as it was, but for one: where a new directory cannot be
  made its owner's alone, it stays.
-/

namespace Tandem.Sandbox

open Tandem.Host Tandem.Host.Task Tandem.Machine Tandem.Machine.Node

/-! ## Seeding -/

/-- A new directory that is filled from a tree. If that fails, it is removed. -/
def seedBy (copy : Path → Path → Task host (Except Chain Unit)) (base tree : Path)
    (label : String) : Task host (Except Chain WorkDir) := do
  match ← ask (.stat tree) with
  | .error e => return .error (failed s!"stat source tree: {tree.text}" e)
  | .ok .directory =>
    match ← WorkDir.create base label with
    | .error e => return .error e
    | .ok d =>
      match ← copy tree d.path with
      | .ok () => return .ok d
      | .error e =>
        d.remove
        return .error (e.within s!"seed {d.path.text} from {tree.text}")
  | .ok _ => return .error (.one s!"source tree is not a directory: {tree.text}")

theorem seed_eq (base tree : Path) (label : String) :
    WorkDir.seed base tree label = seedBy (copyLevels pathBytes) base tree label := rfl

/-- The ways through the making of a seeded directory. -/
inductive Seeding (copy : Path → Path → Task host (Except Chain Unit)) (base tree : Path)
    (label : String) : List (Event host) → Except Chain WorkDir → Prop where
  | unseen (e : IoError) :
    Seeding copy base tree label [⟨.stat tree, .error e⟩]
      (.error (failed s!"stat source tree: {tree.text}" e))
  | noDirectory (kind : FileKind) (other : kind ≠ .directory) :
    Seeding copy base tree label [⟨.stat tree, .ok kind⟩]
      (.error (.one s!"source tree is not a directory: {tree.text}"))
  | unmade {creating : List (Event host)} {e : Chain}
    (create : Task.Path (WorkDir.create base label) creating (.error e)) :
    Seeding copy base tree label (⟨.stat tree, .ok .directory⟩ :: creating) (.error e)
  | unfilled {creating copying : List (Event host)} {d : WorkDir} {e : Chain}
    (create : Task.Path (WorkDir.create base label) creating (.ok d))
    (fill : Task.Path (copy tree d.path) copying (.error e)) (removed : Except IoError Unit) :
    Seeding copy base tree label
      (⟨.stat tree, .ok .directory⟩ :: (creating ++ (copying ++ [⟨.removeTree d.path, removed⟩])))
      (.error (e.within s!"seed {d.path.text} from {tree.text}"))
  | filled {creating copying : List (Event host)} {d : WorkDir}
    (create : Task.Path (WorkDir.create base label) creating (.ok d))
    (fill : Task.Path (copy tree d.path) copying (.ok ())) :
    Seeding copy base tree label (⟨.stat tree, .ok .directory⟩ :: (creating ++ copying)) (.ok d)

section
variable {copy : Path → Path → Task host (Except Chain Unit)} {base tree : Path} {label : String}
  {events : List (Event host)} {result : Except Chain WorkDir}

theorem seeding_of_path (path : Task.Path (seedBy copy base tree label) events result) :
    Seeding copy base tree label events result := by
  obtain ⟨answer, rest, rfl, tail⟩ := path_ask_bind_iff.1 path
  match answer, tail with
  | .error e, tail =>
    obtain ⟨rfl, rfl⟩ := path_done_iff.1 tail
    exact .unseen e
  | .ok .file, tail | .ok .link, tail | .ok .special, tail =>
    obtain ⟨rfl, rfl⟩ := path_done_iff.1 tail
    exact .noDirectory _ nofun
  | .ok .directory, tail =>
    obtain ⟨creating, rest, created, rfl, create, tail'⟩ := path_bind_iff.1 tail
    cases created with
    | error e =>
      obtain ⟨rfl, rfl⟩ := path_done_iff.1 tail'
      rw [List.append_nil]
      exact .unmade create
    | ok d =>
      obtain ⟨copying, rest, filled, rfl, fill, last⟩ := path_bind_iff.1 tail'
      cases filled with
      | ok _ =>
        obtain ⟨rfl, rfl⟩ := path_done_iff.1 last
        rw [List.append_nil]
        exact .filled create fill
      | error e =>
        obtain ⟨removing, rest, _, rfl, remove, last'⟩ := path_bind_iff.1 last
        obtain ⟨rfl, rfl⟩ := path_done_iff.1 last'
        obtain ⟨removed, rest, rfl, done⟩ := path_ask_bind_iff.1 remove
        obtain ⟨rfl, -⟩ := path_done_iff.1 done
        exact .unfilled create fill removed

theorem path_of_seeding (h : Seeding copy base tree label events result) :
    Task.Path (seedBy copy base tree label) events result := by
  cases h with
  | unseen e => exact path_ask_bind_iff.2 ⟨_, _, rfl, .done _⟩
  | noDirectory kind other =>
    refine path_ask_bind_iff.2 ⟨_, _, rfl, ?_⟩
    cases kind with
    | directory => exact absurd rfl other
    | file | link | special => exact .done _
  | unmade create =>
    refine path_ask_bind_iff.2 ⟨_, _, rfl, path_bind_iff.2 ⟨_, [], _, by simp, create, .done _⟩⟩
  | unfilled create fill removed =>
    refine path_ask_bind_iff.2 ⟨_, _, rfl, path_bind_iff.2 ⟨_, _, _, rfl, create,
      path_bind_iff.2 ⟨_, _, _, rfl, fill,
        path_bind_iff.2 ⟨_, [], (), (List.append_nil _).symm, ?_, .done _⟩⟩⟩⟩
    exact path_ask_bind_iff.2 ⟨_, _, rfl, .done _⟩
  | filled create fill =>
    exact path_ask_bind_iff.2 ⟨_, _, rfl, path_bind_iff.2 ⟨_, _, _, rfl, create,
      path_bind_iff.2 ⟨_, [], _, by simp, fill, .done _⟩⟩⟩

end

/-! ## What is left -/

/-- The rights of something could not be set. -/
def Denied (events : List (Event host)) : Prop :=
  ∃ path mode e, ⟨.setMode path mode, .error e⟩ ∈ events

/-- A directory that was made and did not become its owner's alone stays, with nothing in it. -/
structure Abandoned (cwd : List String) (root root' : Node) (base : Path)
    (events : List (Event host)) (there : List String) (name : String) : Prop where
  around : ∃ left, Reaches root cwd base left there
  free : root.get? (there ++ [name]) = none
  left : root' = root.put (there ++ [name]) .emptyDirectory
  denied : ∃ front e, events = front ++ [⟨.setMode (base / name) WorkDir.ownerOnly, .error e⟩]

/-- What is left when a working directory could not be made. -/
def Remains (cwd : List String) (root root' : Node) (base : Path) (events : List (Event host)) :
    Prop :=
  ¬ Denied events ∧ root' = root ∨
    Denied events ∧ ∃ there name, Abandoned cwd root root' base events there name

section
variable {root root' : Node} {cwd : List String} {base tree : Path} {label : String} {pid : UInt32}
  {e : Event host} {events more : List (Event host)} {place : List String}

theorem denied_append_iff : Denied (events ++ more) ↔ Denied events ∨ Denied more := by
  simp only [Denied, List.mem_append, exists_or]

theorem denied_cons_iff :
    Denied (e :: more) ↔
      (∃ path mode error, e = ⟨.setMode path mode, .error error⟩) ∨ Denied more := by
  simp only [Denied, List.mem_cons, exists_or, eq_comm]

@[simp] theorem not_denied_nil : ¬ Denied [] := by simp [Denied]

/-- A call that sets no rights and changes nothing leaves nothing. -/
theorem Remains.cons (h : Remains cwd root root' base more)
    (other : ∀ path mode, e.1 ≠ .setMode path mode) : Remains cwd root root' base (e :: more) := by
  have same : Denied (e :: more) ↔ Denied more := by
    rw [denied_cons_iff, or_iff_right]
    rintro ⟨path, mode, error, rfl⟩
    exact other path mode rfl
  rw [Remains, same]
  refine h.imp_right (And.imp_right ?_)
  rintro ⟨there, name, around, free, left, front, error, rfl⟩
  exact ⟨there, name, around, free, left, e :: front, error, rfl⟩

theorem remains_nothing : Remains cwd root root base [] := .inl ⟨not_denied_nil, rfl⟩

/-- A directory that is not made leaves nothing, unless it was made and its rights were not set. -/
theorem createWith_leaves (identifier : Text.isIdentifier label = true) {tries : Nat} {e : Chain}
    (path : Task.Path (WorkDir.createWith base label pid tries) events (.error e))
    (spared : Spared cwd root events root') : Remains cwd root root' base events := by
  induction tries generalizing events root with
  | zero =>
    obtain ⟨rfl, -⟩ := path_done_iff.1 path
    obtain rfl := spared_nil_iff.1 spared
    exact remains_nothing
  | succ tries ih =>
    obtain ⟨number, next, rest, same, -, rfl, tail, more⟩ := spared_ask path spared
    obtain rfl : root = next := same.symm
    obtain ⟨created, next, rest, serves, -, rfl, tail, more⟩ := spared_ask tail more
    refine .cons (.cons ?_ nofun) nofun
    cases created with
    | error e =>
      obtain rfl : root = next := serves.symm
      dsimp only at tail
      split at tail
      · exact ih tail more
      · obtain ⟨rfl, -⟩ := path_done_iff.1 tail
        obtain rfl := spared_nil_iff.1 more
        exact remains_nothing
    | ok _ =>
      have named := name_entryName identifier pid number
      obtain ⟨left, there, reaches, -⟩ := Files.reaches_of_createDir serves named
      obtain ⟨-, free, rfl⟩ := Files.createDir_ok serves reaches named
      obtain ⟨owned, next, rest, serves', -, rfl, last, ended⟩ := spared_ask tail more
      cases owned with
      | ok _ => cases (path_done_iff.1 last).2
      | error error =>
        obtain ⟨rfl, -⟩ := path_done_iff.1 last
        obtain rfl := spared_nil_iff.1 ended
        obtain rfl : root' = _ := serves'
        exact .inr ⟨⟨_, _, error, List.mem_singleton_self _⟩, there, _, {
          around := ⟨left, reaches⟩
          free
          left := rfl
          denied := ⟨[], error, rfl⟩ }⟩

theorem create_leaves {e : Chain} (path : Task.Path (WorkDir.create base label) events (.error e))
    (spared : Spared cwd root events root') : Remains cwd root root' base events := by
  rw [WorkDir.create] at path
  split at path
  · rename_i identifier
    obtain ⟨pid, next, rest, same, -, rfl, tail, more⟩ := spared_ask path spared
    obtain rfl : root = next := same.symm
    refine .cons (createWith_leaves identifier tail more) fun path mode other => ?_
    cases other
  · obtain ⟨rfl, -⟩ := path_done_iff.1 path
    obtain rfl := spared_nil_iff.1 spared
    exact remains_nothing

/-- What was made is to be filled. -/
theorem Made.site {path : Path} (made : Made cwd root root' base path place) (sound : root.Sound) :
    Site root' cwd path place WorkDir.ownerOnly := by
  obtain ⟨left, there, name, reaches, named, rfl, rfl⟩ := made.around
  obtain ⟨around, stands, -⟩ := reaches.stands
  have names : ∀ part ∈ there ++ [name], EntryName part := by
    simpa [or_imp, forall_and, named] using (sound.get? stands).1
  obtain rfl := made.made
  exact {
    sound := sound.put names (sound_empty _)
    reached := made.names
    empty := get?_put made.offers }

/-- What was made and filled is removed with all that is in it. -/
theorem Made.removed {path : Path} {mode : Nat} {copies : List (String × Node)}
    (made : Made cwd root root' base path place) {last : Node}
    (removed : Files.removeTree ⟨root.put place (.directory mode copies), cwd⟩ path = .ok last) :
    last = root := by
  obtain ⟨left, there, name, reaches, named, rfl, rfl⟩ := made.around
  have grows : Grows root (root.put (there ++ [name]) (.directory mode copies)) :=
    grows_put_free made.offers made.free
  have reaches' := reaches.mono grows
  rw [Files.removeTree_ok removed reaches' named (get?_put made.offers) rfl]
  exact erase_put_free (by simp) made.free

/-- A directory that was made has got its rights. -/
theorem not_denied_of_createWith {tries : Nat} {d : WorkDir}
    (path : Task.Path (WorkDir.createWith base label pid tries) events (.ok d)) :
    ¬ Denied events := by
  induction tries generalizing events with
  | zero => cases (path_done_iff.1 path).2
  | succ tries ih =>
    obtain ⟨number, rest, rfl, tail⟩ := path_ask_bind_iff.1 path
    obtain ⟨created, rest, rfl, tail'⟩ := path_ask_bind_iff.1 tail
    cases created with
    | error e =>
      dsimp only at tail'
      split at tail'
      · simpa [denied_cons_iff] using ih tail'
      · cases (path_done_iff.1 tail').2
    | ok _ =>
      obtain ⟨owned, rest, rfl, last⟩ := path_ask_bind_iff.1 tail'
      cases owned with
      | error e => cases (path_done_iff.1 last).2
      | ok _ =>
        obtain ⟨rfl, -⟩ := path_done_iff.1 last
        simp [denied_cons_iff]

theorem not_denied_of_create {d : WorkDir}
    (path : Task.Path (WorkDir.create base label) events (.ok d)) : ¬ Denied events := by
  rw [WorkDir.create] at path
  split at path
  · obtain ⟨pid, rest, rfl, tail⟩ := path_ask_bind_iff.1 path
    simpa [denied_cons_iff] using not_denied_of_createWith tail
  · cases (path_done_iff.1 path).2

/-- A copy sets no rights. -/
theorem not_denied_of_copyLevels {levels : Nat} {source target : Path}
    {result : Except Chain Unit}
    (path : Task.Path (copyLevels levels source target) events result) : ¬ Denied events := by
  rintro ⟨other, mode, error, listed⟩
  have calls : Calls (fun c : Call => ∀ path mode, c ≠ .setMode path mode)
      (copyLevels levels source target) :=
    calls_copyLevels (fun _ => nofun) (fun _ => nofun) (fun _ _ => nofun) levels source target
  exact calls events result path _ listed other mode rfl

theorem seed_leaves {e : Chain} (path : Task.Path (WorkDir.seed base tree label) events (.error e))
    (spared : Spared cwd root events root') (sound : root.Sound)
    (removed : ∀ path answer, ⟨.removeTree path, answer⟩ ∈ events → answer = .ok ()) :
    Remains cwd root root' base events := by
  rw [seed_eq] at path
  cases seeding_of_path path with
  | unseen e | noDirectory kind other =>
    obtain ⟨next, ⟨rfl, -⟩, -, more⟩ := spared_cons_iff.1 spared
    obtain rfl := spared_nil_iff.1 more
    exact .cons remains_nothing nofun
  | unmade create =>
    obtain ⟨next, ⟨rfl, -⟩, -, more⟩ := spared_cons_iff.1 spared
    exact .cons (create_leaves create more) nofun
  | @unfilled creating copying d e create fill answer =>
    obtain ⟨next, ⟨rfl, -⟩, -, more⟩ := spared_cons_iff.1 spared
    obtain ⟨mid, creates, more⟩ := spared_append_iff.1 more
    obtain ⟨filled, fills, more⟩ := spared_append_iff.1 more
    obtain ⟨last, removes, -, more⟩ := spared_cons_iff.1 more
    obtain rfl := spared_nil_iff.1 more
    obtain ⟨place, made⟩ := create_makes create creates.runs
    obtain ⟨copies, -, rfl⟩ :=
      copyLevels_confined cwd pathBytes _ _ _ _ _ _ _ _ fill fills (made.site sound)
    obtain rfl : answer = .ok () := removed d.path answer (by simp)
    have whole : Files.removeTree ⟨next.put place (.directory WorkDir.ownerOnly copies), cwd⟩
        d.path = .ok root' := by
      rw [made.made, put_put] at removes
      exact removes rfl
    refine .inl ⟨?_, made.removed whole⟩
    have created := not_denied_of_create create
    have copied := not_denied_of_copyLevels fill
    simp [denied_cons_iff, denied_append_iff, created, copied]

/-- What fails leaves nothing behind, at whatever call and however far it got, except that a new
directory stays whose rights could not be set. -/
theorem failed_leaves {e : Chain}
    (path : Task.Path (WorkDir.create base label) events (.error e) ∨
      Task.Path (WorkDir.seed base tree label) events (.error e))
    (spared : Spared cwd root events root') (sound : root.Sound)
    (removed : ∀ path answer, ⟨.removeTree path, answer⟩ ∈ events → answer = .ok ()) :
    Remains cwd root root' base events := by
  obtain path | path := path
  · exact create_leaves path spared
  · exact seed_leaves path spared sound removed

end

/-- The rights of the new directory cannot be set. -/
def deniedEvents : List (Event host) :=
  [⟨.stat ⟨"/demo"⟩, .ok .directory⟩, ⟨.processId, (7 : UInt32)⟩, ⟨.nextNumber, (0 : Nat)⟩,
    ⟨.createDir tangledCopy, .ok ()⟩,
    ⟨.setMode tangledCopy WorkDir.ownerOnly, .error (.system 1)⟩]

/-- An entry of the tree cannot be read. -/
def unreadEvents : List (Event host) :=
  [⟨.stat ⟨"/demo"⟩, .ok .directory⟩, ⟨.processId, (7 : UInt32)⟩, ⟨.nextNumber, (0 : Nat)⟩,
    ⟨.createDir tangledCopy, .ok ()⟩, ⟨.setMode tangledCopy WorkDir.ownerOnly, .ok ()⟩,
    ⟨.listDir ⟨"/demo"⟩, .ok [.error (.system 5)]⟩, ⟨.removeTree tangledCopy, .ok ()⟩]

theorem denied_spared : Spared [] tangled deniedEvents (tangledWith .emptyDirectory) :=
  .call ⟨rfl, fun _ same => Except.ok.inj same ▸ tangled_stat⟩ trivial <|
    .call rfl trivial <| .call rfl trivial <| .call tangled_makes trivial <|
    .call rfl trivial <| .done _

theorem unread_spared : Spared [] tangled unreadEvents tangled := by
  have removed : Files.removeTree ⟨tangledHolding [], []⟩ tangledCopy = .ok tangled :=
    bind_ok_iff.2 ⟨_, tangledCopy_spells.locate_found rfl (by decide), rfl⟩
  have unread : ¬ Whole [.error (.system 5)] := fun whole => by simp [Whole] at whole
  exact .call ⟨rfl, fun _ same => Except.ok.inj same ▸ tangled_stat⟩ trivial <|
    .call rfl trivial <| .call rfl trivial <| .call tangled_makes trivial <|
    .call tangled_owns trivial <|
    .call ⟨rfl, fun all same whole => absurd (Except.ok.inj same ▸ whole) unread⟩
      (fun all same => ⟨_, _, tangled_lists, .refl _, Except.ok.inj same ▸ List.nil_sublist _⟩) <|
    .call (fun _ => removed) trivial <| .done _

/-- One failure leaves nothing of the new directory, the other one leaves it. -/
theorem failed_leaves_tangled :
    Remains [] tangled tangled ⟨"/scratch"⟩ unreadEvents ∧
      Remains [] tangled (tangledWith .emptyDirectory) ⟨"/scratch"⟩ deniedEvents ∧
        tangled.get? ["scratch", "parity_src_7_0"] = none ∧
          (tangledWith .emptyDirectory).get? ["scratch", "parity_src_7_0"] =
            some .emptyDirectory := by
  obtain ⟨e, unread⟩ : ∃ e, Task.Path (WorkDir.seed ⟨"/scratch"⟩ ⟨"/demo"⟩ "parity_src")
      unreadEvents (.error e) := exists_error_of_replay (by decide)
  obtain ⟨e', denied⟩ : ∃ e, Task.Path (WorkDir.seed ⟨"/scratch"⟩ ⟨"/demo"⟩ "parity_src")
      deniedEvents (.error e) := exists_error_of_replay (by decide)
  have kept := failed_leaves (.inr unread) unread_spared tangled_sound (by simp [unreadEvents])
  have stray := failed_leaves (.inr denied) denied_spared tangled_sound (by simp [deniedEvents])
  exact ⟨kept, stray, rfl, rfl⟩

end Tandem.Sandbox
