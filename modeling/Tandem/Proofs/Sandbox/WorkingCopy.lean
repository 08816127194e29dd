import Tandem.Proofs.Sandbox.Copying

/-!
What a working directory holds that was seeded from a tree, and what becomes of the tree.

* `create_makes`: a working directory is new, empty and called by its path.
* `seed_mirrors`: one that is seeded and does not lie inside the tree mirrors the tree, and nothing
  else has changed.
-/

namespace Tandem.Sandbox

open Tandem.Host Tandem.Host.Task Tandem.Machine Tandem.Machine.Node Tandem.Text

/-- A new directory: nothing was where it is, it is empty, and its path leads to it. -/
structure Made (cwd : List String) (root root' : Node) (base path : Path) (place : List String) :
    Prop where
  around : ∃ left there name, Reaches root cwd base left there ∧ EntryName name ∧
    place = there ++ [name] ∧ path = base / name
  offers : root.Offers place
  free : root.get? place = none
  made : root' = root.put place (.directory WorkDir.ownerOnly [])
  names : ∃ left, Reaches root' cwd path left place
  sayable : Sayable path

section
variable {root root' : Node} {cwd : List String} {base tree : Path} {label : String} {pid : UInt32}
  {events : List (Event host)} {d : WorkDir}

theorem proper_of_isIdentifier (h : isIdentifier label = true) : Proper label := by
  rw [isIdentifier, Bool.and_eq_true, Bool.and_eq_true, List.all_eq_true] at h
  obtain ⟨⟨filled, -⟩, letters⟩ := h
  refine ⟨by simpa using filled, fun slash => ?_⟩
  exact absurd (letters '/' slash) (by decide)

/-- What a working directory is called is the name of an entry. -/
theorem name_entryName (h : isIdentifier label = true) (pid : UInt32) (number : Nat) :
    EntryName (WorkDir.name label pid number) := by
  have low : '_' ∈ (WorkDir.name label pid number).toList := by
    have text : WorkDir.name label pid number =
        label ++ "_" ++ toString pid.toNat ++ "_" ++ toString number := rfl
    simp [text, String.toList_append]
  refine ⟨name_proper (proper_of_isIdentifier h) pid number, fun dot => ?_, fun dots => ?_⟩
  · rw [dot] at low
    exact absurd low (by decide)
  · rw [dots] at low
    exact absurd low (by decide)

/-- A directory that was made and became its owner's alone. -/
theorem made_of_createDir {next : Node} {name : String} (named : EntryName name)
    (created : Files.createDir ⟨root, cwd⟩ (base / name) = .ok next)
    (owned : Files.setMode ⟨next, cwd⟩ (base / name) WorkDir.ownerOnly = .ok root') :
    ∃ place, Made cwd root root' base (base / name) place := by
  obtain ⟨left, there, reaches, sayable⟩ := Files.reaches_of_createDir created named
  obtain ⟨short, free, rfl⟩ := Files.createDir_ok created reaches named
  obtain ⟨around, stands, isDir⟩ := reaches.stands
  have offers := offers_snoc stands isDir name
  have reaches' (node : Node) (isDir : node.isDirectory = true) :
      Reaches (root.put (there ++ [name]) node) cwd (base / name) left (there ++ [name]) :=
    (reaches.mono (grows_put_free offers free)).join named (get?_put offers) isDir short
  obtain rfl := Files.setMode_ok owned (reaches' .emptyDirectory rfl) (get?_put offers)
  rw [put_put]
  exact ⟨there ++ [name], {
    around := ⟨left, there, name, reaches, named, rfl, rfl⟩
    offers
    free
    made := rfl
    names := ⟨left, reaches' _ rfl⟩
    sayable }⟩

theorem createWith_makes (identifier : isIdentifier label = true) {tries : Nat}
    (path : Task.Path (WorkDir.createWith base label pid tries) events (.ok d))
    (runs : Runs cwd root events root') : ∃ place, Made cwd root root' base d.path place := by
  induction tries generalizing events root with
  | zero => exact nomatch (path_done_iff.1 path).2
  | succ tries ih =>
    obtain ⟨number, next, rest, same, tail, more⟩ := runs_ask path runs
    obtain rfl : root = next := same.symm
    obtain ⟨created, next, rest, serves, tail, more⟩ := runs_ask tail more
    cases created with
    | error e =>
      obtain rfl : root = next := serves.symm
      dsimp only at tail
      split at tail
      · exact ih tail more
      · exact nomatch (path_done_iff.1 tail).2
    | ok _ =>
      obtain ⟨owned, next', rest, serves', last, more⟩ := runs_ask tail more
      cases owned with
      | error e => exact nomatch (path_done_iff.1 last).2
      | ok _ =>
        obtain ⟨rfl, same⟩ := path_done_iff.1 last
        obtain rfl := runs_nil_iff.1 more
        cases same
        exact made_of_createDir (name_entryName identifier pid number) serves serves'

theorem create_makes (path : Task.Path (WorkDir.create base label) events (.ok d))
    (runs : Runs cwd root events root') : ∃ place, Made cwd root root' base d.path place := by
  rw [WorkDir.create] at path
  split at path
  · rename_i identifier
    obtain ⟨pid, next, rest, same, tail, more⟩ := runs_ask path runs
    obtain rfl : root = next := same.symm
    exact createWith_makes identifier tail more
  · cases (path_done_iff.1 path).2

/-- A working directory that is seeded is made first, and then filled. -/
theorem path_seed_ok (path : Task.Path (WorkDir.seed base tree label) events (.ok d)) :
    ∃ creating copying, events = ⟨.stat tree, .ok .directory⟩ :: (creating ++ copying) ∧
      Task.Path (WorkDir.create base label) creating (.ok d) ∧
      Task.Path (copyContents tree d.path) copying (.ok ()) := by
  obtain ⟨answer, rest, rfl, tail⟩ := path_ask_bind_iff.1 path
  match answer, tail with
  | .error e, tail => exact nomatch (path_done_iff.1 tail).2
  | .ok .file, tail | .ok .link, tail | .ok .special, tail =>
    exact nomatch (path_done_iff.1 tail).2
  | .ok .directory, tail =>
    obtain ⟨creating, rest, created, rfl, create, tail'⟩ := path_bind_iff.1 tail
    cases created with
    | error e => exact nomatch (path_done_iff.1 tail').2
    | ok d' =>
      obtain ⟨copying, rest, copied, rfl, copy, last⟩ := path_bind_iff.1 tail'
      cases copied with
      | error e =>
        obtain ⟨_, _, _, -, -, last'⟩ := path_bind_iff.1 last
        exact nomatch (path_done_iff.1 last').2
      | ok _ =>
        obtain ⟨rfl, same⟩ := path_done_iff.1 last
        cases same
        exact ⟨creating, copying, by simp, create, copy⟩

/-- The directory in which new ones are made lies outside a tree. It is asked for by a dot in it,
since its own path may be empty. -/
def Outside (root : Node) (cwd : List String) (base tree : Path) : Prop :=
  ∀ here node there around, lookup root cwd tree = .ok (here, node) →
    lookup root cwd (base / ".") = .ok (there, around) → ¬ here <+: there

/-- What is made outside a tree is apart from it. -/
theorem Made.apart {place here : List String} {node : Node} {path : Path}
    (h : Made cwd root root' base path place) (outside : Outside root cwd base tree)
    (found : lookup root cwd tree = .ok (here, node)) : Apart here place := by
  have stands : root.get? here = some node := get?_of_lookup found
  obtain ⟨left, there, name, reaches, named, rfl, rfl⟩ := h.around
  obtain ⟨around, base⟩ := reaches.lookup_dot (h.sayable.dot named)
  constructor
  · intro within
    obtain same | within := List.prefix_concat_iff.1 within
    · rw [same, h.free] at stands
      cases stands
    · exact outside here node there around found base within
  · rintro ⟨rel, rfl⟩
    rw [get?_append, h.free] at stands
    cases stands

/-- A working directory, and the tree that it was seeded from. -/
structure Seeded (cwd : List String) (root root' : Node) (tree path : Path)
    (here place : List String) (node copy : Node) : Prop where
  /-- The tree was there before, and is as it was. -/
  found : lookup root cwd tree = .ok (here, node)
  kept : lookup root' cwd tree = .ok (here, node)
  /-- The directory was not, and is there now. -/
  free : root.get? place = none
  made : lookup root' cwd path = .ok (place, copy)
  isCopy : IsCopy node copy
  /-- Nothing else has changed. -/
  rest : root' = root.put place copy

theorem seed_seeds (path : Task.Path (WorkDir.seed base tree label) events (.ok d))
    (runs : Runs cwd root events root') (sound : root.Sound)
    (outside : Outside root cwd base tree) :
    ∃ here place node copy, Seeded cwd root root' tree d.path here place node copy := by
  obtain ⟨creating, copying, rfl, create, copies⟩ := path_seed_ok path
  obtain ⟨next, ⟨same, stat⟩, more⟩ := runs_cons_iff.1 runs
  obtain rfl : root = next := same.symm
  obtain ⟨next, creates, fills⟩ := runs_append_iff.1 more
  obtain ⟨⟨here, node⟩, found, isDir⟩ := Files.stat_ok_iff.1 (stat .directory rfl)
  replace isDir : node.isDirectory = true := isDirectory_of_kind isDir.symm
  obtain ⟨place, made⟩ := create_makes create creates
  obtain rfl := made.made
  have apart : Apart here place := made.apart outside found
  have stands : root.get? here = some node := get?_of_lookup found
  obtain ⟨left, reaches⟩ := reaches_of_lookup found isDir
  have grows (filled : Node) : Grows root (root.put place filled) :=
    grows_put_free made.offers made.free
  have kept (filled : Node) : (root.put place filled).get? here = some node :=
    (get?_put_apart apart.symm).trans stands
  obtain ⟨copy, rfl, isCopy⟩ := copyLevels_copies cwd pathBytes _ root' tree d.path here place node
    copying copies fills {
      source := ⟨left, reaches.mono (grows _)⟩
      target := made.names
      found := kept _
      isDir
      sound := (sound.get? stands).2
      empty := ⟨_, get?_put made.offers⟩
      apart }
  obtain ⟨left', names⟩ := made.names
  have names' : Reaches (root.put place copy) cwd d.path left' place := by
    rw [← put_put]
    exact names.mono (grows_put_empty (get?_put made.offers) (isCopy.isDirectory isDir))
  rw [put_put]
  exact ⟨here, place, node, copy, {
    found
    kept := (reaches.mono (grows copy)).lookup_ok_iff.2 ⟨sayable_of_lookup found, rfl, kept copy⟩
    free := made.free
    made := names'.lookup_ok_iff.2 ⟨made.sayable, rfl, get?_put made.offers⟩
    isCopy
    rest := rfl }⟩

/-- A working directory that is seeded outside a tree mirrors the tree, which stays as it was with
all else that is apart from that directory. -/
theorem seed_mirrors (path : Task.Path (WorkDir.seed base tree label) events (.ok d))
    (runs : Runs cwd root events root') (sound : root.Sound)
    (outside : Outside root cwd base tree) :
    ∃ here place node copy, Seeded cwd root root' tree d.path here place node copy ∧
      Mirrors node copy ∧ ∀ names, Apart place names → root'.get? names = root.get? names := by
  obtain ⟨here, place, node, copy, seeded⟩ := seed_seeds path runs sound outside
  refine ⟨here, place, node, copy, seeded, mirrors_of_isCopy seeded.isCopy, fun names apart => ?_⟩
  rw [seeded.rest]
  exact get?_put_apart apart

end

/-! ## A tangled tree -/

/-- A tree with links that lead up, out of it and nowhere. -/
def tangledTree : Node :=
  .directory 0o755 [
    ("alias", .link "lib/util.sh"),
    ("lib", .directory 0o755 [("up", .link ".."), ("util.sh", .file 0o755 [10])]),
    ("loop", .link "loop"),
    ("null", .device "null"),
    ("outside", .link "/etc")]

/-- The tree beside what is outside, and beside a place for copies. -/
def tangled : Node :=
  .directory 0o755 [
    ("demo", tangledTree),
    ("etc", .directory 0o755 [("secret", .file 0o600 [42])]),
    ("scratch", .directory 0o755 [])]

def tangledCopy : Path := ⟨"/scratch/parity_src_7_0"⟩

/-- What there is when something is in the place of the copy. -/
def tangledWith (copy : Node) : Node := tangled.put ["scratch", "parity_src_7_0"] copy

def tangledHolding (copies : List (String × Node)) : Node :=
  tangledWith (.directory WorkDir.ownerOnly copies)

/-- A working directory is seeded from the tree. -/
def tangledEvents : List (Event host) :=
  [⟨.stat ⟨"/demo"⟩, .ok .directory⟩, ⟨.processId, (7 : UInt32)⟩, ⟨.nextNumber, (0 : Nat)⟩,
    ⟨.createDir tangledCopy, .ok ()⟩, ⟨.setMode tangledCopy WorkDir.ownerOnly, .ok ()⟩,
    ⟨.listDir ⟨"/demo"⟩, .ok (tangledTree.entries.map Files.shown)⟩,
    ⟨.createDir ⟨"/scratch/parity_src_7_0/lib"⟩, .ok ()⟩,
    ⟨.listDir ⟨"/demo/lib"⟩, .ok [Files.shown ("up", .link ".."),
      Files.shown ("util.sh", .file 0o755 [10])]⟩,
    ⟨.copyFile ⟨"/demo/lib/util.sh"⟩ ⟨"/scratch/parity_src_7_0/lib/util.sh"⟩, .ok ()⟩]

theorem tangled_path :
    Task.Path (WorkDir.seed ⟨"/scratch"⟩ ⟨"/demo"⟩ "parity_src") tangledEvents
      (.ok ⟨tangledCopy⟩) :=
  path_ok_of_replay (by decide)

theorem tangledCopy_spells : Spells tangledCopy ["scratch", "parity_src_7_0"] := by decide

theorem tangledTree_spells : Spells ⟨"/demo"⟩ ["demo"] := by decide

theorem tangled_stat : Files.stat ⟨tangled, []⟩ ⟨"/demo"⟩ = .ok .directory :=
  Files.stat_ok_iff.2
    ⟨(["demo"], tangledTree), tangledTree_spells.lookup_root rfl (by decide), rfl⟩

theorem tangled_makes :
    Files.createDir ⟨tangled, []⟩ tangledCopy = .ok (tangledWith .emptyDirectory) :=
  Files.createDir_ok_iff.2
    ⟨_, tangledCopy_spells.locate_root (by decide) rfl rfl rfl, rfl⟩

theorem tangled_owns :
    Files.setMode ⟨tangledWith .emptyDirectory, []⟩ tangledCopy WorkDir.ownerOnly =
      .ok (tangledHolding []) :=
  bind_ok_iff.2 ⟨_, tangledCopy_spells.lookup_root rfl (by decide), rfl⟩

theorem tangled_lists :
    Files.listDir ⟨tangledHolding [], []⟩ ⟨"/demo"⟩ =
      .ok (tangledTree.entries.map Files.shown) :=
  bind_ok_iff.2
    ⟨(["demo"], tangledTree), tangledTree_spells.lookup_root rfl (by decide), rfl⟩

theorem tangled_runs :
    Runs [] tangled tangledEvents
      (tangledHolding [("lib", .directory 0o755 [("util.sh", .file 0o755 [10])])]) := by
  have fileSpells : Spells ⟨"/scratch/parity_src_7_0/lib/util.sh"⟩
      ["scratch", "parity_src_7_0", "lib", "util.sh"] := by decide
  have made' : Files.createDir ⟨tangledHolding [], []⟩ ⟨"/scratch/parity_src_7_0/lib"⟩ =
      .ok (tangledHolding [("lib", .emptyDirectory)]) := by
    have spells : Spells ⟨"/scratch/parity_src_7_0/lib"⟩ ["scratch", "parity_src_7_0", "lib"] := by
      decide
    exact Files.createDir_ok_iff.2 ⟨_, spells.locate_root (by decide) rfl rfl rfl, rfl⟩
  have listed' : Files.listDir ⟨tangledHolding [("lib", .emptyDirectory)], []⟩ ⟨"/demo/lib"⟩ =
      .ok [Files.shown ("up", .link ".."), Files.shown ("util.sh", .file 0o755 [10])] := by
    have spells : Spells ⟨"/demo/lib"⟩ ["demo", "lib"] := by decide
    exact bind_ok_iff.2 ⟨_, spells.lookup_root rfl (by decide), rfl⟩
  have copied : Files.copy ⟨tangledHolding [("lib", .emptyDirectory)], []⟩ ⟨"/demo/lib/util.sh"⟩
      ⟨"/scratch/parity_src_7_0/lib/util.sh"⟩ =
        .ok (tangledHolding [("lib", .directory 0o755 [("util.sh", .file 0o755 [10])])]) := by
    have spells : Spells ⟨"/demo/lib/util.sh"⟩ ["demo", "lib", "util.sh"] := by decide
    have written : Files.write ⟨tangledHolding [("lib", .emptyDirectory)], []⟩
        ⟨"/scratch/parity_src_7_0/lib/util.sh"⟩ false [10] =
          .ok (tangledHolding [("lib", .directory 0o755 [("util.sh", .file 0o644 [10])])]) := by
      rw [Files.write, if_neg (by decide)]
      exact bind_ok_iff.2 ⟨_, fileSpells.locate_root (by decide) rfl rfl rfl, rfl⟩
    refine bind_ok_iff.2 ⟨_, spells.lookup_root rfl (by decide),
      bind_ok_iff.2 ⟨[10], rfl, bind_ok_iff.2 ⟨_, written, ?_⟩⟩⟩
    exact bind_ok_iff.2 ⟨_, fileSpells.lookup_root rfl (by decide), rfl⟩
  exact .call ⟨rfl, fun kind same => Except.ok.inj same ▸ tangled_stat⟩ <| .call rfl <| .call rfl <|
    .call tangled_makes <| .call tangled_owns <|
    .call ⟨rfl, fun all same _ => ⟨_, tangled_lists, Except.ok.inj same ▸ .refl _⟩⟩ <|
    .call made' <|
    .call ⟨rfl, fun all same _ => ⟨_, listed', Except.ok.inj same ▸ .refl _⟩⟩ <|
    .call (fun _ => copied) <| .done _

theorem tangled_sound : tangled.Sound := by
  have lib : Sound (.directory 0o755 [("up", .link ".."), ("util.sh", .file 0o755 [10])]) :=
    .directory (by decide) (by decide) (by simp)
  have tree : tangledTree.Sound := .directory (by decide) (by decide) (by simp [lib])
  have outside : Sound (.directory 0o755 [("secret", .file 0o600 [42])]) :=
    .directory (by decide) (by decide) (by simp)
  have scratch : Sound (.directory 0o755 []) := .directory (by decide) (by decide) (by simp)
  exact .directory (by decide) (by decide) (by simp [tree, outside, scratch])

theorem tangled_outside : Outside tangled [] ⟨"/scratch"⟩ ⟨"/demo"⟩ := by
  intro here node there around tree base
  have demo : Spells ⟨"/demo"⟩ ["demo"] := by decide
  have scratch : Spells ⟨"/scratch"⟩ ["scratch"] := by decide
  have found : tangled.get? ["demo"] = some tangledTree := rfl
  have found' : tangled.get? ["scratch"] = some (.directory 0o755 []) := rfl
  obtain ⟨around', dot⟩ := (scratch.reaches (ite_self _) found' rfl).lookup_dot (by decide)
  cases (demo.lookup_root found (by decide)).symm.trans tree
  cases dot.symm.trans base
  decide

theorem seed_mirrors_tangled :
    ∃ here place node copy, Seeded [] tangled
        (tangledHolding [("lib", .directory 0o755 [("util.sh", .file 0o755 [10])])])
        ⟨"/demo"⟩ tangledCopy here place node copy ∧ Mirrors node copy := by
  obtain ⟨here, place, node, copy, seeded, mirrors, -⟩ :=
    seed_mirrors tangled_path tangled_runs tangled_sound tangled_outside
  exact ⟨here, place, node, copy, seeded, mirrors⟩

end Tandem.Sandbox
