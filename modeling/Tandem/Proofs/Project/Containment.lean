import Tandem.Proofs.Project.Entry
import Tandem.Proofs.Sandbox.WorkingCopy

/-!
Where the entry file of a tree lies, and what a copy of the tree holds in its place.

* `Contained`: a regular file lies below a tree, with no link on the way.
* `resolveEntry_contained`: so does an entry file.
* `entry_runs`: a working directory that is seeded from the tree later holds the same file there.
-/

namespace Tandem.Project

open Tandem.Host Tandem.Host.Task Tandem.Machine Tandem.Machine.Node Tandem.Sandbox Tandem.Text

/-- A path of a regular file below a tree. The tree lies at `here`, and `names`, which are all that
the file is asked for by, lead there through directories alone. -/
structure Contained (root : Node) (cwd : List String) (tree file place : Path)
    (here names : List String) (bytes : Utf8.Bytes) : Prop where
  found : ∃ node, lookup root cwd tree = .ok (here, node)
  canonical : Files.resolve ⟨root, cwd⟩ tree = .ok (pathOf here)
  named : place = pathOf (here ++ names)
  under : place.isUnder (pathOf here) = true
  parts : file.parts = names.map .name
  spells : Spells file names
  straight : ∀ front rest, names = front ++ rest → rest ≠ [] →
    ∃ around, root.get? (here ++ front) = some around ∧ around.kind = .directory
  regular : ∃ entry, root.get? (here ++ names) = some entry ∧ entry.kind = .file ∧
    Files.contents entry = .ok bytes
  stat : Files.stat ⟨root, cwd⟩ place = .ok .file
  read : Files.read ⟨root, cwd⟩ place = .ok bytes

/-- A regular file is there, seen from the directory at `there`. -/
structure Holds (root : Node) (cwd : List String) (directory file : Path) (bytes : Utf8.Bytes)
    (there : List String) : Prop where
  directory : ∃ node, lookup root cwd directory = .ok (there, node)
  stat : Files.stat ⟨root, there⟩ file = .ok .file
  read : Files.read ⟨root, there⟩ file = .ok bytes

theorem exists_contents {n : Node} (h : n.kind = .file) :
    ∃ bytes, Files.contents n = .ok bytes := by
  cases n with
  | file mode bytes => exact ⟨bytes, rfl⟩
  | program name => exact ⟨_, rfl⟩
  | _ => cases h

theorem map_name_injective {names names' : List String}
    (h : names.map Part.name = names'.map Part.name) : names = names' :=
  (List.map_inj_right fun _ _ => Part.name.inj).1 h

section
variable {root root' node entry : Node} {cwd here there names : List String}
  {tree file place : Path} {events : List (Event host)}

/-- A file that is looked up below a canonical path, and is found where its names say, can be asked
for by them alone. -/
theorem spells_of_lookup (safe : file.isSafe = true) (parts : file.parts = names.map .name)
    (named : ∀ name ∈ here, EntryName name)
    (found : lookup root cwd ((pathOf here).join file) = .ok (here ++ names, entry))
    (isFile : entry.kind = .file) : Spells file names := by
  obtain ⟨filled, relative, -⟩ := Path.isSafe_iff.1 safe
  have absolute : ((pathOf here).join file).isAbsolute = true := by
    rw [Path.isAbsolute_join relative, isAbsolute_pathOf]
  have steps : stepsOf ((pathOf here).join file) = (here ++ names).map .down := by
    refine stepsOf_names (.inr ?_)
    rw [parts_join_safe named safe, parts, List.map_append, List.cons_append]
  have stands : root.get? (startOf cwd ((pathOf here).join file) ++ (here ++ names)) =
      some entry := by
    rw [startOf_absolute absolute]
    exact get?_of_lookup found
  obtain ⟨sayable, short, ends, -⟩ := (lookup_names_iff steps stands (by simp [isFile])).1 found
  refine ⟨sayable.of_join relative filled, stepsOf_names (.inl parts),
    fun name listed => short name (List.mem_append_right here listed), ?_⟩
  rw [endsAsDirectory_join relative] at ends
  simpa [isDirectory_eq_false, isFile] using ends

/-- A canonical path with the same parts as the one that was asked for has no link behind it. -/
theorem contained_of_same {base : Path} (safe : file.isSafe = true) (sound : root.Sound)
    (canonical : Files.resolve ⟨root, cwd⟩ tree = .ok base)
    (resolved : Files.resolve ⟨root, cwd⟩ (base.join file) = .ok place)
    (under : place.isUnder base = true) (same : place.same (base.join file) = true)
    (stat : Files.stat ⟨root, cwd⟩ place = .ok .file) :
    ∃ here names bytes, Contained root cwd tree file place here names bytes := by
  obtain ⟨names, parts, filled⟩ := (Path.parts_safe safe).2
  obtain ⟨⟨here, node⟩, found, rfl⟩ := Files.resolve_ok_iff.1 canonical
  obtain ⟨⟨there, entry⟩, found', rfl⟩ := Files.resolve_ok_iff.1 resolved
  have stands : root.get? there = some entry := get?_of_lookup found'
  obtain ⟨named, -⟩ := sound.get? (get?_of_lookup found)
  obtain ⟨named', -⟩ := sound.get? stands
  obtain rfl : there = here ++ names := by
    have whole : Part.root :: there.map .name = .root :: (here ++ names).map .name := by
      rw [← parts_pathOf named', eq_of_beq same, parts_join_safe named safe, parts]
      simp
    exact map_name_injective (List.cons.inj whole).2
  have plain : entry.kind ≠ .link := by
    refine plain_of_lookup found' ?_ (isDirectory_of_ne_nil stands (by simp [filled]))
    rw [Path.isAbsolute_join (Path.isSafe_iff.1 safe).2.1, isAbsolute_pathOf]
  obtain ⟨⟨there, entry'⟩, found'', isFile⟩ := Files.stat_ok_iff.1 stat
  obtain ⟨-, -, -, -, rfl⟩ := (lookup_names_iff (stepsOf_names (.inr (parts_pathOf named')))
    (by rwa [startOf_absolute (isAbsolute_pathOf _)]) plain).1 found''
  obtain ⟨bytes, read⟩ := exists_contents isFile.symm
  refine ⟨here, names, bytes, {
    found := ⟨node, found⟩
    canonical
    named := rfl
    under
    parts
    spells := spells_of_lookup safe parts named found' isFile.symm
    straight := fun front rest whole further => ?_
    regular := ⟨entry', stands, isFile.symm, read⟩
    stat
    read := bind_ok_iff.2 ⟨(there, entry'), found'', read⟩ }⟩
  rw [whole, ← List.append_assoc] at stands
  obtain ⟨around, found, isDir⟩ := isDirectory_of_get? stands further
  exact ⟨around, found, eq_of_beq isDir⟩

/-- An entry file lies below its tree, with no link on the way. -/
theorem resolveEntry_contained (safe : file.isSafe = true)
    (path : Task.Path (resolveEntry tree file).run events (.ok (some place)))
    (runs : Runs cwd root events root') (sound : root.Sound) :
    ∃ here names bytes, Contained root cwd tree file place here names bytes := by
  cases path_resolveEntry_iff.1 path with
  | regular base _ under same =>
    obtain ⟨next, ⟨kept, canonical⟩, more⟩ := runs_cons_iff.1 runs
    obtain rfl : root = next := kept.symm
    obtain ⟨next, ⟨kept, resolved⟩, more⟩ := runs_cons_iff.1 more
    obtain rfl : root = next := kept.symm
    obtain ⟨next, ⟨-, stat⟩, -⟩ := runs_cons_iff.1 more
    exact contained_of_same safe sound (canonical base rfl) (resolved place rfl) under same
      (stat .file rfl)

/-- What a tree holds by some names, a working directory that is seeded from it holds too. -/
theorem holds_of_seeded {path : Path} {place : List String} {copy : Node} {bytes : Utf8.Bytes}
    (seeded : Seeded cwd root root' tree path here place node copy)
    (relative : file.isAbsolute = false) (spells : Spells file names)
    (regular : ∃ entry, node.get? names = some entry ∧ entry.kind = .file ∧
      Files.contents entry = .ok bytes) : Holds root' cwd path file bytes place := by
  have mirrors := mirrors_of_isCopy seeded.isCopy
  obtain ⟨entry, found, isFile, read⟩ := (mirrors.files names bytes).2 regular
  have stands : root'.get? (place ++ names) = some entry := by
    rw [get?_append, get?_of_lookup seeded.made]
    exact found
  have looked : lookup root' place file = .ok (place ++ names, entry) :=
    spells.lookup_ok (startOf_relative relative place) stands (by simp [isFile])
  exact {
    directory := ⟨copy, seeded.made⟩
    stat := Files.stat_ok_iff.2 ⟨(place ++ names, entry), looked, isFile.symm⟩
    read := bind_ok_iff.2 ⟨(place ++ names, entry), looked, read⟩ }

/-- An entry file lies below its tree, with no link on the way. Where the tree is still the same, a
working directory that is seeded from it and lies outside it holds the file with the same bytes. -/
theorem entry_runs (safe : file.isSafe = true)
    (path : Task.Path (resolveEntry tree file).run events (.ok (some place)))
    (runs : Runs cwd root events root') (sound : root.Sound) :
    ∃ here names bytes, Contained root cwd tree file place here names bytes ∧
      ∀ base label root₁ root₂ later d, root₁.Sound →
        lookup root₁ cwd tree = lookup root cwd tree → Outside root₁ cwd base tree →
          Task.Path (WorkDir.seed base tree label) later (.ok d) → Runs cwd root₁ later root₂ →
            ∃ there, Holds root₂ cwd d.path file bytes there := by
  obtain ⟨here, names, bytes, contained⟩ := resolveEntry_contained safe path runs sound
  refine ⟨here, names, bytes, contained, fun base label root₁ root₂ later d sound₁ kept outside
    seeding runs₁ => ?_⟩
  obtain ⟨here', there, node, copy, seeded⟩ := seed_seeds seeding runs₁ sound₁ outside
  have same := kept.symm.trans seeded.found
  obtain ⟨node', found⟩ := contained.found
  cases found.symm.trans same
  have regular := contained.regular
  rw [get?_append, get?_of_lookup found] at regular
  exact ⟨there, holds_of_seeded seeded (Path.isSafe_iff.1 safe).2.1 contained.spells regular⟩

end

/-! ## An entry of the tangled tree -/

def tangledEntry : Path := ⟨"/demo/lib/util.sh"⟩

/-- The entry is resolved. -/
def tangledLookup : List (Event host) :=
  [⟨.resolve ⟨"/demo"⟩, .ok ⟨"/demo"⟩⟩, ⟨.resolve tangledEntry, .ok tangledEntry⟩,
    ⟨.stat tangledEntry, .ok .file⟩]

theorem tangledLookup_path :
    Task.Path (resolveEntry ⟨"/demo"⟩ ⟨"lib/util.sh"⟩).run tangledLookup
      (.ok (some tangledEntry)) := by
  have joined : (Host.Path.mk "/demo").join ⟨"lib/util.sh"⟩ = tangledEntry := by decide +kernel
  have located : Located ⟨"/demo"⟩ ⟨"lib/util.sh"⟩ _ (.ok (some tangledEntry)) :=
    .regular ⟨"/demo"⟩ tangledEntry (by decide +kernel) (by decide +kernel)
  rw [joined] at located
  exact path_resolveEntry_iff.2 located

theorem tangledLookup_runs : Runs [] tangled tangledLookup tangled := by
  have tree : Spells ⟨"/demo"⟩ ["demo"] := by decide +kernel
  have entry : Spells tangledEntry ["demo", "lib", "util.sh"] := by decide +kernel
  have found : tangled.get? ["demo", "lib", "util.sh"] = some (.file 0o755 [10]) := rfl
  have canonical : Files.resolve ⟨tangled, []⟩ ⟨"/demo"⟩ = .ok ⟨"/demo"⟩ :=
    Files.resolve_ok_iff.2 ⟨(["demo"], tangledTree), tree.lookup_root rfl (by decide),
      by decide +kernel⟩
  have resolved : Files.resolve ⟨tangled, []⟩ tangledEntry = .ok tangledEntry :=
    Files.resolve_ok_iff.2 ⟨_, entry.lookup_root found (by decide), by decide +kernel⟩
  have stat : Files.stat ⟨tangled, []⟩ tangledEntry = .ok .file :=
    Files.stat_ok_iff.2 ⟨_, entry.lookup_root found (by decide), rfl⟩
  exact .call ⟨rfl, fun _ same => Except.ok.inj same ▸ canonical⟩ <|
    .call ⟨rfl, fun _ same => Except.ok.inj same ▸ resolved⟩ <|
    .call ⟨rfl, fun _ same => Except.ok.inj same ▸ stat⟩ <| .done _

theorem entry_runs_tangled :
    ∃ here names bytes,
      Contained tangled [] ⟨"/demo"⟩ ⟨"lib/util.sh"⟩ tangledEntry here names bytes ∧
      ∃ there, Holds (tangledHolding [("lib", .directory 0o755 [("util.sh", .file 0o755 [10])])]) []
        tangledCopy ⟨"lib/util.sh"⟩ bytes there := by
  obtain ⟨here, names, bytes, contained, holds⟩ :=
    entry_runs (by decide +kernel) tangledLookup_path tangledLookup_runs tangled_sound
  exact ⟨here, names, bytes, contained, holds ⟨"/scratch"⟩ "parity_src" tangled _ tangledEvents
    ⟨tangledCopy⟩ tangled_sound rfl tangled_outside tangled_path tangled_runs⟩

end Tandem.Project
