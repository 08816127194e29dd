import Tandem.Machine.Files
import Tandem.Proofs.Host.Trace
import Tandem.Proofs.Machine.Lookup

/-!
What the calls of a file system do, on paths whose directories are known.

* `createDir_ok`, `copy_ok`: what a call makes that succeeds, where nothing was.
* `setMode_ok`, `listDir_ok`: what a call does to a directory, or shows of it.
-/

namespace Tandem.Machine.Files

open Tandem.Host Tandem.Text Tandem.Machine.Node

section
variable {root root' node inner : Node} {cwd here there names place : List String} {p p' : Path}
  {left left' mode : Nat} {name : String}

theorem stat_ok_iff {fileKind : FileKind} :
    stat ⟨root, cwd⟩ p = .ok fileKind ↔
      ∃ found, lookup root cwd p = .ok found ∧ fileKind = found.2.kind :=
  map_ok_iff

theorem resolve_ok_iff :
    resolve ⟨root, cwd⟩ p = .ok p' ↔
      ∃ found, lookup root cwd p = .ok found ∧ p' = pathOf found.1 :=
  map_ok_iff

theorem free_ok_iff :
    free ⟨root, cwd⟩ p = .ok names ↔ locate root cwd false p = .ok ⟨names, none⟩ := by
  rw [free, bind_ok_iff]
  constructor
  · rintro ⟨⟨names', node?⟩, located, h⟩
    cases node? with
    | none => cases h; exact located
    | some node => cases h
  · intro located
    exact ⟨_, located, rfl⟩

theorem createDir_ok_iff :
    createDir ⟨root, cwd⟩ p = .ok root' ↔ ∃ names,
      locate root cwd false p = .ok ⟨names, none⟩ ∧ root' = root.put names .emptyDirectory := by
  rw [createDir, bind_ok_iff]
  simp only [free_ok_iff]
  exact exists_congr fun names => and_congr_right fun _ => ⟨fun h => (Except.ok.inj h).symm,
    fun h => congrArg Except.ok h.symm⟩

/-- A directory is made where nothing was. -/
theorem createDir_ok (h : createDir ⟨root, cwd⟩ (p / name) = .ok root')
    (reaches : Reaches root cwd p left there) (named : EntryName name) :
    name.utf8ByteSize ≤ nameLimit ∧ root.get? (there ++ [name]) = none ∧
      root' = root.put (there ++ [name]) .emptyDirectory := by
  obtain ⟨names, located, rfl⟩ := createDir_ok_iff.1 h
  obtain ⟨-, walked⟩ := (reaches.locate_join named).1 located
  have free := free_of_walk walked
  obtain ⟨short, same⟩ := walk_free walked free
  cases same
  exact ⟨short, free, rfl⟩

/-- The directory around a new one was there. -/
theorem reaches_of_createDir (h : createDir ⟨root, cwd⟩ (p / name) = .ok root')
    (named : EntryName name) :
    ∃ left there, Reaches root cwd p left there ∧ Sayable (p / name) := by
  obtain ⟨names, located, -⟩ := createDir_ok_iff.1 h
  obtain ⟨left, there, reaches, sayable, -⟩ := reaches_of_locate_join located named
  exact ⟨left, there, reaches, sayable⟩

theorem setMode_ok (h : setMode ⟨root, cwd⟩ p mode = .ok root')
    (reaches : Reaches root cwd p left there) (found : root.get? there = some node) :
    root' = root.put there (node.withMode mode) := by
  obtain ⟨⟨names, node'⟩, looked, h⟩ := bind_ok_iff.1 h
  obtain ⟨-, rfl, found'⟩ := reaches.lookup_ok_iff.1 looked
  obtain rfl := Option.some.inj (found.symm.trans found')
  exact (Except.ok.inj h).symm

/-- How a directory shows an entry. -/
def shown (entry : String × Node) : Except IoError Entry := .ok ⟨entry.1, .ok entry.2.kind⟩

theorem listDir_ok_iff {listed : List (Except IoError Entry)} :
    listDir ⟨root, cwd⟩ p = .ok listed ↔ ∃ names node, lookup root cwd p = .ok (names, node) ∧
      node.isDirectory = true ∧ listed = node.entries.map shown := by
  rw [listDir, bind_ok_iff]
  constructor
  · rintro ⟨⟨names, node⟩, looked, h⟩
    dsimp only at h
    split at h
    · rename_i isDir
      exact ⟨names, node, looked, isDir, (Except.ok.inj h).symm⟩
    · cases h
  · rintro ⟨names, node, looked, isDir, rfl⟩
    refine ⟨(names, node), looked, ?_⟩
    dsimp only
    rw [if_pos isDir]
    rfl

theorem listDir_ok {listed : List (Except IoError Entry)}
    (h : listDir ⟨root, cwd⟩ p = .ok listed) (reaches : Reaches root cwd p left there)
    (found : root.get? there = some node) : listed = node.entries.map shown := by
  obtain ⟨names, node', looked, -, rfl⟩ := listDir_ok_iff.1 h
  obtain ⟨-, rfl, found'⟩ := reaches.lookup_ok_iff.1 looked
  obtain rfl := Option.some.inj (found.symm.trans found')
  rfl

/-- A file is written to where nothing was. -/
theorem write_ok {bytes : Utf8.Bytes} (h : write ⟨root, cwd⟩ (p / name) false bytes = .ok root')
    (reaches : Reaches root cwd p left there) (named : EntryName name)
    (free : root.get? (there ++ [name]) = none) :
    root' = root.put (there ++ [name]) (.file 0o644 bytes) := by
  rw [write] at h
  split at h
  · cases h
  · obtain ⟨place, located, h⟩ := bind_ok_iff.1 h
    obtain ⟨-, walked⟩ := (reaches.locate_join named).1 located
    obtain ⟨-, rfl⟩ := walk_free walked free
    exact (Except.ok.inj h).symm

/-- A copy makes a file where nothing was. -/
theorem copy_makes (h : copy ⟨root, cwd⟩ p' (p / name) = .ok root')
    (reaches : Reaches root cwd p left there) (named : EntryName name)
    (free : root.get? (there ++ [name]) = none) :
    ∃ names node bytes, lookup root cwd p' = .ok (names, node) ∧ contents node = .ok bytes ∧
      root' = root.put (there ++ [name]) (.file node.mode bytes) := by
  obtain ⟨⟨names, node⟩, looked, h⟩ := bind_ok_iff.1 h
  obtain ⟨bytes, read, h⟩ := bind_ok_iff.1 h
  obtain ⟨filled, written, moded⟩ := bind_ok_iff.1 h
  obtain rfl := write_ok written reaches named free
  obtain ⟨around, stands, isDir⟩ := reaches.stands
  have offers : root.Offers (there ++ [name]) := offers_snoc stands isDir name
  have reaches' : Reaches (root.put (there ++ [name]) (.file 0o644 bytes)) cwd p left there :=
    reaches.mono (grows_put_free offers free)
  obtain ⟨⟨names', node'⟩, looked', h⟩ := bind_ok_iff.1 moded
  obtain ⟨-, walked⟩ := (reaches'.locate_join named).1 (lookup_ok_iff.1 looked')
  obtain ⟨-, same⟩ := walk_found walked (get?_put offers) (by simp [kind])
  cases same
  refine ⟨names, node, bytes, looked, read, ?_⟩
  rw [← Except.ok.inj h, put_put]
  rfl

/-- A file is copied to where nothing was. -/
theorem copy_ok (h : copy ⟨root, cwd⟩ (p / name) (p' / name) = .ok root')
    (source : Reaches root cwd p left here) (target : Reaches root cwd p' left' there)
    (named : EntryName name) (found : root.get? (here ++ [name]) = some inner)
    (isFile : inner.kind = .file) (free : root.get? (there ++ [name]) = none) :
    ∃ mode bytes, contents inner = .ok bytes ∧
      root' = root.put (there ++ [name]) (.file mode bytes) := by
  obtain ⟨names, node, bytes, looked, read, rfl⟩ := copy_makes h target named free
  have plain : inner.kind ≠ .link := by simp [isFile]
  obtain ⟨-, walked⟩ := (source.locate_join named).1 (lookup_ok_iff.1 looked)
  obtain ⟨-, same⟩ := walk_found walked found plain
  cases same
  exact ⟨_, bytes, read, rfl⟩

/-- A directory is removed with all that it holds. -/
theorem removeTree_ok (h : removeTree ⟨root, cwd⟩ (p / name) = .ok root')
    (reaches : Reaches root cwd p left there) (named : EntryName name)
    (found : root.get? (there ++ [name]) = some node) (isDir : node.isDirectory = true) :
    root' = root.erase (there ++ [name]) := by
  obtain ⟨place, located, h⟩ := bind_ok_iff.1 h
  obtain ⟨-, walked⟩ := (reaches.locate_join named).1 located
  obtain ⟨-, rfl⟩ := walk_found walked found (plain_of_isDirectory isDir)
  obtain ⟨mode, entries, rfl⟩ := isDirectory_iff.1 isDir
  exact (Except.ok.inj h).symm

end

end Tandem.Machine.Files
