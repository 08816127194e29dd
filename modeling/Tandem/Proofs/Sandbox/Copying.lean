import Tandem.Proofs.Machine.Run
import Tandem.Proofs.Sandbox.Seeding

/-!
What a copy of a directory holds, and what copying leaves as it was.

* `IsCopy`, `Mirrors`: a copy holds the tree's directories and files, and nothing else.
* `copyLevels_copies`: a copy that succeeds is one, and changes nothing but its own directory.
-/

namespace Tandem.Sandbox

open Tandem.Host Tandem.Host.Task Tandem.Machine Tandem.Machine.Node Tandem.Text

/-- What a copy makes of a node. Links and special files are passed over. -/
def copied? (n : Node) : Option (Item Utf8.Bytes) :=
  match n.kind with
  | .directory => some .directory
  | .file => (Files.contents n).toOption.map .file
  | .link => none
  | .special => none

/-- What is there of a copy, where this is there of a tree: at every place the same as is to be
copied, and nothing at all where nothing is. -/
def Copied (n? copy? : Option Node) : Prop :=
  ∀ rel, (copy?.bind (·.get? rel)).map copied? = ((n?.bind (·.get? rel)).bind copied?).map some

/-- A copy of a tree. -/
def IsCopy (n copy : Node) : Prop := Copied (some n) (some copy)

section
variable {n copy inner : Node} {mode mode' : Nat} {bytes : Utf8.Bytes}
  {entries copies : List (String × Node)}

theorem copied?_eq_directory_iff :
    copied? n = some .directory ↔ n.kind = .directory := by
  rw [copied?]
  cases n.kind <;> simp

theorem copied?_eq_file_iff :
    copied? n = some (.file bytes) ↔ n.kind = .file ∧ Files.contents n = .ok bytes := by
  rw [copied?]
  cases n.kind <;> cases Files.contents n <;> simp [Except.toOption]

theorem isCopy_iff :
    IsCopy n copy ↔ ∀ rel, (copy.get? rel).map copied? = ((n.get? rel).bind copied?).map some :=
  Iff.rfl

theorem copied_none : Copied none none := fun _ => rfl

/-- A link or a special file is passed over. -/
theorem copied_passed (passed : copied? n = none) : Copied (some n) none := by
  have leaf : n.isDirectory = false := isDirectory_eq_false fun isDir => by
    cases passed.symm.trans (copied?_eq_directory_iff.2 isDir)
  intro rel
  rw [Option.bind_some, get?_of_not_isDirectory leaf]
  split <;> simp [passed]

theorem isCopy_file (isFile : n.kind = .file) (read : Files.contents n = .ok bytes) :
    IsCopy n (.file mode bytes) := by
  have same : copied? n = some (.file bytes) := copied?_eq_file_iff.2 ⟨isFile, read⟩
  have leaf : n.isDirectory = false := isDirectory_eq_false (by simp [isFile])
  have leaf' : (Node.file mode bytes).isDirectory = false := rfl
  rw [isCopy_iff]
  intro rel
  rw [get?_of_not_isDirectory leaf, get?_of_not_isDirectory leaf']
  split
  · rw [Option.bind_some, same]
    rfl
  · rfl

/-- A directory is copied entry by entry. -/
theorem isCopy_directory (isDir : n.isDirectory = true)
    (each : ∀ name, Copied (n.child? name) (copies.lookup name)) :
    IsCopy n (.directory mode copies) := by
  rw [isCopy_iff]
  intro rel
  obtain ⟨mode', entries, rfl⟩ := isDirectory_iff.1 isDir
  cases rel with
  | nil => rfl
  | cons name rel =>
    rw [get?_cons, get?_cons]
    exact each name rel

theorem IsCopy.isDirectory (h : IsCopy n copy) (isDir : n.isDirectory = true) :
    copy.isDirectory = true := by
  obtain ⟨mode, entries, rfl⟩ := isDirectory_iff.1 isDir
  have same : copied? copy = some .directory := Option.some.inj (h [])
  cases copy with
  | directory mode entries => rfl
  | _ => cases same

/-- Directories and regular files stand at the same places of both trees, the files with the same
bytes, and the second tree holds nothing else. -/
structure Mirrors (n copy : Node) : Prop where
  directories : ∀ rel, (∃ inner, copy.get? rel = some inner ∧ inner.kind = .directory) ↔
    ∃ inner, n.get? rel = some inner ∧ inner.kind = .directory
  files : ∀ rel bytes,
    (∃ inner, copy.get? rel = some inner ∧ inner.kind = .file ∧
      Files.contents inner = .ok bytes) ↔
    ∃ inner, n.get? rel = some inner ∧ inner.kind = .file ∧ Files.contents inner = .ok bytes
  nothingElse : ∀ rel inner, copy.get? rel = some inner →
    inner.kind = .directory ∨ inner.kind = .file

theorem IsCopy.item_iff (h : IsCopy n copy) (rel : List String) (item : Item Utf8.Bytes) :
    (∃ inner, copy.get? rel = some inner ∧ copied? inner = some item) ↔
      ∃ inner, n.get? rel = some inner ∧ copied? inner = some item := by
  rw [← Option.map_eq_some_iff, ← Option.bind_eq_some_iff, isCopy_iff.1 h rel,
    Option.map_eq_some_iff]
  simp only [Option.some.injEq, exists_eq_right]

theorem mirrors_of_isCopy (h : IsCopy n copy) : Mirrors n copy where
  directories rel := by
    simpa only [copied?_eq_directory_iff] using h.item_iff rel .directory
  files rel bytes := by
    simpa only [copied?_eq_file_iff] using h.item_iff rel (.file bytes)
  nothingElse rel inner found := by
    have same := isCopy_iff.1 h rel
    rw [found, Option.map_some] at same
    obtain ⟨item, -, made⟩ := Option.map_eq_some_iff.1 same.symm
    cases item with
    | directory => exact .inl (copied?_eq_directory_iff.1 made.symm)
    | file bytes => exact .inr (copied?_eq_file_iff.1 made.symm).1

end

/-! ## Copying -/

/-- A directory that can be copied, to an empty one that is apart from it. -/
structure Ready (root : Node) (cwd : List String) (source target : Path) (here place : List String)
    (n : Node) : Prop where
  source : ∃ left, Reaches root cwd source left here
  target : ∃ left, Reaches root cwd target left place
  found : root.get? here = some n
  isDir : n.isDirectory = true
  sound : n.Sound
  empty : ∃ mode, root.get? place = some (.directory mode [])
  apart : Apart here place

/-- What succeeds in copying a directory makes a copy and changes nothing else. -/
def Copies (cwd : List String) (descend : Path → Path → Task host (Except Chain Unit)) : Prop :=
  ∀ root root' source target here place n events,
    Task.Path (descend source target) events (.ok ()) → Runs cwd root events root' →
      Ready root cwd source target here place n →
        ∃ copy, root' = root.put place copy ∧ IsCopy n copy

/-- What is copied without a failure was listed without one. -/
theorem whole_of_copyEntries {descend : Path → Path → Task host (Except Chain Unit)}
    {source target : Path} {listed : List (Except IoError Entry)} {events : List (Event host)}
    (path : Task.Path (copyEntries descend source target listed) events (.ok ())) :
    Whole listed := by
  induction listed generalizing events with
  | nil => exact fun e he => nomatch he
  | cons e listed ih =>
    cases e with
    | error e => exact nomatch (path_done_iff.1 path).2
    | ok entry =>
      obtain ⟨name, kind⟩ := entry
      rw [copyEntries_cons] at path
      obtain ⟨part, rest, answer, rfl, first, tail⟩ := path_bind_iff.1 path
      cases answer with
      | error e => exact nomatch (path_done_iff.1 tail).2
      | ok _ =>
        cases kind with
        | error e => exact nomatch (path_done_iff.1 first).2
        | ok kind => exact List.forall_mem_cons.2 ⟨⟨name, kind, rfl⟩, ih tail⟩

theorem exists_perm_of_perm_map {α β : Type} {f : α → β} {l : List β} {xs : List α}
    (h : l.Perm (xs.map f)) : ∃ ys : List α, ys.Perm xs ∧ l = ys.map f := by
  induction xs generalizing l with
  | nil => exact ⟨[], .nil, h.eq_nil⟩
  | cons x xs ih =>
    obtain ⟨front, back, rfl⟩ := List.append_of_mem (h.mem_iff.2 (List.mem_cons_self ..))
    obtain ⟨ys, order, same⟩ := ih (List.perm_middle.symm.trans h).cons_inv
    obtain ⟨first, second, rfl, rfl, rfl⟩ := List.append_eq_map_iff.1 same
    exact ⟨first ++ x :: second, List.perm_middle.trans (order.cons x), by simp⟩

section
variable {root root' cur : Node} {cwd here place : List String} {source target : Path}
  {left left' : Nat} {name : String} {n inner : Node} {events : List (Event host)}
  {descend : Path → Path → Task host (Except Chain Unit)}

/-- One entry is copied to where nothing was, or passed over. -/
theorem copyEntry_copies (faithful : Copies cwd descend)
    (path : Task.Path (copyEntry descend (source / name) (target / name) (.ok inner.kind)) events
      (.ok ()))
    (runs : Runs cwd cur events root') (named : EntryName name)
    (from' : Reaches cur cwd source left here) (into : Reaches cur cwd target left' place)
    (found : cur.get? (here ++ [name]) = some inner) (sound : inner.Sound)
    (free : cur.get? (place ++ [name]) = none) (apart : Apart here place) :
    ∃ copy?, Copied (some inner) copy? ∧ root' = copy?.elim cur (cur.put (place ++ [name])) := by
  obtain ⟨around, stands, isDir⟩ := into.stands
  have offers : cur.Offers (place ++ [name]) := offers_snoc stands isDir name
  cases known : inner.kind with
  | file =>
    rw [known] at path
    obtain ⟨answer, next, rest, serves, tail, more⟩ := runs_ask path runs
    cases answer with
    | error e => exact nomatch (path_done_iff.1 tail).2
    | ok _ =>
      obtain ⟨rfl, -⟩ := path_done_iff.1 tail
      obtain rfl := runs_nil_iff.1 more
      obtain ⟨mode, bytes, read, rfl⟩ :=
        Files.copy_ok (serves rfl) from' into named found known free
      exact ⟨some (.file mode bytes), isCopy_file known read, rfl⟩
  | directory =>
    rw [known] at path
    obtain ⟨answer, next, rest, serves, tail, more⟩ := runs_ask path runs
    cases answer with
    | error e => exact nomatch (path_done_iff.1 tail).2
    | ok _ =>
      obtain ⟨short, -, rfl⟩ := Files.createDir_ok serves into named
      have grows : Grows cur (cur.put (place ++ [name]) .emptyDirectory) :=
        grows_put_free offers free
      have isDir' : inner.isDirectory = true := isDirectory_of_kind known
      have made : (cur.put (place ++ [name]) .emptyDirectory).get? (place ++ [name]) =
          some .emptyDirectory := get?_put offers
      have kept : (cur.put (place ++ [name]) .emptyDirectory).get? (here ++ [name]) = some inner :=
        (get?_put_apart (apart.symm.append [name] [name])).trans found
      obtain ⟨copy, rfl, isCopy⟩ := faithful _ root' _ _ (here ++ [name]) (place ++ [name]) inner
        rest tail more {
          source := ⟨left, (from'.mono grows).join named kept isDir' short⟩
          target := ⟨left', (into.mono grows).join named made rfl short⟩
          found := kept
          isDir := isDir'
          sound
          empty := ⟨_, made⟩
          apart := apart.append [name] [name] }
      exact ⟨some copy, isCopy, put_put⟩
  | link | special =>
    rw [known] at path
    obtain ⟨rfl, -⟩ := path_done_iff.1 path
    refine ⟨none, copied_passed ?_, runs_nil_iff.1 runs⟩
    rw [copied?, known]

/-- A directory that holds more entries. -/
theorem put_copied {mode : Nat} {copies : List (String × Node)}
    (h : root.Offers place) (copy? : Option Node) :
    copy?.elim (root.put place (.directory mode copies))
        ((root.put place (.directory mode copies)).put (place ++ [name])) =
      root.put place
        (.directory mode (copy?.elim copies fun copy => putEntry name copy copies)) := by
  cases copy? with
  | none => rfl
  | some copy => exact put_put_below h [name]

theorem lookup_copied {copies : List (String × Node)} {other : String}
    (fresh : copies.lookup name = none) (copy? : Option Node) :
    (copy?.elim copies fun copy => putEntry name copy copies).lookup other =
      if other = name then copy? else copies.lookup other := by
  cases copy? with
  | none =>
    split
    · rename_i same
      exact same ▸ fresh
    · rfl
  | some copy => exact lookup_putEntry copies

/-- The entries that are left are copied, where the others have been. -/
theorem copyEntries_copies (faithful : Copies cwd descend) {mode : Nat}
    {todo copies : List (String × Node)}
    (path : Task.Path (copyEntries descend source target (todo.map Files.shown)) events (.ok ()))
    (runs : Runs cwd (root.put place (.directory mode copies)) events root')
    (ready : Ready root cwd source target here place n)
    (listed : ∀ e ∈ todo, n.child? e.1 = some e.2) (distinct : (todo.map Prod.fst).Nodup)
    (fresh : ∀ name ∈ todo.map Prod.fst, copies.lookup name = none)
    (others : ∀ name ∉ todo.map Prod.fst, Copied (n.child? name) (copies.lookup name)) :
    ∃ copy, root' = root.put place copy ∧ IsCopy n copy := by
  induction todo generalizing copies events with
  | nil =>
    obtain ⟨rfl, -⟩ := path_done_iff.1 path
    exact ⟨_, runs_nil_iff.1 runs, isCopy_directory ready.isDir fun name => others name (by simp)⟩
  | cons e todo ih =>
    obtain ⟨name, inner⟩ := e
    rw [List.map_cons, Files.shown, copyEntries_cons] at path
    obtain ⟨part, rest, answer, rfl, first, tail⟩ := path_bind_iff.1 path
    obtain ⟨next, runs, more⟩ := runs_append_iff.1 runs
    cases answer with
    | error e => exact nomatch (path_done_iff.1 tail).2
    | ok _ =>
      obtain ⟨left, from'⟩ := ready.source
      obtain ⟨left', into⟩ := ready.target
      obtain ⟨mode', empty⟩ := ready.empty
      have grows : Grows root (root.put place (.directory mode copies)) :=
        grows_put_empty empty rfl
      have child : n.child? name = some inner := listed (name, inner) (by simp)
      obtain ⟨named, sound⟩ := ready.sound.child child
      have apart : Apart place (here ++ [name]) := by
        simpa using ready.apart.symm.append [] [name]
      have found : (root.put place (.directory mode copies)).get? (here ++ [name]) = some inner :=
        (get?_put_apart apart).trans (get?_snoc_eq_some_iff.2 ⟨n, ready.found, child⟩)
      have vacant : copies.lookup name = none := fresh name (by simp)
      have free : (root.put place (.directory mode copies)).get? (place ++ [name]) = none := by
        rw [get?_put_self empty, get?_singleton]
        exact vacant
      obtain ⟨copy?, copied, rfl⟩ := copyEntry_copies faithful first runs named (from'.mono grows)
        (into.mono grows) found sound free ready.apart
      rw [put_copied (offers_of_get? empty)] at more
      rw [List.map_cons, List.nodup_cons] at distinct
      refine ih tail more (fun e he => listed e (by simp [he])) distinct.2 ?_ ?_
      · intro other left
        have apart : other ≠ name := fun same => distinct.1 (same ▸ left)
        rw [lookup_copied vacant, if_neg apart]
        exact fresh other (List.mem_cons_of_mem _ left)
      · intro other done
        rw [lookup_copied vacant]
        split
        · rename_i same
          rw [same, child]
          exact copied
        · rename_i apart
          exact others other (by simp [apart, done])

/-- Copying what a directory holds, through however many levels. -/
theorem copyLevels_copies (cwd : List String) (levels : Nat) : Copies cwd (copyLevels levels) := by
  induction levels with
  | zero =>
    intro root root' source target here place n events path
    exact nomatch (path_done_iff.1 path).2
  | succ levels faithful =>
    intro root root' source target here place n events path runs ready
    obtain ⟨answer, next, rest, ⟨rfl, shows⟩, tail, more⟩ := runs_ask path runs
    cases answer with
    | error e => exact nomatch (path_done_iff.1 tail).2
    | ok listed =>
      obtain ⟨all, shown, same⟩ := shows listed rfl (whole_of_copyEntries tail)
      obtain ⟨left, from'⟩ := ready.source
      obtain ⟨mode, empty⟩ := ready.empty
      obtain rfl := Files.listDir_ok shown from' ready.found
      obtain ⟨todo, order, rfl⟩ := exists_perm_of_perm_map same
      obtain ⟨mode', entries, rfl⟩ := isDirectory_iff.1 ready.isDir
      have distinct : (entries.map Prod.fst).Nodup := ready.sound.distinct
      rw [← put_self empty] at more
      refine copyEntries_copies faithful tail more ready (fun e he => ?_) ?_ ?_ ?_
      · exact lookup_of_mem distinct (order.mem_iff.1 he)
      · exact (order.map Prod.fst).nodup_iff.2 distinct
      · exact fun name _ => rfl
      · intro name unlisted
        cases known : entries.lookup name with
        | none =>
          change Copied (entries.lookup name) none
          exact known ▸ copied_none
        | some inner =>
          have listed : name ∈ entries.map Prod.fst := List.mem_map_of_mem (mem_of_lookup known)
          exact absurd ((order.map Prod.fst).mem_iff.2 listed) unlisted

end

end Tandem.Sandbox
