import Tandem.Proofs.Machine.Partial
import Tandem.Proofs.Sandbox.Copying

/-!
A copy keeps to its own directory, whatever fails and whenever it does.

* `Populates`: how a directory is filled, entry after entry, until one fails.
* `copyLevels_confined`: nothing changes but what is in the directory that is filled.
-/

namespace Tandem.Sandbox

open Tandem.Host Tandem.Host.Task Tandem.Machine Tandem.Machine.Node Tandem.Text

/-! ## Listings -/

/-- What a listing tells of a directory. -/
structure Tells (root : Node) (cwd : List String) (source : Path)
    (listed : List (Except IoError Entry)) (here : List String) (n : Node) : Prop where
  found : lookup root cwd source = .ok (here, n)
  isDir : n.isDirectory = true
  distinct : ((listed.filterMap told?).map Prod.fst).Nodup
  known : ∀ e ∈ listed.filterMap told?,
    EntryName e.1 ∧ ∃ inner, n.child? e.1 = some inner ∧ inner.kind = e.2

theorem filterMap_told?_shown (entries : List (String × Node)) :
    (entries.map Files.shown).filterMap told? = entries.map fun e => (e.1, e.2.kind) := by
  rw [List.filterMap_map, ← List.filterMap_eq_map]
  rfl

theorem tells_of_spares {cwd : List String} {root next : Node} {source : Path}
    {listed : List (Except IoError Entry)}
    (spares : Spares cwd root ⟨.listDir source, .ok listed⟩ next) (sound : root.Sound) :
    ∃ here n, Tells root cwd source listed here n := by
  obtain ⟨all, order, shown, same, part⟩ := spares listed rfl
  obtain ⟨here, n, found, isDir, rfl⟩ := Files.listDir_ok_iff.1 shown
  obtain ⟨mode, entries, rfl⟩ := isDirectory_iff.1 isDir
  have inside : (directory mode entries).Sound := (sound.get? (get?_of_lookup found)).2
  have told : (order.filterMap told?).Perm (entries.map fun e => (e.1, e.2.kind)) := by
    rw [← filterMap_told?_shown]
    exact same.filterMap told?
  refine ⟨here, _, found, isDir, ?_, fun e listed => ?_⟩
  · refine (part.map Prod.fst).nodup ((told.map Prod.fst).nodup_iff.2 ?_)
    rw [List.map_map]
    exact inside.distinct
  · obtain ⟨⟨name, inner⟩, there, rfl⟩ := List.mem_map.1 (told.mem_iff.1 (part.subset listed))
    have child : (directory mode entries).child? name = some inner :=
      lookup_of_mem inside.distinct there
    exact ⟨(inside.child child).1, inner, child, rfl⟩

/-! ## Filling a directory -/

/-- An empty directory in a sound tree, that is to be filled. -/
structure Site (root : Node) (cwd : List String) (target : Path) (place : List String)
    (mode : Nat) : Prop where
  sound : root.Sound
  reached : ∃ left, Reaches root cwd target left place
  empty : root.get? place = some (.directory mode [])

/-- Whatever becomes of a call, it changes nothing but what is in the directory to be filled. -/
def Confined (cwd : List String) (descend : Path → Path → Task host (Except Chain Unit)) : Prop :=
  ∀ root root' source target place mode events result,
    Task.Path (descend source target) events result → Spared cwd root events root' →
      Site root cwd target place mode →
        ∃ copies, (Node.directory mode copies).Sound ∧
          root' = root.put place (.directory mode copies)

section
variable {root root' next : Node} {cwd place : List String} {source target : Path} {mode : Nat}
  {name : String} {copies copies' : List (String × Node)} {events : List (Event host)}
  {descend : Path → Path → Task host (Except Chain Unit)} {result : Except Chain Unit}

namespace Site

theorem sound_put (site : Site root cwd target place mode)
    (sound : (Node.directory mode copies).Sound) :
    (root.put place (.directory mode copies)).Sound :=
  site.sound.put (site.sound.get? site.empty).1 sound

theorem grows (site : Site root cwd target place mode) (copies : List (String × Node)) :
    Grows root (root.put place (.directory mode copies)) :=
  grows_put_empty site.empty rfl

theorem get?_put (site : Site root cwd target place mode) (copies : List (String × Node))
    (name : String) :
    (root.put place (.directory mode copies)).get? (place ++ [name]) = copies.lookup name := by
  rw [get?_put_self site.empty, get?_singleton]
  rfl

theorem put_put (site : Site root cwd target place mode) (copies : List (String × Node))
    (name : String) (node : Node) :
    (root.put place (.directory mode copies)).put (place ++ [name]) node =
      root.put place (.directory mode (putEntry name node copies)) :=
  put_put_below (offers_of_get? site.empty) [name]

/-- A directory in one that is filled is to be filled itself. -/
theorem enter (site : Site root cwd target place mode)
    (sound : (Node.directory mode copies).Sound) (named : EntryName name)
    (made : Files.createDir ⟨root.put place (.directory mode copies), cwd⟩ (target / name) =
      .ok next) :
    name.utf8ByteSize ≤ nameLimit ∧ copies.lookup name = none ∧
      next = root.put place (.directory mode (putEntry name .emptyDirectory copies)) ∧
        Site next cwd (target / name) (place ++ [name]) 0o755 := by
  obtain ⟨left, into⟩ := site.reached
  replace into := into.mono (site.grows copies)
  obtain ⟨short, free, rfl⟩ := Files.createDir_ok made into named
  have vacant : copies.lookup name = none := (site.get?_put copies name).symm.trans free
  obtain ⟨around, stands, isDir⟩ := into.stands
  have offers := offers_snoc stands isDir name
  refine ⟨short, vacant, site.put_put copies name _, ?_, ⟨left, ?_⟩, Node.get?_put offers⟩
  · rw [site.put_put copies name]
    exact site.sound_put (sound.putEntry named (sound_empty _))
  · exact (into.mono (grows_put_free offers free)).join named (Node.get?_put offers) rfl short

end Site

/-- What became of an entry: it was copied where nothing was, or nothing came of it. -/
structure Entered (mode : Nat) (name : String) (copies copies' : List (String × Node)) :
    Prop where
  sound : (Node.directory mode copies').Sound
  others : ∀ other, other ≠ name → copies'.lookup other = copies.lookup other

theorem Entered.refl (sound : (Node.directory mode copies).Sound) :
    Entered mode name copies copies :=
  ⟨sound, fun _ _ => rfl⟩

theorem entered_putEntry {node : Node} (sound : (Node.directory mode copies).Sound)
    (named : EntryName name) (inside : node.Sound) :
    Entered mode name copies (putEntry name node copies) :=
  ⟨sound.putEntry named inside, fun other apart => by rw [lookup_putEntry, if_neg apart]⟩

/-- A file that is copied where nothing was stands there then, whole or in part, or nothing does. -/
theorem copyFile_confined (site : Site root cwd target place mode)
    (sound : (Node.directory mode copies).Sound) (named : EntryName name)
    (vacant : copies.lookup name = none) {answer : Except IoError Unit}
    (serves : Serves cwd (root.put place (.directory mode copies))
      ⟨.copyFile source (target / name), answer⟩ next)
    (spares : Spares cwd (root.put place (.directory mode copies))
      ⟨.copyFile source (target / name), answer⟩ next) :
    ∃ copies', Entered mode name copies copies' ∧
      next = root.put place (.directory mode copies') := by
  obtain ⟨left, into⟩ := site.reached
  replace into := into.mono (site.grows copies)
  have free := (site.get?_put copies name).trans vacant
  have file (mode' : Nat) (bytes : Utf8.Bytes) :
      Entered mode name copies (putEntry name (.file mode' bytes) copies) :=
    entered_putEntry sound named (sound_file mode' bytes)
  cases answer with
  | ok _ =>
    obtain ⟨_, node, bytes, -, -, rfl⟩ := Files.copy_makes (serves rfl) into named free
    exact ⟨_, file node.mode bytes, site.put_put copies name _⟩
  | error e =>
    obtain rfl | ⟨bytes, written⟩ := spares e rfl
    · exact ⟨copies, .refl sound, rfl⟩
    · obtain rfl := Files.write_ok written into named free
      exact ⟨_, file 0o644 bytes, site.put_put copies name _⟩

theorem copyEntry_confined (confined : Confined cwd descend)
    (site : Site root cwd target place mode) (sound : (Node.directory mode copies).Sound)
    {kind : Except IoError FileKind}
    (known : ∀ k, kind = .ok k → EntryName name ∧ copies.lookup name = none)
    (path : Task.Path (copyEntry descend (source / name) (target / name) kind) events result)
    (spared : Spared cwd (root.put place (.directory mode copies)) events root') :
    ∃ copies', Entered mode name copies copies' ∧
      root' = root.put place (.directory mode copies') := by
  match kind, path with
  | .error e, path | .ok .link, path | .ok .special, path =>
    obtain ⟨rfl, -⟩ := path_done_iff.1 path
    exact ⟨copies, .refl sound, spared_nil_iff.1 spared⟩
  | .ok .file, path =>
    obtain ⟨named, vacant⟩ := known _ rfl
    obtain ⟨answer, next, rest, serves, spares, rfl, tail, more⟩ := spared_ask path spared
    have ended : rest = [] := by cases answer <;> exact (path_done_iff.1 tail).1
    subst ended
    obtain rfl := spared_nil_iff.1 more
    exact copyFile_confined site sound named vacant serves spares
  | .ok .directory, path =>
    obtain ⟨named, vacant⟩ := known _ rfl
    obtain ⟨answer, next, rest, serves, -, rfl, tail, more⟩ := spared_ask path spared
    cases answer with
    | error e =>
      obtain ⟨rfl, -⟩ := path_done_iff.1 tail
      obtain rfl : next = _ := serves
      exact ⟨copies, .refl sound, spared_nil_iff.1 more⟩
    | ok _ =>
      obtain ⟨-, -, rfl, inside⟩ := site.enter sound named serves
      obtain ⟨deeper, sound', rfl⟩ := confined _ _ _ _ _ _ _ _ tail more inside
      rw [← site.put_put copies name, Node.put_put, site.put_put copies name]
      exact ⟨_, entered_putEntry sound named sound', rfl⟩

/-- How a directory is filled that holds these entries already: one after the other is copied of
those that are listed, until one fails. -/
inductive Populates (cwd : List String) (descend : Path → Path → Task host (Except Chain Unit))
    (root : Node) (source target : Path) (place : List String) (mode : Nat) :
    List (Except IoError Entry) → List (String × Node) → List (Event host) →
      Except Chain Unit → List (String × Node) → Prop where
  | done (copies : List (String × Node)) :
    Populates cwd descend root source target place mode [] copies [] (.ok ()) copies
  | unread (e : IoError) (rest : List (Except IoError Entry)) (copies : List (String × Node)) :
    Populates cwd descend root source target place mode (.error e :: rest) copies []
      (.error (failed "read_dir entry" e)) copies
  | stops {name : String} {kind : Except IoError FileKind} (rest : List (Except IoError Entry))
    {copies copies' : List (String × Node)} {part : List (Event host)} {e : Chain}
    (sound : (Node.directory mode copies).Sound) (named : ∀ k, kind = .ok k → EntryName name)
    (entry : Task.Path (copyEntry descend (source / name) (target / name) kind) part (.error e))
    (spared : Spared cwd (root.put place (.directory mode copies)) part
      (root.put place (.directory mode copies'))) :
    Populates cwd descend root source target place mode (.ok ⟨name, kind⟩ :: rest) copies part
      (.error e) copies'
  | goes {name : String} {kind : Except IoError FileKind} {rest : List (Except IoError Entry)}
    {copies copies' copies'' : List (String × Node)} {part more : List (Event host)}
    {result : Except Chain Unit}
    (sound : (Node.directory mode copies).Sound) (named : ∀ k, kind = .ok k → EntryName name)
    (entry : Task.Path (copyEntry descend (source / name) (target / name) kind) part (.ok ()))
    (spared : Spared cwd (root.put place (.directory mode copies)) part
      (root.put place (.directory mode copies')))
    (others : Populates cwd descend root source target place mode rest copies' more result
      copies'') :
    Populates cwd descend root source target place mode (.ok ⟨name, kind⟩ :: rest) copies
      (part ++ more) result copies''

theorem populates_of_path (confined : Confined cwd descend)
    (site : Site root cwd target place mode) {listed : List (Except IoError Entry)}
    (path : Task.Path (copyEntries descend source target listed) events result)
    (spared : Spared cwd (root.put place (.directory mode copies)) events root')
    (sound : (Node.directory mode copies).Sound)
    (distinct : ((listed.filterMap told?).map Prod.fst).Nodup)
    (known : ∀ e ∈ listed.filterMap told?, EntryName e.1 ∧ copies.lookup e.1 = none) :
    ∃ copies', (Node.directory mode copies').Sound ∧
      root' = root.put place (.directory mode copies') ∧
        Populates cwd descend root source target place mode listed copies events result
          copies' := by
  induction listed generalizing copies events with
  | nil =>
    obtain ⟨rfl, rfl⟩ := path_done_iff.1 path
    exact ⟨copies, sound, spared_nil_iff.1 spared, .done copies⟩
  | cons e listed ih =>
    cases e with
    | error e =>
      obtain ⟨rfl, rfl⟩ := path_done_iff.1 path
      exact ⟨copies, sound, spared_nil_iff.1 spared, .unread e listed copies⟩
    | ok entry =>
      obtain ⟨name, kind⟩ := entry
      rw [copyEntries_cons] at path
      obtain ⟨part, rest, answer, rfl, first, tail⟩ := path_bind_iff.1 path
      obtain ⟨next, runs, more⟩ := spared_append_iff.1 spared
      have known' (k : FileKind) (ok : kind = .ok k) :
          EntryName name ∧ copies.lookup name = none := by
        subst ok
        exact known (name, k) (by simp [told?])
      obtain ⟨copies', entered, rfl⟩ := copyEntry_confined confined site sound known' first runs
      cases answer with
      | error e =>
        obtain ⟨rfl, rfl⟩ := path_done_iff.1 tail
        obtain rfl := spared_nil_iff.1 more
        rw [List.append_nil]
        exact ⟨copies', entered.sound, rfl,
          .stops listed sound (fun k ok => (known' k ok).1) first runs⟩
      | ok _ =>
        cases kind with
        | error e => cases (path_done_iff.1 first).2
        | ok kind =>
          have told : told? (.ok ⟨name, .ok kind⟩) = some (name, kind) := rfl
          rw [List.filterMap_cons_some told] at distinct known
          obtain ⟨fresh, distinct⟩ := List.nodup_cons.1 distinct
          obtain ⟨copies'', sound'', rfl, fills⟩ := ih tail more entered.sound distinct
            fun e listed => by
              have apart : e.1 ≠ name := fun same => fresh (List.mem_map.2 ⟨e, listed, same⟩)
              obtain ⟨named, vacant⟩ := known e (List.mem_cons_of_mem _ listed)
              exact ⟨named, (entered.others e.1 apart).trans vacant⟩
          exact ⟨copies'', sound'', rfl,
            .goes sound (fun k ok => (known' k ok).1) first runs fills⟩

/-- The entries of a directory are copied into one that is empty. -/
theorem populates_of_tells (confined : Confined cwd descend)
    (site : Site root cwd target place mode) {listed : List (Except IoError Entry)}
    {here : List String} {n : Node}
    (tells : Tells root cwd source listed here n)
    (path : Task.Path (copyEntries descend source target listed) events result)
    (spared : Spared cwd root events root') :
    ∃ copies, (Node.directory mode copies).Sound ∧
      root' = root.put place (.directory mode copies) ∧
        Populates cwd descend root source target place mode listed [] events result copies := by
  rw [← put_self site.empty] at spared
  exact populates_of_path confined site path spared (sound_empty _)
    tells.distinct fun e listed => ⟨(tells.known e listed).1, rfl⟩

/-- A copy changes nothing but what is in its own directory, through however many levels and
wherever it is broken off. -/
theorem copyLevels_confined (cwd : List String) (levels : Nat) :
    Confined cwd (copyLevels levels) := by
  induction levels with
  | zero =>
    intro root root' source target place mode events result path spared site
    obtain ⟨rfl, -⟩ := path_done_iff.1 path
    obtain rfl := spared_nil_iff.1 spared
    exact ⟨[], sound_empty _, (put_self site.empty).symm⟩
  | succ levels confined =>
    intro root root' source target place mode events result path spared site
    obtain ⟨answer, next, rest, ⟨rfl, -⟩, spares, rfl, tail, more⟩ := spared_ask path spared
    cases answer with
    | error e =>
      obtain ⟨rfl, -⟩ := path_done_iff.1 tail
      obtain rfl := spared_nil_iff.1 more
      exact ⟨[], sound_empty _, (put_self site.empty).symm⟩
    | ok listed =>
      obtain ⟨here, n, tells⟩ := tells_of_spares spares site.sound
      obtain ⟨copies, sound, same, -⟩ := populates_of_tells confined site tells tail more
      exact ⟨copies, sound, same⟩

end

end Tandem.Sandbox
