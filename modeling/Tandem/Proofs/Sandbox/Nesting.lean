import Mathlib.Data.List.Perm.Subperm
import Tandem.Proofs.Sandbox.Leftovers

/-!
Which directories are copied from, where a copy may lie inside of what it is made of.

* `copyLevels_goes`: the paths of a tree end the recursion, whatever bound it is given.
* `copyLevels_tours`: a copy beside a tree lists directories of the tree, each of them once.
* `copyLevels_tangles`: a copy into a place inside of the tree does not come to a good end.
* `seeding_ends`: what that means for a working directory that is seeded.
-/

namespace Tandem.Sandbox

open Tandem.Host Tandem.Host.Task Tandem.Machine Tandem.Machine.Node

section
variable {root root' next : Node} {cwd place here : List String} {source target : Path}
  {mode : Nat} {name : String} {n : Node} {copies copies' : List (String × Node)}
  {events : List (Event host)} {descend other : Path → Path → Task host (Except Chain Unit)}
  {result : Except Chain Unit} {listed : List (Except IoError Entry)}

/-! ## How deep the recursion goes -/

/-- A name makes a path longer. -/
theorem utf8ByteSize_join (p : Path) (named : EntryName name) :
    p.text.utf8ByteSize < (p / name).text.utf8ByteSize := by
  have relative : (Host.Path.mk name).isAbsolute = false :=
    Host.Path.relative_of_plain named.proper.2
  have some : 0 < name.utf8ByteSize :=
    Nat.pos_of_ne_zero (mt String.utf8ByteSize_eq_zero_iff.1 named.proper.1)
  change _ < (p.join ⟨name⟩).text.utf8ByteSize
  rw [Host.Path.join, relative, Bool.false_or]
  split
  · rename_i empty
    rw [Host.Path.isEmpty, String.isEmpty_iff] at empty
    simpa [empty] using some
  · split <;> simp only [String.utf8ByteSize_append] <;> omega

/-- From one directory on, another way to copy goes as this one does. -/
def Goes (cwd : List String) (descend other : Path → Path → Task host (Except Chain Unit))
    (source target : Path) (place : List String) : Prop :=
  ∀ root root' mode events result, Site root cwd target place mode →
    Spared cwd root events root' → Task.Path (descend source target) events result →
      Task.Path (other source target) events result

theorem copyEntry_goes
    (goes : EntryName name →
      Goes cwd descend other (source / name) (target / name) (place ++ [name]))
    (site : Site root cwd target place mode) (sound : (Node.directory mode copies).Sound)
    {kind : Except IoError FileKind} (named : ∀ k, kind = .ok k → EntryName name)
    (path : Task.Path (copyEntry descend (source / name) (target / name) kind) events result)
    (spared : Spared cwd (root.put place (.directory mode copies)) events next) :
    Task.Path (copyEntry other (source / name) (target / name) kind) events result := by
  match kind, path with
  | .error e, path | .ok .link, path | .ok .special, path | .ok .file, path => exact path
  | .ok .directory, path =>
    obtain ⟨created, made, rest, serves, -, rfl, tail, more⟩ := spared_ask path spared
    refine path_ask_bind_iff.2 ⟨created, rest, rfl, ?_⟩
    cases created with
    | error e => exact tail
    | ok _ =>
      obtain ⟨-, -, -, inside⟩ := site.enter sound (named _ rfl) serves
      exact goes (named _ rfl) _ _ _ _ _ inside more tail

theorem path_of_populates
    (populates : Populates cwd descend root source target place mode listed copies events result
      copies')
    (site : Site root cwd target place mode)
    (goes : ∀ name, EntryName name →
      Goes cwd descend other (source / name) (target / name) (place ++ [name])) :
    Task.Path (copyEntries other source target listed) events result := by
  induction populates with
  | done copies => exact .done _
  | unread e rest copies => exact .done _
  | stops rest sound named path spared =>
    rw [copyEntries_cons]
    have first := copyEntry_goes (goes _) site sound named path spared
    exact path_bind_iff.2 ⟨_, [], _, (List.append_nil _).symm, first, .done _⟩
  | goes sound named path spared others ih =>
    rw [copyEntries_cons]
    have first := copyEntry_goes (goes _) site sound named path spared
    exact path_bind_iff.2 ⟨_, _, _, rfl, first, ih⟩

/-- The paths of a tree end the recursion: whatever bound it is given, it goes the same way, if only
the bound lies beyond the longest path. -/
theorem copyLevels_goes {levels levels' : Nat} (some : 0 < levels) (some' : 0 < levels')
    (deep : pathBytes < levels + source.text.utf8ByteSize)
    (deep' : pathBytes < levels' + source.text.utf8ByteSize) :
    Goes cwd (copyLevels levels) (copyLevels levels') source target place := by
  induction levels generalizing levels' source target place with
  | zero => exact absurd some (Nat.lt_irrefl 0)
  | succ levels ih =>
    intro root root' mode events result site spared path
    obtain ⟨levels', rfl⟩ := Nat.exists_eq_succ_of_ne_zero (Nat.ne_of_gt some')
    obtain ⟨answer, next, rest, ⟨rfl, -⟩, spares, rfl, tail, more⟩ := spared_ask path spared
    refine path_ask_bind_iff.2 ⟨answer, rest, rfl, ?_⟩
    cases answer with
    | error e => exact tail
    | ok listed =>
      obtain ⟨here, n, tells⟩ := tells_of_spares spares site.sound
      -- A directory that was listed was named by a path that leaves room for one level more.
      have short : source.text.utf8ByteSize < pathBytes := (sayable_of_lookup tells.found).short
      obtain ⟨copies, -, -, populates⟩ :=
        populates_of_tells (copyLevels_confined cwd levels) site tells tail more
      refine path_of_populates populates site fun name named => ?_
      have longer := utf8ByteSize_join source named
      exact ih (by omega) (by omega) (by omega) (by omega)

/-! ## Which directories are listed -/

/-- The directories that are listed, in order. -/
def visits (events : List (Event host)) : List Path :=
  events.filterMap fun e =>
    match e.1 with
    | .listDir path => some path
    | _ => none

/-- The directories of a tree are listed at some places of it, and at none of them twice. -/
structure Visits (source : Path) (n : Node) (events : List (Event host))
    (rels : List (List String)) : Prop where
  listed : visits events = rels.map source.below
  once : rels.Nodup
  stood : ∀ rel ∈ rels, ∃ inner, n.get? rel = some inner ∧ inner.isDirectory = true

theorem visits_append (events more : List (Event host)) :
    visits (events ++ more) = visits events ++ visits more :=
  List.filterMap_append

theorem visits_nil_of_calls {α : Type} {t : Task host α} {a : α}
    (calls : Calls (fun c : Call => ∀ path, c ≠ .listDir path) t) (path : Task.Path t events a) :
    visits events = [] := by
  refine List.filterMap_eq_nil_iff.2 fun e listed => ?_
  have other := calls events a path e listed
  split
  · rename_i path' same
    exact absurd same (other path')
  · rfl

theorem Visits.length_le {rels : List (List String)} (h : Visits source n events rels)
    (sound : n.Sound) : (visits events).length ≤ n.directories.length := by
  rw [h.listed, List.length_map]
  exact (List.subperm_of_subset h.once fun rel listed =>
    (mem_directories_iff sound).2 (h.stood rel listed)).length_le

/-- A directory that is apart from the one that is filled. -/
structure Beside (root : Node) (cwd : List String) (source : Path) (here place : List String)
    (n : Node) : Prop where
  reached : ∃ left, Reaches root cwd source left here
  found : root.get? here = some n
  isDir : n.isDirectory = true
  apart : Apart here place

theorem Beside.enter {inner : Node} (beside : Beside root cwd source here place n)
    (site : Site root cwd target place mode) (named : EntryName name)
    (short : name.utf8ByteSize ≤ nameLimit) (child : n.child? name = some inner)
    (isDir : inner.isDirectory = true) :
    Beside (root.put place (.directory mode copies)) cwd (source / name) (here ++ [name])
      (place ++ [name]) inner := by
  obtain ⟨left, reached⟩ := beside.reached
  have apart : Apart place (here ++ [name]) := by
    simpa using beside.apart.symm.append [] [name]
  have found : (root.put place (.directory mode copies)).get? (here ++ [name]) = some inner :=
    (get?_put_apart apart).trans (get?_snoc_eq_some_iff.2 ⟨n, beside.found, child⟩)
  exact {
    reached := ⟨left, (reached.mono (site.grows copies)).join named found isDir short⟩
    found
    isDir
    apart := beside.apart.append [name] [name] }

/-- What is listed on the way are directories of the tree that is copied, each of them once. -/
def Tours (cwd : List String) (descend : Path → Path → Task host (Except Chain Unit)) : Prop :=
  ∀ root root' source target here place mode n events result,
    Task.Path (descend source target) events result → Spared cwd root events root' →
      Site root cwd target place mode → Beside root cwd source here place n →
        ∃ rels, Visits source n events rels

theorem visits_nothing (h : visits events = []) : Visits source n events [] :=
  ⟨h, .nil, nofun⟩

/-- What is below an entry is below its directory. -/
theorem Visits.inside {inner : Node} {rels : List (List String)}
    (h : Visits (source / name) inner events rels) (child : n.child? name = some inner) :
    Visits source n events (rels.map (name :: ·)) where
  listed := by
    rw [h.listed, List.map_map]
    rfl
  once := List.Pairwise.map _ (fun _ _ apart same => apart (List.cons.inj same).2) h.once
  stood rel listed := by
    obtain ⟨more, there, rfl⟩ := List.mem_map.1 listed
    rw [get?_cons, child]
    exact h.stood more there

theorem Visits.append {more : List (Event host)} {rels rels' : List (List String)}
    (h : Visits source n events rels) (h' : Visits source n more rels')
    (apart : ∀ rel ∈ rels, rel ∉ rels') : Visits source n (events ++ more) (rels ++ rels') where
  listed := by rw [visits_append, h.listed, h'.listed, List.map_append]
  once := List.nodup_append.2 ⟨h.once, h'.once, fun _ there _ there' same =>
    apart _ there (same ▸ there')⟩
  stood rel listed := (List.mem_append.1 listed).elim (h.stood rel) (h'.stood rel)

theorem copyEntry_tours (tours : Tours cwd descend) (site : Site root cwd target place mode)
    (sound : (Node.directory mode copies).Sound) (beside : Beside root cwd source here place n)
    {kind : Except IoError FileKind}
    (known : ∀ k, kind = .ok k →
      EntryName name ∧ ∃ inner, n.child? name = some inner ∧ inner.kind = k)
    (path : Task.Path (copyEntry descend (source / name) (target / name) kind) events result)
    (spared : Spared cwd (root.put place (.directory mode copies)) events next) :
    ∃ rels, Visits source n events rels ∧
      ∀ rel ∈ rels, kind = .ok .directory ∧ ∃ more, rel = name :: more := by
  match kind, path with
  | .error e, path | .ok .link, path | .ok .special, path =>
    obtain ⟨rfl, -⟩ := path_done_iff.1 path
    exact ⟨[], visits_nothing rfl, nofun⟩
  | .ok .file, path =>
    obtain ⟨answer, rest, rfl, tail⟩ := path_ask_bind_iff.1 path
    have ended : rest = [] := by cases answer <;> exact (path_done_iff.1 tail).1
    exact ⟨[], visits_nothing (by rw [ended]; rfl), nofun⟩
  | .ok .directory, path =>
    obtain ⟨named, inner, child, same⟩ := known _ rfl
    obtain ⟨created, made, rest, serves, -, rfl, tail, more⟩ := spared_ask path spared
    cases created with
    | error e =>
      obtain ⟨rfl, -⟩ := path_done_iff.1 tail
      exact ⟨[], visits_nothing rfl, nofun⟩
    | ok _ =>
      obtain ⟨short, -, rfl, inside⟩ := site.enter sound named serves
      obtain ⟨rels, visits⟩ := tours _ _ _ _ _ _ _ _ _ _ tail more inside
        (beside.enter site named short child (isDirectory_of_kind same))
      have first : Visits source n [⟨.createDir (target / name), .ok ()⟩] [] := visits_nothing rfl
      refine ⟨rels.map (name :: ·), first.append (visits.inside child) nofun,
        fun rel listed => ⟨rfl, ?_⟩⟩
      obtain ⟨below, -, rfl⟩ := List.mem_map.1 listed
      exact ⟨below, rfl⟩

theorem visits_of_populates (tours : Tours cwd descend)
    (populates : Populates cwd descend root source target place mode listed copies events result
      copies')
    (site : Site root cwd target place mode) (beside : Beside root cwd source here place n)
    (distinct : ((listed.filterMap told?).map Prod.fst).Nodup)
    (known : ∀ e ∈ listed.filterMap told?,
      EntryName e.1 ∧ ∃ inner, n.child? e.1 = some inner ∧ inner.kind = e.2) :
    ∃ rels, Visits source n events rels ∧
      ∀ rel ∈ rels, ∃ e ∈ listed.filterMap told?, ∃ more, rel = e.1 :: more := by
  induction populates with
  | done copies => exact ⟨[], visits_nothing rfl, nofun⟩
  | unread e rest copies => exact ⟨[], visits_nothing rfl, nofun⟩
  | @stops name kind rest copies copies' part e sound named path spared =>
    have first (k : FileKind) (ok : kind = .ok k) :
        EntryName name ∧ ∃ inner, n.child? name = some inner ∧ inner.kind = k :=
      known (name, k) (by simp [ok, told?])
    obtain ⟨rels, visits, below⟩ := copyEntry_tours tours site sound beside first path spared
    refine ⟨rels, visits, fun rel there => ?_⟩
    obtain ⟨ok, more, rfl⟩ := below rel there
    exact ⟨(name, .directory), by simp [ok, told?], more, rfl⟩
  | @goes name kind rest copies copies' copies'' part more result sound named path spared _ ih =>
    cases kind with
    | error e => cases (path_done_iff.1 path).2
    | ok kind =>
      have told : told? (.ok ⟨name, .ok kind⟩) = some (name, kind) := rfl
      rw [List.filterMap_cons_some told] at distinct known ⊢
      obtain ⟨fresh, distinct⟩ := List.nodup_cons.1 distinct
      obtain ⟨first, known⟩ := List.forall_mem_cons.1 known
      obtain ⟨rels, visits, below⟩ := copyEntry_tours tours site sound beside
        (fun k ok => Except.ok.inj ok ▸ first) path spared
      obtain ⟨rels', visits', below'⟩ := ih distinct known
      refine ⟨rels ++ rels', visits.append visits' fun rel there there' => ?_, fun rel there => ?_⟩
      · obtain ⟨-, more, rfl⟩ := below rel there
        obtain ⟨e, listed, more', same⟩ := below' _ there'
        exact fresh (List.mem_map.2 ⟨e, listed, (List.cons.inj same).1.symm⟩)
      · obtain there | there := List.mem_append.1 there
        · obtain ⟨-, more, rfl⟩ := below rel there
          exact ⟨(name, kind), List.mem_cons_self .., more, rfl⟩
        · obtain ⟨e, listed, more, rfl⟩ := below' rel there
          exact ⟨e, List.mem_cons_of_mem _ listed, more, rfl⟩

/-- A copy beside a tree lists directories of the tree as it stands, each of them once. -/
theorem copyLevels_tours (cwd : List String) (levels : Nat) : Tours cwd (copyLevels levels) := by
  induction levels with
  | zero =>
    intro root root' source target here place mode n events result path
    obtain ⟨rfl, -⟩ := path_done_iff.1 path
    exact fun _ _ _ => ⟨[], visits_nothing rfl⟩
  | succ levels tours =>
    intro root root' source target here place mode n events result path spared site beside
    obtain ⟨answer, next, rest, ⟨rfl, -⟩, spares, rfl, tail, more⟩ := spared_ask path spared
    have first : Visits source n [⟨.listDir source, answer⟩] [[]] :=
      ⟨rfl, by simp, fun rel top => ⟨n, by rw [List.mem_singleton.1 top]; rfl, beside.isDir⟩⟩
    cases answer with
    | error e =>
      obtain ⟨rfl, -⟩ := path_done_iff.1 tail
      exact ⟨[[]], first⟩
    | ok listed =>
      obtain ⟨here', n', tells⟩ := tells_of_spares spares site.sound
      obtain ⟨left, reached⟩ := beside.reached
      obtain ⟨-, -, found⟩ := reached.lookup_ok_iff.1 tells.found
      obtain rfl := Option.some.inj (beside.found.symm.trans found)
      obtain ⟨copies, -, -, populates⟩ :=
        populates_of_tells (copyLevels_confined cwd levels) site tells tail more
      obtain ⟨rels, visits, below⟩ :=
        visits_of_populates tours populates site beside tells.distinct tells.known
      refine ⟨[[]] ++ rels, first.append visits fun rel top there => ?_⟩
      obtain ⟨e, -, more, rfl⟩ := below rel there
      simp at top

/-! ## A place inside of the tree -/

/-- Copying into a place inside of what is copied does not come to a good end. -/
def Tangles (cwd : List String) (descend : Path → Path → Task host (Except Chain Unit)) : Prop :=
  ∀ root root' source target here rel mode events, rel ≠ [] →
    (∃ left, Reaches root cwd source left here) → Site root cwd target (here ++ rel) mode →
      Spared cwd root events root' → ¬ Task.Path (descend source target) events (.ok ())

/-- On the way to a directory stand directories. -/
theorem exists_directory {inner : Node} {rel : List String}
    (found : root.get? (here ++ name :: rel) = some inner) (isDir : inner.isDirectory = true) :
    ∃ node, root.get? (here ++ [name]) = some node ∧ node.isDirectory = true := by
  obtain ⟨node, stands, -, ⟨-, rfl⟩ | isDir'⟩ := exists_first found
  · exact ⟨node, stands, isDir⟩
  · exact ⟨node, stands, isDir'⟩

theorem not_mem_of_populates {rel : List String} (tangles : Tangles cwd descend)
    (populates : Populates cwd descend root source target (here ++ name :: rel) mode listed copies
      events result copies')
    (done : result = .ok ()) (site : Site root cwd target (here ++ name :: rel) mode)
    (reached : ∃ left, Reaches root cwd source left here) :
    .ok ⟨name, .ok .directory⟩ ∉ listed := by
  induction populates with
  | done copies => exact List.not_mem_nil
  | unread | stops => cases done
  | @goes other kind rest copies copies' copies'' part more result sound named path spared _ ih =>
    refine fun there => (List.mem_cons.1 there).elim (fun same => ?_) (ih done)
    cases same
    obtain ⟨created, made, rest', serves, -, rfl, tail, more⟩ := spared_ask path spared
    cases created with
    | error e => cases (path_done_iff.1 tail).2
    | ok _ =>
      obtain ⟨left, reached⟩ := reached
      obtain ⟨short, -, rfl, inside⟩ := site.enter sound (named _ rfl) serves
      have filled : (root.put (here ++ name :: rel) (.directory mode
          (putEntry name .emptyDirectory copies))).get? (here ++ name :: rel) =
            some (.directory mode (putEntry name .emptyDirectory copies)) :=
        get?_put (offers_of_get? site.empty)
      obtain ⟨node, found, isDir⟩ := exists_directory filled rfl
      have entered := (reached.mono (site.grows (putEntry name .emptyDirectory copies))).join
        (named _ rfl) found isDir short
      have deeper : here ++ name :: rel ++ [name] = here ++ [name] ++ (rel ++ [name]) := by simp
      rw [deeper] at inside
      exact tangles _ _ _ _ (here ++ [name]) (rel ++ [name]) 0o755 _ (by simp) ⟨left, entered⟩
        inside more tail

/-- Copying into a place inside of what is copied does not come to a good end, since every copy that
is made is there to be copied. -/
theorem copyLevels_tangles (cwd : List String) (levels : Nat) :
    Tangles cwd (copyLevels levels) := by
  induction levels with
  | zero =>
    intro root root' source target here rel mode events further reached site spared path
    exact nomatch (path_done_iff.1 path).2
  | succ levels tangles =>
    intro root root' source target here rel mode events further reached site spared path
    obtain ⟨answer, next, rest, ⟨rfl, shows⟩, spares, rfl, tail, more⟩ := spared_ask path spared
    cases answer with
    | error e => exact nomatch (path_done_iff.1 tail).2
    | ok listed =>
      obtain ⟨all, shown, same⟩ := shows listed rfl (whole_of_copyEntries tail)
      obtain ⟨here', n, tells⟩ := tells_of_spares spares site.sound
      obtain ⟨left, reaches⟩ := reached
      obtain ⟨-, rfl, found⟩ := reaches.lookup_ok_iff.1 tells.found
      obtain rfl := Files.listDir_ok shown reaches found
      obtain ⟨copies, -, -, populates⟩ :=
        populates_of_tells (copyLevels_confined cwd levels) site tells tail more
      obtain ⟨name, rel, rfl⟩ := List.exists_cons_of_ne_nil further
      refine not_mem_of_populates tangles populates rfl site ⟨left, reaches⟩ (same.mem_iff.2 ?_)
      obtain ⟨node, stands, isDir⟩ := exists_directory site.empty rfl
      obtain ⟨n', around, child⟩ := get?_snoc_eq_some_iff.1 stands
      obtain rfl := Option.some.inj (found.symm.trans around)
      refine List.mem_map.2 ⟨(name, node), mem_of_lookup child, ?_⟩
      rw [Files.shown, eq_of_beq isDir]

end

/-! ## Working directories -/

section
variable {root root' mid : Node} {cwd here place : List String} {base tree : Path} {label : String}
  {d : WorkDir} {n : Node} {creating rest events : List (Event host)}
  {result : Except Chain WorkDir}

/-- What there is when a new directory begins to be filled. -/
theorem exists_made_of_spared (create : Task.Path (WorkDir.create base label) creating (.ok d))
    (spared : Spared cwd root (⟨.stat tree, .ok .directory⟩ :: (creating ++ rest)) root') :
    ∃ here n place mid, lookup root cwd tree = .ok (here, n) ∧ n.isDirectory = true ∧
      Made cwd root mid base d.path place ∧ Spared cwd mid rest root' := by
  obtain ⟨next, ⟨rfl, stat⟩, -, more⟩ := spared_cons_iff.1 spared
  obtain ⟨mid, creates, fills⟩ := spared_append_iff.1 more
  obtain ⟨⟨here, n⟩, found, isDir⟩ := Files.stat_ok_iff.1 (stat .directory rfl)
  obtain ⟨place, made⟩ := create_makes create creates.runs
  exact ⟨here, n, place, mid, found, isDirectory_of_kind isDir.symm, made, fills⟩

theorem Made.grows {path : Path} (made : Made cwd root mid base path place) : Grows root mid := by
  rw [made.made]
  exact grows_put_free made.offers made.free

/-- A tree that a new directory does not lie in is beside it. -/
theorem Made.beside {path : Path} (made : Made cwd root mid base path place)
    (outside : Outside root cwd base tree) (found : lookup root cwd tree = .ok (here, n))
    (isDir : n.isDirectory = true) : Beside mid cwd tree here place n := by
  obtain ⟨left, reaches⟩ := reaches_of_lookup found isDir
  have apart : Apart here place := made.apart outside found
  have found' : mid.get? here = some n := by
    rw [made.made, get?_put_apart apart.symm]
    exact get?_of_lookup found
  exact ⟨⟨left, reaches.mono made.grows⟩, found', isDir, apart⟩

/-- What is made inside of a tree stands below it. -/
theorem Made.below {path : Path} (made : Made cwd root mid base path place)
    (inside : ¬ Outside root cwd base tree) (found : lookup root cwd tree = .ok (here, n)) :
    ∃ rel, rel ≠ [] ∧ place = here ++ rel := by
  simp only [Outside, not_forall, not_not] at inside
  obtain ⟨here', n', there, around, found', looked, rel, rfl⟩ := inside
  obtain ⟨left, there', name, reaches, named, rfl, rfl⟩ := made.around
  obtain ⟨around', looked'⟩ := reaches.lookup_dot (made.sayable.dot named)
  cases found.symm.trans found'
  cases looked.symm.trans looked'
  exact ⟨rel ++ [name], by simp, by simp⟩

theorem seeding_goes {levels levels' : Nat} (deep : pathBytes ≤ levels)
    (deep' : pathBytes ≤ levels') (spared : Spared cwd root events root') (sound : root.Sound)
    (h : Seeding (copyLevels levels) base tree label events result) :
    Seeding (copyLevels levels') base tree label events result := by
  have goes {here place : List String} {n : Node} {path : Path}
      (found : lookup root cwd tree = .ok (here, n)) :
      Goes cwd (copyLevels levels) (copyLevels levels') tree path place := by
    have filled := (sayable_of_lookup found).filled
    have some : tree.text.utf8ByteSize ≠ 0 := fun none => by
      rw [String.utf8ByteSize_eq_zero_iff] at none
      simp [Host.Path.isEmpty, none] at filled
    have bound : 0 < pathBytes := by decide
    exact copyLevels_goes (by omega) (by omega) (by omega) (by omega)
  cases h with
  | unseen e => exact .unseen e
  | noDirectory kind other => exact .noDirectory kind other
  | unmade create => exact .unmade create
  | unfilled create fill removed =>
    obtain ⟨here, n, place, mid, found, isDir, made, more⟩ := exists_made_of_spared create spared
    obtain ⟨filled, fills, -⟩ := spared_append_iff.1 more
    exact .unfilled create (goes found _ _ _ _ _ (made.site sound) fills fill) removed
  | filled create fill =>
    obtain ⟨here, n, place, mid, found, isDir, made, fills⟩ := exists_made_of_spared create spared
    exact .filled create (goes found _ _ _ _ _ (made.site sound) fills fill)

/-- What is listed while a working directory is seeded is listed while it is filled. -/
theorem visits_of_seeding {copy : Path → Path → Task host (Except Chain Unit)}
    (h : Seeding copy base tree label events result) :
    visits events = [] ∨ ∃ creating copying rest d answer,
      Task.Path (WorkDir.create base label) creating (.ok d) ∧
        Task.Path (copy tree d.path) copying answer ∧
          events = ⟨.stat tree, .ok .directory⟩ :: (creating ++ (copying ++ rest)) ∧
            visits events = visits copying := by
  have none {creating : List (Event host)} {answer : Except Chain WorkDir}
      (path : Task.Path (WorkDir.create base label) creating answer) : visits creating = [] :=
    visits_nil_of_calls (calls_create nofun nofun (fun _ => nofun) (fun _ _ => nofun) base label)
      path
  cases h with
  | unseen e | noDirectory kind other => exact .inl rfl
  | @unmade creating e create =>
    refine .inl ?_
    change visits creating = []
    exact none create
  | @unfilled creating copying d e create fill removed =>
    refine .inr ⟨creating, copying, _, d, _, create, fill, rfl, ?_⟩
    change visits (creating ++ (copying ++ [_])) = _
    rw [visits_append, visits_append, none create]
    simp [visits]
  | @filled creating copying d create fill =>
    refine .inr ⟨creating, copying, [], d, _, create, fill, by simp, ?_⟩
    change visits (creating ++ copying) = _
    rw [visits_append, none create, List.nil_append]

/-- How far the seeding of a working directory goes. -/
structure Ends (root : Node) (cwd : List String) (base tree : Path) (label : String)
    (events : List (Event host)) (result : Except Chain WorkDir) : Prop where
  /-- No bound on the levels ends it but the length of paths, wherever the directory lies. -/
  bounded : ∀ levels, pathBytes ≤ levels →
    Task.Path (seedBy (copyLevels levels) base tree label) events result
  /-- Outside of the tree, it lists directories of the tree as it was, each of them once. -/
  outside : Outside root cwd base tree → visits events = [] ∨ ∃ here n rels,
    lookup root cwd tree = .ok (here, n) ∧ Visits tree n events rels ∧
      (visits events).length ≤ n.directories.length
  /-- Inside of the tree, it fails. -/
  inside : ¬ Outside root cwd base tree → ∃ e, result = .error e

/-- Seeding ends for every place of the new directory. Outside of the tree what is listed is bounded
by the tree; inside of the tree the new directory is copied into itself, until a call fails. -/
theorem seeding_ends {levels : Nat} (deep : pathBytes ≤ levels)
    (path : Task.Path (seedBy (copyLevels levels) base tree label) events result)
    (spared : Spared cwd root events root') (sound : root.Sound) :
    Ends root cwd base tree label events result where
  bounded levels' deep' :=
    path_of_seeding (seeding_goes deep deep' spared sound (seeding_of_path path))
  outside outside := by
    obtain none | ⟨creating, copying, rest, d, answer, create, fill, rfl, same⟩ :=
      visits_of_seeding (seeding_of_path path)
    · exact .inl none
    · obtain ⟨here, n, place, mid, found, isDir, made, more⟩ :=
        exists_made_of_spared create spared
      obtain ⟨filled, fills, -⟩ := spared_append_iff.1 more
      obtain ⟨rels, visits⟩ := copyLevels_tours cwd levels _ _ _ _ _ _ _ _ _ _ fill fills
        (made.site sound) (made.beside outside found isDir)
      have whole : Visits tree n
          (⟨.stat tree, .ok .directory⟩ :: (creating ++ (copying ++ rest))) rels :=
        ⟨same.trans visits.listed, visits.once, visits.stood⟩
      have within : n.Sound := (sound.get? (get?_of_lookup found)).2
      exact .inr ⟨here, n, rels, found, whole, whole.length_le within⟩
  inside inside := by
    cases seeding_of_path path with
    | unseen | noDirectory | unmade | unfilled => exact ⟨_, rfl⟩
    | filled create fill =>
      obtain ⟨here, n, place, mid, found, isDir, made, fills⟩ := exists_made_of_spared create spared
      obtain ⟨rel, further, rfl⟩ := made.below inside found
      obtain ⟨left, reaches⟩ := reaches_of_lookup found isDir
      exact absurd fill (copyLevels_tangles cwd levels _ _ _ _ here rel _ _ further
        ⟨left, reaches.mono made.grows⟩ (made.site sound) fills)

end

/-! ## A place in the tree itself -/

/-- A tree that holds this, and nothing else. -/
def nestedWith (entries : List (String × Node)) : Node :=
  .directory 0o755 [("demo", .directory 0o755 entries)]

def nestedCopy : Path := ⟨"/demo/parity_src_7_0"⟩

def nestedInner : Path := ⟨"/demo/parity_src_7_0/parity_src_7_0"⟩

/-- A directory in the tree is seeded from it. It is listed with the copy of itself that is in it
already, and copied into that, until there is no space left. -/
def nestedEvents : List (Event host) :=
  [⟨.stat ⟨"/demo"⟩, .ok .directory⟩, ⟨.processId, (7 : UInt32)⟩, ⟨.nextNumber, (0 : Nat)⟩,
    ⟨.createDir nestedCopy, .ok ()⟩, ⟨.setMode nestedCopy WorkDir.ownerOnly, .ok ()⟩,
    ⟨.listDir ⟨"/demo"⟩, .ok [.ok ⟨"parity_src_7_0", .ok .directory⟩]⟩,
    ⟨.createDir nestedInner, .ok ()⟩,
    ⟨.listDir nestedCopy, .ok [.ok ⟨"parity_src_7_0", .ok .directory⟩]⟩,
    ⟨.createDir (nestedInner / "parity_src_7_0"), .error (.system 28)⟩,
    ⟨.removeTree nestedCopy, .ok ()⟩]

theorem nested_path :
    ∃ e, Task.Path (WorkDir.seed ⟨"/demo"⟩ ⟨"/demo"⟩ "parity_src") nestedEvents (.error e) :=
  exists_error_of_replay (by decide)

/-- A tree in which a directory is, with this in it. -/
def nestedHolding (mode : Nat) (entries : List (String × Node)) : Node :=
  nestedWith [("parity_src_7_0", .directory mode entries)]

theorem nested_spared : Spared [] (nestedWith []) nestedEvents (nestedWith []) := by
  have tree : Spells ⟨"/demo"⟩ ["demo"] := by decide
  have copy : Spells nestedCopy ["demo", "parity_src_7_0"] := by decide
  have inner : Spells nestedInner ["demo", "parity_src_7_0", "parity_src_7_0"] := by
    decide
  have stat : Files.stat ⟨nestedWith [], []⟩ ⟨"/demo"⟩ = .ok .directory :=
    Files.stat_ok_iff.2 ⟨_, tree.lookup_root rfl (by decide), rfl⟩
  have made : Files.createDir ⟨nestedWith [], []⟩ nestedCopy = .ok (nestedHolding 0o755 []) :=
    Files.createDir_ok_iff.2 ⟨_, copy.locate_root (by decide) rfl rfl rfl, rfl⟩
  have owned : Files.setMode ⟨nestedHolding 0o755 [], []⟩ nestedCopy WorkDir.ownerOnly =
      .ok (nestedHolding WorkDir.ownerOnly []) :=
    bind_ok_iff.2 ⟨_, copy.lookup_root rfl (by decide), rfl⟩
  have listed : Files.listDir ⟨nestedHolding WorkDir.ownerOnly [], []⟩ ⟨"/demo"⟩ =
      .ok [.ok ⟨"parity_src_7_0", .ok .directory⟩] :=
    Files.listDir_ok_iff.2 ⟨_, _, tree.lookup_root rfl (by decide), rfl, rfl⟩
  have made' : Files.createDir ⟨nestedHolding WorkDir.ownerOnly [], []⟩ nestedInner =
      .ok (nestedHolding WorkDir.ownerOnly [("parity_src_7_0", .emptyDirectory)]) :=
    Files.createDir_ok_iff.2 ⟨_, inner.locate_root (by decide) rfl rfl rfl, rfl⟩
  have listed' : Files.listDir
      ⟨nestedHolding WorkDir.ownerOnly [("parity_src_7_0", .emptyDirectory)], []⟩ nestedCopy =
        .ok [.ok ⟨"parity_src_7_0", .ok .directory⟩] :=
    Files.listDir_ok_iff.2 ⟨_, _, copy.lookup_root rfl (by decide), rfl, rfl⟩
  have removed : Files.removeTree
      ⟨nestedHolding WorkDir.ownerOnly [("parity_src_7_0", .emptyDirectory)], []⟩ nestedCopy =
        .ok (nestedWith []) :=
    bind_ok_iff.2 ⟨_, copy.locate_found rfl (by decide), rfl⟩
  exact .call ⟨rfl, fun _ same => Except.ok.inj same ▸ stat⟩ trivial <| .call rfl trivial <|
    .call rfl trivial <| .call made trivial <| .call owned trivial <|
    .call ⟨rfl, fun all same _ => ⟨_, listed, Except.ok.inj same ▸ .refl _⟩⟩
      (fun all same => ⟨_, _, listed, .refl _, Except.ok.inj same ▸ .refl _⟩) <|
    .call made' trivial <|
    .call ⟨rfl, fun all same _ => ⟨_, listed', Except.ok.inj same ▸ .refl _⟩⟩
      (fun all same => ⟨_, _, listed', .refl _, Except.ok.inj same ▸ .refl _⟩) <|
    .call rfl trivial <| .call (fun _ => removed) trivial <| .done _

theorem nested_sound : (nestedWith []).Sound :=
  .directory (by decide) (by decide) (by simp)

theorem nested_inside : ¬ Outside (nestedWith []) [] ⟨"/demo"⟩ ⟨"/demo"⟩ := by
  have tree : Spells ⟨"/demo"⟩ ["demo"] := by decide
  have stands : (nestedWith []).get? ["demo"] = some (.directory 0o755 []) := rfl
  obtain ⟨around, dot⟩ :=
    (tree.reaches (ite_self _) stands rfl).lookup_dot (by decide)
  intro outside
  exact outside _ _ _ _ (tree.lookup_root stands (by decide)) dot (List.prefix_refl _)

/-- The new directory was not in the tree, is listed all the same, and cannot be completed. -/
theorem seeding_ends_nested :
    visits nestedEvents = [⟨"/demo"⟩, nestedCopy] ∧
      (nestedWith []).get? ["demo", "parity_src_7_0"] = none ∧
        ∃ result, Ends (nestedWith []) [] ⟨"/demo"⟩ ⟨"/demo"⟩ "parity_src" nestedEvents result ∧
          ∃ e, result = .error e := by
  obtain ⟨e, path⟩ := nested_path
  have ends := seeding_ends (Nat.le_refl pathBytes) path nested_spared nested_sound
  exact ⟨rfl, rfl, _, ends, ends.inside nested_inside⟩

end Tandem.Sandbox
