import Tandem.Project.Comparison
import Tandem.Proofs.Machine.Canonical
import Tandem.Proofs.Machine.Stuck
import Tandem.Proofs.Project.Containment
import Tandem.Proofs.Sandbox.Interpreter

/-!
What a request for a file is answered by.

* `NamesFile`, `LeadsOut`, `Hindered`: what the path of a file comes to below a tree.
* `Judged`: the answer to each.
* `files_judged`: the machine gives these answers, and a comparison refuses with them.
-/

namespace Tandem.Project

open Tandem.Config Tandem.Host Tandem.Host.Task Tandem.Machine Tandem.Machine.Node Tandem.Sandbox

/-- A path names a regular file of the tree at `here`, which its names lead to through directories
alone, and it is a path that can be asked for. -/
structure NamesFile (root : Node) (here : List String) (file : Path) (names : List String) :
    Prop where
  parts : file.parts = names.map .name
  regular : ∃ entry, root.get? (here ++ names) = some entry ∧ entry.kind = .file
  ends : endsAsDirectory file = false
  sayable : Sayable ((pathOf here).join file)
  short : ∀ name ∈ here ++ names, name.utf8ByteSize ≤ nameLimit

/-- A path leads to something outside of the tree at `here`. -/
def LeadsOut (root : Node) (here : List String) (file : Path) : Prop :=
  ∃ there node, lookup root [] ((pathOf here).join file) = .ok (there, node) ∧ ¬ here <+: there

/-- The answer to a request for a file of the tree at `here`. What is in the way of a path is
reported, unless it is that nothing is there. -/
inductive Judged (root : Node) (here : List String) (file : Path) :
    Except Refusal (Option Path) → Prop where
  | file {names : List String} (h : NamesFile root here file names) :
    Judged root here file (.ok (some (pathOf (here ++ names))))
  | outside (h : LeadsOut root here file) : Judged root here file (.error (.pathTraversal file))
  | nothing (noFile : ∀ names, ¬ NamesFile root here file names)
    (inside : ¬ LeadsOut root here file)
    (free : ∀ e, Hindered root ((pathOf here).join file) e → e.kind = .notFound) :
    Judged root here file (.ok none)
  | barred {e : IoError} (h : Hindered root ((pathOf here).join file) e)
    (other : e.kind ≠ .notFound) :
    Judged root here file (.error (.store ((Chain.one e.message).within s!"resolve {file.text}")))

/-- Every request has an answer. -/
theorem exists_judged (root : Node) (here : List String) (file : Path) :
    ∃ r, Judged root here file r := by
  by_cases named : ∃ names, NamesFile root here file names
  · obtain ⟨names, h⟩ := named
    exact ⟨_, .file h⟩
  · by_cases out : LeadsOut root here file
    · exact ⟨_, .outside out⟩
    · by_cases barred : ∃ e, Hindered root ((pathOf here).join file) e ∧ e.kind ≠ .notFound
      · obtain ⟨e, h, other⟩ := barred
        exact ⟨_, .barred h other⟩
      · refine ⟨_, .nothing (fun names h => named ⟨names, h⟩) out fun e h => ?_⟩
        by_cases absent : e.kind = .notFound
        · exact absent
        · exact absurd ⟨e, h, absent⟩ barred

section
variable {root : Node} {here names : List String} {file : Path}

theorem isAbsolute_candidate (safe : file.isSafe = true) :
    ((pathOf here).join file).isAbsolute = true := by
  rw [Path.isAbsolute_join (Path.isSafe_iff.1 safe).2.1, isAbsolute_pathOf]

theorem stepsOf_candidate (named : ∀ name ∈ here, EntryName name) (safe : file.isSafe = true)
    (parts : file.parts = names.map .name) :
    stepsOf ((pathOf here).join file) = (here ++ names).map .down := by
  refine stepsOf_names (.inr ?_)
  rw [parts_join_safe named safe, parts, List.map_append, List.cons_append]

theorem names_eq_counted (safe : file.isSafe = true) (parts : file.parts = names.map .name) :
    names = file.counted.map String.ofList := by
  rw [Path.parts_counted safe] at parts
  exact ((List.map_inj_right fun _ _ => Part.name.inj).1 parts).symm

/-- A path names a regular file below a tree if and only if it finds one where its names say. -/
theorem namesFile_iff (cwd : List String) (named : ∀ name ∈ here, EntryName name)
    (safe : file.isSafe = true) :
    NamesFile root here file names ↔ file.parts = names.map .name ∧
      ∃ entry, lookup root cwd ((pathOf here).join file) = .ok (here ++ names, entry) ∧
        entry.kind = .file := by
  have start : startOf cwd ((pathOf here).join file) = [] :=
    startOf_absolute (isAbsolute_candidate safe) cwd
  have ends : endsAsDirectory ((pathOf here).join file) = endsAsDirectory file :=
    endsAsDirectory_join (Path.isSafe_iff.1 safe).2.1
  constructor
  · rintro ⟨parts, ⟨entry, found, isFile⟩, plain, sayable, short⟩
    refine ⟨parts, entry, ?_, isFile⟩
    rw [lookup_names_iff (stepsOf_candidate named safe parts) (by rwa [start]) (by simp [isFile]),
      ends, plain, start]
    exact ⟨sayable, short, nofun, rfl, rfl⟩
  · rintro ⟨parts, entry, looked, isFile⟩
    have found : root.get? (here ++ names) = some entry := get?_of_lookup looked
    rw [lookup_names_iff (stepsOf_candidate named safe parts) (by rwa [start]) (by simp [isFile]),
      ends] at looked
    obtain ⟨sayable, short, plain, -, -⟩ := looked
    refine ⟨parts, ⟨entry, found, isFile⟩, ?_, sayable, short⟩
    simpa [isDirectory_eq_false, isFile] using plain

end

/-! ## Runs of the look-up -/

section
variable {programs : Programs} {m m' : Machine} {here there names : List String} {tree file : Path}
  {node entry : Node} {e : IoError} {r : Except Refusal (Option Path)} {α β : Type}
  {t : ExceptT Refusal (Task host) α} {a : α} {refusal : Refusal}

theorem run_except_bind_ok (h : m.run programs t.run = (.ok a, m'))
    (f : α → ExceptT Refusal (Task host) β) :
    m.run programs (t >>= f).run = m'.run programs (f a).run := by
  rw [Machine.run] at h
  rw [ExceptT.run_bind, Machine.run, Task.run_bind, h]
  rfl

theorem run_except_bind_error (h : m.run programs t.run = (.error refusal, m'))
    (f : α → ExceptT Refusal (Task host) β) :
    m.run programs (t >>= f).run = (.error refusal, m') := by
  rw [Machine.run] at h
  rw [ExceptT.run_bind, Machine.run, Task.run_bind, h]
  rfl

/-- The machine answers a call for a canonical path without a change. -/
theorem run_resolve_bind (f : Except IoError Path → ExceptT Refusal (Task host) β) (path : Path) :
    m.run programs ((liftM (ask (.resolve path)) : ExceptT Refusal (Task host) _) >>= f).run =
      m.run programs (f (Files.resolve m.view path)).run := rfl

theorem run_stat_bind (f : Except IoError FileKind → ExceptT Refusal (Task host) β) (path : Path) :
    m.run programs ((liftM (ask (.stat path)) : ExceptT Refusal (Task host) _) >>= f).run =
      m.run programs (f (Files.stat m.view path)).run := rfl

theorem resolve_found (looked : lookup m.files m.directory tree = .ok (here, node)) :
    Files.resolve m.view tree = .ok (pathOf here) := by
  rw [Files.resolve, view, looked]
  rfl

theorem resolve_failed (failed : lookup m.files m.directory tree = .error e) :
    Files.resolve m.view tree = .error e := by
  rw [Files.resolve, view, failed]
  rfl

theorem run_noTree (failed : lookup m.files m.directory tree = .error e) :
    m.run programs (resolveEntry tree file).run = (.error (.store
      ((Chain.one e.message).within s!"resolve project tree: {tree.text}")), m) := by
  rw [resolveEntry_eq, run_resolve_bind, resolve_failed failed]
  rfl

theorem run_failed (found : lookup m.files m.directory tree = .ok (here, node))
    (failed : lookup m.files m.directory ((pathOf here).join file) = .error e) :
    m.run programs (resolveEntry tree file).run =
      (if e.kind = .notFound then .ok none
        else .error (.store ((Chain.one e.message).within s!"resolve {file.text}")), m) := by
  rw [resolveEntry_eq, run_resolve_bind, resolve_found found]
  dsimp only
  rw [run_resolve_bind, resolve_failed failed]
  by_cases absent : e.kind = .notFound
  · simp only [if_pos absent]
    rfl
  · simp only [if_neg absent]
    rfl

theorem run_found (found : lookup m.files m.directory tree = .ok (here, node))
    (looked : lookup m.files m.directory ((pathOf here).join file) = .ok (there, entry)) :
    m.run programs (resolveEntry tree file).run =
      m.run programs (examine (pathOf here) (pathOf there) file).run := by
  rw [resolveEntry_eq, run_resolve_bind, resolve_found found]
  dsimp only
  rw [run_resolve_bind, resolve_found looked]

section
variable {root place : Path}

theorem run_examine_outside (outside : place.isUnder root = false) :
    m.run programs (examine root place file).run = (.error (.pathTraversal file), m) := by
  rw [examine, outside]
  rfl

theorem run_examine_linked (under : place.isUnder root = true)
    (linked : place.same (root.join file) = false) :
    m.run programs (examine root place file).run = (.ok none, m) := by
  rw [examine, under, linked]
  rfl

section
variable (under : place.isUnder root = true) (same : place.same (root.join file) = true)
include under same

theorem run_examine_regular (regular : Files.stat m.view place = .ok .file) :
    m.run programs (examine root place file).run = (.ok (some place), m) := by
  rw [examine, under, same]
  change m.run programs ((liftM (ask (.stat place)) : ExceptT Refusal (Task host) _) >>= _).run = _
  rw [run_stat_bind, regular]
  rfl

theorem run_examine_irregular (irregular : Files.stat m.view place ≠ .ok .file) :
    m.run programs (examine root place file).run = (.ok none, m) := by
  rw [examine, under, same]
  change m.run programs ((liftM (ask (.stat place)) : ExceptT Refusal (Task host) _) >>= _).run = _
  rw [run_stat_bind]
  cases answer : Files.stat m.view place with
  | error e => rfl
  | ok kind =>
    cases kind with
    | file => exact absurd answer irregular
    | directory => rfl
    | link => rfl
    | special => rfl

end

end

end

/-! ## Judgments -/

/-- The path of a place finds what stands there. -/
theorem lookup_pathOf_iff {root entry inner : Node} {cwd there place : List String}
    (named : ∀ name ∈ there, EntryName name) (stands : root.get? there = some entry)
    (plain : entry.kind ≠ .link) :
    lookup root cwd (pathOf there) = .ok (place, inner) ↔ Sayable (pathOf there) ∧
      (∀ name ∈ there, name.utf8ByteSize ≤ nameLimit) ∧
        (endsAsDirectory (pathOf there) = true → entry.isDirectory = true) ∧
          place = there ∧ inner = entry := by
  have start : startOf cwd (pathOf there) = [] := startOf_absolute (isAbsolute_pathOf there) cwd
  have steps := stepsOf_names (.inr (parts_pathOf named))
  rw [lookup_names_iff steps (by rwa [start]) plain, start, List.nil_append]

section
variable {programs : Programs} {m : Machine} {here there names : List String} {tree file : Path}
  {node entry : Node} {r : Except Refusal (Option Path)}

section
variable (sound : m.files.Sound) (safe : file.isSafe = true)
  (found : lookup m.files m.directory tree = .ok (here, node))
include sound safe found

theorem NamesFile.run (h : NamesFile m.files here file names) :
    m.run programs (resolveEntry tree file).run = (.ok (some (pathOf (here ++ names))), m) := by
  have named : ∀ name ∈ here, EntryName name := (sound.get? (get?_of_lookup found)).1
  obtain rfl := names_eq_counted safe h.parts
  obtain ⟨-, entry, looked, isFile⟩ := (namesFile_iff m.directory named safe).1 h
  have stands := get?_of_lookup looked
  have named' := (sound.get? stands).1
  have filled : here ++ file.counted.map String.ofList ≠ [] := by simp [Path.counted_ne_nil safe]
  have stat : Files.stat m.view (pathOf (here ++ file.counted.map String.ofList)) = .ok .file := by
    refine Files.stat_ok_iff.2 ⟨(here ++ file.counted.map String.ofList, entry), ?_, isFile.symm⟩
    rw [lookup_pathOf_iff named' stands (by simp [isFile]), endsAsDirectory_pathOf named' filled]
    exact ⟨sayable_pathOf named safe h.sayable, h.short, nofun, rfl, rfl⟩
  rw [run_found found looked]
  apply run_examine_regular _ _ stat
  · exact (isUnder_pathOf_iff named named').2 (List.prefix_append here _)
  · exact (same_join_iff named named' safe).2 rfl

theorem LeadsOut.run (h : LeadsOut m.files here file) :
    m.run programs (resolveEntry tree file).run = (.error (.pathTraversal file), m) := by
  have named : ∀ name ∈ here, EntryName name := (sound.get? (get?_of_lookup found)).1
  obtain ⟨there, entry, looked, out⟩ := h
  rw [lookup_absolute (isAbsolute_candidate safe) [] m.directory] at looked
  have named' := (sound.get? (get?_of_lookup looked)).1
  rw [run_found found looked]
  apply run_examine_outside
  rw [← Bool.not_eq_true, isUnder_pathOf_iff named named']
  exact out

/-- A path that leads below its tree, but not straight to a regular file, names nothing. -/
theorem run_noFile
    (looked : lookup m.files m.directory ((pathOf here).join file) = .ok (there, entry))
    (below : here <+: there) (noFile : ∀ names, ¬ NamesFile m.files here file names) :
    m.run programs (resolveEntry tree file).run = (.ok none, m) := by
  have named : ∀ name ∈ here, EntryName name := (sound.get? (get?_of_lookup found)).1
  have named' : ∀ name ∈ there, EntryName name := (sound.get? (get?_of_lookup looked)).1
  have under : (pathOf there).isUnder (pathOf here) = true :=
    (isUnder_pathOf_iff named named').2 below
  rw [run_found found looked]
  by_cases same : (pathOf there).same ((pathOf here).join file) = true
  · apply run_examine_irregular under same
    intro stat
    obtain rfl := (same_join_iff named named' safe).1 same
    have stands := get?_of_lookup looked
    have top : m.files.isDirectory = true :=
      isDirectory_of_ne_nil stands (by simp [Path.counted_ne_nil safe])
    have plain := plain_of_lookup looked (isAbsolute_candidate safe) top
    obtain ⟨⟨place, inner⟩, again, isFile⟩ := Files.stat_ok_iff.1 stat
    obtain ⟨-, -, -, -, rfl⟩ := (lookup_pathOf_iff named' stands plain).1 again
    refine noFile (file.counted.map String.ofList) ((namesFile_iff m.directory named safe).2 ?_)
    exact ⟨Path.parts_counted safe, inner, looked, isFile.symm⟩
  · exact run_examine_linked under (by simpa using same)

/-- The machine gives the answer that a request is judged by. -/
theorem Judged.run (isDir : node.isDirectory = true) (h : Judged m.files here file r) :
    m.run programs (resolveEntry tree file).run = (r, m) := by
  have top : m.files.isDirectory = true := by
    by_cases top : here = []
    · subst top
      obtain rfl : m.files = node := Option.some.inj (get?_of_lookup found)
      exact isDir
    · exact isDirectory_of_ne_nil (get?_of_lookup found) top
  have failed (e : IoError) : lookup m.files m.directory ((pathOf here).join file) = .error e ↔
      Hindered m.files ((pathOf here).join file) e :=
    lookup_error_iff (isAbsolute_candidate safe) top
  cases h with
  | file h => exact h.run sound safe found
  | outside h => exact h.run sound safe found
  | nothing noFile inside free =>
    cases looked : lookup m.files m.directory ((pathOf here).join file) with
    | error e => rw [run_failed found looked, if_pos (free e ((failed e).1 looked))]
    | ok place =>
      obtain ⟨there, entry⟩ := place
      by_cases below : here <+: there
      · exact run_noFile sound safe found looked below noFile
      · refine absurd ⟨there, entry, ?_, below⟩ inside
        rw [← looked, lookup_absolute (isAbsolute_candidate safe) [] m.directory]
  | barred h other => rw [run_failed found ((failed _).2 h), if_neg other]

theorem run_iff_judged (isDir : node.isDirectory = true) :
    m.run programs (resolveEntry tree file).run = (r, m) ↔ Judged m.files here file r := by
  constructor
  · intro ran
    obtain ⟨r', judged⟩ := exists_judged m.files here file
    have ran' : m.run programs (resolveEntry tree file).run = (r', m) :=
      judged.run sound safe found isDir
    rw [ran, Prod.mk.injEq] at ran'
    exact ran'.1 ▸ judged
  · exact Judged.run sound safe found isDir

end

end

/-! ## Refusals -/

/-- What a comparison is refused with by the answer to a request for a file of one of its trees, if
it is. -/
def refusal? (absent : Refusal) : Except Refusal (Option Path) → Option Refusal
  | .error r => some r
  | .ok none => some absent
  | .ok (some _) => none

section
variable {programs : Programs} {m m' : Machine} {s : Settings} {store : ProjectStore} {q : Inquiry}
  {tree source migrated place : Path} {timeout : UInt64} {absent refusal : Refusal}
  {r : Except Refusal (Option Path)} {α β : Type}

theorem run_fromStore {t : Task host (Except Chain α)} {a : α}
    (h : m.run programs t = (.ok a, m')) : m.run programs (fromStore t).run = (.ok a, m') := by
  have lifted : m.run programs (liftM t : ExceptT Refusal (Task host) (Except Chain α)).run =
      (.ok (.ok a), m') := by
    rw [Machine.run] at h
    change Task.run (answer programs) (t >>= fun a => done (Except.ok a)) m = _
    rw [Task.run_bind, h]
    rfl
  rw [fromStore, run_except_bind_ok lifted]
  rfl

section
variable {t : ExceptT Refusal (Task host) (Option Path)}

theorem run_demand_refused (h : m.run programs t.run = (r, m'))
    (refused : refusal? absent r = some refusal) (f : Path → ExceptT Refusal (Task host) β) :
    m.run programs (do f (← orRefuse absent (← t))).run = (.error refusal, m') := by
  match r, h, refused with
  | .error e, h, rfl => exact run_except_bind_error h _
  | .ok none, h, rfl => exact run_except_bind_ok h _

theorem run_demand_found (h : m.run programs t.run = (.ok (some place), m'))
    (f : Path → ExceptT Refusal (Task host) β) :
    m.run programs (do f (← orRefuse absent (← t))).run = m'.run programs (f place).run :=
  run_except_bind_ok h _

end

section
variable (sourceTree : m.run programs (store.sourceTree q.projectId) = (.ok (some source), m))
include sourceTree

theorem checkTrees_source (judged : m.run programs (resolveEntry source q.file).run = (r, m))
    (refused : refusal? (.fileNotFound q.file) r = some refusal) :
    m.run programs (checkTrees store q).run = (.error refusal, m) := by
  rw [checkTrees, run_demand_found (run_fromStore sourceTree), run_demand_refused judged refused]

theorem checkTrees_migrated
    (entry : m.run programs (resolveEntry source q.file).run = (.ok (some place), m))
    (marked : m.run programs (store.isMigrated q.projectId q.file) = (.ok true, m))
    (migratedTree : m.run programs (store.migratedTree q.projectId) = (.ok (some migrated), m))
    (judged : m.run programs (resolveEntry migrated q.file).run = (r, m))
    (refused : refusal? (.notMigrated q.file) r = some refusal) :
    m.run programs (checkTrees store q).run = (.error refusal, m) := by
  rw [checkTrees, run_demand_found (run_fromStore sourceTree), run_demand_found entry,
    run_except_bind_ok (run_fromStore marked)]
  rw [Bool.not_true, if_neg Bool.false_ne_true]
  rw [run_demand_found (run_fromStore migratedTree), run_demand_refused judged refused]

end

/-- What its trees are refused for, a comparison is refused for. -/
theorem compare_refused (request : checkRequest s q = .ok timeout)
    (trees : m.run programs (checkTrees store q).run = (.error refusal, m)) :
    m.run programs (compare s store q) = (.error refusal, m) := by
  have checked : m.run programs (check s store q).run = (.error refusal, m) := by
    rw [check, request]
    exact run_except_bind_error trees _
  rw [compare, Machine.run, Task.run_bind]
  rw [Machine.run] at checked
  rw [checked]
  rfl

end

/-- A request for a file of a tree is judged by what its path comes to there, unless the tree itself
cannot be found: a regular file straight below the tree is found, what leads out of it is refused,
and of what is in the way all but absence is a failure of the store. A comparison is refused by its
source tree first, and by its migrated tree where the source tree does not refuse it and the file is
recorded as migrated. -/
theorem files_judged (programs : Programs) {m : Machine} (sound : m.files.Sound) {file : Path}
    (safe : file.hazard? = none) :
    (∀ tree e, lookup m.files m.directory tree = .error e →
      m.run programs (resolveEntry tree file).run = (.error (.store
        ((Chain.one e.message).within s!"resolve project tree: {tree.text}")), m)) ∧
    (∀ tree here node, lookup m.files m.directory tree = .ok (here, node) →
      node.isDirectory = true → ∀ r,
        m.run programs (resolveEntry tree file).run = (r, m) ↔ Judged m.files here file r) ∧
    ∀ s store q timeout source r, q.file = file → checkRequest s q = .ok timeout →
      m.run programs (store.sourceTree q.projectId) = (.ok (some source), m) →
      m.run programs (resolveEntry source file).run = (r, m) →
        (∀ refusal, refusal? (.fileNotFound file) r = some refusal →
          m.run programs (compare s store q) = (.error refusal, m)) ∧
        ∀ place migrated r', r = .ok (some place) →
          m.run programs (store.isMigrated q.projectId file) = (.ok true, m) →
          m.run programs (store.migratedTree q.projectId) = (.ok (some migrated), m) →
          m.run programs (resolveEntry migrated file).run = (r', m) →
            ∀ refusal, refusal? (.notMigrated file) r' = some refusal →
              m.run programs (compare s store q) = (.error refusal, m) := by
  rw [Path.hazard?_eq_none_iff] at safe
  refine ⟨fun tree e => run_noTree, fun tree here node found isDir r =>
    run_iff_judged sound safe found isDir, ?_⟩
  rintro s store q timeout source r rfl request sourceTree judged
  refine ⟨fun refusal refused => ?_, ?_⟩
  · exact compare_refused request (checkTrees_source sourceTree judged refused)
  · rintro place migrated r' rfl marked migratedTree judged' refusal refused
    exact compare_refused request
      (checkTrees_migrated sourceTree judged marked migratedTree judged' refused)

/-! ## Requests for files of the tangled tree -/

/-- A machine that holds the tangled tree. -/
def tangledMachine : Machine := ⟨tangled, [], [], 1, 0, 0, [], 100⟩

/-- A store whose project lies in the tangled tree. -/
def tangledStore : ProjectStore where
  sourceTree _ := .done (.ok (some ⟨"/demo"⟩))
  migratedTree _ := .done (.ok (some ⟨"/demo"⟩))
  isMigrated _ _ := .done (.ok true)

theorem demo_found : lookup tangled [] ⟨"/demo"⟩ = .ok (["demo"], tangledTree) :=
  tangledTree_spells.lookup_root rfl (by decide)

/-- A file stands where a directory would have to be. -/
theorem behind_file_judged : Judged tangled ["demo"] ⟨"lib/util.sh/x"⟩
    (.error (.store ⟨"resolve lib/util.sh/x", ["Not a directory (os error 20)"]⟩)) := by
  have isFile : tangled.get? ["demo", "lib", "util.sh"] = some (.file 0o755 [10]) := rfl
  have wall : Stuck tangled linkLimit false ["demo", "lib"] [.down "util.sh", .down "x"]
      .notDirectory := .wall (by decide) isFile (by decide) rfl (.inl (by decide))
  have stuck : Stuck tangled linkLimit false [] [.down "demo", .down "lib", .down "util.sh",
      .down "x"] .notDirectory := .onward (by decide) rfl rfl (.onward (by decide) rfl rfl wall)
  exact .barred (stuck.hindered (by decide) (by decide) (by decide)) (by decide)

/-- A link leads to itself. -/
theorem loop_judged : Judged tangled ["demo"] ⟨"loop"⟩
    (.error (.store ⟨"resolve loop", ["Too many levels of symbolic links (os error 40)"]⟩)) := by
  have isLink : tangled.get? ["demo", "loop"] = some (.link "loop") := rfl
  have stuck : Stuck tangled linkLimit false [] [.down "demo", .down "loop"] .linkLoop :=
    .onward (by decide) rfl rfl (stuck_cycle (by decide) isLink (by decide) (by decide))
  exact .barred (stuck.hindered (by decide) (by decide) (by decide)) (by decide)

theorem files_judged_tangled :
    tangled.Sound ∧ (Host.Path.mk "lib/util.sh/x").hazard? = none ∧
      (Host.Path.mk "loop").hazard? = none ∧
      tangledMachine.run willing (resolveEntry ⟨"/demo"⟩ ⟨"loop"⟩).run = (.error (.store
        ⟨"resolve loop", ["Too many levels of symbolic links (os error 40)"]⟩), tangledMachine) ∧
      tangledMachine.run willing (compare (.standard ⟨"/tmp"⟩) tangledStore
          ⟨"demo", ⟨"lib/util.sh/x"⟩, none, none⟩) = (.error (.store
        ⟨"resolve lib/util.sh/x", ["Not a directory (os error 20)"]⟩), tangledMachine) := by
  have safe : (Host.Path.mk "lib/util.sh/x").hazard? = none := by decide
  have safe' : (Host.Path.mk "loop").hazard? = none := by decide
  obtain ⟨-, judged, refused⟩ := files_judged willing (m := tangledMachine) tangled_sound safe
  obtain ⟨-, judged', -⟩ := files_judged willing (m := tangledMachine) tangled_sound safe'
  refine ⟨tangled_sound, safe, safe', ?_, ?_⟩
  · exact (judged' ⟨"/demo"⟩ _ _ demo_found rfl _).2 loop_judged
  · have behind := (judged ⟨"/demo"⟩ _ _ demo_found rfl _).2 behind_file_judged
    exact (refused _ tangledStore ⟨"demo", ⟨"lib/util.sh/x"⟩, none, none⟩ 30 ⟨"/demo"⟩ _ rfl rfl
      rfl behind).1 _ rfl

end Tandem.Project
