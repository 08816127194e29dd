import Tandem.Project.Comparison
import Tandem.Proofs.Sandbox.Attendance
import Tandem.Proofs.Sandbox.Seeding

/-!
One side of a comparison in an ordinary world.

* `World`: a tree, and guests that do what follows from what they are given.
* `Ordinary`: the answers of such a world to one side, which fail none of its calls.
* `runSide_plays`: the record of the side is that of a guest that was given a copy of the tree.
-/

namespace Tandem.Project

open Tandem.Config Tandem.Host Tandem.Host.Task Tandem.Sandbox Tandem.Text

variable {δ : Type}

/-- All that the sandbox gives to a guest. What the guest's directory holds is named by what follows
the directory's own path. -/
structure Given (δ : Type) where
  launch : Launch
  input : Option String
  contents : String → Item δ → Prop

namespace Given

/-- What is given apart from where it is: without the current directory, and without the variable
that names it. -/
def placeless (hidden? : Option String) (g : Given δ) : Given δ :=
  { g with
    launch.directory := none
    launch.environment := g.launch.environment.filter fun entry => some entry.1 != hidden? }

end Given

/-- A tree, and what else the answers to a side depend on. Paths in `taken` name something already,
`holds` is what files hold, and what a guest does is a function of what it is given. -/
structure World (δ : Type) where
  environment : List (Utf8.Bytes × Utf8.Bytes)
  entries : List (String × FileTree δ)
  taken : Path → Prop
  holds : Path → δ
  behave : Given δ → Behaviour
  proper : ∀ rel sub, FileTree.At (.directory entries) rel sub → ∀ name ∈ rel, Proper name
  shallow : FileTree.Shallow pathBytes (.directory entries)
  /-- Nothing stands below what does not exist. -/
  vacant : ∀ path : Path, path.Open → ¬ taken path → Free taken (.directory entries) path

/-- The guests of a world do not look at where they are. -/
def World.Unplaced (w : World δ) (hidden? : Option String) : Prop :=
  ∀ g g' : Given δ, g.placeless hidden? = g'.placeless hidden? → w.behave g = w.behave g'

/-- What has been put into a directory. -/
def contents (holds : Path → δ) (events : List (Event host)) (directory : Option Path)
    (place : String) (item : Item δ) : Prop :=
  ∃ d, directory = some d ∧ Puts holds events ⟨d.text ++ place⟩ item

/-- What a child is fed, if its input is a pipe. -/
def fed (launch : Launch) (pid : UInt32) (events : List (Event host)) : Option String :=
  match launch.input with
  | .none => none
  | .pipe => events.findSome? fun
    | ⟨.feed child input, _⟩ => if child = pid then some input else none
    | _ => none

/-- The answers of a world to one side, whose tree it shows at a path: they fail no call but to make
a directory under a name that is taken, and the guest behaves as it does in that world and ends
before its time is up. -/
structure Ordinary (w : World δ) (tree : Path) (timeout : Duration) (events : List (Event host)) :
    Prop where
  environment : ∀ answer, ⟨.environment, answer⟩ ∈ events → answer = w.environment
  found : ∀ answer, ⟨.stat tree, answer⟩ ∈ events → answer = .ok .directory
  lends : Lends w.holds w.taken (.directory w.entries) tree events
  named : ∃ path, ⟨.createDir path, .ok ()⟩ ∈ events
  started : ∀ launch answer, ⟨.spawn launch, answer⟩ ∈ events →
    ∃ child, answer = .ok child ∧ child.piped = true
  clocked : Clocked 0 events
  plays : ∀ front back start launch child,
    events = front ++ ⟨.now, start⟩ :: ⟨.spawn launch, .ok child⟩ :: back →
      Plays (w.behave ⟨launch, fed launch child.pid back, contents w.holds front launch.directory⟩)
        child.pid (start + timeout) back

/-! ## What a side gives its guest -/

/-- The run of a side in a directory. -/
def sideRequest (s : Settings) (p : Plan) (r : Runtime) (directory : WorkDir) : Request where
  interpreter := interpreterOf s r
  directory
  entry := p.inquiry.file
  input := p.inquiry.input
  limits := s.limits p.timeoutSeconds
  moduleVariable := s.moduleVariable?

/-- What the guest of a side is given where its directory has this path. -/
def World.given (w : World δ) (s : Settings) (p : Plan) (r : Runtime) (path : Path) : Given δ where
  launch := (sideRequest s p r ⟨path⟩).started w.environment
  input := p.inquiry.input
  contents place item :=
    ∃ rel sub, FileTree.At (.directory w.entries) rel sub ∧ sub.item? = some item ∧
      place = suffix rel

theorem filter_set (name value : String) (env : Environment) :
    (env.set name value).filter (fun entry => some entry.1 != some name) =
      env.filter fun entry => some entry.1 != some name := by
  induction env with
  | nil => simp [Environment.set]
  | cons entry env ih =>
    obtain ⟨other, old⟩ := entry
    rw [Environment.set]
    split
    · simp
    · split
      · rename_i same
        subst same
        simp
      · simp only [List.filter_cons, ih]

/-- Two environments differ in the variable that names the directory alone. -/
theorem sanitized_placeless (host : List (Utf8.Bytes × Utf8.Bytes)) (hidden? : Option String)
    (dir dir' : String) :
    (Environment.sanitized host (hidden?.map fun name => (name, dir))).filter
        (fun entry => some entry.1 != hidden?) =
      (Environment.sanitized host (hidden?.map fun name => (name, dir'))).filter
        (fun entry => some entry.1 != hidden?) := by
  cases hidden? with
  | none => rfl
  | some name =>
    simp only [Environment.sanitized, Option.map_some]
    split
    · rw [filter_set, filter_set]
    · rfl

/-- Both sides give their guests the same but for where they are. -/
theorem given_placeless (w : World δ) {s : Settings} (p : Plan) (path path' : Path)
    (same : s.sourceInterpreter = s.targetInterpreter) :
    (w.given s p .source path).placeless s.moduleVariable? =
      (w.given s p .target path').placeless s.moduleVariable? := by
  have environments := sanitized_placeless w.environment s.moduleVariable? path.text path'.text
  simp only [Given.placeless, World.given, Request.started, Request.launch, sideRequest,
    interpreterOf, same, environments]
  rfl

/-! ## The run of a side -/

theorem attend_fed {r : Request} {child : Child} {start : Duration} {env : Environment}
    {events more : List (Event host)} {result : Except SandboxError Record}
    (path : Task.Path (r.attend child start) events result) (piped : child.piped = true) :
    fed (r.launch env) child.pid (events ++ more) = r.input := by
  rw [Request.attend, if_pos piped, follow_eq] at path
  obtain ⟨feeding, rest, _, rfl, feed, -⟩ := path_bind_iff.1 path
  rw [Request.feed] at feed
  cases given : r.input with
  | none => simp [fed, Request.launch, given]
  | some input =>
    rw [given] at feed
    obtain rfl := path_ask_iff.1 feed
    simp [fed, Request.launch, given, Guest.ofChild]

section
variable {w : World δ} {tree : Path} {timeout : Duration} {events : List (Event host)}

/-- Calls that make nothing put nothing into a directory. -/
theorem contents_append {holds : Path → δ} {more : List (Event host)} (directory : Option Path)
    (h : ∀ e ∈ more, ¬ Makes e.1) :
    contents holds (events ++ more) directory = contents holds events directory := by
  funext place item
  simp only [contents, puts_append, not_puts h, or_false]

/-- A run in an ordinary world shows what its guest does. -/
theorem run_plays {r : Request} {before : List (Event host)} {result : Except SandboxError Record}
    (path : Task.Path r.run events result) (safe : r.entry.isSafe = true)
    (ordinary : Ordinary w tree r.limits.timeout (before ++ events)) :
    ∃ record, result = .ok record ∧
      Shows (w.behave ⟨r.started w.environment, r.input,
          contents w.holds before (some r.directory.path)⟩)
        r.limits.maxOutputBytes.toNat record := by
  obtain ⟨running, rest, answer, rfl, attempt, tail⟩ := path_bind_iff.1 path
  obtain ⟨removing, rest, _, rfl, -, last⟩ := path_bind_iff.1 tail
  obtain ⟨rfl, rfl⟩ := path_done_iff.1 last
  obtain ⟨unsafe', -⟩ | ⟨-, env, start, ⟨e, rfl, -⟩ | ⟨child, rest, rfl, attend⟩⟩ :=
    attempt_cases attempt
  · rw [safe] at unsafe'
    cases unsafe'
  · obtain ⟨child, same, -⟩ := ordinary.started (r.started env) (.error e) (by simp)
    cases same
  · obtain rfl := ordinary.environment env (by simp)
    obtain ⟨_, same, piped⟩ := ordinary.started (r.started w.environment) (.ok child) (by simp)
    cases same
    have plays := ordinary.plays (before ++ [⟨.environment, w.environment⟩]) (rest ++ removing)
      start (r.started w.environment) child (by simp)
    have ticking : Clocked 0 ((before ++ [⟨.environment, w.environment⟩]) ++ ⟨.now, start⟩ ::
        ⟨.spawn (r.started w.environment), .ok child⟩ :: (rest ++ removing)) := by
      simpa using ordinary.clocked
    have clocked : Clocked start (rest ++ removing) := ticking.after
    rw [contents_append _ (by simp [Makes]), Request.started, attend_fed attend piped] at plays
    exact attend_plays attend piped (plays.part []) clocked.first

theorem directoryName_isIdentifier (r : Runtime) : isIdentifier r.directoryName = true := by
  cases r <;> decide

theorem directoryName_proper (r : Runtime) : Proper r.directoryName := by
  cases r <;> exact ⟨by decide, by decide⟩

/-- Finding out where working directories stand makes nothing. -/
theorem scratchDirectory_makes {s : Settings} {base : Path}
    (path : Task.Path (scratchDirectory s) events base) : ∀ e ∈ events, ¬ Makes e.1 := by
  rw [scratchDirectory] at path
  split at path
  · obtain ⟨rfl, -⟩ := path_done_iff.1 path
    simp
  · obtain ⟨env, rest, rfl, last⟩ := path_ask_bind_iff.1 path
    obtain ⟨rfl, -⟩ := path_done_iff.1 last
    simp [Makes]

/-- A side in an ordinary world shows what a guest does that is given a copy of the tree. -/
theorem runSide_plays {s : Settings} {p : Plan} {r : Runtime} {record : Record}
    (path : Task.Path (runSide s p r) events record) (safe : p.inquiry.file.isSafe = true)
    (ordinary : Ordinary w (p.tree r) (s.limits p.timeoutSeconds).timeout events) :
    ∃ dir, Shows (w.behave (w.given s p r dir)) s.maxOutputBytes.toNat record := by
  obtain ⟨scratching, rest, base, rfl, scratch, tail⟩ := path_bind_iff.1 path
  obtain ⟨seeding, rest, seeded, rfl, seed, tail'⟩ := path_bind_iff.1 tail
  have found : ∀ answer, ⟨.stat (p.tree r), answer⟩ ∈ seeding → answer = .ok .directory :=
    fun answer he => ordinary.found answer (by simp [he])
  have quiet : ∀ e ∈ scratching, ¬ Makes e.1 := scratchDirectory_makes scratch
  have lends : Lends w.holds w.taken (.directory w.entries) (p.tree r) seeding :=
    ordinary.lends.mono fun x hx => by simp [hx]
  obtain ⟨pid, number, rfl, puts⟩ | ⟨⟨e, rfl⟩, none⟩ :=
    seed_puts seed (directoryName_isIdentifier r) (directoryName_proper r) found lends w.shallow
      w.vacant
  · obtain ⟨running, rest, answer, rfl, run, last⟩ := path_bind_iff.1 tail'
    obtain ⟨rfl, said⟩ : rest = [] ∧ ∀ record', answer = .ok record' → record = record' := by
      cases answer <;> obtain ⟨rfl, rfl⟩ := path_done_iff.1 last <;> simp
    have split : scratching ++ (seeding ++ (running ++ [])) =
        (scratching ++ seeding) ++ running := by simp
    obtain ⟨record', ran, shows⟩ := run_plays run safe (split ▸ ordinary)
    obtain rfl := said record' ran
    have named := name_proper (directoryName_proper r) pid number
    have held : contents w.holds (scratching ++ seeding)
        (some (base / WorkDir.name r.directoryName pid number)) =
          (w.given s p r (base / WorkDir.name r.directoryName pid number)).contents := by
      funext place item
      simp only [contents, puts_append, not_puts quiet, false_or, puts, Option.some.injEq,
        exists_eq_left']
      exact propext (gives_iff (Host.Path.open_join named) w.proper)
    exact ⟨_, held ▸ shows⟩
  · obtain ⟨rfl, -⟩ := path_done_iff.1 tail'
    obtain ⟨made, he⟩ := ordinary.named
    have outside : ⟨.createDir made, .ok ()⟩ ∉ scratching := fun he => quiet _ he trivial
    exact absurd (by simpa [outside] using he) (none made)

end

end Tandem.Project
