import Tandem.Proofs.Machine.Without
import Tandem.Proofs.Sandbox.WorkingCopy

/-!
Calls that make working directories side by side, in several processes over one file system.

* `Office`, `Scene`, `Step`: the calls, how far they have come, and what may happen next.
* `Phase`: what a call has still to do, and what it knows by then.
* `reachable_valid`: every directory that a call holds stands in a place of its own, where nothing
  was when the call made it.
-/

namespace Tandem.Sandbox.Tenancy

open Tandem.Host Tandem.Machine Tandem.Machine.Node Tandem.Text

/-! ## What may happen -/

/-- The number that a counter of 64 bits gives out after so many others. -/
def number (drawn : Nat) : Nat := drawn % UInt64.size

/-- The calls that make working directories, and the processes that they are made in. Two processes
may have the same id, if they do not see each other. -/
structure Office (ι κ : Type) where
  process : ι → κ
  base : ι → Path
  label : ι → String
  /-- The place that the base of a call names. -/
  site : ι → List String
  processId : κ → UInt32
  /-- The directory that relative paths start from. -/
  directory : κ → List String

namespace Office

variable {ι κ : Type} (o : Office ι κ)

def cwd (i : ι) : List String := o.directory (o.process i)

/-- The name that a call tries with the number after so many others of its process. -/
def name (i : ι) (drawn : Nat) : String :=
  WorkDir.name (o.label i) (o.processId (o.process i)) (number drawn)

def path (i : ι) (drawn : Nat) : Path := o.base i / o.name i drawn

def place (i : ι) (drawn : Nat) : List String := o.site i ++ [o.name i drawn]

/-- Every base is a directory and stands where it stood. -/
def Based (files : Node) : Prop :=
  ∀ i, ∃ left, Reaches files (o.cwd i) (o.base i) left (o.site i)

end Office

/-- A name that a call has tried. -/
structure Attempt (ι : Type) where
  caller : ι
  /-- How many numbers its process had drawn before that of the name. -/
  drawn : Nat
  path : Path
  /-- The files right before. -/
  files : Node

/-- How far a call has come. -/
structure Tenant where
  task : Task host (Except Chain WorkDir)
  /-- A number that was drawn and has not been tried: how many were drawn before it. -/
  drawn : Option Nat
  /-- The place of the directory that the call has made, until it gives it up or it is removed. -/
  held : Option (List String)

structure Scene (ι κ : Type) where
  files : Node
  /-- How many numbers a process has drawn. -/
  drawn : κ → Nat
  /-- The names that were tried, the last one first. -/
  attempts : List (Attempt ι)
  tenants : ι → Tenant

namespace Scene

variable {ι κ : Type} [DecidableEq ι] [DecidableEq κ] (s : Scene ι κ)

def settle (i : ι) (t : Tenant) : Scene ι κ :=
  { s with tenants := fun j => if j = i then t else s.tenants j }

def draw (k : κ) : Scene ι κ :=
  { s with drawn := fun other => if other = k then s.drawn k + 1 else s.drawn other }

/-- A call tries the name with the number that it has drawn. -/
def record (i : ι) (path : Path) : Scene ι κ :=
  { s with attempts := ⟨i, (s.tenants i).drawn.getD 0, path, s.files⟩ :: s.attempts }

def attemptsOf (i : ι) : List (Attempt ι) := s.attempts.filter (·.caller = i)

end Scene

/-- Something stands where a path leads, if only a link. -/
def Taken (files : Node) (cwd : List String) (path : Path) : Prop :=
  ∃ place node, locate files cwd false path = .ok ⟨place, some node⟩

/-- A directory is removed with all it holds, or anything of it is left. -/
def Removed (files : Node) (cwd : List String) (path : Path) (files' : Node) : Prop :=
  Files.removeTree ⟨files, cwd⟩ path = .ok files' ∨
    ∃ found rest, locate files cwd false path = .ok found ∧ files' = files.fill found.names rest

def Stands (files : Node) (place : List String) : Prop :=
  ∃ node, files.get? place = some node ∧ node.isDirectory = true

section
variable {ι κ : Type} [DecidableEq ι] [DecidableEq κ]

/-- What may happen next. A call to the system is one step, so that calls interleave in any order.
A directory is only made where nothing is; for whatever reason else it is not made, it is not said
to exist unless it does. Others change files as they like, but leave a directory to the call that
holds it. No base leads through what is removed or changed, so that all stay where they are. -/
inductive Step (o : Office ι κ) (s : Scene ι κ) : Scene ι κ → Prop where
  | identify {i : ι} {next : UInt32 → Task host (Except Chain WorkDir)}
    (asks : (s.tenants i).task = .call .processId next) :
    Step o s (s.settle i { s.tenants i with task := next (o.processId (o.process i)) })
  | draw {i : ι} {next : Nat → Task host (Except Chain WorkDir)}
    (asks : (s.tenants i).task = .call .nextNumber next) :
    Step o s ((s.draw (o.process i)).settle i { s.tenants i with
      task := next (number (s.drawn (o.process i)))
      drawn := some (s.drawn (o.process i)) })
  | make {i : ι} {path : Path} {next : Except IoError Unit → Task host (Except Chain WorkDir)}
    {place : List String} {files : Node}
    (asks : (s.tenants i).task = .call (.createDir path) next)
    (leads : locate s.files (o.cwd i) false path = .ok ⟨place, none⟩)
    (made : Files.createDir ⟨s.files, o.cwd i⟩ path = .ok files) :
    Step o s ({ s.record i path with files }.settle i { s.tenants i with
      task := next (.ok ())
      drawn := none
      held := some place })
  | miss {i : ι} {path : Path} {next : Except IoError Unit → Task host (Except Chain WorkDir)}
    {e : IoError} (asks : (s.tenants i).task = .call (.createDir path) next)
    (taken : e.kind = .alreadyExists → Taken s.files (o.cwd i) path) :
    Step o s ((s.record i path).settle i { s.tenants i with
      task := next (.error e)
      drawn := none })
  | restrict {i : ι} {path : Path} {mode : Nat}
    {next : Except IoError Unit → Task host (Except Chain WorkDir)} {files : Node}
    (asks : (s.tenants i).task = .call (.setMode path mode) next)
    (set : Files.setMode ⟨s.files, o.cwd i⟩ path mode = .ok files) :
    Step o s ({ s with files }.settle i { s.tenants i with task := next (.ok ()) })
  | forbid {i : ι} {path : Path} {mode : Nat}
    {next : Except IoError Unit → Task host (Except Chain WorkDir)} (e : IoError)
    (asks : (s.tenants i).task = .call (.setMode path mode) next) :
    Step o s (s.settle i { s.tenants i with task := next (.error e), held := none })
  | drop {i : ι} {d : WorkDir} {files : Node} (done : (s.tenants i).task = .done (.ok d))
    (live : (s.tenants i).held ≠ none) (removed : Removed s.files (o.cwd i) d.path files)
    (based : o.Based files) :
    Step o s ({ s with files }.settle i { s.tenants i with held := none })
  | outside {files : Node} (based : o.Based files)
    (left : ∀ i place, (s.tenants i).held = some place → Stands files place) :
    Step o s { s with files }

/-- Before any call. -/
def Scene.start (o : Office ι κ) (files : Node) : Scene ι κ where
  files
  drawn _ := 0
  attempts := []
  tenants i := ⟨WorkDir.create (o.base i) (o.label i), none, none⟩

inductive Reachable (o : Office ι κ) : Scene ι κ → Prop where
  | start {files : Node} (based : o.Based files) : Reachable o (.start o files)
  | next {s s' : Scene ι κ} (before : Reachable o s) (step : Step o s s') : Reachable o s'

end

/-! ## How far a call has come -/

/-- What is done with the answer to the call that makes a new directory its owner's. -/
def afterRestrict (path : Path) : Except IoError Unit → Task host (Except Chain WorkDir)
  | .ok () => .done (.ok ⟨path⟩)
  | .error e => .done (.error (failed s!"chmod 0700: {path.text}" e))

/-- What is done with the answer to the call that makes a new directory. -/
def afterMake (base : Path) (label : String) (pid : UInt32) (tries : Nat) (path : Path) :
    Except IoError Unit → Task host (Except Chain WorkDir)
  | .ok () => .call (.setMode path WorkDir.ownerOnly) (afterRestrict path)
  | .error e =>
    if e.kind = .alreadyExists then WorkDir.createWith base label pid tries
    else .done (.error (failed s!"create temp dir: {path.text}" e))

/-- That no name was free. -/
def exhaustion (base : Path) : Chain :=
  .one s!"failed to create unique temp dir under {base.text}"

theorem createWith_succ (base : Path) (label : String) (pid : UInt32) (tries : Nat) :
    WorkDir.createWith base label pid (tries + 1) = .call .nextNumber fun n =>
      .call (.createDir (base / WorkDir.name label pid n))
        (afterMake base label pid tries (base / WorkDir.name label pid n)) := by
  refine congrArg (Task.call (I := host) .nextNumber) (funext fun n => ?_)
  let path : Path := base / WorkDir.name label pid n
  refine congrArg (Task.call (I := host) (.createDir path)) (funext fun answer => ?_)
  cases answer with
  | error e => rfl
  | ok _ =>
    refine congrArg (Task.call (I := host) (.setMode path WorkDir.ownerOnly))
      (funext fun answer => ?_)
    cases answer <;> rfl

section
variable {ι κ : Type} (o : Office ι κ) (i : ι)

/-- A path under which the call has made a directory, and its place. -/
structure Made (mine : List (Attempt ι)) (path : Path) (place : List String) : Prop where
  named : ∃ drawn, EntryName (o.name i drawn) ∧ (o.name i drawn).utf8ByteSize ≤ nameLimit ∧
    path = o.path i drawn ∧ place = o.place i drawn
  sayable : Sayable path
  /-- Nothing was there before. -/
  fresh : ∃ a ∈ mine, a.path = path ∧ locate a.files (o.cwd i) false path = .ok ⟨place, none⟩
  /-- No base is in the directory. -/
  clear : ∀ j, ¬ place <+: o.site j

/-- What a call has still to do and what it holds, after it has tried some names. -/
inductive Phase (mine : List (Attempt ι)) :
    Task host (Except Chain WorkDir) → Option Nat → Option (List String) → Prop where
  | fresh (identifier : isIdentifier (o.label i) = true) (first : mine = []) :
    Phase mine (.call .processId fun pid =>
      WorkDir.createWith (o.base i) (o.label i) pid WorkDir.attempts) none none
  | counting {tries : Nat} (identifier : isIdentifier (o.label i) = true)
    (taken : ∀ a ∈ mine, Taken a.files (o.cwd i) a.path)
    (count : mine.length + (tries + 1) = WorkDir.attempts) :
    Phase mine (.call .nextNumber fun n =>
      .call (.createDir (o.base i / WorkDir.name (o.label i) (o.processId (o.process i)) n))
        (afterMake (o.base i) (o.label i) (o.processId (o.process i)) tries
          (o.base i / WorkDir.name (o.label i) (o.processId (o.process i)) n))) none none
  | making {tries drawn : Nat} (identifier : isIdentifier (o.label i) = true)
    (taken : ∀ a ∈ mine, Taken a.files (o.cwd i) a.path)
    (count : mine.length + (tries + 1) = WorkDir.attempts) :
    Phase mine (.call (.createDir (o.path i drawn)) (afterMake (o.base i) (o.label i)
      (o.processId (o.process i)) tries (o.path i drawn))) (some drawn) none
  | owning {path : Path} {place : List String} (made : Made o i mine path place) :
    Phase mine (.call (.setMode path WorkDir.ownerOnly) (afterRestrict path)) none (some place)
  | owner {path : Path} {place : List String} {held : Option (List String)}
    (made : Made o i mine path place) (holds : held = none ∨ held = some place) :
    Phase mine (.done (.ok ⟨path⟩)) none held
  | failed {e : Chain} (exhausted : e = exhaustion (o.base i) →
      mine.length = WorkDir.attempts ∧ ∀ a ∈ mine, Taken a.files (o.cwd i) a.path) :
    Phase mine (.done (.error e)) none none

variable {o i} {mine : List (Attempt ι)}

/-- With so many tries left, either the next one comes or none was free. -/
theorem phase_createWith {tries : Nat} (identifier : isIdentifier (o.label i) = true)
    (taken : ∀ a ∈ mine, Taken a.files (o.cwd i) a.path)
    (count : mine.length + tries = WorkDir.attempts) :
    Phase o i mine
      (WorkDir.createWith (o.base i) (o.label i) (o.processId (o.process i)) tries) none none := by
  cases tries with
  | zero => exact .failed fun _ => ⟨count, taken⟩
  | succ tries =>
    rw [createWith_succ]
    exact .counting identifier taken count

theorem phase_create : Phase o i [] (WorkDir.create (o.base i) (o.label i)) none none := by
  rw [WorkDir.create]
  split
  · rename_i identifier
    exact .fresh identifier rfl
  · refine .failed fun same => ?_
    have heads := congrArg (fun e : Chain => e.outer.toList.head?) same
    simp [exhaustion, Chain.one, toString] at heads

/-! ## What a call holds -/

variable {j : ι} {files files' : Node} {path path' : Path} {place place' : List String}

theorem Phase.holds {task : Task host (Except Chain WorkDir)} {drawn : Option Nat}
    {held : Option (List String)} (phase : Phase o i mine task drawn held)
    (holds : held = some place) : ∃ path, Made o i mine path place := by
  cases phase with
  | fresh | counting | making | failed => cases holds
  | owning made =>
    cases holds
    exact ⟨_, made⟩
  | owner made same =>
    subst holds
    obtain none | same := same
    · cases none
    · cases same
      exact ⟨_, made⟩

/-- As long as the base is where it was, the path leads to the place. -/
theorem Made.means (made : Made o i mine path place) (based : o.Based files) :
    Means files (o.cwd i) false path place := by
  obtain ⟨drawn, named, -, rfl, rfl⟩ := made.named
  obtain ⟨left, reaches⟩ := based i
  exact .entry reaches named nofun

theorem Made.leads (made : Made o i mine path place) (based : o.Based files)
    (stands : Stands files place) :
    Means files (o.cwd i) true path place ∧
      ∃ node, lookup files (o.cwd i) path = .ok (place, node) ∧ node.isDirectory = true := by
  obtain ⟨node, found, isDir⟩ := stands
  obtain ⟨drawn, named, short, rfl, rfl⟩ := made.named
  obtain ⟨left, reaches⟩ := based i
  have reaches' := reaches.join named found isDir short
  exact ⟨.directory reaches', node, reaches'.lookup_ok_iff.2 ⟨made.sayable, rfl, found⟩, isDir⟩

/-- What is done to a directory under its path is done in its place. -/
theorem Made.removed (made : Made o i mine path place) (based : o.Based files)
    (removed : Removed files (o.cwd i) path files') : ∃ rest, files' = files.fill place rest := by
  have means := made.means based
  obtain whole | ⟨found, rest, located, partly⟩ := removed
  · exact ⟨none, Files.removeTree_fills means whole⟩
  · obtain rfl := means.found_eq located
    exact ⟨rest, partly⟩

/-- No directory that is held is in another one. -/
theorem Made.apart {others : List (Attempt ι)} (made : Made o i mine path place)
    (made' : Made o j others path' place') (other : place ≠ place') : Apart place place' := by
  obtain ⟨drawn, -, -, -, same⟩ := made.named
  obtain ⟨drawn', -, -, -, same'⟩ := made'.named
  constructor
  · intro within
    rw [same'] at within other
    obtain equal | within := List.prefix_concat_iff.1 within
    · exact other equal
    · exact made.clear j within
  · intro within
    rw [same] at within other
    obtain equal | within := List.prefix_concat_iff.1 within
    · exact other equal.symm
    · exact made'.clear i within

theorem Stands.opens (h : Stands files place) (opens : Opens files files') :
    Stands files' place := by
  obtain ⟨node, found, isDir⟩ := h
  obtain ⟨node', found', rfl | ⟨-, isDir'⟩⟩ := opens place node found (.inl (eq_of_beq isDir))
  · exact ⟨node', found', isDir⟩
  · exact ⟨node', found', isDir'⟩

theorem based_of_opens (based : o.Based files) (opens : Opens files files') : o.Based files' := by
  intro i
  obtain ⟨left, reaches⟩ := based i
  exact ⟨left, reaches.opens opens⟩

end

/-! ## What every step keeps -/

section
variable {ι κ : Type} [DecidableEq ι] {o : Office ι κ} {s s' : Scene ι κ} {i j : ι}

/-- What a scene keeps: the bases stand, every call is in a phase, and every directory that a call
holds stands in a place of its own. -/
structure Valid (o : Office ι κ) (s : Scene ι κ) : Prop where
  based : o.Based s.files
  phases : ∀ i, Phase o i (s.attemptsOf i) (s.tenants i).task (s.tenants i).drawn (s.tenants i).held
  stands : ∀ i place, (s.tenants i).held = some place → Stands s.files place
  exclusive : ∀ i j place, (s.tenants i).held = some place → (s.tenants j).held = some place → i = j

@[simp] theorem settle_self (s : Scene ι κ) (i : ι) (t : Tenant) : (s.settle i t).tenants i = t :=
  if_pos rfl

@[simp] theorem settle_other (s : Scene ι κ) (t : Tenant) (h : j ≠ i) :
    (s.settle i t).tenants j = s.tenants j :=
  if_neg h

@[simp] theorem attemptsOf_settle (s : Scene ι κ) (i j : ι) (t : Tenant) :
    (s.settle i t).attemptsOf j = s.attemptsOf j := rfl

theorem attemptsOf_record_self (s : Scene ι κ) (i : ι) (path : Path) :
    (s.record i path).attemptsOf i =
      ⟨i, (s.tenants i).drawn.getD 0, path, s.files⟩ :: s.attemptsOf i := by
  simp [Scene.attemptsOf, Scene.record]

theorem attemptsOf_record_other (s : Scene ι κ) (path : Path) (h : j ≠ i) :
    (s.record i path).attemptsOf j = s.attemptsOf j := by
  simp [Scene.attemptsOf, Scene.record, h.symm]

/-- A step of one call that takes nothing away. A place that it comes to hold was free. -/
theorem Valid.advance (valid : Valid o s) (opens : Opens s.files s'.files)
    (others : ∀ j, j ≠ i → s'.tenants j = s.tenants j ∧ s'.attemptsOf j = s.attemptsOf j)
    (phase : Phase o i (s'.attemptsOf i) (s'.tenants i).task (s'.tenants i).drawn
      (s'.tenants i).held)
    (own : ∀ place, (s'.tenants i).held = some place → (s.tenants i).held = some place ∨
      s.files.get? place = none ∧ Stands s'.files place) : Valid o s' := by
  have held {j : ι} {place : List String} (holds : (s'.tenants j).held = some place) :
      (s.tenants j).held = some place ∨
        j = i ∧ s.files.get? place = none ∧ Stands s'.files place := by
    by_cases here : j = i
    · subst here
      exact (own place holds).imp_right fun new => ⟨rfl, new⟩
    · rw [(others j here).1] at holds
      exact .inl holds
  -- A place that is held stands, so none that was free is held by another one.
  have clash {j : ι} {place : List String} (holds : (s.tenants j).held = some place)
      (free : s.files.get? place = none) : False := by
    obtain ⟨node, found, -⟩ := valid.stands j place holds
    rw [free] at found
    cases found
  refine ⟨based_of_opens valid.based opens, fun j => ?_, fun j place holds => ?_,
    fun j k place holds holds' => ?_⟩
  · by_cases here : j = i
    · subst here
      exact phase
    · rw [(others j here).1, (others j here).2]
      exact valid.phases j
  · obtain old | ⟨-, -, stands⟩ := held holds
    · exact (valid.stands j place old).opens opens
    · exact stands
  · obtain old | ⟨rfl, free, -⟩ := held holds
    · obtain old' | ⟨rfl, free, -⟩ := held holds'
      · exact valid.exclusive j k place old old'
      · exact (clash old free).elim
    · obtain old' | ⟨rfl, -, -⟩ := held holds'
      · exact (clash old' free).elim
      · rfl

theorem Valid.phase {task : Task host (Except Chain WorkDir)} (valid : Valid o s)
    (asks : (s.tenants i).task = task) :
    Phase o i (s.attemptsOf i) task (s.tenants i).drawn (s.tenants i).held :=
  asks ▸ valid.phases i

omit [DecidableEq ι] in
/-- A directory is made where nothing is, and then its place is known. -/
theorem made_of_step {drawn : Nat} {place : List String} {files : Node}
    (identifier : isIdentifier (o.label i) = true) (based : o.Based s.files)
    (leads : locate s.files (o.cwd i) false (o.path i drawn) = .ok ⟨place, none⟩)
    (made : Files.createDir ⟨s.files, o.cwd i⟩ (o.path i drawn) = .ok files)
    {mine : List (Attempt ι)} {n : Nat} (tried : ⟨i, n, o.path i drawn, s.files⟩ ∈ mine) :
    Made o i mine (o.path i drawn) place ∧ s.files.get? place = none ∧
      Opens s.files files ∧ Stands files place := by
  have named : EntryName (o.name i drawn) := name_entryName identifier _ _
  obtain ⟨left, reaches⟩ := based i
  have means : Means s.files (o.cwd i) false (o.path i drawn) (o.place i drawn) :=
    .entry reaches named nofun
  obtain ⟨rfl, -⟩ := Place.mk.inj (means.found_eq leads)
  obtain ⟨free, rfl⟩ := Files.createDir_fills means made
  obtain ⟨sayable, walked⟩ := (reaches.locate_join named).1 leads
  obtain ⟨short, -⟩ := walk_free walked free
  refine ⟨{
    named := ⟨drawn, named, short, rfl, rfl⟩
    sayable
    fresh := ⟨_, tried, rfl, leads⟩
    clear := ?_ }, free, (grows_put_free means.offers free).opens, _, get?_put means.offers, rfl⟩
  rintro j ⟨rel, within⟩
  obtain ⟨left', reaches'⟩ := based j
  obtain ⟨node, found, -⟩ := reaches'.stands
  rw [← within, get?_append, free] at found
  cases found

/-- What is done in the place of one directory leaves the others where they are. -/
theorem Valid.apart {path : Path} {place place' : List String} {rest : Option Node}
    (valid : Valid o s) (made : Made o i (s.attemptsOf i) path place)
    (held : (s.tenants i).held = some place) (held' : (s.tenants j).held = some place')
    (other : j ≠ i) : Stands (s.files.fill place rest) place' := by
  obtain ⟨path', made'⟩ := (valid.phases j).holds held'
  have apart : Apart place place' := by
    refine made.apart made' ?_
    rintro rfl
    exact other (valid.exclusive j i place held' held)
  obtain ⟨node, found, isDir⟩ := valid.stands j place' held'
  exact ⟨node, (get?_fill_apart apart rest).trans found, isDir⟩

/-- A call's own directory is removed. -/
theorem Valid.drop {d : WorkDir} {files : Node} (valid : Valid o s)
    (done : (s.tenants i).task = .done (.ok d)) (live : (s.tenants i).held ≠ none)
    (removed : Removed s.files (o.cwd i) d.path files) (based : o.Based files) :
    Valid o ({ s with files }.settle i { s.tenants i with held := none }) := by
  have phase := valid.phase done
  generalize drawn : (s.tenants i).drawn = drawn?, held : (s.tenants i).held = held? at phase
  cases phase with
  | @owner path place _ made holds =>
    have held' : (s.tenants i).held = some place :=
      holds.elim (fun none => absurd (held.trans none) live) held.trans
    obtain ⟨rest, rfl⟩ := made.removed valid.based removed
    have still {j : ι} {place' : List String} (holds : (({ s with files := s.files.fill place rest }
        : Scene ι κ).settle i { s.tenants i with held := none } |>.tenants j).held = some place') :
        j ≠ i ∧ (s.tenants j).held = some place' := by
      by_cases here : j = i
      · rw [here, settle_self] at holds
        cases holds
      · rw [settle_other _ _ here] at holds
        exact ⟨here, holds⟩
    refine ⟨based, fun j => ?_, fun j place' holds => ?_, fun j k place' holds holds' => ?_⟩
    · by_cases here : j = i
      · subst here
        rw [settle_self, attemptsOf_settle]
        show Phase o j (s.attemptsOf j) (s.tenants j).task (s.tenants j).drawn none
        rw [done, drawn]
        exact .owner made (.inl rfl)
      · rw [settle_other _ _ here]
        exact valid.phases j
    · obtain ⟨other, holds⟩ := still holds
      exact valid.apart made held' holds other
    · exact valid.exclusive j k place' (still holds).2 (still holds').2

theorem failed_ne_exhaustion (context : String) (e : IoError) (base : Path) :
    failed context e ≠ exhaustion base := by
  simp [failed, exhaustion, Chain.within, Chain.one]

theorem step_valid [DecidableEq κ] (valid : Valid o s) (step : Step o s s') : Valid o s' := by
  cases step with
  | @identify i next asks =>
    have phase := valid.phase asks
    generalize drawn : (s.tenants i).drawn = none?, held : (s.tenants i).held = held? at phase
    cases phase with
    | fresh identifier first =>
      refine valid.advance (.refl _) (fun j other => ⟨settle_other s _ other, rfl⟩) ?_ ?_
      · rw [settle_self, attemptsOf_settle, first, drawn, held]
        exact phase_createWith identifier (by simp) (by simp)
      · exact fun place holds => .inl (by rwa [settle_self] at holds)
  | @draw i next asks =>
    have phase := valid.phase asks
    generalize drawn : (s.tenants i).drawn = none?, held : (s.tenants i).held = held? at phase
    cases phase with
    | counting identifier taken count =>
      refine valid.advance (.refl _) (fun j other => ⟨settle_other _ _ other, rfl⟩) ?_ ?_
      · rw [settle_self, attemptsOf_settle, held]
        exact .making identifier taken count
      · exact fun place holds => .inl (by rwa [settle_self] at holds)
  | @make i path next place files asks leads made =>
    have phase := valid.phase asks
    generalize drawn : (s.tenants i).drawn = drawn?, held : (s.tenants i).held = held? at phase
    cases phase with
    | @making tries n identifier taken count =>
      have mine := attemptsOf_record_self s i (o.path i n)
      obtain ⟨made, free, opens, stands⟩ := made_of_step identifier valid.based leads made
        (mine ▸ List.mem_cons_self ..)
      refine valid.advance opens (fun j other => ⟨settle_other _ _ other, ?_⟩) ?_ ?_
      · exact attemptsOf_record_other s _ other
      · rw [settle_self]
        exact .owning made
      · rw [settle_self]
        rintro place' same
        obtain rfl := Option.some.inj same
        exact .inr ⟨free, stands⟩
  | @miss i path next e asks taken =>
    have phase := valid.phase asks
    generalize drawn : (s.tenants i).drawn = drawn?, held : (s.tenants i).held = held? at phase
    cases phase with
    | @making tries n identifier before count =>
      have mine := attemptsOf_record_self s i (o.path i n)
      refine valid.advance (.refl _) (fun j other => ⟨settle_other _ _ other, ?_⟩) ?_ ?_
      · exact attemptsOf_record_other s _ other
      · rw [settle_self, attemptsOf_settle, mine, held, afterMake]
        split
        · rename_i exists'
          refine phase_createWith identifier ?_ (by rw [List.length_cons]; omega)
          exact List.forall_mem_cons.2 ⟨taken exists', before⟩
        · exact .failed fun same => absurd same (failed_ne_exhaustion _ _ _)
      · exact fun place holds => .inl (by rwa [settle_self] at holds)
  | @restrict i path mode next files asks set =>
    have phase := valid.phase asks
    generalize drawn : (s.tenants i).drawn = drawn?, held : (s.tenants i).held = held? at phase
    cases phase with
    | @owning path place made =>
      obtain ⟨means, -⟩ := made.leads valid.based (valid.stands i place held)
      obtain ⟨node, found, rfl⟩ := Files.setMode_fills means set
      obtain ⟨node', found', isDir⟩ := valid.stands i place held
      obtain rfl := Option.some.inj (found.symm.trans found')
      refine valid.advance (grows_withMode found isDir _).opens
        (fun j other => ⟨settle_other _ _ other, rfl⟩) ?_ ?_
      · rw [settle_self, drawn, held]
        exact .owner made (.inr rfl)
      · exact fun place holds => .inl (by rwa [settle_self] at holds)
  | @forbid i path mode next e asks =>
    have phase := valid.phase asks
    generalize drawn : (s.tenants i).drawn = drawn?, held : (s.tenants i).held = held? at phase
    cases phase with
    | owning made =>
      refine valid.advance (.refl _) (fun j other => ⟨settle_other _ _ other, rfl⟩) ?_ ?_
      · rw [settle_self, drawn]
        exact .failed fun same => absurd same (failed_ne_exhaustion _ _ _)
      · rw [settle_self]
        rintro place none
        cases none
  | @drop i d files done live removed based => exact valid.drop done live removed based
  | @outside files based left =>
    exact ⟨based, valid.phases, left, valid.exclusive⟩

theorem reachable_valid [DecidableEq κ] (reachable : Reachable o s) : Valid o s := by
  induction reachable with
  | start based =>
    refine ⟨based, fun i => phase_create, ?_, ?_⟩
    · intro i place held
      cases held
    · intro i j place held
      cases held
  | next _ step ih => exact step_valid ih step

end

end Tandem.Sandbox.Tenancy
