import Tandem.Proofs.Sandbox.Teardown
import Tandem.Sandbox.Probe

/-!
Processes that outlive their sandbox.

* `Lives`: how the processes that descend from a guest come and go between the calls of its sandbox,
  in any order.
* `stray_of_acts`, `bound_of_acts`: a process that is loyal stays in the group of its guest, and one
  that is not never becomes so again.
* `stray_of_killed`: so no loyal process is left once that group was killed.
* `survivors_strayed`: a run and a probe that gives up end with that.
-/

namespace Tandem.Sandbox

open Tandem.Host Tandem.Host.Task

/-! ## Processes and calls -/

/-- A live process that descends from a guest, or the guest. It is loyal if neither it nor one that
it descends from ever left its process group. -/
structure Kin where
  pid : UInt32
  group : UInt32
  loyal : Bool
deriving DecidableEq, Repr

/-- What the processes do by themselves, one step of one process at a time. -/
inductive Acts : List Kin → List Kin → Prop where
  | fork {ps : List Kin} {p : Kin} (member : p ∈ ps) (pid : UInt32) :
      Acts ps (⟨pid, p.group, p.loyal⟩ :: ps)
  | exit (front : List Kin) (p : Kin) (back : List Kin) : Acts (front ++ p :: back) (front ++ back)
  | move (front : List Kin) (p : Kin) (back : List Kin) (group : UInt32) :
      Acts (front ++ p :: back)
        (front ++ ⟨p.pid, group, p.loyal && group == p.group⟩ :: back)

/-- The group of a child after calls of its own. A session of its own comes with a group of its
own. -/
def childGroup (pid group : UInt32) : List (Event childInterface) → UInt32
  | [] => group
  | ⟨.newSession, .ok ()⟩ :: rest => childGroup pid pid rest
  | ⟨.newGroup, .ok ()⟩ :: rest => childGroup pid pid rest
  | _ :: rest => childGroup pid group rest

/-- A guest was started. -/
def Starts (e : Event host) : Prop := ∃ launch child, e = ⟨.spawn launch, .ok child⟩

/-- A group was sent the forceful signal. -/
def Kills (e : Event host) : Prop := ∃ group answer, e = ⟨.signalGroup group .kill, answer⟩

/-- What a call of the sandbox does to the processes. A child that was started has made all calls of
its own before. The forceful signal ends all members of a group, whatever is answered. A call that
looks at the processes changes none. -/
inductive Meets : List Kin → Event host → List Kin → Prop where
  | start {ps : List Kin} {launch : Launch} {child : Child} {own : List (Event childInterface)}
      (parent : UInt32) (process : 1 < child.pid.toInt32)
      (became : Task.Path (childTask launch.limits) own (.ok ())) :
      Meets ps ⟨.spawn launch, .ok child⟩
        (⟨child.pid, childGroup child.pid parent own, true⟩ :: ps)
  | kill {ps : List Kin} {group : UInt32} {answer : Except IoError Unit} :
      Meets ps ⟨.signalGroup group .kill, answer⟩ (ps.filter (·.group != group))
  | killChild {ps : List Kin} {pid : UInt32} {answer : Except IoError Unit} :
      Meets ps ⟨.killChild pid, answer⟩ (ps.filter (·.pid != pid))
  | look {ps : List Kin} {e : Event host} (starts : ¬ Starts e) (kills : ¬ Kills e) : Meets ps e ps

/-- The processes before some calls of the sandbox and after them. Between any two calls, and after
the last one, the processes take any steps. -/
inductive Lives : List Kin → List (Event host) → List Kin → Prop where
  | done (ps : List Kin) : Lives ps [] ps
  | act {ps ps' ps'' : List Kin} {events : List (Event host)} (step : Acts ps ps')
      (rest : Lives ps' events ps'') : Lives ps events ps''
  | call {ps ps' ps'' : List Kin} {e : Event host} {events : List (Event host)}
      (meets : Meets ps e ps') (rest : Lives ps' events ps'') : Lives ps (e :: events) ps''

/-- No process is loyal. -/
def Stray (ps : List Kin) : Prop := ∀ p ∈ ps, p.loyal = false

/-- Every loyal process is in this group. -/
def Bound (group : UInt32) (ps : List Kin) : Prop := ∀ p ∈ ps, p.loyal = true → p.group = group

/-! ## What the steps of the processes keep -/

/-- What holds of all processes, and of every new one and every one that moves if it held of the old
one, keeps holding of all. -/
theorem all_of_acts {q : Kin → Prop} {ps ps' : List Kin} (step : Acts ps ps')
    (fork : ∀ p pid, q p → q ⟨pid, p.group, p.loyal⟩)
    (move : ∀ p group, q p → q ⟨p.pid, group, p.loyal && group == p.group⟩)
    (all : ∀ p ∈ ps, q p) : ∀ p ∈ ps', q p := by
  cases step with
  | @fork _ parent member pid =>
    exact List.forall_mem_cons.2 ⟨fork parent pid (all parent member), all⟩
  | exit front p back =>
    simp only [List.mem_append, List.mem_cons] at all ⊢
    intro other member
    obtain before | after := member
    · exact all other (.inl before)
    · exact all other (.inr (.inr after))
  | move front p back group =>
    simp only [List.mem_append, List.mem_cons] at all ⊢
    intro other member
    obtain before | rfl | after := member
    · exact all other (.inl before)
    · exact move p group (all p (.inr (.inl rfl)))
    · exact all other (.inr (.inr after))

section
variable {ps ps' : List Kin} {group : UInt32} {events : List (Event host)} {e : Event host}

theorem stray_of_acts (step : Acts ps ps') (stray : Stray ps) : Stray ps' := by
  refine all_of_acts step (fun p pid left => left) (fun p group left => ?_) stray
  simp only [left, Bool.false_and]

theorem bound_of_acts (step : Acts ps ps') (bound : Bound group ps) : Bound group ps' := by
  refine all_of_acts step (fun p pid inside => inside) (fun p other inside loyal => ?_) bound
  obtain ⟨stayed, same⟩ := Bool.and_eq_true_iff.1 loyal
  exact (beq_iff_eq.1 same).trans (inside stayed)

/-! ## What the calls of the sandbox keep -/

/-- A call that starts nothing adds no process. -/
theorem subset_of_meets (meets : Meets ps e ps') (starts : ¬ Starts e) : ∀ p ∈ ps', p ∈ ps := by
  cases meets with
  | start parent process became => exact absurd ⟨_, _, rfl⟩ starts
  | kill => exact fun p member => (List.mem_filter.1 member).1
  | killChild => exact fun p member => (List.mem_filter.1 member).1
  | look => exact fun p member => member

theorem stray_of_lives (lives : Lives ps events ps') (quiet : ∀ e ∈ events, ¬ Starts e)
    (stray : Stray ps) : Stray ps' := by
  induction lives with
  | done => exact stray
  | act step rest ih => exact ih quiet (stray_of_acts step stray)
  | call meets rest ih =>
    obtain ⟨first, later⟩ := List.forall_mem_cons.1 quiet
    exact ih later fun p member => stray p (subset_of_meets meets first p member)

theorem stray_of_kill {answer : Except IoError Unit}
    (meets : Meets ps ⟨.signalGroup group .kill, answer⟩ ps') (bound : Bound group ps) :
    Stray ps' := by
  cases meets with
  | kill =>
    intro p member
    obtain ⟨inside, left⟩ := List.mem_filter.1 member
    cases loyal : p.loyal with
    | false => rfl
    | true => simp [bound p inside loyal] at left
  | look starts kills => exact absurd ⟨_, _, rfl⟩ kills

/-- Once the group of all loyal processes has been killed there are none. -/
theorem stray_of_killed (lives : Lives ps events ps') (quiet : ∀ e ∈ events, ¬ Starts e)
    (killed : Killed group events) (bound : Bound group ps) : Stray ps' := by
  induction lives with
  | done =>
    obtain ⟨answer, member⟩ := killed
    exact absurd member List.not_mem_nil
  | act step rest ih => exact ih quiet killed (bound_of_acts step bound)
  | @call ps ps' ps'' e events meets rest ih =>
    obtain ⟨first, later⟩ := List.forall_mem_cons.1 quiet
    obtain ⟨answer, member⟩ := killed
    obtain rfl | after := List.mem_cons.1 member
    · exact stray_of_lives rest later (stray_of_kill meets bound)
    · refine ih later ⟨answer, after⟩ fun p member => ?_
      exact bound p (subset_of_meets meets first p member)

/-! ## A child and its group -/

theorem childGroup_cases (pid group : UInt32) (own : List (Event childInterface)) :
    childGroup pid group own = group ∨ childGroup pid group own = pid := by
  fun_induction childGroup pid group own with
  | case1 => exact .inl rfl
  | case2 group rest ih => exact .inr (ih.elim id id)
  | case3 group rest ih => exact .inr (ih.elim id id)
  | case4 group other rest _ _ ih => exact ih

theorem childGroup_own (pid : UInt32) (own : List (Event childInterface)) :
    childGroup pid pid own = pid :=
  (childGroup_cases pid pid own).elim id id

/-- A child that became a guest leads a group, by a session of its own or without one. -/
theorem childGroup_of_became {limits : Option ChildLimits} {own : List (Event childInterface)}
    (pid parent : UInt32) (became : Task.Path (childTask limits) own (.ok ())) :
    childGroup pid parent own = pid := by
  obtain ⟨front, rest, detached, rfl, detach, tail⟩ := path_bind_iff.1 became
  obtain ⟨session, back, rfl, after⟩ := path_ask_bind_iff.1 detach
  cases session with
  | ok _ => exact childGroup_own pid _
  | error e =>
    obtain rfl := path_ask_iff.1 after
    cases detached with
    | ok _ => exact childGroup_own pid _
    | error e' => cases (path_done_iff.1 tail).2

/-! ## Whole tasks -/

/-- A guest whose group is killed leaves no loyal process behind. -/
theorem stray_of_guest {launch : Launch} {child : Child} {front back : List (Event host)}
    (lives : Lives ps (front ++ ⟨.spawn launch, .ok child⟩ :: back) ps') (stray : Stray ps)
    (before : ∀ e ∈ front, ¬ Starts e) (after : ∀ e ∈ back, ¬ Starts e)
    (killed : 1 < child.pid.toInt32 → Killed child.pid back) : Stray ps' := by
  generalize whole : front ++ ⟨.spawn launch, .ok child⟩ :: back = events at lives
  induction lives generalizing front with
  | done => simp at whole
  | act step rest ih => exact ih (stray_of_acts step stray) before whole
  | @call ps ps' ps'' e events meets rest ih =>
    cases front with
    | cons first front =>
      obtain ⟨rfl, later⟩ := List.cons.inj whole
      obtain ⟨quiet, before⟩ := List.forall_mem_cons.1 before
      refine ih (fun p member => ?_) before later
      exact stray p (subset_of_meets meets quiet p member)
    | nil =>
      obtain ⟨rfl, rfl⟩ := List.cons.inj whole
      cases meets with
      | look starts kills => exact absurd ⟨_, _, rfl⟩ starts
      | start parent process became =>
        refine stray_of_killed rest after (killed process) ?_
        refine List.forall_mem_cons.2 ⟨fun _ => childGroup_of_became _ _ became, ?_⟩
        intro p member loyal
        exact absurd (stray p member) (by simp [loyal])

theorem not_starts_of_tends {pid : UInt32} (h : Tends pid e.1) : ¬ Starts e := by
  rintro ⟨launch, child, rfl⟩
  exact h

/-- A run removes its directory after it has attended to its guest. -/
theorem run_cases {r : Request} {result : Except SandboxError Record}
    (path : Task.Path r.run events result) :
    ∃ before removed, events = before ++ [⟨.removeTree r.directory.path, removed⟩] ∧
      Task.Path r.attempt before result := by
  obtain ⟨before, rest, result', rfl, attempt, tail⟩ := path_bind_iff.1 path
  obtain ⟨removing, rest, _, rfl, remove, last⟩ := path_bind_iff.1 tail
  obtain ⟨removed, rest, rfl, nothing⟩ := path_ask_bind_iff.1 remove
  obtain ⟨rfl, -⟩ := path_done_iff.1 nothing
  obtain ⟨rfl, rfl⟩ := path_done_iff.1 last
  exact ⟨before, removed, rfl, attempt⟩

/-- What starts a guest and kills its group in the end. -/
inductive Guarded : List (Event host) → Prop where
  | nothing {events : List (Event host)} (quiet : ∀ e ∈ events, ¬ Starts e) : Guarded events
  | guest {launch : Launch} {child : Child} (front : List (Event host)) {back : List (Event host)}
      (before : ∀ e ∈ front, ¬ Starts e) (after : ∀ e ∈ back, ¬ Starts e)
      (killed : 1 < child.pid.toInt32 → Killed child.pid back) :
      Guarded (front ++ ⟨.spawn launch, .ok child⟩ :: back)

theorem stray_of_guarded (guarded : Guarded events) (lives : Lives [] events ps) : Stray ps := by
  have none : Stray [] := by simp [Stray]
  cases guarded with
  | nothing quiet => exact stray_of_lives lives quiet none
  | guest front before after killed => exact stray_of_guest lives none before after killed

theorem run_guarded {r : Request} {result : Except SandboxError Record}
    (path : Task.Path r.run events result) : Guarded events := by
  obtain ⟨before, removed, rfl, attempt⟩ := run_cases path
  have last : ¬ Starts ⟨.removeTree r.directory.path, removed⟩ := by simp [Starts]
  obtain ⟨-, rfl, -⟩ | ⟨-, env, start, ⟨e, rfl, -⟩ | ⟨child, rest, rfl, attend⟩⟩ :=
    attempt_cases attempt
  · exact .nothing (by simpa using last)
  · refine .nothing ?_
    simp [Starts]
  · have tends := attend_tends r child start rest result attend
    have ended := attend_ends attend
    refine Guarded.guest [_, _] (by simp [Starts]) ?_ fun process => ?_
    · intro e member
      obtain inside | rfl := List.mem_append.1 member |>.imp_right List.mem_singleton.1
      · exact not_starts_of_tends (tends e inside)
      · exact last
    · have killed := ended.killed _ (leaderGroup?_of_one_lt process)
      exact killed.mono fun e inside => List.mem_append_left _ inside

/-! ## The probe of an interpreter -/

theorem probe_await_tends {g : Guest} (hg : g.group = leaderGroup? g.pid)
    (deadline : Option Duration) (polls : Nat) :
    Calls (Tends g.pid) (Probe.await g deadline polls) := by
  unfold Probe.await
  refine calls_bind (calls_ask rfl) fun answer => ?_
  match answer, polls with
  | .error e, _ => exact calls_bind (abort_tends hg) fun _ => calls_done _
  | .ok (some ending), _ => exact calls_done _
  | .ok none, 0 => exact calls_bind (abort_tends hg) fun _ => calls_done _
  | .ok none, polls + 1 =>
    refine calls_bind (calls_ask trivial) fun now => ?_
    split
    · exact calls_bind (abort_tends hg) fun _ => calls_done _
    · exact calls_bind (calls_ask trivial) fun _ => probe_await_tends hg deadline polls

/-- A probe that does not find its interpreter ended has aborted it. -/
theorem probe_await_ends {g : Guest} {deadline : Option Duration} {polls : Nat}
    {events : List (Event host)} {found : Bool}
    (path : Task.Path (Probe.await g deadline polls) events found)
    (running : ∀ ending, ⟨.poll g.pid, .ok (some ending)⟩ ∉ events) : Ended g events := by
  unfold Probe.await at path
  obtain ⟨answer, rest, rfl, tail⟩ := path_ask_bind_iff.1 path
  have aborts (front : List (Event host)) {back : List (Event host)}
      (h : Task.Path (do g.abort; return false) back found) : Ended g (front ++ back) := by
    obtain ⟨aborted, rest, _, rfl, abort, -⟩ := path_bind_iff.1 h
    exact (abort_ends abort).mono (by simp_all)
  match answer, polls, tail with
  | .error e, _, tail => exact aborts [_] tail
  | .ok (some ending), _, tail => exact absurd (List.mem_cons_self ..) (running ending)
  | .ok none, 0, tail => exact aborts [_] tail
  | .ok none, polls + 1, tail =>
    obtain ⟨now, rest, rfl, tail'⟩ := path_ask_bind_iff.1 tail
    split at tail'
    · exact aborts [_, _] tail'
    · obtain ⟨slept, rest, rfl, again⟩ := path_ask_bind_iff.1 tail'
      have ended := probe_await_ends again fun ending member => running ending (by simp [member])
      exact ended.mono fun e member => by simp [member]

theorem probe_guarded {interpreter : Path} {patience : Duration} {found : Bool}
    (path : Task.Path (Probe.within interpreter patience) events found)
    (running : ∀ pid ending, ⟨.poll pid, .ok (some ending)⟩ ∉ events) : Guarded events := by
  obtain ⟨env, rest, rfl, tail⟩ := path_ask_bind_iff.1 path
  obtain ⟨answer, rest, rfl, tail'⟩ := path_ask_bind_iff.1 tail
  cases answer with
  | error e =>
    obtain ⟨rfl, -⟩ := path_done_iff.1 tail'
    exact .nothing (by simp [Starts])
  | ok child =>
    obtain ⟨now, rest, rfl, wait⟩ := path_ask_bind_iff.1 tail'
    have tends := probe_await_tends (g := .ofChild child) rfl _ _ rest found wait
    have ended : Ended (.ofChild child) rest :=
      probe_await_ends wait fun ending member => running child.pid ending
        (List.mem_cons_of_mem _ (List.mem_cons_of_mem _ (List.mem_cons_of_mem _ member)))
    refine Guarded.guest [_] (by simp [Starts]) ?_ fun process => ?_
    · refine List.forall_mem_cons.2 ⟨by simp [Starts], ?_⟩
      exact fun e inside => not_starts_of_tends (tends e inside)
    · have killed := ended.killed _ (leaderGroup?_of_one_lt process)
      exact killed.mono fun e inside => List.mem_cons_of_mem _ inside

end

/-- All processes that are left once a run is over have left the group of its guest, or descend from
one that did, whatever the guest and its descendants do and in whatever order. So do those that are
left by a probe that did not find its interpreter ended. -/
theorem survivors_strayed :
    (∀ (r : Request) (events : List (Event host)) (result : Except SandboxError Record)
      (ps : List Kin), Task.Path r.run events result → Lives [] events ps →
        ∀ p ∈ ps, p.loyal = false) ∧
    ∀ (interpreter : Path) (patience : Duration) (events : List (Event host)) (found : Bool)
      (ps : List Kin), Task.Path (Probe.within interpreter patience) events found →
        (∀ pid ending, ⟨.poll pid, .ok (some ending)⟩ ∉ events) → Lives [] events ps →
          ∀ p ∈ ps, p.loyal = false := by
  refine ⟨?_, ?_⟩
  · intro r events result ps path lives
    exact stray_of_guarded (run_guarded path) lives
  · intro interpreter patience events found ps path running lives
    exact stray_of_guarded (probe_guarded path running) lives

/-- A probe whose interpreter cannot be waited for. -/
def lostProbeEvents : List (Event host) :=
  [⟨.environment, []⟩, ⟨.spawn (Probe.launch ⟨"/bin/sh"⟩ (.sanitized [] none)), .ok ⟨42, false⟩⟩,
    ⟨.now, 7⟩, ⟨.poll 42, .error .notPermitted⟩, ⟨.signalGroup 42 .kill, .ok ()⟩,
    ⟨.killChild 42, .ok ()⟩, ⟨.wait 42, .error .notPermitted⟩]

theorem survivors_strayed_late :
    (∀ ps, Lives [] lateEvents ps → ∀ p ∈ ps, p.loyal = false) ∧
      ∀ ps, Lives [] lostProbeEvents ps → ∀ p ∈ ps, p.loyal = false := by
  have ran : ∃ result, Task.Path lateRequest.run lateEvents result :=
    exists_path_of_replay (by decide +kernel)
  have probed : Task.Path (Probe.within ⟨"/bin/sh"⟩ Probe.patience) lostProbeEvents false :=
    path_of_replay (by decide +kernel)
  obtain ⟨result, path⟩ := ran
  refine ⟨fun ps => survivors_strayed.1 _ _ _ ps path, fun ps => ?_⟩
  exact survivors_strayed.2 _ _ _ _ ps probed (by simp [lostProbeEvents])

/-- A guest that ends well before it is polled. -/
def briefEvents : List (Event host) :=
  [⟨.environment, []⟩, ⟨.now, 7⟩, ⟨.spawn (lateRequest.started []), .ok ⟨42, true⟩⟩,
    ⟨.poll 42, .ok (some (.code 0))⟩, ⟨.now, 8⟩, ⟨.signalGroup 42 .kill, .ok ()⟩,
    ⟨.drain 42 .out (max lateRequest.limits.killGrace leastDrain), []⟩,
    ⟨.drain 42 .err (max lateRequest.limits.killGrace leastDrain), []⟩,
    ⟨.removeTree ⟨"/tmp/tandem_1_0"⟩, .ok ()⟩]

/-- All calls that a guest makes before it is one, none of them refused. -/
def granted (limits : ChildLimits) : List (Event childInterface) :=
  (ChildCall.newSession :: (limits.calls ++ [.become])).map fun call => ⟨call, .ok ()⟩

/-- A descendant with a session of its own lives on after a run. -/
theorem leaver_survives : (∃ result, Task.Path lateRequest.run briefEvents result) ∧
    Lives [] briefEvents [⟨43, 43, false⟩] := by
  refine ⟨exists_path_of_replay (by decide +kernel), ?_⟩
  have became : Task.Path (childTask (lateRequest.started []).limits)
      (granted lateRequest.limits.child) (.ok ()) := path_of_replay rfl
  have look {ps ps' : List Kin} {e : Event host} {events : List (Event host)}
      (starts : ¬ Starts e) (kills : ¬ Kills e) (rest : Lives ps events ps') :
      Lives ps (e :: events) ps' := .call (.look starts kills) rest
  have swept : Lives [⟨43, 43, false⟩]
      [⟨.signalGroup 42 .kill, .ok ()⟩,
        ⟨.drain 42 .out (max lateRequest.limits.killGrace leastDrain), []⟩,
        ⟨.drain 42 .err (max lateRequest.limits.killGrace leastDrain), []⟩,
        ⟨.removeTree ⟨"/tmp/tandem_1_0"⟩, .ok ()⟩] [⟨43, 43, false⟩] := by
    refine .call .kill ?_
    refine look (by simp [Starts]) (by simp [Kills]) ?_
    refine look (by simp [Starts]) (by simp [Kills]) ?_
    refine look (by simp [Starts]) (by simp [Kills]) ?_
    exact .done _
  refine look (by simp [Starts]) (by simp [Kills]) ?_
  refine look (by simp [Starts]) (by simp [Kills]) ?_
  refine .call (.start 1 (by decide) became) ?_
  rw [childGroup_of_became _ _ became]
  refine .act (.fork (List.mem_singleton_self _) 43) ?_
  refine .act (.move [] ⟨43, 42, true⟩ [⟨42, 42, true⟩] 43) ?_
  refine .act (.exit [⟨43, 43, false⟩] ⟨42, 42, true⟩ []) ?_
  refine look (by simp [Starts]) (by simp [Kills]) ?_
  refine look (by simp [Starts]) (by simp [Kills]) ?_
  exact swept

end Tandem.Sandbox
