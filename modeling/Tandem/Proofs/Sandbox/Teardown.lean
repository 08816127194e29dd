import Tandem.Proofs.Host.Trace
import Tandem.Sandbox.Run

/-!
How a run ends.

* `follow_ends`: however a guest is followed, its group has been killed and it has been waited for.
* `run_tears_down`: the working directory is removed after that and last, and nothing else is changed.
-/

namespace Tandem.Sandbox

open Tandem.Host Tandem.Host.Task

/-! ## What signalling a guest and its group calls -/

section
variable {p : Call → Prop}

theorem signal_calls {group : UInt32} {s : Signal} (h : p (.signalGroup group s)) :
    Calls p (signal group s) := by
  refine calls_bind (calls_ask h) fun answer => ?_
  cases answer with
  | ok _ => exact calls_done _
  | error e =>
    dsimp only
    split <;> exact calls_done _

theorem sweep_calls {g : Guest} (h : ∀ group, g.group = some group → p (.signalGroup group .kill)) :
    Calls p g.sweep := by
  rw [Guest.sweep]
  cases known : g.group with
  | none => exact calls_done _
  | some group => exact calls_bind (signal_calls (h group known)) fun _ => calls_done _

theorem abort_calls {g : Guest} (h : ∀ group, g.group = some group → p (.signalGroup group .kill))
    (kill : p (.killChild g.pid)) (wait : p (.wait g.pid)) : Calls p g.abort :=
  calls_bind (sweep_calls h) fun _ => calls_bind (calls_ask kill) fun _ =>
    calls_bind (calls_ask wait) fun _ => calls_done _

end

/-! ## Calls -/

/-- The calls that change what stands in the file system. -/
def ChangesFiles : Call → Prop
  | .createDir _ => True
  | .setMode .. => True
  | .copyFile .. => True
  | .removeTree _ => True
  | _ => False

/-- The calls that signal a process. -/
def Signals : Call → Prop
  | .killChild _ => True
  | .signalGroup .. => True
  | _ => False

/-- The calls before a guest is started. -/
def Prepares : Call → Prop
  | .environment => True
  | .now => True
  | _ => False

/-- The calls that look after one child and the group that it leads. -/
def Tends (pid : UInt32) : Call → Prop
  | .now => True
  | .sleep _ => True
  | .feed child _ => child = pid
  | .poll child => child = pid
  | .wait child => child = pid
  | .killChild child => child = pid
  | .drain child _ _ => child = pid
  | .signalGroup group _ => leaderGroup? pid = some group
  | _ => False

theorem not_changesFiles_of_tends {pid : UInt32} {c : Call} (h : Tends pid c) :
    ¬ ChangesFiles c := by
  cases c <;> simp_all [Tends, ChangesFiles]

/-- A child was found to have ended, or was waited for. -/
def Reaped (pid : UInt32) (events : List (Event host)) : Prop :=
  (∃ ending, ⟨.poll pid, .ok (some ending)⟩ ∈ events) ∨ ∃ answer, ⟨.wait pid, answer⟩ ∈ events

/-- A group was killed, or the attempt failed. -/
def Killed (group : UInt32) (events : List (Event host)) : Prop :=
  ∃ answer, ⟨.signalGroup group .kill, answer⟩ ∈ events

/-- A guest was waited for, and its group killed if it leads one. -/
structure Ended (g : Guest) (events : List (Event host)) : Prop where
  reaped : Reaped g.pid events
  killed : ∀ group, g.group = some group → Killed group events

theorem Reaped.mono {pid : UInt32} {events more : List (Event host)} (h : Reaped pid events)
    (sub : ∀ e ∈ events, e ∈ more) : Reaped pid more := by
  rcases h with ⟨ending, h⟩ | ⟨answer, h⟩
  · exact .inl ⟨ending, sub _ h⟩
  · exact .inr ⟨answer, sub _ h⟩

theorem Killed.mono {group : UInt32} {events more : List (Event host)} (h : Killed group events)
    (sub : ∀ e ∈ events, e ∈ more) : Killed group more := by
  obtain ⟨answer, h⟩ := h
  exact ⟨answer, sub _ h⟩

theorem Ended.mono {g : Guest} {events more : List (Event host)} (h : Ended g events)
    (sub : ∀ e ∈ events, e ∈ more) : Ended g more :=
  ⟨h.reaped.mono sub, fun group hg => (h.killed group hg).mono sub⟩

/-- Gives a guest its input, if it has any. -/
def Request.feed (r : Request) (g : Guest) : Task host Unit :=
  match r.input with
  | some input => ask (.feed g.pid input)
  | none => return ()

/-- The record of a guest that has ended. -/
def Request.collect (r : Request) (g : Guest) (start : Duration) (finish : Finish) :
    Task host (Except SandboxError Record) := do
  let stop ← ask .now
  g.sweep
  let out ← captured g.pid .out r.limits
  let err ← captured g.pid .err r.limits
  return .ok {
    exitCode := finish.code?
    exitSignal := finish.signal?
    stdout := decodeOutput out.bytes out.truncated
    stderr := decodeOutput err.bytes err.truncated
    truncated := out.truncated || err.truncated
    timedOut := finish.timedOut
    elapsedMs := elapsedMs (stop - start)
    memoryLimited := true
    fault := none }

theorem follow_eq (r : Request) (g : Guest) (start : Duration) :
    r.follow g start = (do
      r.feed g
      match ← await g r.limits.killGrace (deadline? start r.limits.timeout)
        (pollsWithin r.limits.timeout) with
      | .error e => return .error e
      | .ok finish => r.collect g start finish) := by
  rw [Request.follow, Request.feed]
  cases r.input with
  | none =>
    dsimp only
    rw [pure_eq, done_bind]
    refine bind_congr fun finish => ?_
    cases finish <;> rfl
  | some input =>
    refine bind_congr fun _ => bind_congr fun finish => ?_
    cases finish <;> rfl

section
variable {g : Guest} {grace : Duration} {events : List (Event host)}

theorem sweep_kills {u : Unit} (path : Task.Path g.sweep events u) :
    ∀ group, g.group = some group → Killed group events := by
  intro group hg
  rw [Guest.sweep, hg] at path
  obtain ⟨front, back, a, rfl, first, -⟩ := path_bind_iff.1 path
  obtain ⟨answer, rest, rfl, -⟩ := path_ask_bind_iff.1 first
  exact ⟨answer, by simp⟩

theorem abort_ends {u : Unit} (path : Task.Path g.abort events u) : Ended g events := by
  obtain ⟨swept, rest, a, rfl, sweep, tail⟩ := path_bind_iff.1 path
  obtain ⟨_, rest, rfl, tail'⟩ := path_ask_bind_iff.1 tail
  obtain ⟨answer, rest, rfl, -⟩ := path_ask_bind_iff.1 tail'
  refine ⟨.inr ⟨answer, by simp⟩, fun group hg => ?_⟩
  exact (sweep_kills sweep group hg).mono fun e he => List.mem_append_left _ he

/-- A guest that ran out of time has been waited for. If ending it failed, its group was killed. -/
theorem timeOut_reaps {result : Except SandboxError Finish}
    (path : Task.Path (timeOut g grace) events result) :
    Reaped g.pid events ∧ ∀ e, result = .error e → Ended g events := by
  obtain ⟨expired, rest, a, rfl, -, tail⟩ := path_bind_iff.1 path
  cases a with
  | error e =>
    obtain ⟨aborted, back, _, rfl, abort, -⟩ := path_bind_iff.1 tail
    have ended : Ended g (expired ++ (aborted ++ back)) := (abort_ends abort).mono (by simp_all)
    exact ⟨ended.reaped, fun _ _ => ended⟩
  | ok _ =>
    obtain ⟨answer, rest, rfl, tail'⟩ := path_ask_bind_iff.1 tail
    refine ⟨.inr ⟨answer, by simp⟩, fun e failed => ?_⟩
    cases answer with
    | ok ending =>
      obtain ⟨-, rfl⟩ := path_done_iff.1 tail'
      cases failed
    | error e =>
      obtain ⟨aborted, back, _, rfl, abort, -⟩ := path_bind_iff.1 tail'
      exact (abort_ends abort).mono (by simp_all)

/-- How the wait for a guest comes to its end: the guest is found to have ended, or cannot be polled,
or is out of time. -/
theorem await_cases {deadline : Option Duration} {polls : Nat} {events : List (Event host)}
    {result : Except SandboxError Finish}
    (path : Task.Path (await g grace deadline polls) events result) :
    ∃ front back, events = front ++ back ∧
      ((∃ ending, back = [⟨.poll g.pid, .ok (some ending)⟩] ∧ result = .ok ⟨ending, false⟩) ∨
        (∃ e aborted, back = ⟨.poll g.pid, .error e⟩ :: aborted ∧
          Task.Path g.abort aborted () ∧ result = .error (.io "wait for guest" e)) ∨
        Task.Path (timeOut g grace) back result) := by
  unfold await at path
  obtain ⟨answer, rest, rfl, tail⟩ := path_ask_bind_iff.1 path
  match answer, polls, tail with
  | .error e, _, tail =>
    obtain ⟨aborted, rest, _, rfl, abort, last⟩ := path_bind_iff.1 tail
    obtain ⟨rfl, rfl⟩ := path_done_iff.1 last
    exact ⟨[], _, rfl, .inr (.inl ⟨e, aborted, by simp, abort, rfl⟩)⟩
  | .ok (some ending), _, tail =>
    obtain ⟨rfl, rfl⟩ := path_done_iff.1 tail
    exact ⟨[], _, rfl, .inl ⟨ending, rfl, rfl⟩⟩
  | .ok none, 0, tail => exact ⟨[_], rest, rfl, .inr (.inr tail)⟩
  | .ok none, polls + 1, tail =>
    obtain ⟨now, rest, rfl, tail'⟩ := path_ask_bind_iff.1 tail
    split at tail'
    · exact ⟨[_, _], rest, rfl, .inr (.inr tail')⟩
    · obtain ⟨slept, rest, rfl, again⟩ := path_ask_bind_iff.1 tail'
      obtain ⟨front, back, rfl, ends⟩ := await_cases again
      exact ⟨_ :: _ :: _ :: front, back, rfl, ends⟩

/-- A guest that was awaited has been waited for. If awaiting it failed, its group was killed. -/
theorem await_reaps {deadline : Option Duration} {polls : Nat} {result : Except SandboxError Finish}
    (path : Task.Path (await g grace deadline polls) events result) :
    Reaped g.pid events ∧ ∀ e, result = .error e → Ended g events := by
  obtain ⟨front, back, rfl, ⟨ending, rfl, rfl⟩ | ⟨e, aborted, rfl, abort, rfl⟩ | late⟩ :=
    await_cases path
  · exact ⟨.inl ⟨ending, by simp⟩, by simp⟩
  · have ended : Ended g (front ++ ⟨.poll g.pid, .error e⟩ :: aborted) :=
      (abort_ends abort).mono (by simp_all)
    exact ⟨ended.reaped, fun _ _ => ended⟩
  · have reaps := timeOut_reaps late
    have sub : ∀ e ∈ back, e ∈ front ++ back := fun e he => List.mem_append_right _ he
    exact ⟨reaps.1.mono sub, fun e failed => (reaps.2 e failed).mono sub⟩

/-- However a guest is followed, it has been waited for and its group was killed. -/
theorem follow_ends {r : Request} {start : Duration} {result : Except SandboxError Record}
    (path : Task.Path (r.follow g start) events result) : Ended g events := by
  rw [follow_eq] at path
  obtain ⟨fed, rest, _, rfl, -, tail⟩ := path_bind_iff.1 path
  obtain ⟨awaited, rest, finish, rfl, wait, tail'⟩ := path_bind_iff.1 tail
  have reaps := await_reaps wait
  have sub : ∀ e ∈ awaited, e ∈ fed ++ (awaited ++ rest) := by simp_all
  cases finish with
  | error e => exact (reaps.2 e rfl).mono sub
  | ok finish =>
    obtain ⟨stop, rest, rfl, last⟩ := path_ask_bind_iff.1 tail'
    obtain ⟨swept, rest, _, rfl, sweep, -⟩ := path_bind_iff.1 last
    exact ⟨reaps.1.mono sub, fun group hg => (sweep_kills sweep group hg).mono (by simp_all)⟩

/-! ## What a run calls -/

section
variable {pid : UInt32}

theorem handle_tends {group : UInt32} (h : leaderGroup? pid = some group) (c : GroupCall) :
    Calls (Tends pid) (Guest.handle pid group c) := by
  cases c with
  | terminate => exact signal_calls h
  | kill => exact signal_calls h
  | hasExited => exact calls_bind (calls_ask rfl) fun _ => calls_done _
  | isAlive =>
    refine calls_bind (calls_ask h) fun answer => ?_
    cases answer <;> exact calls_done _
  | now => exact calls_ask trivial
  | sleep wait => exact calls_ask trivial

variable (hg : g.group = leaderGroup? g.pid)
include hg

theorem sweep_tends : Calls (Tends g.pid) g.sweep :=
  sweep_calls fun _ known => hg.symm.trans known

theorem abort_tends : Calls (Tends g.pid) g.abort :=
  abort_calls (fun _ known => hg.symm.trans known) rfl rfl

theorem expire_tends : Calls (Tends g.pid) (g.expire grace) := by
  rw [Guest.expire]
  cases h : g.group with
  | none => exact calls_bind (calls_ask rfl) fun _ => calls_done _
  | some group => exact calls_via (handle_tends (hg.symm.trans h)) _

theorem timeOut_tends : Calls (Tends g.pid) (timeOut g grace) := by
  refine calls_bind (expire_tends hg) fun expired => ?_
  cases expired with
  | error e => exact calls_bind (abort_tends hg) fun _ => calls_done _
  | ok _ =>
    refine calls_bind (calls_ask rfl) fun answer => ?_
    cases answer with
    | ok ending => exact calls_done _
    | error e => exact calls_bind (abort_tends hg) fun _ => calls_done _

theorem await_tends (deadline : Option Duration) (polls : Nat) :
    Calls (Tends g.pid) (await g grace deadline polls) := by
  unfold await
  refine calls_bind (calls_ask rfl) fun answer => ?_
  match answer, polls with
  | .error e, _ => exact calls_bind (abort_tends hg) fun _ => calls_done _
  | .ok (some ending), _ => exact calls_done _
  | .ok none, 0 => exact timeOut_tends hg
  | .ok none, polls + 1 =>
    refine calls_bind (calls_ask trivial) fun now => ?_
    split
    · exact timeOut_tends hg
    · exact calls_bind (calls_ask trivial) fun _ => await_tends deadline polls

theorem follow_tends (r : Request) (start : Duration) :
    Calls (Tends g.pid) (r.follow g start) := by
  rw [follow_eq]
  refine calls_bind ?_ fun _ => calls_bind (await_tends hg _ _) fun finish => ?_
  · rw [Request.feed]
    cases r.input with
    | none => exact calls_done _
    | some input => exact calls_ask rfl
  · cases finish with
    | error e => exact calls_done _
    | ok finish =>
      refine calls_bind (calls_ask trivial) fun stop => calls_bind (sweep_tends hg) fun _ => ?_
      have drained (stream : Stream) : Calls (Tends g.pid) (captured g.pid stream r.limits) :=
        calls_bind (calls_ask rfl) fun _ => calls_done _
      exact calls_bind (drained .out) fun _ => calls_bind (drained .err) fun _ => calls_done _

end

end

/-! ## The run -/

/-- What is started for a request where the host has these variables. -/
def Request.started (r : Request) (host : List (Text.Utf8.Bytes × Text.Utf8.Bytes)) : Launch :=
  r.launch (.sanitized host (r.moduleVariable.map fun name => (name, r.directory.path.text)))

/-- What a request does with a guest that was started. -/
def Request.attend (r : Request) (child : Child) (start : Duration) :
    Task host (Except SandboxError Record) :=
  if child.piped then r.follow (.ofChild child) start
  else do
    (Guest.ofChild child).abort
    return .error (.io "take guest output pipes" (.plain .brokenPipe))

/-- How far a request comes: its entry is not safe, or its guest cannot be started, or it is. -/
theorem attempt_cases {r : Request} {events : List (Event host)}
    {result : Except SandboxError Record} (path : Task.Path r.attempt events result) :
    (r.entry.isSafe = false ∧ events = [] ∧ result = .error (.unsafePath r.entry)) ∨
      r.entry.isSafe = true ∧ ∃ env start,
        (∃ e, events = [⟨.environment, env⟩, ⟨.now, start⟩, ⟨.spawn (r.started env), .error e⟩] ∧
          result = .error (.ofSpawn r.interpreter e)) ∨
        ∃ child rest, events = ⟨.environment, env⟩ :: ⟨.now, start⟩ ::
            ⟨.spawn (r.started env), .ok child⟩ :: rest ∧
          Task.Path (r.attend child start) rest result := by
  rw [Request.attempt] at path
  cases safe : r.entry.isSafe with
  | false =>
    rw [safe] at path
    obtain ⟨rfl, rfl⟩ := path_done_iff.1 path
    exact .inl ⟨rfl, rfl, rfl⟩
  | true =>
    rw [safe] at path
    obtain ⟨env, rest, rfl, tail⟩ := path_ask_bind_iff.1 path
    obtain ⟨start, rest, rfl, tail'⟩ := path_ask_bind_iff.1 tail
    obtain ⟨answer, rest, rfl, last⟩ := path_ask_bind_iff.1 tail'
    refine .inr ⟨rfl, env, start, ?_⟩
    cases answer with
    | error e =>
      obtain ⟨rfl, rfl⟩ := path_done_iff.1 last
      exact .inl ⟨e, rfl, rfl⟩
    | ok child => exact .inr ⟨child, rest, rfl, last⟩

theorem attend_ends {r : Request} {child : Child} {start : Duration} {events : List (Event host)}
    {result : Except SandboxError Record} (path : Task.Path (r.attend child start) events result) :
    Ended (.ofChild child) events := by
  rw [Request.attend] at path
  split at path
  · exact follow_ends path
  · obtain ⟨aborted, rest, _, rfl, abort, -⟩ := path_bind_iff.1 path
    exact (abort_ends abort).mono (by simp_all)

theorem attend_tends (r : Request) (child : Child) (start : Duration) :
    Calls (Tends child.pid) (r.attend child start) := by
  rw [Request.attend]
  split
  · exact follow_tends (g := .ofChild child) rfl r start
  · exact calls_bind (abort_tends (g := .ofChild child) rfl) fun _ => calls_done _

/-- A process id is a positive signed word, and that of a guest is not the first. -/
theorem leaderGroup?_of_one_lt {pid : UInt32} (h : 1 < pid.toInt32) :
    leaderGroup? pid = some pid := by
  have value : pid.toInt32.toInt = (pid.toNat : Int).bmod (2 ^ 32) := by
    simp only [UInt32.toInt32, Int32.toInt, BitVec.toInt_eq_toNat_bmod]
    rfl
  have one : (1 : Int32).toInt = 1 := by decide
  have low := Int32.lt_iff_toInt_lt.1 h
  rw [value, one, Int.bmod] at low
  have bound := pid.toNat_lt
  have inside : 1 < pid ∧ pid < 2147483648 := by
    rw [UInt32.lt_iff_toNat_lt, UInt32.lt_iff_toNat_lt]
    simp only [UInt32.reduceToNat]
    omega
  exact if_pos inside

/-- A run removes its working directory last and changes no other file. Without a guest it sends no
signal. A guest has been waited for before, and its group killed; all other calls look after it. -/
theorem run_tears_down {r : Request} {events : List (Event host)}
    {result : Except SandboxError Record} (path : Task.Path r.run events result) :
    ∃ before removed, events = before ++ [⟨.removeTree r.directory.path, removed⟩] ∧
      (∀ e ∈ before, ¬ ChangesFiles e.1) ∧
      ((∀ launch child, ⟨.spawn launch, .ok child⟩ ∉ before) → ∀ e ∈ before, ¬ Signals e.1) ∧
      ∀ launch child, ⟨.spawn launch, .ok child⟩ ∈ before →
        ∃ front back, before = front ++ ⟨.spawn launch, .ok child⟩ :: back ∧
          (∀ e ∈ front, Prepares e.1) ∧ (∀ e ∈ back, Tends child.pid e.1) ∧
          Reaped child.pid back ∧ (1 < child.pid.toInt32 → Killed child.pid back) := by
  obtain ⟨before, rest, result', rfl, attempt, tail⟩ := path_bind_iff.1 path
  obtain ⟨removing, rest, _, rfl, remove, last⟩ := path_bind_iff.1 tail
  obtain ⟨removed, rest, rfl, nothing⟩ := path_ask_bind_iff.1 remove
  obtain ⟨rfl, -⟩ := path_done_iff.1 nothing
  obtain ⟨rfl, -⟩ := path_done_iff.1 last
  refine ⟨before, removed, rfl, ?_⟩
  obtain ⟨-, rfl, -⟩ | ⟨-, env, start, ⟨e, rfl, -⟩ | ⟨child, back, rfl, attend⟩⟩ :=
    attempt_cases attempt
  · simp
  · simp [ChangesFiles, Signals]
  · have tends := attend_tends r child start back result' attend
    have ended := attend_ends attend
    refine ⟨?_, fun none => absurd (none (r.started env) child) (by simp), ?_⟩
    · simp only [List.forall_mem_cons]
      exact ⟨id, id, id, fun e he => not_changesFiles_of_tends (tends e he)⟩
    · intro launch other member
      obtain ⟨rfl, rfl⟩ : launch = r.started env ∧ other = child := by
        have later : ⟨.spawn launch, .ok other⟩ ∉ back := fun he => tends _ he
        simpa [later] using member
      refine ⟨[_, _], back, rfl, by simp [Prepares], tends, ended.reaped, fun first => ?_⟩
      exact ended.killed _ (leaderGroup?_of_one_lt first)

/-- A request whose guest is out of time at once. -/
def lateRequest : Request where
  interpreter := ⟨"/bin/sh"⟩
  directory := ⟨⟨"/tmp/tandem_1_0"⟩⟩
  entry := ⟨"main.sh"⟩
  input := none
  limits := { ResourceLimits.standard with timeoutSeconds := 0 }
  moduleVariable := none

/-- The guest may not be asked to end, and cannot be waited for. -/
def lateEvents : List (Event host) :=
  [⟨.environment, []⟩, ⟨.now, 7⟩, ⟨.spawn (lateRequest.started []), .ok ⟨42, true⟩⟩,
    ⟨.poll 42, .ok none⟩, ⟨.now, 7⟩, ⟨.signalGroup 42 .terminate, .error .notPermitted⟩,
    ⟨.signalGroup 42 .kill, .ok ()⟩, ⟨.killChild 42, .ok ()⟩, ⟨.wait 42, .error .notPermitted⟩,
    ⟨.removeTree ⟨"/tmp/tandem_1_0"⟩, .ok ()⟩]

theorem run_tears_down_late : (∃ result, Task.Path lateRequest.run lateEvents result) ∧
    Reaped 42 lateEvents ∧ Killed 42 lateEvents := by
  have path : ∃ result, Task.Path lateRequest.run lateEvents result :=
    exists_path_of_replay (by decide +kernel)
  obtain ⟨result, path'⟩ := path
  obtain ⟨before, removed, split, -, -, guest⟩ := run_tears_down path'
  have member : ⟨.spawn (lateRequest.started []), .ok ⟨42, true⟩⟩ ∈ before := by
    have listed : ⟨.spawn (lateRequest.started []), .ok ⟨42, true⟩⟩ ∈ lateEvents := by
      simp [lateEvents]
    rw [split] at listed
    simpa using listed
  obtain ⟨front, back, rfl, -, -, reaped, killed⟩ := guest _ _ member
  have sub : ∀ e ∈ back, e ∈ lateEvents := by
    rw [split]
    simp_all
  exact ⟨⟨result, path'⟩, reaped.mono sub, (killed (by decide)).mono sub⟩

end Tandem.Sandbox
