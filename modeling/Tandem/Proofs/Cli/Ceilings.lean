import Tandem.Proofs.Cli.Bounds
import Tandem.Proofs.Host.Child
import Tandem.Proofs.Sandbox.Survivors

/-!
The ceilings of a guest.

* `Watched`: a guest is polled again and again, and stopped at the first look at the clock that finds
  it running past its deadline.
* `run_spawns`: what a run starts, and that it is watched so.
* `capped_iff`: which limits give ceilings that the kernel does not take for none.
* `deadline?_eq_some_iff`: which instants the clock can name.
* `guests_capped`: what a guest runs under, and that nothing runs where that could not be set up.
-/

namespace Tandem.Sandbox

open Tandem.Host Tandem.Host.Task

/-! ## Stopping a guest -/

/-- A signal that a guest does not outlive: to the group that it leads, or to itself. -/
inductive Halts (pid : UInt32) : Call → Prop where
  | group {group : UInt32} {s : Signal} (leads : leaderGroup? pid = some group)
      (heard : s ≠ .probe) : Halts pid (.signalGroup group s)
  | alone : Halts pid (.killChild pid)

section
variable {g : Guest} {events : List (Event host)}

theorem abort_halts (hg : g.group = leaderGroup? g.pid) (path : Task.Path g.abort events ()) :
    ∃ e rest, events = e :: rest ∧ Halts g.pid e.1 := by
  obtain ⟨swept, rest, _, rfl, sweep, tail⟩ := path_bind_iff.1 path
  rw [Guest.sweep] at sweep
  cases known : g.group with
  | none =>
    rw [known] at sweep
    obtain ⟨rfl, -⟩ := path_done_iff.1 sweep
    obtain ⟨answer, rest, rfl, -⟩ := path_ask_bind_iff.1 tail
    exact ⟨_, rest, rfl, .alone⟩
  | some group =>
    rw [known] at sweep
    obtain ⟨sent, back, _, rfl, send, -⟩ := path_bind_iff.1 sweep
    obtain ⟨answer, more, rfl, -⟩ := path_ask_bind_iff.1 send
    exact ⟨_, _, rfl, .group (hg.symm.trans known) (by decide)⟩

theorem timeOut_halts {grace : Duration} {result : Except SandboxError Finish}
    (hg : g.group = leaderGroup? g.pid) (path : Task.Path (timeOut g grace) events result) :
    ∃ e rest, events = e :: rest ∧ Halts g.pid e.1 := by
  obtain ⟨expired, rest, _, rfl, expire, -⟩ := path_bind_iff.1 path
  rw [Guest.expire] at expire
  cases known : g.group with
  | none =>
    rw [known] at expire
    obtain ⟨answer, more, rfl, -⟩ := path_ask_bind_iff.1 expire
    exact ⟨_, _, rfl, .alone⟩
  | some group =>
    rw [known] at expire
    obtain ⟨sent, back, _, rfl, send, -⟩ := path_bind_iff.1 expire
    obtain ⟨answer, more, rfl, -⟩ := path_ask_bind_iff.1 send
    exact ⟨_, _, rfl, .group (hg.symm.trans known) (by decide)⟩

end

/-! ## Watching a guest -/

/-- What is done about a child from some point on, where so much was slept before. It is polled
until it has ended or cannot be polled. One that is found running at a look at the clock past the
deadline is stopped, and so is one for which the whole wait was slept; without a deadline no look is
past it. A child without pipes is stopped at once. -/
inductive Watched (child : Child) (deadline : Option Duration) (wait : Duration) :
    Duration → List (Event host) → Prop where
  | abandoned {slept : Duration} {e : Event host} {rest : List (Event host)}
      (unpiped : child.piped = false) (halts : Halts child.pid e.1) :
      Watched child deadline wait slept (e :: rest)
  | fed {slept : Duration} {input : String} {rest : List (Event host)}
      (later : Watched child deadline wait slept rest) :
      Watched child deadline wait slept (⟨.feed child.pid input, ()⟩ :: rest)
  | ended {slept : Duration} {ending : Ending} {rest : List (Event host)} :
      Watched child deadline wait slept (⟨.poll child.pid, .ok (some ending)⟩ :: rest)
  | lost {slept : Duration} {e : IoError} {rest : List (Event host)} :
      Watched child deadline wait slept (⟨.poll child.pid, .error e⟩ :: rest)
  | early {slept now : Duration} {rest : List (Event host)}
      (ahead : ∀ d, deadline = some d → now < d)
      (later : Watched child deadline wait (slept + pollInterval) rest) :
      Watched child deadline wait slept
        (⟨.poll child.pid, .ok none⟩ :: ⟨.now, now⟩ :: ⟨.sleep pollInterval, ()⟩ :: rest)
  | late {slept now d : Duration} {e : Event host} {rest : List (Event host)}
      (due : deadline = some d) (past : d ≤ now) (halts : Halts child.pid e.1) :
      Watched child deadline wait slept
        (⟨.poll child.pid, .ok none⟩ :: ⟨.now, now⟩ :: e :: rest)
  | over {slept : Duration} {e : Event host} {rest : List (Event host)} (spent : wait ≤ slept)
      (halts : Halts child.pid e.1) :
      Watched child deadline wait slept (⟨.poll child.pid, .ok none⟩ :: e :: rest)

section
variable {child : Child} {deadline : Option Duration} {wait start slept : Duration}
  {events : List (Event host)}

/-- The polls that are left fill what is left of the wait. -/
theorem await_watched {grace : Duration} {polls : Nat} {result : Except SandboxError Finish}
    (path : Task.Path (await (.ofChild child) grace deadline polls) events result)
    (filled : wait ≤ slept + polls * pollInterval) (more : List (Event host)) :
    Watched child deadline wait slept (events ++ more) := by
  induction polls generalizing slept events with
  | zero =>
    unfold await at path
    obtain ⟨answer, rest, rfl, tail⟩ := path_ask_bind_iff.1 path
    cases answer with
    | error e => exact .lost
    | ok found =>
      cases found with
      | some ending => exact .ended
      | none =>
        obtain ⟨e, later, rfl, halts⟩ := timeOut_halts rfl tail
        rw [Nat.zero_mul] at filled
        exact .over filled halts
  | succ polls ih =>
    unfold await at path
    obtain ⟨answer, rest, rfl, tail⟩ := path_ask_bind_iff.1 path
    cases answer with
    | error e => exact .lost
    | ok found =>
      cases found with
      | some ending => exact .ended
      | none =>
        obtain ⟨now, rest, rfl, tail'⟩ := path_ask_bind_iff.1 tail
        split at tail'
        · rename_i passed
          obtain ⟨d, due, past⟩ : ∃ d, deadline = some d ∧ d ≤ now := by
            simpa [Option.any_eq_true] using passed
          obtain ⟨e, later, rfl, halts⟩ := timeOut_halts rfl tail'
          exact .late due past halts
        · rename_i coming
          obtain ⟨_, rest, rfl, again⟩ := path_ask_bind_iff.1 tail'
          refine .early (fun d due => ?_) (ih again ?_)
          · simpa [due] using coming
          · rw [Nat.succ_mul] at filled
            rwa [Nat.add_assoc, Nat.add_comm pollInterval]

theorem pollsWithin_fill (wait : Duration) : wait ≤ 0 + pollsWithin wait * pollInterval := by
  rw [Nat.zero_add, Nat.mul_comm]
  exact Nat.le_of_lt (Nat.lt_mul_div_succ wait (by decide))

theorem attend_watched {r : Request} {result : Except SandboxError Record}
    (path : Task.Path (r.attend child start) events result) (more : List (Event host)) :
    Watched child (deadline? start r.limits.timeout) r.limits.timeout 0 (events ++ more) := by
  rw [Request.attend] at path
  split at path
  · rw [follow_eq] at path
    obtain ⟨fed, rest, _, rfl, feed, tail⟩ := path_bind_iff.1 path
    obtain ⟨awaited, back, finish, rfl, wait, -⟩ := path_bind_iff.1 tail
    have watched := await_watched wait (pollsWithin_fill _) (back ++ more)
    rw [← List.append_assoc] at watched
    rw [Request.feed] at feed
    split at feed
    · obtain rfl := path_ask_iff.1 feed
      exact .fed watched
    · obtain ⟨rfl, -⟩ := path_done_iff.1 feed
      exact watched
  · rename_i unpiped
    obtain ⟨aborted, rest, _, rfl, abort, -⟩ := path_bind_iff.1 path
    obtain ⟨e, later, rfl, halts⟩ := abort_halts rfl abort
    exact .abandoned (Bool.eq_false_iff.2 unpiped) halts

/-! ## Starting a guest -/

/-- A run starts one child at most, right after it looked at the clock. What cannot be started gives
an error, and the child that was started is watched. -/
theorem run_spawns {r : Request} {result : Except SandboxError Record} {launch : Launch}
    {answer : Except IoError Child} (path : Task.Path r.run events result)
    (spawned : ⟨.spawn launch, answer⟩ ∈ events) :
    ∃ env start rest, launch = r.started env ∧
      events = ⟨.environment, env⟩ :: ⟨.now, start⟩ :: ⟨.spawn launch, answer⟩ :: rest ∧
      (∀ e, answer = .error e → ∃ e', result = .error e') ∧
      ∀ child, answer = .ok child →
        Watched child (deadline? start r.limits.timeout) r.limits.timeout 0 rest := by
  obtain ⟨before, removed, rfl, attempt⟩ := run_cases path
  replace spawned : ⟨.spawn launch, answer⟩ ∈ before := by simpa using spawned
  obtain ⟨-, rfl, -⟩ | ⟨-, env, start, ⟨e, rfl, rfl⟩ | ⟨child, rest, rfl, attend⟩⟩ :=
    attempt_cases attempt
  · cases spawned
  · obtain ⟨rfl, same⟩ : launch = r.started env ∧ answer = .error e := by simpa using spawned
    subst same
    exact ⟨env, start, _, rfl, rfl, fun _ _ => ⟨_, rfl⟩, nofun⟩
  · obtain ⟨rfl, same⟩ : launch = r.started env ∧ answer = .ok child := by
      have later : ⟨.spawn launch, answer⟩ ∉ rest := fun member =>
        attend_tends r child start rest result attend _ member
      simpa [later] using spawned
    subst same
    refine ⟨env, start, _, rfl, rfl, nofun, fun other same => ?_⟩
    cases same
    exact attend_watched attend _

end

end Tandem.Sandbox

namespace Tandem

open Tandem.Config Tandem.Host Tandem.Host.Task Tandem.Sandbox

/-- These are ceilings of a run with a timeout and so much memory, none of which is no ceiling. -/
structure Capped (timeoutSeconds memoryMb : UInt64) (held : Resource → Ceiling) : Prop where
  cpu : timeoutSeconds < (held .cpu).soft ∧ (held .cpu).soft ≤ (held .cpu).hard
  memory : (held .addressSpace).soft.toNat = memoryMb.toNat * 1048576 ∧
    (held .addressSpace).hard = (held .addressSpace).soft
  finite : ∀ resource, (held resource).soft ≠ unlimited ∧ (held resource).hard ≠ unlimited

theorem capped_iff {l : ResourceLimits} : Capped l.timeoutSeconds l.memoryMb l.child.ceilings ↔
    l.timeoutSeconds.toNat + 2 < unlimited.toNat ∧
      l.memoryMb.toNat * 1048576 < unlimited.toNat := by
  have soft : l.child.cpuSoft.toNat = min (l.timeoutSeconds.toNat + 1) unlimited.toNat :=
    toNat_saturatingAdd l.timeoutSeconds 1
  have hard : l.child.cpuHard.toNat = min (l.timeoutSeconds.toNat + 2) unlimited.toNat :=
    toNat_saturatingAdd l.timeoutSeconds 2
  have bytes : l.child.memoryBytes.toNat = min (l.memoryMb.toNat * 1048576) unlimited.toNat :=
    toNat_saturatingMul l.memoryMb 1048576
  have finite (n : UInt64) : n ≠ unlimited ↔ n.toNat ≠ unlimited.toNat :=
    not_congr UInt64.toNat_inj.symm
  constructor
  · intro capped
    have cpu := (finite _).1 (capped.finite .cpu).2
    have memory := (finite _).1 (capped.finite .addressSpace).1
    simp only [ChildLimits.ceilings] at cpu memory
    omega
  · rintro ⟨timeout, memory⟩
    refine ⟨⟨?_, ?_⟩, ⟨?_, rfl⟩, fun resource => ?_⟩
    · rw [UInt64.lt_iff_toNat_lt]
      simp only [ChildLimits.ceilings]
      omega
    · rw [UInt64.le_iff_toNat_le]
      simp only [ChildLimits.ceilings]
      omega
    · simp only [ChildLimits.ceilings]
      omega
    · rw [finite, finite]
      cases resource with
      | cpu =>
        simp only [ChildLimits.ceilings]
        omega
      | addressSpace =>
        simp only [ChildLimits.ceilings]
        omega
      | core =>
        simp only [ChildLimits.ceilings]
        decide

theorem deadline?_eq_some_iff {now wait d : Duration} :
    deadline? now wait = some d ↔ d = now + wait ∧ d / seconds 1 ≤ lastSecond := by
  rw [deadline?, Option.ite_none_right_eq_some, Option.some.injEq]
  constructor
  · rintro ⟨named, rfl⟩
    exact ⟨rfl, named⟩
  · rintro ⟨rfl, named⟩
    exact ⟨named, rfl⟩

/-- What an accepted configuration runs its guests under, whatever the calls of the child are
answered. The guest is executed only where the child left the group of its parent and got all its
ceilings; the run fails otherwise. The ceilings are finite, and those that the settings ask for, if
and only if the timeout with the two seconds on top of it and the bytes of the memory are below the
word for no limit. The guest has a deadline if and only if the clock can name it. -/
theorem guests_capped {s : Settings} (accepted : s.flaw? = none) {r : Request}
    (limited : r.limits = s.limits s.timeoutSeconds) {events : List (Event host)}
    {result : Except SandboxError Record} (path : Task.Path r.run events result) {launch : Launch}
    {answer : Except IoError Child} (spawned : ⟨.spawn launch, answer⟩ ∈ events)
    {own : List (Event childInterface)} (born : Born launch answer own) :
    (¬ Became own → ∃ e, result = .error e) ∧
      (Became own →
        (∃ before, own = before ++ [⟨.become, .ok ()⟩] ∧ Prepared before) ∧
        (∀ inherited, Capped s.timeoutSeconds s.memoryMb (ceilings inherited own) ↔
          s.timeoutSeconds.toNat + 2 < unlimited.toNat ∧
            s.memoryMb.toNat * 1048576 < unlimited.toNat) ∧
        ∃ front start child rest deadline, answer = .ok child ∧
          events = front ++ ⟨.now, start⟩ :: ⟨.spawn launch, answer⟩ :: rest ∧
          Watched child deadline (seconds s.timeoutSeconds.toNat) 0 rest ∧
          ∀ d, deadline = some d ↔ start < d ∧ d = start + seconds s.timeoutSeconds.toNat ∧
            d / seconds 1 ≤ lastSecond) := by
  obtain ⟨env, start, rest, rfl, rfl, fails, watched⟩ := run_spawns path spawned
  refine ⟨fun not => ?_, fun became => ?_⟩
  · rw [born.became_iff] at not
    cases answer with
    | ok child => exact absurd ⟨child, rfl⟩ not
    | error e => exact fails e rfl
  · obtain ⟨child, rfl⟩ := born.became_iff.1 became
    cases born with
    | guest _ grown =>
      obtain ⟨before, split, prepared, held⟩ := prepared_of_became grown
      have timeout : r.limits.timeout = seconds s.timeoutSeconds.toNat := by rw [limited]; rfl
      have watched := watched child rfl
      rw [timeout] at watched
      refine ⟨⟨before, split, prepared⟩, fun inherited => ?_, [_], start, child, rest, _, rfl, rfl,
        watched, fun d => ?_⟩
      · have fits := capped_iff (l := r.limits)
        rw [held]
        rwa [limited] at fits ⊢
      · rw [deadline?_eq_some_iff]
        refine ⟨fun named => ⟨?_, named⟩, And.right⟩
        have least : 0 < s.timeoutSeconds.toNat :=
          UInt64.le_iff_toNat_le.1 (flaw?_eq_none_iff.1 accepted).timeout.1
        rw [named.1]
        exact Nat.lt_add_of_pos_right (Nat.mul_pos least (by decide))

/-- The longest timeout there is, and the least memory whose bytes are no word. -/
def boundlessSettings : Settings :=
  { Cli.plainSettings with
    timeoutSeconds := 18446744073709551615
    maxTimeoutSeconds := 18446744073709551615
    memoryMb := 17592186044416 }

def boundlessRequest : Request :=
  Cli.plainRun.request boundlessSettings ⟨⟨"/tmp/parity_run_7_0"⟩⟩

/-- The script is found running when its time is over, and is left running. -/
def boundlessEvents : List (Event host) :=
  [⟨.environment, []⟩, ⟨.now, 7⟩, ⟨.spawn (boundlessRequest.started []), .ok ⟨42, true⟩⟩,
    ⟨.poll 42, .ok none⟩, ⟨.now, 7 + boundlessRequest.limits.timeout⟩, ⟨.sleep pollInterval, ()⟩,
    ⟨.poll 42, .ok (some (.code 0))⟩, ⟨.now, 8⟩, ⟨.signalGroup 42 .kill, .error .noProcess⟩,
    ⟨.drain 42 .out (seconds 2), []⟩, ⟨.drain 42 .err (seconds 2), []⟩,
    ⟨.removeTree ⟨"/tmp/parity_run_7_0"⟩, .ok ()⟩]

theorem guests_capped_boundless : boundlessSettings.flaw? = none ∧
    (∃ result, Task.Path boundlessRequest.run boundlessEvents result) ∧
    Born (boundlessRequest.started []) (.ok ⟨42, true⟩) (granted boundlessRequest.limits.child) ∧
    (∃ before, granted boundlessRequest.limits.child = before ++ [⟨.become, .ok ()⟩] ∧
      Prepared before) ∧
    (∀ inherited, ¬ Capped 18446744073709551615 17592186044416
      (ceilings inherited (granted boundlessRequest.limits.child))) ∧
    ∃ front start child rest, boundlessEvents = front ++ ⟨.now, start⟩ ::
        ⟨.spawn (boundlessRequest.started []), .ok child⟩ :: rest ∧
      Watched child none (seconds 18446744073709551615) 0 rest := by
  have accepted : boundlessSettings.flaw? = none := by decide +kernel
  obtain ⟨result, path⟩ : ∃ result, Task.Path boundlessRequest.run boundlessEvents result :=
    exists_path_of_replay (by decide +kernel)
  have born : Born (boundlessRequest.started []) (.ok ⟨42, true⟩)
      (granted boundlessRequest.limits.child) := .guest _ (path_of_replay rfl)
  have became : Became (granted boundlessRequest.limits.child) := by simp [Became, granted]
  obtain ⟨prepared, capped, front, start, child, rest, deadline, same, split, watched, named⟩ :=
    (guests_capped accepted rfl path (by simp [boundlessEvents]) born).2 became
  refine ⟨accepted, ⟨result, path⟩, born, prepared, fun inherited held => ?_, ?_⟩
  · exact absurd ((capped inherited).1 held).2 (by decide)
  · cases due : deadline with
    | none => exact ⟨front, start, child, rest, same ▸ split, due ▸ watched⟩
    | some d =>
      obtain ⟨-, rfl, last⟩ := (named d).1 due
      have later : 18446744073709551615 ≤
          (start + seconds 18446744073709551615) / seconds 1 :=
        (Nat.le_div_iff_mul_le (by decide)).2 (Nat.le_add_left ..)
      exact absurd (Nat.le_trans later last) (by decide)

end Tandem
