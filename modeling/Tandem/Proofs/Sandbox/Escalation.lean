import Tandem.Proofs.Sandbox.Attendance

/-!
The protocol of an escalation.

* `Polling`: the polls of an escalation up to its end, with no bound on their number.
* `polling_of_path`: with a clock that counts every sleep, an escalation polls in this way.
* `escalation_orderly`: the order of its calls, and which calls and answers its result stands for.
-/

namespace Tandem.Sandbox

open Tandem.Host Tandem.Host.Task

/-- What one poll sees: the leader and, once the leader has exited, its group. -/
inductive Poll where
  | running
  | lingering
  | gone
  | lost (e : IoError)
deriving DecidableEq

namespace Poll

/-- The group is asked for only when the leader has exited. -/
def events : Poll → List (Event groupInterface)
  | running => [⟨.hasExited, .ok false⟩]
  | lingering => [⟨.hasExited, .ok true⟩, ⟨.isAlive, true⟩]
  | gone => [⟨.hasExited, .ok true⟩, ⟨.isAlive, false⟩]
  | lost e => [⟨.hasExited, .error e⟩]

/-- Neither the end of the group nor an error was seen. -/
def Quiet (p : Poll) : Prop := p = running ∨ p = lingering

end Poll

/-- The calls that reach the group or its leader, as opposed to the clock. -/
def onGroup : Event groupInterface → Bool
  | ⟨.now, _⟩ => false
  | ⟨.sleep _, _⟩ => false
  | _ => true

/-- What an event tells about time. -/
def tick? : Event groupInterface → Option (Event host)
  | ⟨.now, now⟩ => some ⟨.now, now⟩
  | ⟨.sleep wait, _⟩ => some ⟨.sleep wait, ()⟩
  | _ => none

/-- The error of a call that failed. -/
def fault? : Event groupInterface → Option IoError
  | ⟨.terminate, .error e⟩ => some e
  | ⟨.hasExited, .error e⟩ => some e
  | ⟨.kill, .error e⟩ => some e
  | _ => none

/-- The readings of the clock after which a deadline has passed. One that the clock cannot name has
passed without any. -/
def Late : Option Duration → List (Event groupInterface) → Prop
  | none, readings => readings = []
  | some d, readings => ∃ now, readings = [⟨.now, now⟩] ∧ d ≤ now

/-- The polls of an escalation, the answer to its kill if there is one, its calls and its result. -/
inductive Polling (deadline : Option Duration) :
    List Poll → List (Except IoError Unit) → List (Event groupInterface) →
      Except IoError Escalation → Prop where
  | gone : Polling deadline [.gone] [] Poll.gone.events (.ok .exitedAfterTerminate)
  | lost (e : IoError) : Polling deadline [.lost e] [] (Poll.lost e).events (.error e)
  | late {p : Poll} {readings : List (Event groupInterface)} (quiet : p.Quiet)
      (passed : Late deadline readings) (answer : Except IoError Unit) :
      Polling deadline [p] [answer] (p.events ++ (readings ++ [⟨.kill, answer⟩]))
        (answer.map fun () => .killed)
  | early {p : Poll} {d now : Duration} {u : Unit} {polls : List Poll}
      {kills : List (Except IoError Unit)} {events : List (Event groupInterface)}
      {result : Except IoError Escalation} (quiet : p.Quiet) (named : deadline = some d)
      (ahead : now < d) (later : Polling deadline polls kills events result) :
      Polling deadline (p :: polls) kills
        (p.events ++ ⟨.now, now⟩ :: ⟨.sleep pollInterval, u⟩ :: events) result

/-! ## One poll -/

theorem Poll.filter_events (p : Poll) : p.events.filter onGroup = p.events := by
  cases p <;> rfl

theorem Poll.filterMap_tick (p : Poll) : p.events.filterMap tick? = [] := by
  cases p <;> rfl

section
variable {p : Poll} {deadline : Option Duration} {readings events : List (Event groupInterface)}
  {result : Except IoError Escalation}

theorem Poll.Quiet.faultless (quiet : p.Quiet) : ∀ call ∈ p.events, fault? call = none := by
  obtain rfl | rfl := quiet <;> decide

theorem Late.filter (late : Late deadline readings) : readings.filter onGroup = [] := by
  cases deadline with
  | none => rw [late, List.filter_nil]
  | some d =>
    obtain ⟨now, rfl, -⟩ := late
    rfl

theorem Late.faultless (late : Late deadline readings) :
    ∀ call ∈ readings, fault? call = none := by
  cases deadline with
  | none =>
    rw [late]
    exact fun _ h => nomatch h
  | some d =>
    obtain ⟨now, rfl, -⟩ := late
    simp [fault?]

theorem path_force (path : Path Escalation.force events result) :
    ∃ answer, events = [⟨.kill, answer⟩] ∧ result = answer.map fun () => .killed := by
  obtain ⟨answer, rest, rfl, tail⟩ := path_ask_bind_iff.1 path
  cases answer with
  | ok u =>
    obtain ⟨rfl, rfl⟩ := path_done_iff.1 tail
    exact ⟨.ok u, rfl, rfl⟩
  | error e =>
    obtain ⟨rfl, rfl⟩ := path_done_iff.1 tail
    exact ⟨.error e, rfl, rfl⟩

/-- What follows a quiet poll. -/
def settle (deadline : Option Duration) (polls : Nat) :
    Task groupInterface (Except IoError Escalation) :=
  match deadline with
  | none => Escalation.force
  | some d => do
    let now ← Task.ask (I := groupInterface) .now
    if d ≤ now then Escalation.force
    else
      match polls with
      | 0 => Escalation.force
      | polls + 1 =>
        Task.ask (I := groupInterface) (.sleep pollInterval)
        Escalation.poll (some d) polls

/-- The first poll ends the polling, or is quiet. -/
theorem path_poll {polls : Nat} (path : Path (Escalation.poll deadline polls) events result) :
    (events = Poll.gone.events ∧ result = .ok .exitedAfterTerminate) ∨
      (∃ e, events = (Poll.lost e).events ∧ result = .error e) ∨
      ∃ p rest, Poll.Quiet p ∧ events = p.events ++ rest ∧
        Path (settle deadline polls) rest result := by
  unfold Escalation.poll at path
  obtain ⟨answer, rest, rfl, tail⟩ := path_ask_bind_iff.1 path
  cases answer with
  | error e =>
    obtain ⟨rfl, rfl⟩ := path_done_iff.1 tail
    exact .inr (.inl ⟨e, rfl, rfl⟩)
  | ok exited =>
    cases exited with
    | false => exact .inr (.inr ⟨.running, rest, .inl rfl, rfl, tail⟩)
    | true =>
      obtain ⟨alive, rest, rfl, after⟩ := path_ask_bind_iff.1 tail
      cases alive with
      | true => exact .inr (.inr ⟨.lingering, rest, .inr rfl, rfl, after⟩)
      | false =>
        obtain ⟨rfl, rfl⟩ := path_done_iff.1 after
        exact .inl ⟨rfl, rfl⟩

/-- After a quiet poll the deadline has passed, or is still ahead and another poll follows. -/
theorem path_settle {polls : Nat} {t : Duration}
    (path : Path (settle deadline polls) events result)
    (clock : Clocked t (events.filterMap tick?))
    (enough : ∀ d, deadline = some d → d ≤ t + polls * pollInterval) :
    (∃ readings answer, Late deadline readings ∧ events = readings ++ [⟨.kill, answer⟩] ∧
        result = answer.map fun () => .killed) ∨
      ∃ d now u later n, deadline = some d ∧ now < d ∧ polls = n + 1 ∧ t ≤ now ∧
        events = ⟨.now, now⟩ :: ⟨.sleep pollInterval, u⟩ :: later ∧
        Path (Escalation.poll (some d) n) later result := by
  cases deadline with
  | none =>
    obtain ⟨answer, rfl, rfl⟩ := path_force path
    exact .inl ⟨[], answer, rfl, rfl, rfl⟩
  | some d =>
    obtain ⟨(now : Duration), rest, rfl, tail⟩ := path_ask_bind_iff.1 path
    have reached : t ≤ now := clock.1
    by_cases passed : d ≤ now
    · rw [if_pos passed] at tail
      obtain ⟨answer, rfl, rfl⟩ := path_force tail
      exact .inl ⟨_, answer, ⟨now, rfl, passed⟩, rfl, rfl⟩
    · rw [if_neg passed] at tail
      cases polls with
      | zero => exact absurd (Nat.le_trans (enough d rfl) (by simpa using reached)) passed
      | succ n =>
        obtain ⟨u, later, rfl, after⟩ := path_ask_bind_iff.1 tail
        exact .inr ⟨d, now, u, later, n, rfl, Nat.lt_of_not_le passed, rfl, reached, rfl, after⟩

/-- With time for no more polls than remain, the polling goes on up to the deadline. -/
theorem polling_of_path {polls : Nat} {t : Duration}
    (path : Path (Escalation.poll deadline polls) events result)
    (clock : Clocked t (events.filterMap tick?))
    (enough : ∀ d, deadline = some d → d ≤ t + polls * pollInterval) :
    ∃ seen kills, Polling deadline seen kills events result := by
  induction polls using Nat.strongRecOn generalizing t events deadline with
  | _ polls ih =>
    obtain ⟨rfl, rfl⟩ | ⟨e, rfl, rfl⟩ | ⟨p, rest, quiet, rfl, tail⟩ := path_poll path
    · exact ⟨_, _, .gone⟩
    · exact ⟨_, _, .lost e⟩
    rw [List.filterMap_append, p.filterMap_tick, List.nil_append] at clock
    obtain ⟨readings, answer, passed, rfl, rfl⟩ |
      ⟨d, now, u, later, n, rfl, ahead, rfl, reached, rfl, next⟩ := path_settle tail clock enough
    · exact ⟨_, _, .late quiet passed answer⟩
    · -- the clock has moved on by the interval that one poll fewer leaves room for
      have enough' : d ≤ now + pollInterval + n * pollInterval := calc
        d ≤ t + (n + 1) * pollInterval := enough d rfl
        _ ≤ now + (n + 1) * pollInterval := Nat.add_le_add_right reached _
        _ = now + pollInterval + n * pollInterval := by
          rw [Nat.add_assoc, Nat.succ_mul, Nat.add_comm pollInterval]
      obtain ⟨seen, kills, polling⟩ :=
        ih n (Nat.lt_succ_self n) next clock.2 fun _ same => Option.some.inj same ▸ enough'
      exact ⟨_, _, .early quiet rfl ahead polling⟩

end

/-! ## A whole polling -/

/-- Where a result says that a call failed, that call is the last. -/
def HaltsAtFault (events : List (Event groupInterface)) : Except IoError Escalation → Prop
  | .ok _ => ∀ call ∈ events, fault? call = none
  | .error e => ∃ before call, events = before ++ [call] ∧ fault? call = some e ∧
      ∀ earlier ∈ before, fault? earlier = none

theorem HaltsAtFault.after {before events : List (Event groupInterface)}
    {result : Except IoError Escalation} (halts : HaltsAtFault events result)
    (clean : ∀ call ∈ before, fault? call = none) : HaltsAtFault (before ++ events) result := by
  cases result with
  | ok outcome => exact List.forall_mem_append.2 ⟨clean, halts⟩
  | error e =>
    obtain ⟨front, call, rfl, failed, rest⟩ := halts
    exact ⟨before ++ front, call, (List.append_assoc ..).symm, failed,
      List.forall_mem_append.2 ⟨clean, rest⟩⟩

namespace Polling
variable {deadline : Option Duration} {polls : List Poll} {kills : List (Except IoError Unit)}
  {events : List (Event groupInterface)} {result : Except IoError Escalation}

theorem ne_nil (h : Polling deadline polls kills events result) : polls ≠ [] := by
  cases h <;> exact List.cons_ne_nil _ _

theorem onGroup_eq (h : Polling deadline polls kills events result) :
    events.filter onGroup = polls.flatMap Poll.events ++ kills.map (⟨.kill, ·⟩) := by
  induction h with
  | gone => rfl
  | lost e => rfl
  | @late p readings quiet passed answer =>
    simp [p.filter_events, passed.filter, onGroup]
  | @early p d now u polls kills events result quiet named ahead later ih =>
    simp [p.filter_events, onGroup, ih]

theorem kills_le (h : Polling deadline polls kills events result) : kills.length ≤ 1 := by
  induction h with
  | early _ _ _ _ ih => exact ih
  | _ => simp

theorem halts (h : Polling deadline polls kills events result) : HaltsAtFault events result := by
  induction h with
  | gone => simp [HaltsAtFault, Poll.events, fault?]
  | lost e => exact ⟨[], _, rfl, rfl, fun _ h => nomatch h⟩
  | @late p readings quiet passed answer =>
    refine HaltsAtFault.after (HaltsAtFault.after ?_ passed.faultless) quiet.faultless
    cases answer with
    | ok u => simp [HaltsAtFault, Except.map, fault?]
    | error e => exact ⟨[], _, rfl, rfl, fun _ h => nomatch h⟩
  | @early p d now u polls kills events result quiet named ahead later ih =>
    have waited : HaltsAtFault ([⟨.now, now⟩, ⟨.sleep pollInterval, u⟩] ++ events) result :=
      ih.after (by simp [fault?])
    exact waited.after quiet.faultless

/-- The end of the group was seen, and nothing was killed. -/
theorem exited_iff (h : Polling deadline polls kills events result) :
    (result = .ok .exitedAfterTerminate ↔ .gone ∈ polls) ∧ (.gone ∈ polls → kills = []) := by
  induction h with
  | gone => simp
  | lost e => simp
  | @late p readings quiet passed answer =>
    obtain rfl | rfl := quiet <;> cases answer <;> simp [Except.map]
  | @early p d now u polls kills events result quiet named ahead later ih =>
    obtain rfl | rfl := quiet <;> simpa using ih

theorem killed_iff (h : Polling deadline polls kills events result) :
    result = .ok .killed ↔ kills = [.ok ()] := by
  induction h with
  | gone => simp
  | lost e => simp
  | @late p readings quiet passed answer => cases answer <;> simp [Except.map]
  | early _ _ _ _ ih => exact ih

/-- Every poll but the last is quiet. -/
theorem quiet_before (h : Polling deadline polls kills events result) :
    ∀ p ∈ polls.dropLast, Poll.Quiet p := by
  induction h with
  | early quiet _ _ later ih =>
    rw [List.dropLast_cons_of_ne_nil later.ne_nil]
    exact List.forall_mem_cons.2 ⟨quiet, ih⟩
  | _ => simp

/-- A reading at or past the deadline is followed by the kill. -/
theorem kills_of_reading {d now : Duration} (h : Polling (some d) polls kills events result)
    (read : ⟨.now, now⟩ ∈ events) (passed : d ≤ now) : kills ≠ [] := by
  induction h with
  | gone => simp [Poll.events] at read
  | lost e => simp [Poll.events] at read
  | late => exact List.cons_ne_nil _ _
  | @early p d' now' u polls kills events result quiet named ahead later ih =>
    obtain rfl := Option.some.inj named
    obtain inPoll | first | rest : ⟨.now, now⟩ ∈ p.events ∨ now = now' ∨ ⟨.now, now⟩ ∈ events := by
      simpa using read
    · obtain rfl | rfl := quiet <;> simp [Poll.events] at inPoll
    · exact absurd (first ▸ passed) (Nat.not_le_of_lt ahead)
    · exact ih rest

/-- The kill is sent exactly when the deadline has passed after a quiet poll. -/
theorem kills_iff (h : Polling deadline polls kills events result) :
    kills ≠ [] ↔ ∃ before p readings after, events = before ++ (p.events ++ (readings ++ after)) ∧
      Poll.Quiet p ∧ Late deadline readings := by
  constructor
  · intro some
    induction h with
    | gone => exact absurd rfl some
    | lost e => exact absurd rfl some
    | @late p readings quiet passed answer => exact ⟨[], p, readings, _, rfl, quiet, passed⟩
    | @early p d now u polls kills events result quiet named ahead later ih =>
      obtain ⟨before, last, readings, after, rfl, quiet', passed⟩ := ih some
      exact ⟨p.events ++ ⟨.now, now⟩ :: ⟨.sleep pollInterval, u⟩ :: before, last, readings, after,
        by simp, quiet', passed⟩
  · rintro ⟨before, p, readings, after, rfl, quiet, passed⟩
    cases deadline with
    | some d =>
      obtain ⟨now, rfl, reached⟩ := passed
      exact h.kills_of_reading (by simp) reached
    | none =>
      generalize same : before ++ (p.events ++ (readings ++ after)) = events at h
      have inside : ∀ call ∈ p.events, call ∈ events := by
        rw [← same]
        exact fun call h => by simp [h]
      cases h with
      | gone => obtain rfl | rfl := quiet <;> simp [Poll.events] at inside
      | lost e => obtain rfl | rfl := quiet <;> simp [Poll.events] at inside
      | late => exact List.cons_ne_nil _ _
      | early _ named => cases named

end Polling

/-! ## A whole escalation -/

/-- The grace is over after a poll that saw neither the end of the group nor an error. It begins
with the first reading of the clock, and is over at once if the clock cannot name its end. -/
def Overdue (grace : Duration) (events : List (Event groupInterface)) : Prop :=
  ∃ start before p readings after,
    events = ⟨.terminate, .ok ()⟩ :: ⟨.now, start⟩ ::
      (before ++ (p.events ++ (readings ++ after))) ∧
    Poll.Quiet p ∧ Late (deadline? start grace) readings

/-- What the calls of an escalation are, and what they have to do with its result: `first` is the
answer to the polite signal, `polls` are the polls, and `kills` holds the answer to the kill if
there is one. -/
structure Orderly (grace : Duration) (events : List (Event groupInterface))
    (result : Except IoError Escalation) (first : Except IoError Unit) (polls : List Poll)
    (kills : List (Except IoError Unit)) : Prop where
  order : events.filter onGroup =
    ⟨.terminate, first⟩ :: (polls.flatMap Poll.events ++ kills.map (⟨.kill, ·⟩))
  polled : first = .ok () ↔ polls ≠ []
  quiet : ∀ p ∈ polls.dropLast, Poll.Quiet p
  once : kills.length ≤ 1
  exited : result = .ok .exitedAfterTerminate ↔ .gone ∈ polls
  spared : .gone ∈ polls → kills = []
  overdue : kills ≠ [] ↔ Overdue grace events
  killed : result = .ok .killed ↔ Overdue grace events ∧ kills = [.ok ()]
  failed : ∀ e, result = .error e ↔ ∃ call ∈ events, fault? call = some e
  last : ∀ before call after, events = before ++ call :: after → fault? call ≠ none → after = []
  ended : ∀ outcome, result = .ok outcome → .gone ∈ polls ∨ kills = [.ok ()]

theorem HaltsAtFault.failed_iff {events : List (Event groupInterface)}
    {result : Except IoError Escalation} (halts : HaltsAtFault events result) (e : IoError) :
    result = .error e ↔ ∃ call ∈ events, fault? call = some e := by
  cases result with
  | ok outcome =>
    refine iff_of_false (fun same => nomatch same) ?_
    rintro ⟨call, here, failed⟩
    rw [halts call here] at failed
    cases failed
  | error e' =>
    obtain ⟨before, last, rfl, failed, clean⟩ := halts
    constructor
    · intro same
      cases same
      exact ⟨last, by simp, failed⟩
    · rintro ⟨call, here, failed'⟩
      obtain early | rfl : call ∈ before ∨ call = last := by simpa using here
      · rw [clean call early] at failed'
        cases failed'
      · rw [failed] at failed'
        exact congrArg _ (Option.some.inj failed')

theorem HaltsAtFault.last {before after : List (Event groupInterface)} {call : Event groupInterface}
    {result : Except IoError Escalation} (halts : HaltsAtFault (before ++ call :: after) result)
    (failed : fault? call ≠ none) : after = [] := by
  cases result with
  | ok outcome => exact absurd (halts call (by simp)) failed
  | error e =>
    obtain ⟨front, last, same, -, clean⟩ := halts
    obtain rfl | ⟨between, final, rfl⟩ := List.eq_nil_or_concat after
    · rfl
    · have parts : (before ++ call :: between) ++ [final] = front ++ [last] := by simpa using same
      obtain ⟨rfl, -⟩ := List.append_inj' parts rfl
      exact absurd (clean call (by simp)) failed

/-- A polite signal that failed is the only call. -/
theorem orderly_refused (grace : Duration) (e : IoError) :
    Orderly grace [⟨.terminate, .error e⟩] (.error e) (.error e) [] [] := by
  have halts : HaltsAtFault [⟨.terminate, .error e⟩] (.error e) :=
    ⟨[], _, rfl, rfl, fun _ h => nomatch h⟩
  refine
    { order := rfl
      polled := by simp
      quiet := by simp
      once := Nat.zero_le 1
      exited := by simp
      spared := by simp
      overdue := ⟨fun h => absurd rfl h, ?_⟩
      killed := by simp
      failed := halts.failed_iff
      last := fun before call after same failed => (same ▸ halts).last failed
      ended := by simp }
  rintro ⟨start, before, p, readings, after, same, -⟩
  cases same

/-- A polling behind a polite signal that was sent. -/
theorem Polling.orderly {grace start : Duration} {polls : List Poll}
    {kills : List (Except IoError Unit)} {events : List (Event groupInterface)}
    {result : Except IoError Escalation}
    (h : Polling (deadline? start grace) polls kills events result) :
    Orderly grace (⟨.terminate, .ok ()⟩ :: ⟨.now, start⟩ :: events) result (.ok ()) polls
      kills := by
  have begun : HaltsAtFault ([⟨.terminate, .ok ()⟩, ⟨.now, start⟩] ++ events) result :=
    h.halts.after (by simp [fault?])
  have halts : HaltsAtFault (⟨.terminate, .ok ()⟩ :: ⟨.now, start⟩ :: events) result := begun
  have overdue : kills ≠ [] ↔ Overdue grace (⟨.terminate, .ok ()⟩ :: ⟨.now, start⟩ :: events) := by
    rw [h.kills_iff]
    constructor
    · rintro ⟨before, p, readings, after, rfl, quiet, passed⟩
      exact ⟨start, before, p, readings, after, rfl, quiet, passed⟩
    · rintro ⟨start', before, p, readings, after, same, quiet, passed⟩
      cases same
      exact ⟨before, p, readings, after, rfl, quiet, passed⟩
  exact
    { order := by
        rw [← h.onGroup_eq]
        rfl
      polled := iff_of_true rfl h.ne_nil
      quiet := h.quiet_before
      once := h.kills_le
      exited := h.exited_iff.1
      spared := h.exited_iff.2
      overdue := overdue
      killed := by
        rw [h.killed_iff, ← overdue]
        exact ⟨fun same => ⟨by simp [same], same⟩, And.right⟩
      failed := halts.failed_iff
      last := fun before call after same failed => (same ▸ halts).last failed
      ended := fun outcome same => by
        cases outcome with
        | exitedAfterTerminate => exact .inl (h.exited_iff.1.1 same)
        | killed => exact .inr (h.killed_iff.1 same) }

/-- The polls that fit into a grace reach past its end. -/
theorem deadline_le {start grace d : Duration} (named : deadline? start grace = some d) :
    d ≤ start + pollsWithin grace * pollInterval := by
  rw [deadline?] at named
  split at named
  · obtain rfl := Option.some.inj named
    have within : grace < pollInterval * pollsWithin grace := Nat.lt_mul_div_succ grace (by decide)
    rw [Nat.mul_comm]
    exact Nat.add_le_add_left (Nat.le_of_lt within) start
  · cases named

/-- Whatever its calls are answered, an escalation asks for the polite end first, then polls, then
kills at most once. Its result says what the polls saw, whether the grace was over, and which call
failed. The clock is one that counts every sleep. -/
theorem escalation_orderly {grace : Duration} {events : List (Event groupInterface)}
    {result : Except IoError Escalation} (path : Path (Escalation.of grace) events result)
    (clock : Clocked 0 (events.filterMap tick?)) :
    ∃ first polls kills, Orderly grace events result first polls kills := by
  obtain ⟨first, rest, rfl, tail⟩ := path_ask_bind_iff.1 path
  cases first with
  | error e =>
    obtain ⟨rfl, rfl⟩ := path_done_iff.1 tail
    exact ⟨_, _, _, orderly_refused grace e⟩
  | ok u =>
    obtain ⟨(start : Duration), rest, rfl, polls⟩ := path_ask_bind_iff.1 tail
    obtain ⟨seen, kills, polling⟩ := polling_of_path polls clock.2 fun d => deadline_le
    exact ⟨_, _, _, polling.orderly⟩

/-- The leader exits in time, another member of its group does not. -/
def lingering : List (Event groupInterface) :=
  [⟨.terminate, .ok ()⟩, ⟨.now, seconds 1⟩, ⟨.hasExited, .ok false⟩, ⟨.now, seconds 1⟩,
    ⟨.sleep pollInterval, ()⟩, ⟨.hasExited, .ok true⟩, ⟨.isAlive, true⟩, ⟨.now, seconds 2⟩,
    ⟨.kill, .ok ()⟩]

theorem escalation_orderly_lingering :
    Path (Escalation.of (milliseconds 50)) lingering (.ok .killed) ∧
      Clocked 0 (lingering.filterMap tick?) ∧
      ∃ first polls kills, Orderly (milliseconds 50) lingering (.ok .killed) first polls kills := by
  have path : Path (Escalation.of (milliseconds 50)) lingering (.ok .killed) :=
    path_of_replay (by cbv)
  have clock : Clocked 0 (lingering.filterMap tick?) := by
    refine ⟨?_, ?_, ?_, trivial⟩ <;> decide
  exact ⟨path, clock, escalation_orderly path clock⟩

end Tandem.Sandbox
