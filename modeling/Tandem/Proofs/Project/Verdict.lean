import Tandem.Cli.Command
import Tandem.Proofs.Project.Identical

/-!
What a match says about the two runs.

* `runSide_ran`: the record of a side that started is that of one guest, and shows what was read of
  its output as far as the cap goes.
* `match_rests_on_runs`: behind a match stand two such guests that agree on what is kept of them.
* `late_isMatch`: they need not agree on more, nor end in time.
-/

namespace Tandem.Project

open Tandem.Compare Tandem.Config Tandem.Host Tandem.Host.Task Tandem.Sandbox Tandem.Text

/-- The record of one guest: these bytes were read of its output, at most so many of them are shown,
and it has an exit code unless it ran out of time. -/
structure Ran (cap : Nat) (events : List (Event host)) (record : Record) (out : Utf8.Bytes) :
    Prop where
  started : record.started = true
  read : ∃ launch child patience reads, ⟨.spawn launch, .ok child⟩ ∈ events ∧
    ⟨.drain child.pid .out patience, reads⟩ ∈ events ∧ out = arrived reads
  shown : record.stdout = decodeOutput (out.take cap) (cap < out.length)
  cut : cap < out.length → record.truncated = true
  ended : record.exitCode.isSome = !record.timedOut

/-- Two records agree, of guests whose outputs were read as these bytes. -/
structure Agree (cap : Nat) (source target : Record) (out out' : Utf8.Bytes) : Prop where
  late : source.timedOut = target.timedOut
  codeless : source.timedOut = true → source.exitCode = none ∧ target.exitCode = none
  code : source.timedOut = false →
    ∃ code, source.exitCode = some code ∧ target.exitCode = some code
  kept : normalize (decodeOutput (out.take cap) (cap < out.length)) =
    normalize (decodeOutput (out'.take cap) (cap < out'.length))
  /-- Where neither output was cut, they agree whole. -/
  whole : out.length ≤ cap → out'.length ≤ cap →
    normalize (decodeOutput out false) = normalize (decodeOutput out' false)

/-- What is recorded of an end: a code, unless time ran out before. -/
theorem isSome_code? (finish : Finish) : finish.code?.isSome = !finish.timedOut := by
  obtain ⟨ending, timedOut⟩ := finish
  cases timedOut <;> cases ending <;> rfl

theorem shown_whole {cap : Nat} {out : Utf8.Bytes} (fits : out.length ≤ cap) :
    decodeOutput (out.take cap) (cap < out.length) = decodeOutput out false := by
  rw [List.take_of_length_le fits, decide_eq_false (Nat.not_lt.2 fits)]

section
variable {s : Settings} {plan : Plan} {events : List (Event host)} {record : Record}

/-- A run that gives a record was that of one guest. -/
theorem run_ran {r : Request} (path : Task.Path r.run events (.ok record)) :
    ∃ out, Ran r.limits.maxOutputBytes.toNat events record out := by
  obtain ⟨running, rest, answer, rfl, attempt, tail⟩ := path_bind_iff.1 path
  obtain ⟨removing, rest, _, rfl, -, last⟩ := path_bind_iff.1 tail
  obtain ⟨rfl, rfl⟩ := path_done_iff.1 last
  obtain ⟨-, -, same⟩ | ⟨-, env, start, ⟨e, -, same⟩ | ⟨child, more, rfl, attend⟩⟩ :=
    attempt_cases attempt
  · cases same
  · cases same
  · obtain ⟨patience, finish, elapsed, out, err, drained, -, rfl⟩ := attend_record attend
    refine ⟨arrived out, rfl, ?_, rfl, fun cut => ?_, isSome_code? finish⟩
    · exact ⟨r.started env, child, patience, out, by simp, by simp [drained], rfl⟩
    · simp [recordOf, cut]

/-- A side that started left the record of one guest. -/
theorem runSide_ran {r : Runtime} (path : Task.Path (runSide s plan r) events record)
    (started : record.started = true) : ∃ out, Ran s.maxOutputBytes.toNat events record out := by
  obtain ⟨scratching, rest, base, rfl, -, tail⟩ := path_bind_iff.1 path
  obtain ⟨seeding, rest, seeded, rfl, -, tail'⟩ := path_bind_iff.1 tail
  cases seeded with
  | error e =>
    obtain ⟨-, rfl⟩ := path_done_iff.1 tail'
    cases started
  | ok directory =>
    obtain ⟨running, rest, answer, rfl, run, last⟩ := path_bind_iff.1 tail'
    cases answer with
    | error e =>
      obtain ⟨-, rfl⟩ := path_done_iff.1 last
      cases started
    | ok recorded =>
      obtain ⟨rfl, rfl⟩ := path_done_iff.1 last
      obtain ⟨out, ran⟩ := run_ran run
      obtain ⟨launch, child, patience, reads, spawned, drained, read⟩ := ran.read
      refine ⟨out, ran.started, ?_, ran.shown, ran.cut, ran.ended⟩
      exact ⟨launch, child, patience, reads, by simp [spawned], by simp [drained], read⟩

end

/-- Only these four things decide. -/
theorem conclude_isMatch_iff {plan : Plan} {r r' : Record} :
    (conclude plan (some r) (some r')).isMatch = true ↔
      r.started = true ∧ r'.started = true ∧ normalize r.stdout = normalize r'.stdout ∧
        r.exitCode = r'.exitCode := by
  have status : Status.of r r' = .completed ↔ r.started = true ∧ r'.started = true := by
    cases first : r.started <;> cases second : r'.started <;> simp [Status.of, first, second]
  simp only [Outcome.isMatch, conclude, Report.of, Option.getD_some, Bool.and_eq_true,
    decide_eq_true_eq, status, and_assoc]

theorem agree_of_ran {cap : Nat} {first second : List (Event host)} {r r' : Record}
    {out out' : Utf8.Bytes} (ran : Ran cap first r out) (ran' : Ran cap second r' out')
    (text : normalize r.stdout = normalize r'.stdout) (code : r.exitCode = r'.exitCode) :
    Agree cap r r' out out' := by
  have kept : normalize (decodeOutput (out.take cap) (cap < out.length)) =
      normalize (decodeOutput (out'.take cap) (cap < out'.length)) := by
    rw [← ran.shown, ← ran'.shown, text]
  have late : r.timedOut = r'.timedOut := by
    have present := ran'.ended
    rw [← code, ran.ended] at present
    exact Bool.not_inj present
  refine ⟨late, fun expired => ?_, fun inTime => ?_, kept, fun fits fits' => ?_⟩
  · have none : r.exitCode = none := by simpa [expired] using ran.ended
    exact ⟨none, code ▸ none⟩
  · obtain ⟨n, some⟩ := Option.isSome_iff_exists.1 (by simpa [inTime] using ran.ended)
    exact ⟨n, some, code ▸ some⟩
  · rw [shown_whole fits, shown_whole fits'] at kept
    exact kept

/-- Behind a match stand two guests that were run, one on each side. They both ran out of time or
ended with the same code, and agree on what is kept of their outputs. -/
theorem match_rests_on_runs {s : Settings} {store : ProjectStore} {q : Inquiry}
    {events : List (Event host)} {o : Outcome}
    (path : Task.Path (compare s store q) events (.ok o)) (same : o.isMatch = true) :
    (Cli.CompareArguments.reply (.ok o)).exit = .success ∧
      ∃ plan front back first second out out', events = front ++ back ∧
        Task.Path (check s store q).run front (.ok plan) ∧
        Interleaved (I := host) .turn id first second back ∧
        Task.Path (runSide s plan .source) first o.source ∧
        Task.Path (runSide s plan .target) second o.target ∧
        Ran s.maxOutputBytes.toNat first o.source out ∧
        Ran s.maxOutputBytes.toNat second o.target out' ∧
        Agree s.maxOutputBytes.toNat o.source o.target out out' := by
  have success : (Cli.CompareArguments.reply (.ok o)).exit = .success := by
    simp [Cli.CompareArguments.reply, Cli.Reply.carriedOut, Cli.Exit.ofBool, same]
  obtain ⟨plan, front, back, first, second, r, r', rfl, checked, mixed, source, target, rfl⟩ :=
    path_compare_sides_iff.1 path
  obtain ⟨started, started', text, code⟩ := conclude_isMatch_iff.1 same
  obtain ⟨out, ran⟩ := runSide_ran source started
  obtain ⟨out', ran'⟩ := runSide_ran target started'
  exact ⟨success, plan, front, back, first, second, out, out', rfl, checked, mixed, source, target,
    ran, ran', agree_of_ran ran ran' text code⟩

theorem match_rests_on_runs_echo :
    ∃ o first second out out',
      Task.Path (compare loneSettings loneStore lonePlan.inquiry)
        (loneChecks ++ loneSides echo) (.ok o) ∧ o.source.timedOut = false ∧
      Ran loneSettings.maxOutputBytes.toNat first o.source out ∧
      Ran loneSettings.maxOutputBytes.toNat second o.target out' ∧
      Agree loneSettings.maxOutputBytes.toNat o.source o.target out out' := by
  have found : (replay (compare loneSettings loneStore lonePlan.inquiry)
      (loneChecks ++ loneSides echo)).map
        (fun answer => answer.toOption.map fun o => (o.isMatch, o.source.timedOut)) =
          some (some (true, false)) := by decide +kernel
  obtain ⟨answer, path, same⟩ := exists_path_of_replay_map found
  cases answer with
  | error r => cases same
  | ok o =>
    obtain ⟨same, inTime⟩ := Prod.mk.inj (Option.some.inj same)
    obtain ⟨-, plan, front, back, first, second, out, out', -, -, -, -, -, ran, ran', agree⟩ :=
      match_rests_on_runs path same
    exact ⟨o, first, second, out, out', path, inTime, ran, ran', agree⟩

/-! ## Guests that do not end -/

/-- No more than three bytes of an output are kept. -/
def narrowSettings : Settings := { loneSettings with maxOutputBytes := 3 }

/-- What becomes of a guest that prints a text and then stays until it is told to end. -/
def lateRun (r : Runtime) (out : String) : List (Event host) :=
  [⟨.poll 42, .ok none⟩, ⟨.now, seconds 30⟩, ⟨.signalGroup 42 .terminate, .ok ()⟩,
    ⟨.now, seconds 30⟩, ⟨.poll 42, .ok (some (.signal 15))⟩,
    ⟨.signalGroup 42 .probe, .error .noProcess⟩, ⟨.wait 42, .ok (.signal 15)⟩,
    ⟨.now, seconds 31⟩, ⟨.signalGroup 42 .kill, .error .noProcess⟩,
    ⟨.drain 42 .out (seconds 2), [.chunk (Utf8.encode out.toList)]⟩,
    ⟨.drain 42 .err (seconds 2), []⟩, ⟨.removeTree (loneDirectory r), .ok ()⟩]

/-- A side up to the start of its guest, and such a guest. -/
def lateSide (r : Runtime) (out : String) : List (Event host) :=
  (loneSide r "").take 10 ++ lateRun r out

/-- Both sides, the target first. -/
def lateSides (out out' : String) : List (Event host) :=
  ((lateSide .target out').flatMap fun e => [⟨.turn, false⟩, e]) ++ lateSide .source out

/-- The record of a guest that ran out of time, and that printed more than was kept. -/
def CutShort (r : Record) : Prop := r.timedOut = true ∧ r.exitCode = none ∧ r.truncated = true

instance : DecidablePred CutShort :=
  fun r => inferInstanceAs (Decidable (r.timedOut = true ∧ r.exitCode = none ∧ r.truncated = true))

/-- Two guests match that print different texts and run out of time. -/
theorem late_isMatch :
    ∃ o, Task.Path (compare narrowSettings loneStore lonePlan.inquiry)
        (loneChecks ++ lateSides "abcd" "abce") (.ok o) ∧ o.isMatch = true ∧
      CutShort o.source ∧ CutShort o.target := by
  have found : (replay (compare narrowSettings loneStore lonePlan.inquiry)
      (loneChecks ++ lateSides "abcd" "abce")).map
        (fun answer => answer.toOption.map fun o =>
          decide (o.isMatch = true ∧ CutShort o.source ∧ CutShort o.target)) =
          some (some true) := by decide +kernel
  obtain ⟨answer, path, same⟩ := exists_path_of_replay_map found
  cases answer with
  | error r => cases same
  | ok o => exact ⟨o, path, of_decide_eq_true (Option.some.inj same)⟩

end Tandem.Project
