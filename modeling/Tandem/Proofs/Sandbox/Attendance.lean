import Tandem.Proofs.Sandbox.Teardown

/-!
The record of a guest, and of one that ends in time.

* `gather_arrived`: what is kept of a stream depends on its bytes, not on how they are read.
* `attend_record`: a record is made of how a guest ended and of what arrived on its outputs.
* `await_in_time`: a guest that is not found running at its deadline is found to have ended.
* `attend_plays`: the record of such a guest holds its exit code and its output.
-/

namespace Tandem.Sandbox

open Tandem.Host Tandem.Host.Task Tandem.Text

/-! ## Streams -/

/-- The reads on a stream bring these bytes. An interrupted read is made again. -/
inductive Delivers : List Read → Utf8.Bytes → Prop where
  | none : Delivers [] []
  | ended (rest : List Read) : Delivers (.chunk [] :: rest) []
  | chunk {bytes later : Utf8.Bytes} {rest : List Read} (some : bytes ≠ [])
      (more : Delivers rest later) : Delivers (.chunk bytes :: rest) (bytes ++ later)
  | again {e : IoError} {bytes : Utf8.Bytes} {rest : List Read}
      (interrupted : e.kind = .interrupted) (more : Delivers rest bytes) :
      Delivers (.failed e :: rest) bytes

theorem delivers_chunk (bytes : Utf8.Bytes) : Delivers [.chunk bytes] bytes := by
  cases bytes with
  | nil => exact .ended []
  | cons byte bytes => simpa using Delivers.chunk (List.cons_ne_nil byte bytes) .none

/-- What a buffer keeps of all the bytes that were pushed to it. -/
def Buffer.keeping (cap : Nat) (bytes : Utf8.Bytes) : Buffer :=
  ⟨bytes.take cap, cap, cap < bytes.length⟩

theorem push_keeping (cap : Nat) (bytes chunk : Utf8.Bytes) :
    (Buffer.keeping cap bytes).push chunk = .keeping cap (bytes ++ chunk) := by
  by_cases full : cap < bytes.length
  · have later : cap < (bytes ++ chunk).length := by
      rw [List.length_append]
      omega
    simp only [Buffer.push, Buffer.keeping, full, later, decide_true, if_true, Buffer.mk.injEq,
      and_true]
    exact (List.take_append_of_le_length (by omega)).symm
  · have all : bytes.take cap = bytes := List.take_of_length_le (by omega)
    by_cases fits : chunk.length ≤ cap - bytes.length
    · have none : ¬ cap < (bytes ++ chunk).length := by
        rw [List.length_append]
        omega
      simp only [Buffer.push, Buffer.keeping, full, none, all, fits, decide_false,
        Bool.false_eq_true, if_false, if_true, Buffer.mk.injEq, and_true]
      exact (List.take_of_length_le (by omega)).symm
    · have more : cap < (bytes ++ chunk).length := by
        rw [List.length_append]
        omega
      simp only [Buffer.push, Buffer.keeping, full, more, all, fits, decide_false, decide_true,
        Bool.false_eq_true, if_false, Buffer.mk.injEq, and_true]
      rw [List.take_append, all]

/-- The bytes that some reads bring, up to the end of the stream. An interrupted read is made again,
any other failure ends the stream. -/
def arrived : List Read → Utf8.Bytes
  | [] => []
  | .chunk [] :: _ => []
  | .chunk bytes :: rest => bytes ++ arrived rest
  | .failed e :: rest => if e.kind = .interrupted then arrived rest else []

theorem gather_keeping (cap : Nat) (before : Utf8.Bytes) (reads : List Read) :
    (Buffer.keeping cap before).gather reads = .keeping cap (before ++ arrived reads) := by
  induction reads generalizing before with
  | nil => simp [Buffer.gather, arrived]
  | cons read rest ih =>
    match read with
    | .chunk [] => simp [Buffer.gather, arrived]
    | .chunk (byte :: bytes) =>
      rw [Buffer.gather, push_keeping, ih, arrived, List.append_assoc]
      · simp
      · simp
    | .failed e =>
      rw [Buffer.gather, arrived]
      split
      · exact ih before
      · rw [List.append_nil]

theorem gather_arrived (cap : Nat) (reads : List Read) :
    (Buffer.empty cap).gather reads = .keeping cap (arrived reads) := by
  have start : Buffer.empty cap = .keeping cap [] := by simp [Buffer.empty, Buffer.keeping]
  rw [start, gather_keeping, List.nil_append]

theorem arrived_of_delivers {bytes : Utf8.Bytes} {reads : List Read} (h : Delivers reads bytes) :
    arrived reads = bytes := by
  induction h with
  | none => rfl
  | ended rest => rfl
  | @chunk bytes later rest some more ih =>
    cases bytes with
    | nil => exact absurd rfl some
    | cons byte bytes => rw [arrived, ih]; simp
  | again interrupted more ih => rw [arrived, if_pos interrupted, ih]

/-! ## Time -/

/-- No clock reading lies before the time that earlier readings and sleeps add up to. -/
def Clocked : Duration → List (Event host) → Prop
  | _, [] => True
  | t, ⟨.now, now⟩ :: rest => t ≤ now ∧ Clocked now rest
  | t, ⟨.sleep wait, _⟩ :: rest => Clocked (t + wait) rest
  | t, _ :: rest => Clocked t rest

theorem Clocked.after {t now : Duration} {front back : List (Event host)}
    (h : Clocked t (front ++ ⟨.now, now⟩ :: back)) : Clocked now back := by
  induction front generalizing t with
  | nil => exact h.2
  | cons e front ih =>
    obtain ⟨c, r⟩ := e
    cases c with
    | now => exact ih h.2
    | _ => exact ih h

theorem Clocked.first {t : Duration} {front back : List (Event host)}
    (h : Clocked t (front ++ back)) : Clocked t front := by
  induction front generalizing t with
  | nil => trivial
  | cons e front ih =>
    obtain ⟨c, r⟩ := e
    cases c with
    | now => exact ⟨h.1, ih h.2⟩
    | _ => exact ih h

theorem not_past {start wait now : Duration} (h : now < start + wait) :
    (deadline? start wait).any (· ≤ now) = false := by
  rw [deadline?]
  split <;> simp
  omega

/-! ## Guests -/

/-- How a guest ends and what it prints. -/
structure Behaviour where
  ending : Ending
  out : Utf8.Bytes
deriving DecidableEq, Repr

namespace Behaviour

/-- The exit code that is recorded. -/
def code? (b : Behaviour) : Option Int32 := (Finish.mk b.ending false).code?

/-- The output that is recorded, of at most so many bytes. -/
def shown (b : Behaviour) (cap : Nat) : String :=
  decodeOutput (Buffer.keeping cap b.out).bytes (Buffer.keeping cap b.out).truncated

end Behaviour

/-- The record of a guest that ended so, where these bytes arrived on its outputs. -/
def recordOf (cap : Nat) (finish : Finish) (elapsed : Duration) (out err : Utf8.Bytes) :
    Record where
  exitCode := finish.code?
  exitSignal := finish.signal?
  stdout := decodeOutput (out.take cap) (cap < out.length)
  stderr := decodeOutput (err.take cap) (cap < err.length)
  truncated := cap < out.length || cap < err.length
  timedOut := finish.timedOut
  elapsedMs := elapsedMs elapsed
  memoryLimited := true
  fault := none

/-- A record shows how a guest behaved, and at most so many bytes of what it printed. -/
structure Shows (b : Behaviour) (cap : Nat) (record : Record) : Prop where
  started : record.fault = none
  code : record.exitCode = b.code?
  out : record.stdout = b.shown cap

/-- What the world says of a child that behaves so: it has ended before a poll past its deadline,
and all that it prints is read. -/
structure Plays (b : Behaviour) (pid : UInt32) (deadline : Duration) (events : List (Event host)) :
    Prop where
  polled : ∀ answer, ⟨.poll pid, answer⟩ ∈ events → answer = .ok none ∨ answer = .ok (some b.ending)
  inTime : ∀ front back now, events = front ++ ⟨.poll pid, .ok none⟩ :: ⟨.now, now⟩ :: back →
    now < deadline
  printed : ∀ patience reads, ⟨.drain pid .out patience, reads⟩ ∈ events → Delivers reads b.out

section
variable {b : Behaviour} {pid : UInt32} {deadline start timeout : Duration}
  {events : List (Event host)}

theorem Plays.part (front : List (Event host)) {back : List (Event host)}
    (h : Plays b pid deadline (front ++ (events ++ back))) : Plays b pid deadline events where
  polled answer he := h.polled answer (by simp [he])
  inTime before after now split :=
    h.inTime (front ++ before) (after ++ back) now (by simp [split])
  printed patience reads he := h.printed patience reads (by simp [he])

theorem Plays.rest (front : List (Event host)) (h : Plays b pid deadline (front ++ events)) :
    Plays b pid deadline events :=
  .part front (by simpa using h : Plays b pid deadline (front ++ (events ++ [])))

/-- The polls that are left always reach the deadline, so the guest ends before they do. -/
theorem await_in_time {g : Guest} {grace t : Duration} {polls : Nat}
    {result : Except SandboxError Finish}
    (path : Task.Path (await g grace (deadline? start timeout) (polls + 1)) events result)
    (plays : Plays b g.pid (start + timeout) events) (clocked : Clocked t events)
    (left : start + timeout ≤ t + polls * pollInterval) :
    result = .ok ⟨b.ending, false⟩ := by
  induction polls generalizing t events with
  | zero =>
    unfold await at path
    obtain ⟨answer, rest, rfl, tail⟩ := path_ask_bind_iff.1 path
    obtain rfl | rfl := plays.polled answer (by simp)
    · obtain ⟨now, rest, rfl, -⟩ := path_ask_bind_iff.1 tail
      have early : now < start + timeout := plays.inTime [] rest now rfl
      have later : t ≤ now := clocked.1
      rw [Nat.zero_mul] at left
      exact absurd early (Nat.not_lt.2 (Nat.le_trans left later))
    · exact (path_done_iff.1 tail).2
  | succ polls ih =>
    unfold await at path
    obtain ⟨answer, rest, rfl, tail⟩ := path_ask_bind_iff.1 path
    obtain rfl | rfl := plays.polled answer (by simp)
    · obtain ⟨now, rest, rfl, tail'⟩ := path_ask_bind_iff.1 tail
      have early : now < start + timeout := plays.inTime [] rest now rfl
      obtain ⟨later, clocked'⟩ : t ≤ now ∧ Clocked now rest := clocked
      rw [not_past early, if_neg Bool.false_ne_true] at tail'
      obtain ⟨slept, rest, rfl, again⟩ := path_ask_bind_iff.1 tail'
      refine ih again (Plays.rest [_, _, _] plays) clocked' ?_
      calc start + timeout ≤ t + (polls + 1) * pollInterval := left
        _ ≤ now + (polls + 1) * pollInterval := Nat.add_le_add_right later _
        _ = now + pollInterval + polls * pollInterval := by
          rw [Nat.succ_mul, Nat.add_comm (polls * pollInterval), Nat.add_assoc]
    · exact (path_done_iff.1 tail).2

theorem polls_reach {l : ResourceLimits} :
    start + l.timeout ≤ start + l.timeout / pollInterval * pollInterval := by
  have whole : l.timeout / pollInterval * pollInterval = l.timeout := by
    refine Nat.div_mul_cancel ⟨l.timeoutSeconds.toNat * 200, ?_⟩
    simp only [ResourceLimits.timeout, seconds, pollInterval, milliseconds]
    omega
  exact Nat.le_of_eq (congrArg (start + ·) whole.symm)

/-- What is collected of a guest: how it ended, and what arrived on its outputs. -/
theorem collect_record {r : Request} {g : Guest} {finish : Finish}
    {result : Except SandboxError Record}
    (path : Task.Path (r.collect g start finish) events result) :
    ∃ patience elapsed out err, ⟨.drain g.pid .out patience, out⟩ ∈ events ∧
      ⟨.drain g.pid .err patience, err⟩ ∈ events ∧
      result = .ok (recordOf r.limits.maxOutputBytes.toNat finish elapsed (arrived out)
        (arrived err)) := by
  obtain ⟨stop, rest, rfl, tail⟩ := path_ask_bind_iff.1 path
  obtain ⟨swept, rest, _, rfl, -, tail'⟩ := path_bind_iff.1 tail
  obtain ⟨drained, rest, kept, rfl, drain, last⟩ := path_bind_iff.1 tail'
  obtain ⟨drained', rest, kept', rfl, drain', nothing⟩ := path_bind_iff.1 last
  obtain ⟨-, rfl⟩ := path_done_iff.1 nothing
  obtain ⟨out, more, rfl, done⟩ := path_ask_bind_iff.1 drain
  obtain ⟨-, rfl⟩ := path_done_iff.1 done
  obtain ⟨err, more', rfl, done'⟩ := path_ask_bind_iff.1 drain'
  obtain ⟨-, rfl⟩ := path_done_iff.1 done'
  refine ⟨max r.limits.killGrace leastDrain, stop - start, out, err, by simp, by simp, ?_⟩
  rw [gather_arrived, gather_arrived]
  rfl

/-- What is recorded of a guest that was started, however it ends. -/
theorem attend_record {r : Request} {child : Child} {record : Record}
    (path : Task.Path (r.attend child start) events (.ok record)) :
    ∃ patience finish elapsed out err, ⟨.drain child.pid .out patience, out⟩ ∈ events ∧
      ⟨.drain child.pid .err patience, err⟩ ∈ events ∧
      record = recordOf r.limits.maxOutputBytes.toNat finish elapsed (arrived out)
        (arrived err) := by
  rw [Request.attend] at path
  split at path
  · rw [follow_eq] at path
    obtain ⟨fed, rest, _, rfl, -, tail⟩ := path_bind_iff.1 path
    obtain ⟨awaited, rest, answer, rfl, -, tail'⟩ := path_bind_iff.1 tail
    cases answer with
    | error e => cases (path_done_iff.1 tail').2
    | ok finish =>
      obtain ⟨patience, elapsed, out, err, drain, drain', made⟩ := collect_record tail'
      refine ⟨patience, finish, elapsed, out, err, ?_, ?_, Except.ok.inj made⟩
      · exact List.mem_append_right _ (List.mem_append_right _ drain)
      · exact List.mem_append_right _ (List.mem_append_right _ drain')
  · obtain ⟨aborted, rest, _, rfl, -, tail⟩ := path_bind_iff.1 path
    cases (path_done_iff.1 tail).2

/-- The record of a guest that ended in time. -/
theorem collect_plays {r : Request} {g : Guest} {result : Except SandboxError Record}
    (path : Task.Path (r.collect g start ⟨b.ending, false⟩) events result)
    (plays : Plays b g.pid deadline events) :
    ∃ record, result = .ok record ∧ Shows b r.limits.maxOutputBytes.toNat record := by
  obtain ⟨patience, elapsed, out, err, drain, -, rfl⟩ := collect_record path
  refine ⟨_, rfl, rfl, rfl, ?_⟩
  rw [arrived_of_delivers (plays.printed patience out drain)]
  rfl

/-- The record of a request whose guest was started and ends in time. -/
theorem attend_plays {r : Request} {child : Child} {result : Except SandboxError Record}
    (path : Task.Path (r.attend child start) events result) (piped : child.piped = true)
    (plays : Plays b child.pid (start + r.limits.timeout) events) (clocked : Clocked start events) :
    ∃ record, result = .ok record ∧ Shows b r.limits.maxOutputBytes.toNat record := by
  rw [Request.attend, if_pos piped, follow_eq] at path
  obtain ⟨fed, rest, _, rfl, feed, tail⟩ := path_bind_iff.1 path
  obtain ⟨awaited, rest, finish, rfl, await, tail'⟩ := path_bind_iff.1 tail
  have clocked' : Clocked start (awaited ++ rest) := by
    rw [Request.feed] at feed
    split at feed
    · obtain rfl := path_ask_iff.1 feed
      exact clocked
    · obtain ⟨rfl, -⟩ := path_done_iff.1 feed
      exact clocked
  obtain rfl := await_in_time await (plays.part fed) clocked'.first polls_reach
  exact collect_plays tail' ((plays.rest fed).rest awaited)

end

end Tandem.Sandbox
