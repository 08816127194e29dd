import Tandem.Proofs.Sandbox.Attendance
import Tandem.Sandbox.Capture

/-!
Streams that are drained in the background.

* `step_keeps`: whoever makes a step, the buffer holds what the first so many reads brought.
* `step_complete`: a reader that has found the end has brought everything.
* `finish_keeps`: so the wait for it gives the first bytes of what some of the reads brought, and of
  what all of them did if the reader was in time.
* `drain_keeps`: the wait of one who is patient gives the first bytes of everything.
-/

namespace Tandem.Sandbox

open Tandem.Host Tandem.Text

/-! ## What reads bring -/

/-- The data of all reads on a supply, up to its end or the first failure that is no interruption. -/
def chunks : List Supply → List Utf8.Bytes
  | [] => []
  | s :: rest =>
    match (takeRead (s :: rest)).1 with
    | .chunk [] => []
    | .chunk bytes => bytes :: chunks (takeRead (s :: rest)).2
    | .failed e => if e.kind = .interrupted then chunks (takeRead (s :: rest)).2 else []
termination_by supply => supplySize supply
decreasing_by all_goals exact supplySize_takeRead_lt

/-- The next read is interrupted. -/
def Supply.interrupts : Supply → Bool
  | .data _ => false
  | .fail e => e.kind = .interrupted

/-- What is kept of some bytes, and whether that is not all of them. -/
def kept (cap : Nat) (bytes : Utf8.Bytes) : Utf8.Bytes × Bool :=
  (bytes.take cap, cap < bytes.length)

section
variable {cap : Nat} {supply rest : List Supply}

theorem chunks_ended (h : takeRead supply = (.chunk [], rest)) : chunks supply = [] := by
  cases supply with
  | nil => rw [chunks]
  | cons s more => rw [chunks, h]

theorem chunks_chunk {bytes : Utf8.Bytes} (some : bytes ≠ [])
    (h : takeRead supply = (.chunk bytes, rest)) : chunks supply = bytes :: chunks rest := by
  cases supply with
  | nil =>
    cases h
    exact absurd rfl some
  | cons s more =>
    cases bytes with
    | nil => exact absurd rfl some
    | cons byte bytes => rw [chunks, h]

theorem chunks_failed {e : IoError} (h : takeRead supply = (.failed e, rest)) :
    chunks supply = if e.kind = .interrupted then chunks rest else [] := by
  cases supply with
  | nil => cases h
  | cons s more => rw [chunks, h]

/-- A supply without its interruptions. -/
def uninterrupted (supply : List Supply) : List Supply := supply.filter fun s => !s.interrupts

theorem takeRead_uninterrupted (bytes : Utf8.Bytes) (rest : List Supply) :
    takeRead (uninterrupted (.data bytes :: rest)) =
      ((takeRead (.data bytes :: rest)).1, uninterrupted (takeRead (.data bytes :: rest)).2) := by
  have stays (bytes : Utf8.Bytes) : uninterrupted (.data bytes :: rest) =
      .data bytes :: uninterrupted rest := by
    simp [uninterrupted, Supply.interrupts]
  rw [stays, takeRead, takeRead]
  split
  · rfl
  · rw [stays]

/-- An interruption leaves no trace. -/
theorem chunks_uninterrupted (supply : List Supply) :
    chunks (uninterrupted supply) = chunks supply := by
  fun_induction chunks supply with
  | case1 => rw [uninterrupted, List.filter_nil, chunks]
  | case2 s rest ended =>
    cases s with
    | data bytes => exact chunks_ended ((takeRead_uninterrupted bytes rest).trans (by rw [ended]))
    | fail e => cases ended
  | case3 s rest bytes some read ih =>
    cases s with
    | data data =>
      rw [chunks_chunk some ((takeRead_uninterrupted data rest).trans (by rw [read])), ih]
    | fail e => cases read
  | case4 s rest e read again ih =>
    cases s with
    | data bytes =>
      rw [takeRead] at read
      split at read <;> cases read
    | fail e' =>
      cases read
      have dropped : uninterrupted (.fail e :: rest) = uninterrupted rest := by
        simp [uninterrupted, Supply.interrupts, again]
      rw [dropped]
      exact ih
  | case5 s rest e read final =>
    cases s with
    | data bytes =>
      rw [takeRead] at read
      split at read <;> cases read
    | fail e' =>
      cases read
      have stays : uninterrupted (.fail e :: rest) = .fail e :: uninterrupted rest := by
        simp [uninterrupted, Supply.interrupts, final]
      rw [stays, chunks_failed rfl, if_neg final]

/-- No read on a supply fails. -/
def Flows (supply : List Supply) : Prop := ∀ s ∈ supply, ∃ bytes, s = .data bytes

theorem Flows.read (flows : Flows supply) :
    (∃ bytes, (takeRead supply).1 = .chunk bytes) ∧ Flows (takeRead supply).2 := by
  cases supply with
  | nil => exact ⟨⟨[], rfl⟩, flows⟩
  | cons s rest =>
    obtain ⟨⟨bytes, rfl⟩, later⟩ := List.forall_mem_cons.1 flows
    rw [takeRead]
    split
    · exact ⟨⟨bytes, rfl⟩, later⟩
    · exact ⟨⟨bytes.take readSize, rfl⟩, List.forall_mem_cons.2 ⟨⟨_, rfl⟩, later⟩⟩

/-- Where no read fails, reading to the end keeps what all reads bring. -/
theorem readToEnd_keeping (flows : Flows supply) (before : Utf8.Bytes) :
    readToEnd (.keeping cap before) supply =
      .ok (.keeping cap (before ++ (chunks supply).flatten)) := by
  fun_induction chunks supply generalizing before with
  | case1 => rw [readToEnd, List.flatten_nil, List.append_nil]
  | case2 s rest ended =>
    rw [readToEnd, ended, List.flatten_nil, List.append_nil]
  | case3 s rest bytes some read ih =>
    obtain ⟨byte, more, rfl⟩ := List.exists_cons_of_ne_nil some
    rw [readToEnd, read]
    dsimp only
    rw [push_keeping, ih flows.read.2, List.flatten_cons, List.append_assoc]
  | case4 s rest e read again ih =>
    obtain ⟨bytes, brought⟩ := flows.read.1
    cases read.symm.trans brought
  | case5 s rest e read final =>
    obtain ⟨bytes, brought⟩ := flows.read.1
    cases read.symm.trans brought

end

/-! ## Steps of the reader and of the one that waits -/

namespace Capture

/-- What the reader has yet to put into the buffer. -/
def left (c : Capture) : List Utf8.Bytes :=
  match c.reader with
  | .reading => chunks c.supply
  | .holding bytes => bytes :: chunks c.supply
  | .ended => []
  | .gone => []

/-- The reader has found the end of the stream, or a failure. -/
def Ended (c : Capture) : Prop := c.reader = .ended ∨ c.reader = .gone

end Capture

/-- The buffer of a capture holds what some reads have brought, the reader has the rest before it,
and who has waited was given what the buffer held once. -/
structure Keeps (cap : Nat) (all : List Utf8.Bytes) (c : Capture) : Prop where
  buffer : ∃ brought, all = brought ++ c.left ∧ c.buffer = .keeping cap brought.flatten
  served : ∀ bytes truncated, c.waiter = .served bytes truncated →
    ∃ k, (bytes, truncated) = kept cap (all.take k).flatten

section
variable {cap : Nat} {all : List Utf8.Bytes} {supply : List Supply} {heldOpen : Bool} {c : Capture}

theorem read_keeps (keeps : Keeps cap all c) (reading : c.reader = .reading) :
    Keeps cap all c.read := by
  obtain ⟨⟨brought, rfl, held⟩, served⟩ := keeps
  have rest : c.left = chunks c.supply := by rw [Capture.left, reading]
  rw [Capture.read]
  split
  · rename_i later read
    exact ⟨⟨brought, by rw [rest, chunks_ended read]; rfl, held⟩, served⟩
  · rename_i bytes later some read
    have chunk : chunks c.supply = bytes :: chunks later := by
      refine chunks_chunk ?_ read
      rintro rfl
      exact some rfl
    exact ⟨⟨brought, by rw [rest, chunk]; rfl, held⟩, served⟩
  · rename_i e later read
    refine ⟨⟨brought, ?_, held⟩, served⟩
    rw [rest, chunks_failed read, Capture.left]
    split <;> rfl

/-- Whoever makes a step, what is in the buffer and what the reader has before it are all there is. -/
theorem step_keeps (keeps : Keeps cap all c) (turn : Turn) : Keeps cap all (c.step turn) := by
  cases turn with
  | reader =>
    cases reader : c.reader with
    | reading =>
      simp only [Capture.step, reader]
      split
      · exact keeps
      · exact read_keeps keeps reader
    | holding bytes =>
      obtain ⟨⟨brought, rfl, held⟩, served⟩ := keeps
      have rest : c.left = bytes :: chunks c.supply := by rw [Capture.left, reader]
      simp only [Capture.step, reader]
      refine ⟨⟨brought ++ [bytes], ?_, ?_⟩, served⟩
      · rw [rest, List.append_assoc]
        rfl
      · rw [held, push_keeping, List.flatten_append, List.flatten_singleton]
    | ended =>
      obtain ⟨⟨brought, rfl, held⟩, served⟩ := keeps
      have rest : c.left = [] := by rw [Capture.left, reader]
      simp only [Capture.step, reader]
      exact ⟨⟨brought, by rw [rest]; rfl, held⟩, served⟩
    | gone =>
      simp only [Capture.step, reader]
      exact keeps
  | waiter timeIsUp =>
    obtain ⟨⟨brought, whole, held⟩, served⟩ := keeps
    cases waiter : c.waiter with
    | waiting =>
      simp only [Capture.step, waiter]
      split
      · exact ⟨⟨brought, whole, held⟩, by simp⟩
      · exact ⟨⟨brought, whole, held⟩, served⟩
    | woken =>
      simp only [Capture.step, waiter]
      refine ⟨⟨brought, whole, held⟩, ?_⟩
      rintro _ _ ⟨⟩
      refine ⟨brought.length, ?_⟩
      rw [whole, List.take_left, held]
      rfl
    | served bytes truncated =>
      simp only [Capture.step, waiter]
      exact ⟨⟨brought, whole, held⟩, served⟩

theorem after_keeps (keeps : Keeps cap all c) (turns : List Turn) :
    Keeps cap all (c.after turns) := by
  induction turns generalizing c with
  | nil => exact keeps
  | cons turn turns ih => exact ih (step_keeps keeps turn)

theorem start_keeps (cap : Nat) (supply : List Supply) (heldOpen : Bool) :
    Keeps cap (chunks supply) (.start cap supply heldOpen) := by
  refine ⟨⟨[], rfl, ?_⟩, by simp [Capture.start]⟩
  simp [Capture.start, Buffer.empty, Buffer.keeping]

/-! ## A reader in time -/

/-- Everything is in the buffer, and whoever has waited was given it. -/
structure Complete (cap : Nat) (all : List Utf8.Bytes) (c : Capture) : Prop where
  ended : c.Ended
  buffer : c.buffer = .keeping cap all.flatten
  served : ∀ bytes truncated, c.waiter = .served bytes truncated →
    (bytes, truncated) = kept cap all.flatten

theorem complete_of_keeps (keeps : Keeps cap all c) (ended : c.Ended)
    (waiting : c.waiter = .waiting) : Complete cap all c := by
  obtain ⟨⟨brought, rfl, held⟩, -⟩ := keeps
  have nothing : c.left = [] := by
    obtain ended | gone := ended
    · rw [Capture.left, ended]
    · rw [Capture.left, gone]
  refine ⟨ended, ?_, by simp [waiting]⟩
  rw [nothing, List.append_nil, held]

theorem step_complete (complete : Complete cap all c) (turn : Turn) :
    Complete cap all (c.step turn) := by
  obtain ⟨ended, held, served⟩ := complete
  cases turn with
  | reader =>
    obtain ended | gone := ended
    · simp only [Capture.step, ended]
      exact ⟨.inr rfl, held, served⟩
    · simp only [Capture.step, gone]
      exact ⟨.inr gone, held, served⟩
  | waiter timeIsUp =>
    cases waiter : c.waiter with
    | waiting =>
      simp only [Capture.step, waiter]
      split
      · exact ⟨ended, held, by simp⟩
      · exact ⟨ended, held, served⟩
    | woken =>
      simp only [Capture.step, waiter]
      refine ⟨ended, held, ?_⟩
      rintro _ _ ⟨⟩
      rw [held]
      rfl
    | served bytes truncated =>
      simp only [Capture.step, waiter]
      exact ⟨ended, held, served⟩

theorem after_complete (complete : Complete cap all c) (turns : List Turn) :
    Complete cap all (c.after turns) := by
  induction turns generalizing c with
  | nil => exact complete
  | cons turn turns ih => exact ih (step_complete complete turn)

theorem after_append (c : Capture) (front back : List Turn) :
    c.after (front ++ back) = (c.after front).after back := List.foldl_append

theorem finish_eq_some_iff {turns : List Turn} {bytes : Utf8.Bytes} {truncated : Bool} :
    c.finish turns = some (bytes, truncated) ↔ (c.after turns).waiter = .served bytes truncated := by
  rw [Capture.finish]
  cases (c.after turns).waiter <;> simp

/-- Who waits has something in the end, as its time is up one day. -/
theorem finish_serves (c : Capture) (turns : List Turn) :
    ∃ result, c.finish (turns ++ [.waiter true, .waiter true]) = some result := by
  have two : ((c.after turns).step (.waiter true)).step (.waiter true) =
      c.after (turns ++ [.waiter true, .waiter true]) :=
    (after_append c turns [.waiter true, .waiter true]).symm
  rw [Capture.finish, ← two]
  cases waiter : (c.after turns).waiter <;> simp [Capture.step, waiter]

/-- The reader finds the end of the stream, or a failure, while it is waited for. -/
def InTime (c : Capture) (turns : List Turn) : Prop :=
  ∃ front back, turns = front ++ back ∧ (c.after front).Ended ∧ (c.after front).waiter = .waiting

/-- However the steps of the reader and of the one that waits alternate, what the wait gives is what
is kept of the data of the first so many reads that brought any, interruptions or none, and of all
of them if the reader is in time. That is what reading to the end keeps, if no read fails. -/
theorem finish_keeps (cap : Nat) (supply : List Supply) (heldOpen : Bool) (turns : List Turn) :
    (∀ result, (Capture.start cap supply heldOpen).finish turns = some result →
      (∃ k, result = kept cap ((chunks (uninterrupted supply)).take k).flatten) ∧
      (InTime (.start cap supply heldOpen) turns →
        result = kept cap (chunks (uninterrupted supply)).flatten ∧
        (Flows supply → ∃ b, readToEnd (.empty cap) supply = .ok b ∧
          result = (b.bytes, b.truncated)))) ∧
    ∃ result, (Capture.start cap supply heldOpen).finish
      (turns ++ [.waiter true, .waiter true]) = some result := by
  refine ⟨fun result given => ?_, finish_serves _ turns⟩
  obtain ⟨bytes, truncated⟩ := result
  have served := finish_eq_some_iff.1 given
  rw [chunks_uninterrupted]
  refine ⟨(after_keeps (start_keeps cap supply heldOpen) turns).served bytes truncated served, ?_⟩
  rintro ⟨front, back, rfl, ended, waiting⟩
  have complete : Complete cap (chunks supply) ((Capture.start cap supply heldOpen).after front) :=
    complete_of_keeps (after_keeps (start_keeps cap supply heldOpen) front) ended waiting
  rw [after_append] at served
  have all : (bytes, truncated) = kept cap (chunks supply).flatten :=
    (after_complete complete back).served bytes truncated served
  refine ⟨all, fun flows => ⟨.keeping cap (chunks supply).flatten, ?_, all⟩⟩
  have start : Buffer.empty cap = .keeping cap [] := by simp [Buffer.empty, Buffer.keeping]
  rw [start, readToEnd_keeping flows, List.nil_append]

/-- Two chunks, of which the second does not fit into a buffer of three bytes. -/
def pairSupply : List Supply := [.data [1, 2], .data [3, 4]]

theorem finish_keeps_pair : ∃ result,
    (Capture.start 3 pairSupply false).finish (Capture.patient pairSupply) = some result ∧
      result = kept 3 (chunks (uninterrupted pairSupply)).flatten ∧
      ∃ b, readToEnd (.empty 3) pairSupply = .ok b ∧ result = (b.bytes, b.truncated) := by
  have given : (Capture.start 3 pairSupply false).finish (Capture.patient pairSupply) =
      some ([1, 2, 3], true) := by decide
  have inTime : InTime (.start 3 pairSupply false) (Capture.patient pairSupply) :=
    ⟨List.replicate 5 .reader, _, rfl, .inl (by decide), by decide⟩
  have flows : Flows pairSupply := by simp [Flows, pairSupply]
  obtain ⟨all, same⟩ := ((finish_keeps 3 pairSupply false _).1 _ given).2 inTime
  exact ⟨_, given, all, same flows⟩

/-! ## One who is patient -/

/-- A bound on the steps of a reader before it has nothing left to do. -/
def Capture.work (c : Capture) : Nat :=
  match c.reader with
  | .reading => 2 * supplySize c.supply + 2
  | .holding _ => 2 * supplySize c.supply + 3
  | .ended => 1
  | .gone => 0

/-- The reader is gone, or blocks for good. -/
def Capture.Idle (c : Capture) : Prop :=
  c.reader = .gone ∨ c.reader = .reading ∧ c.heldOpen = true ∧ c.supply = []

theorem step_of_idle (idle : c.Idle) : c.step .reader = c := by
  obtain gone | ⟨reading, heldOpen, empty⟩ := idle
  · simp only [Capture.step, gone]
  · simp [Capture.step, reading, heldOpen, empty]

theorem read_work (reading : c.reader = .reading) : c.read.work < c.work := by
  have work : c.work = 2 * supplySize c.supply + 2 := by rw [Capture.work, reading]
  have shorter : supplySize (takeRead c.supply).2 < supplySize c.supply ∨
      takeRead c.supply = (.chunk [], []) := by
    cases c.supply with
    | nil => exact .inr rfl
    | cons s rest => exact .inl supplySize_takeRead_lt
  rw [work, Capture.read]
  split
  · simp [Capture.work]
  · rename_i bytes later some read
    rw [read] at shorter
    have smaller : supplySize later < supplySize c.supply := by
      refine shorter.resolve_right fun ended => ?_
      injection ended with empty
      injection empty with empty
      exact some empty
    simp only [Capture.work]
    omega
  · rename_i e later read
    rw [read] at shorter
    have smaller : supplySize later < supplySize c.supply := by
      refine shorter.resolve_right fun ended => ?_
      cases ended
    simp only [Capture.work]
    split <;> simp <;> omega

theorem step_work (busy : ¬ c.Idle) : (c.step .reader).work < c.work := by
  cases reader : c.reader with
  | reading =>
    have open' : (c.heldOpen && c.supply.isEmpty) = false := by
      rw [Capture.Idle] at busy
      simp_all
    simp only [Capture.step, reader, open']
    exact read_work reader
  | holding bytes => simp [Capture.step, Capture.work, reader]
  | ended => simp [Capture.step, Capture.work, reader]
  | gone => exact absurd (.inl reader) busy

theorem after_of_idle (idle : c.Idle) (n : Nat) : c.after (List.replicate n .reader) = c := by
  induction n with
  | zero => rfl
  | succ n ih =>
    rw [List.replicate_succ, Capture.after, List.foldl_cons, step_of_idle idle]
    exact ih

/-- After enough steps of the reader it has nothing left to do. -/
theorem idle_after {n : Nat} (enough : c.work ≤ n) :
    (c.after (List.replicate n .reader)).Idle := by
  induction n generalizing c with
  | zero =>
    cases reader : c.reader <;> simp [Capture.work, reader] at enough
    exact .inl reader
  | succ n ih =>
    by_cases idle : c.Idle
    · rw [after_of_idle idle]
      exact idle
    · have less := step_work idle
      exact ih (by omega)

theorem left_of_idle (idle : c.Idle) : c.left = [] := by
  obtain gone | ⟨reading, -, empty⟩ := idle
  · rw [Capture.left, gone]
  · rw [Capture.left, reading, empty]
    exact chunks_ended rfl

theorem after_reader_waiter (c : Capture) (n : Nat) :
    (c.after (List.replicate n .reader)).waiter = c.waiter := by
  induction n generalizing c with
  | zero => rfl
  | succ n ih =>
    have same : (c.step .reader).waiter = c.waiter := by
      rw [Capture.step]
      split
      · split
        · rfl
        · rw [Capture.read]
          split <;> rfl
      · rfl
      · rfl
      · rfl
    exact (ih _).trans same

/-- What is kept of everything, if the one that waits is patient. -/
theorem drain_keeps (cap : Nat) (supply : List Supply) (heldOpen : Bool) :
    (Capture.start cap supply heldOpen).drain = kept cap (chunks supply).flatten := by
  let reads := List.replicate (2 * supplySize supply + 2) Turn.reader
  let c := (Capture.start cap supply heldOpen).after reads
  have idle : c.Idle := idle_after (Nat.le_refl (2 * supplySize supply + 2))
  have waiting : c.waiter = .waiting := after_reader_waiter _ _
  obtain ⟨⟨brought, whole, held⟩, -⟩ := after_keeps (start_keeps cap supply heldOpen) reads
  have all : chunks supply = brought := by
    rw [whole, left_of_idle idle, List.append_nil]
  have served : ((c.step (.waiter true)).step (.waiter true)).waiter =
      .served c.buffer.bytes c.buffer.truncated := by
    simp [Capture.step, waiting]
  have given : (Capture.start cap supply heldOpen).finish (Capture.patient supply) =
      some (c.buffer.bytes, c.buffer.truncated) := by
    rw [finish_eq_some_iff, Capture.patient, after_append]
    exact served
  have result : (Capture.start cap supply heldOpen).drain =
      (c.buffer.bytes, c.buffer.truncated) := congrArg (Option.getD · ([], false)) given
  rw [result, held, ← all]
  rfl

end

end Tandem.Sandbox
