import Tandem.Proofs.Sandbox.Attendance
import Tandem.Proofs.Sandbox.Truncation

/-!
The size of a recorded output.

* `length_encode_decode_le`: text grows by decoding only where bytes are no text. Each such part is
  replaced by one character of three bytes.
* `run_bounds_output`: the cap is on the bytes that are kept, so an output that is text is recorded
  within it, and any other within three times as much.
* `byte_exceeds`: an output that is no text may be recorded in more bytes than were kept.
-/

namespace Tandem.Sandbox

open Tandem.Host Tandem.Host.Task Tandem.Text Tandem.Text.Utf8

/-! ## Parts that are no text -/

/-- The number of parts of a byte sequence that decoding replaces. -/
def illFormed : Bytes → Nat
  | [] => 0
  | b :: rest => (if (first b rest).1 = none then 1 else 0) + illFormed (first b rest).2
termination_by bytes => bytes.length
decreasing_by exact Nat.lt_succ_of_le (length_first_le b rest)

section
variable {bytes kept output : Bytes} {cap : Nat} {text : String}

theorem length_encode_decode_le (bytes : Bytes) :
    (encode (decode bytes)).length ≤ bytes.length + 2 * illFormed bytes := by
  fun_induction decode bytes with
  | case1 => simp [encode]
  | case2 b rest ih =>
    rw [encode_cons, List.length_append, illFormed, List.length_cons]
    cases read : (first b rest).1 with
    | none =>
      have replaced : (encodeChar replacement).length = 3 := by decide
      have shorter := length_first_le b rest
      rw [Option.getD_none, replaced, if_pos rfl]
      omega
    | some c =>
      have whole : b :: rest = encodeChar c ++ (first b rest).2 :=
        first_eq_some_iff.1 (Prod.ext read rfl)
      have parts : rest.length + 1 = (encodeChar c).length + (first b rest).2.length := by
        rw [← List.length_cons, whole, List.length_append]
      rw [Option.getD_some, if_neg (Option.some_ne_none c)]
      omega

/-- Every part that is replaced has a byte of its own. -/
theorem illFormed_le_length (bytes : Bytes) : illFormed bytes ≤ bytes.length := by
  fun_induction illFormed bytes with
  | case1 => exact Nat.le_refl 0
  | case2 b rest ih =>
    have shorter := length_first_le b rest
    rw [List.length_cons]
    split <;> omega

theorem illFormed_encode (chars : List Char) : illFormed (encode chars) = 0 := by
  induction chars with
  | nil => rw [encode, List.flatMap_nil, illFormed]
  | cons c chars ih =>
    obtain ⟨b, more, bytes⟩ := List.exists_cons_of_ne_nil (encodeChar_ne_nil c)
    have read : first b (more ++ encode chars) = (some c, encode chars) :=
      first_eq_some_iff.2 (by rw [bytes, List.cons_append])
    rw [encode_cons, bytes, List.cons_append, illFormed, read, ih, if_neg (Option.some_ne_none c)]

theorem length_encodeChar (c : Char) : (encodeChar c).length = c.utf8Size := by
  have value : c.toNat = c.val.toNat := rfl
  simp only [encodeChar, Char.utf8Size, UInt32.le_iff_toNat_le, UInt32.reduceOfNatLT,
    UInt32.reduceToNat, value]
  split
  · rw [if_pos (by omega)]
    rfl
  split
  · rw [if_neg (by omega), if_pos (by omega)]
    rfl
  split
  · rw [if_neg (by omega), if_neg (by omega), if_pos (by omega)]
    rfl
  · rw [if_neg (by omega), if_neg (by omega), if_neg (by omega)]
    rfl

theorem utf8ByteSize_ofList (chars : List Char) :
    (String.ofList chars).utf8ByteSize = (encode chars).length := by
  induction chars with
  | nil => simp [encode]
  | cons c chars ih =>
    rw [String.ofList_cons, String.utf8ByteSize_append, String.utf8ByteSize_singleton, ih,
      encode_cons, List.length_append, length_encodeChar]

/-! ## Records -/

/-- A text is made of at most so many bytes of an output, and no longer than they are but for the
parts of them that are no text. -/
structure Bounded (cap : Nat) (output : Bytes) (text : String) : Prop where
  kept : ∃ kept, kept <+: output ∧ kept.length ≤ cap ∧ text = String.ofList (decode kept) ∧
    text.utf8ByteSize ≤ kept.length + 2 * illFormed kept
  threefold : text.utf8ByteSize ≤ 3 * cap
  /-- An output that is text is recorded within the cap. -/
  sound : ∀ chars, output = encode chars → text.utf8ByteSize ≤ cap

/-- What is recorded of an output that was kept up to a cap. -/
theorem decodeOutput_bounded (cap : Nat) (output : Bytes) :
    Bounded cap output (decodeOutput (output.take cap) (cap < output.length)) := by
  obtain ⟨kept, front, short, shown, sound⟩ : ∃ kept, kept <+: output ∧ kept.length ≤ cap ∧
      decodeOutput (output.take cap) (cap < output.length) = String.ofList (decode kept) ∧
      ∀ chars, output = encode chars → illFormed kept = 0 := by
    by_cases cut : cap < output.length
    · obtain ⟨lost, parts, -, -⟩ := trimCut_splits (output.take cap) []
      have front : trimCut (output.take cap) <+: output.take cap := ⟨lost, parts.symm⟩
      refine ⟨trimCut (output.take cap), front.trans (List.take_prefix _ _), ?_, ?_, ?_⟩
      · exact Nat.le_trans front.length_le (List.length_take_le cap output)
      · rw [decide_eq_true cut, decodeOutput, if_pos rfl]
      · rintro chars rfl
        obtain ⟨before, c, later, k, rfl, part, -, taken⟩ := encode_take cut
        rw [taken, trimCut_encode_part before c part, illFormed_encode]
    · have all : output.take cap = output := List.take_of_length_le (Nat.not_lt.1 cut)
      refine ⟨output, List.prefix_refl _, Nat.not_lt.1 cut, ?_, ?_⟩
      · rw [all, decide_eq_false cut, decodeOutput, if_neg Bool.false_ne_true]
      · rintro chars rfl
        exact illFormed_encode chars
  have size : (String.ofList (decode kept)).utf8ByteSize ≤ kept.length + 2 * illFormed kept := by
    rw [utf8ByteSize_ofList]
    exact length_encode_decode_le kept
  have few := illFormed_le_length kept
  rw [shown]
  refine ⟨⟨kept, front, short, rfl, size⟩, by omega, fun chars same => ?_⟩
  have none := sound chars same
  omega

end

/-- Both texts of the record of a run are bounded by what was read of the guest's outputs. -/
theorem run_bounds_output {r : Request} {events : List (Event host)} {record : Record}
    (path : Task.Path r.run events (.ok record)) :
    ∃ launch child patience out err, ⟨.spawn launch, .ok child⟩ ∈ events ∧
      ⟨.drain child.pid .out patience, out⟩ ∈ events ∧
      ⟨.drain child.pid .err patience, err⟩ ∈ events ∧
      Bounded r.limits.maxOutputBytes.toNat (arrived out) record.stdout ∧
      Bounded r.limits.maxOutputBytes.toNat (arrived err) record.stderr := by
  obtain ⟨running, rest, answer, rfl, attempt, tail⟩ := path_bind_iff.1 path
  obtain ⟨removing, rest, _, rfl, -, last⟩ := path_bind_iff.1 tail
  obtain ⟨rfl, rfl⟩ := path_done_iff.1 last
  obtain ⟨-, -, same⟩ | ⟨-, env, start, ⟨e, -, same⟩ | ⟨child, more, rfl, attend⟩⟩ :=
    attempt_cases attempt
  · cases same
  · cases same
  · obtain ⟨patience, finish, elapsed, out, err, drained, drained', rfl⟩ := attend_record attend
    refine ⟨r.started env, child, patience, out, err, ?_, ?_, ?_, ?_, ?_⟩
    · simp
    · simp [drained]
    · simp [drained']
    · exact decodeOutput_bounded _ (arrived out)
    · exact decodeOutput_bounded _ (arrived err)

/-- A request that keeps one byte of each output. -/
def byteRequest : Request where
  interpreter := ⟨"/bin/sh"⟩
  directory := ⟨⟨"/tmp/tandem_1_0"⟩⟩
  entry := ⟨"main.sh"⟩
  input := none
  limits := { ResourceLimits.standard with maxOutputBytes := 1 }
  moduleVariable := none

/-- The guest prints one byte that begins no character, and ends. -/
def byteEvents : List (Event host) :=
  [⟨.environment, []⟩, ⟨.now, 7⟩, ⟨.spawn (byteRequest.started []), .ok ⟨42, true⟩⟩,
    ⟨.poll 42, .ok (some (.code 0))⟩, ⟨.now, 8⟩, ⟨.signalGroup 42 .kill, .error .noProcess⟩,
    ⟨.drain 42 .out (seconds 2), [.chunk [0xff]]⟩, ⟨.drain 42 .err (seconds 2), []⟩,
    ⟨.removeTree ⟨"/tmp/tandem_1_0"⟩, .ok ()⟩]

theorem run_bounds_output_byte : ∃ record out err,
    Task.Path byteRequest.run byteEvents (.ok record) ∧ Bounded 1 (arrived out) record.stdout ∧
      Bounded 1 (arrived err) record.stderr := by
  have found : (replay byteRequest.run byteEvents).map
      (fun answer => answer.toOption.isSome) = some true := by decide +kernel
  obtain ⟨answer, path, same⟩ := exists_path_of_replay_map found
  cases answer with
  | error e => cases same
  | ok record =>
    obtain ⟨launch, child, patience, out, err, -, -, -, bounded, bounded'⟩ :=
      run_bounds_output path
    exact ⟨record, out, err, path, bounded, bounded'⟩

/-- An output of one byte that is no text is recorded in three. -/
theorem byte_exceeds : ∃ record, Task.Path byteRequest.run byteEvents (.ok record) ∧
    byteRequest.limits.maxOutputBytes.toNat < record.stdout.utf8ByteSize := by
  have found : (replay byteRequest.run byteEvents).map
      (fun answer => answer.toOption.map fun record => record.stdout) =
        some (some "\ufffd") := by decide +kernel
  obtain ⟨answer, path, same⟩ := exists_path_of_replay_map found
  cases answer with
  | error e => cases same
  | ok record =>
    refine ⟨record, path, ?_⟩
    rw [show record.stdout = "\ufffd" from Option.some.inj same]
    decide

end Tandem.Sandbox
