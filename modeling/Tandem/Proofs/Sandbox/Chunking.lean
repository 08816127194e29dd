import Tandem.Proofs.Sandbox.Attendance

/-!
Data that comes in chunks, and where the cuts between them do not matter.

* `foldl_push`: a buffer keeps the first bytes of all that was pushed to it.
* `readThrough_data`, `readThrough_fail`, `readThrough_end`: what reading to the end does with what a
  stream holds ready first, in however many reads.
* `capped_whatever_the_chunks`: so pushing and reading to the end keep the first bytes of everything,
  and reading ends where the stream does or where a read fails, and nowhere before.
-/

namespace Tandem.Sandbox

open Tandem.Host Tandem.Text

/-! ## Pushing -/

theorem empty_eq_keeping (cap : Nat) : Buffer.empty cap = .keeping cap [] := by
  simp [Buffer.empty, Buffer.keeping]

/-- A buffer keeps the first bytes of all that was pushed to it, wherever that was cut. -/
theorem foldl_push (cap : Nat) (before : Utf8.Bytes) (chunks : List Utf8.Bytes) :
    chunks.foldl Buffer.push (.keeping cap before) = .keeping cap (before ++ chunks.flatten) := by
  induction chunks generalizing before with
  | nil => rw [List.foldl_nil, List.flatten_nil, List.append_nil]
  | cons chunk chunks ih =>
    rw [List.foldl_cons, push_keeping, ih, List.flatten_cons, List.append_assoc]

/-! ## Reading -/

/-- What a stream holds ready before its end. -/
def beforeEnd (supply : List Supply) : List Supply := supply.takeWhile fun s => s ≠ .data []

/-- What it holds ready behind its end. -/
def behindEnd (supply : List Supply) : List Supply := supply.drop ((beforeEnd supply).length + 1)

namespace Supply

def bytes : Supply → Utf8.Bytes
  | data bytes => bytes
  | fail _ => []

def failure? : Supply → Option IoError
  | data _ => none
  | fail e => some e

end Supply

/-- All data of a stream up to its end. -/
def dataToEnd (supply : List Supply) : Utf8.Bytes := (beforeEnd supply).flatMap Supply.bytes

/-- The first failure of a stream up to its end. -/
def failureToEnd? (supply : List Supply) : Option IoError :=
  (beforeEnd supply).findSome? Supply.failure?

/-- Reading to the end, and what the stream holds when that is over. -/
def readThrough (buffer : Buffer) (supply : List Supply) : Except IoError Buffer × List Supply :=
  match supply with
  | [] => (.ok buffer, [])
  | s :: rest =>
    match (takeRead (s :: rest)).1 with
    | .failed e => (.error e, (takeRead (s :: rest)).2)
    | .chunk [] => (.ok buffer, (takeRead (s :: rest)).2)
    | .chunk bytes => readThrough (buffer.push bytes) (takeRead (s :: rest)).2
termination_by supplySize supply
decreasing_by exact supplySize_takeRead_lt

section
variable {cap : Nat} {buffer : Buffer} {before bytes : Utf8.Bytes} {e : IoError}
  {rest supply : List Supply}

theorem readThrough_fst (buffer : Buffer) (supply : List Supply) :
    (readThrough buffer supply).1 = readToEnd buffer supply := by
  fun_induction readThrough buffer supply with
  | case1 buffer => rw [readToEnd]
  | case2 buffer s rest e read => rw [readToEnd, read]
  | case3 buffer s rest read => rw [readToEnd, read]
  | case4 buffer s rest bytes some read ih =>
    obtain ⟨byte, more, rfl⟩ := List.exists_cons_of_ne_nil some
    rw [readToEnd, read]
    exact ih

theorem readThrough_end (buffer : Buffer) (rest : List Supply) :
    readThrough buffer (.data [] :: rest) = (.ok buffer, rest) := by
  rw [readThrough]
  rfl

theorem readThrough_fail (buffer : Buffer) (e : IoError) (rest : List Supply) :
    readThrough buffer (.fail e :: rest) = (.error e, rest) := by
  rw [readThrough]
  rfl

/-- Data that stands ready is taken as if one read had room for all of it. -/
theorem readThrough_data (cap : Nat) (before bytes : Utf8.Bytes) (rest : List Supply)
    (some : bytes ≠ []) :
    readThrough (.keeping cap before) (.data bytes :: rest) =
      readThrough (.keeping cap (before ++ bytes)) rest := by
  induction size : bytes.length using Nat.strongRecOn generalizing before bytes with
  | ind size ih =>
    subst size
    obtain ⟨byte, more, rfl⟩ := List.exists_cons_of_ne_nil some
    by_cases fits : (byte :: more).length ≤ readSize
    · rw [readThrough, takeRead, if_pos fits]
      dsimp only
      rw [push_keeping]
    · -- The first read takes a part, and what it leaves stands ready for the next one.
      have part : (byte :: more).take readSize = byte :: more.take (readSize - 1) := rfl
      have left : (byte :: more).drop readSize ≠ [] := by
        rw [Ne, List.drop_eq_nil_iff]
        exact fits
      have shorter : ((byte :: more).drop readSize).length < (byte :: more).length := by
        rw [List.length_drop]
        simp only [readSize] at fits ⊢
        omega
      rw [readThrough, takeRead, if_neg fits, part]
      dsimp only
      rw [← part, push_keeping, ih _ shorter _ _ left rfl, List.append_assoc,
        List.take_append_drop]

/-! ## Up to the end of a stream -/

theorem beforeEnd_end (rest : List Supply) : beforeEnd (.data [] :: rest) = [] := rfl

theorem beforeEnd_data (some : bytes ≠ []) :
    beforeEnd (.data bytes :: rest) = .data bytes :: beforeEnd rest := by
  rw [beforeEnd, List.takeWhile_cons_of_pos (by simpa using some)]
  rfl

/-- What comes of reading on: all data up to the end of the stream, which then is behind the reader,
unless a read fails before. -/
theorem readThrough_keeping (cap : Nat) (before : Utf8.Bytes) (supply : List Supply) :
    (failureToEnd? supply = none → readThrough (.keeping cap before) supply =
      (.ok (.keeping cap (before ++ dataToEnd supply)), behindEnd supply)) ∧
    ∀ e, failureToEnd? supply = some e →
      (readThrough (.keeping cap before) supply).1 = .error e := by
  induction supply generalizing before with
  | nil =>
    refine ⟨fun _ => ?_, by simp [failureToEnd?, beforeEnd]⟩
    rw [readThrough, dataToEnd, beforeEnd, List.takeWhile_nil, List.flatMap_nil, List.append_nil]
    rfl
  | cons s rest ih =>
    match s with
    | .fail e =>
      have first : failureToEnd? (.fail e :: rest) = some e := rfl
      rw [first, readThrough_fail]
      exact ⟨by simp, fun e' same => congrArg Except.error (Option.some.inj same)⟩
    | .data [] =>
      refine ⟨fun _ => ?_, by simp [failureToEnd?, beforeEnd_end]⟩
      rw [readThrough_end, dataToEnd, behindEnd, beforeEnd_end, List.flatMap_nil, List.append_nil]
      rfl
    | .data (byte :: more) =>
      have some : byte :: more ≠ [] := List.cons_ne_nil byte more
      have failure : failureToEnd? (.data (byte :: more) :: rest) = failureToEnd? rest := by
        rw [failureToEnd?, beforeEnd_data some]
        rfl
      have all : dataToEnd (.data (byte :: more) :: rest) = byte :: more ++ dataToEnd rest := by
        rw [dataToEnd, beforeEnd_data some]
        rfl
      have behind : behindEnd (.data (byte :: more) :: rest) = behindEnd rest := by
        rw [behindEnd, beforeEnd_data some]
        rfl
      rw [failure, all, behind, readThrough_data _ _ _ _ some, ← List.append_assoc]
      exact ih _

theorem failureToEnd?_eq_none_iff :
    failureToEnd? supply = none ↔ ∀ s ∈ beforeEnd supply, s.failure? = none :=
  List.findSome?_eq_none_iff

end

/-- Where data is cut into chunks never shows.

After any pushes, empty ones included, a buffer holds the first `cap` bytes of all that was pushed,
and says that it was cut just if there were more. Reading a stream to its end succeeds just if no
read before the end fails; it then has read up to the end of the stream, however early the buffer
was full, and it gives the first `cap` bytes of all data up to there and whether there were more.
Else it gives the first failure. -/
theorem capped_whatever_the_chunks (cap : Nat) :
    (∀ chunks : List Utf8.Bytes,
      (chunks.foldl Buffer.push (.empty cap)).bytes = chunks.flatten.take cap ∧
      ((chunks.foldl Buffer.push (.empty cap)).truncated = true ↔ cap < chunks.flatten.length)) ∧
    ∀ supply : List Supply,
      ((∃ b, readToEnd (.empty cap) supply = .ok b) ↔
        ∀ s ∈ beforeEnd supply, s.failure? = none) ∧
      (∀ b, readToEnd (.empty cap) supply = .ok b →
        b.bytes = (dataToEnd supply).take cap ∧
        (b.truncated = true ↔ cap < (dataToEnd supply).length) ∧
        readThrough (.empty cap) supply = (readToEnd (.empty cap) supply, behindEnd supply)) ∧
      ∀ e, readToEnd (.empty cap) supply = .error e ↔ failureToEnd? supply = some e := by
  rw [empty_eq_keeping]
  refine ⟨fun chunks => ?_, fun supply => ?_⟩
  · rw [foldl_push, List.nil_append]
    exact ⟨rfl, decide_eq_true_iff⟩
  · obtain ⟨whole, broken⟩ := readThrough_keeping cap [] supply
    rw [List.nil_append] at whole
    rw [← readThrough_fst, ← failureToEnd?_eq_none_iff]
    cases failure : failureToEnd? supply with
    | none =>
      rw [whole failure]
      refine ⟨⟨fun _ => rfl, fun _ => ⟨_, rfl⟩⟩, ?_, fun e => by simp⟩
      intro b given
      obtain rfl := Except.ok.inj given
      exact ⟨rfl, decide_eq_true_iff, rfl⟩
    | some e =>
      rw [broken e failure]
      exact ⟨by simp, by simp, fun e' => by rw [Except.error.injEq, Option.some.injEq]⟩

end Tandem.Sandbox
