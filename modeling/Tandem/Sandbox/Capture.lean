import Tandem.Host.Call

/-!
Capturing a guest's output up to a cap.

Everything is read, so that a guest never blocks on a full pipe, but only the first `cap` bytes are
kept. `readToEnd` reads a stream to its end. A `Capture` is a stream that is read in the background
and the wait for it, step by step of both; `Capture.finish` is what the wait gives.
-/

namespace Tandem.Sandbox

open Tandem.Host Tandem.Text

/-- The first `cap` bytes of what was pushed, and whether there were more. -/
structure Buffer where
  bytes : Utf8.Bytes
  cap : Nat
  truncated : Bool
deriving DecidableEq, Repr

namespace Buffer

def empty (cap : Nat) : Buffer := ⟨[], cap, false⟩

/-- Adds a chunk, as far as it fits. -/
def push (b : Buffer) (chunk : Utf8.Bytes) : Buffer :=
  if b.truncated then b
  else
    let room := b.cap - b.bytes.length
    if chunk.length ≤ room then { b with bytes := b.bytes ++ chunk }
    else { b with bytes := b.bytes ++ chunk.take room, truncated := true }

/-- Adds the data of some reads, up to the end of the stream. An interrupted read is made again, any
other failure ends the stream without a word. -/
def gather (b : Buffer) : List Read → Buffer
  | [] => b
  | .chunk [] :: _ => b
  | .chunk bytes :: rest => (b.push bytes).gather rest
  | .failed e :: rest => if e.kind = .interrupted then b.gather rest else b

end Buffer

/-- What a stream holds ready for its reader: data, of which one read takes what it has room for,
or a failure of the next read. -/
inductive Supply where
  | data (bytes : Utf8.Bytes)
  | fail (e : IoError)
deriving DecidableEq, Repr

/-- The most bytes that one read takes. -/
def readSize : Nat := 8192

/-- One read. Empty data is the end of the stream, and so is an empty supply. -/
def takeRead : List Supply → Read × List Supply
  | [] => (.chunk [], [])
  | .fail e :: rest => (.failed e, rest)
  | .data bytes :: rest =>
    if bytes.length ≤ readSize then (.chunk bytes, rest)
    else (.chunk (bytes.take readSize), .data (bytes.drop readSize) :: rest)

/-- A bound on the reads that a supply can serve. -/
def supplySize : List Supply → Nat
  | [] => 0
  | .fail _ :: rest => supplySize rest + 1
  | .data bytes :: rest => supplySize rest + bytes.length + 1

theorem supplySize_takeRead_lt {s : Supply} {rest : List Supply} :
    supplySize (takeRead (s :: rest)).2 < supplySize (s :: rest) := by
  cases s with
  | fail e => simp [takeRead, supplySize]
  | data bytes =>
    by_cases h : bytes.length ≤ readSize
    · simp only [takeRead, h, if_true, supplySize]
      omega
    · simp only [takeRead, h, if_false, supplySize, List.length_drop]
      simp only [readSize] at h ⊢
      omega

/-- Reads until the stream ends. A failed read ends it too, with that failure. -/
def readToEnd (buffer : Buffer) (supply : List Supply) : Except IoError Buffer :=
  match supply with
  | [] => .ok buffer
  | s :: rest =>
    match (takeRead (s :: rest)).1 with
    | .failed e => .error e
    | .chunk [] => .ok buffer
    | .chunk bytes => readToEnd (buffer.push bytes) (takeRead (s :: rest)).2
termination_by supplySize supply
decreasing_by exact supplySize_takeRead_lt

/-- How far the reader of a stream is. -/
inductive Reader where
  | reading
  /-- It has read some data that it has not yet put into the buffer. -/
  | holding (bytes : Utf8.Bytes)
  /-- It has found the end of the stream, or a failure, and has not yet said so. -/
  | ended
  | gone
deriving DecidableEq, Repr

/-- How far the one is that waits for the reader. -/
inductive Waiter where
  | waiting
  | woken
  /-- It has taken what is kept of the stream, and whether that is not all. -/
  | served (bytes : Utf8.Bytes) (truncated : Bool)
deriving DecidableEq, Repr

/-- Whose step it is: that of the reader, or of the one that waits, whose time may be up. -/
inductive Turn where
  | reader
  | waiter (timeIsUp : Bool)
deriving DecidableEq, Repr

/-- A stream that is drained in the background, and the wait for it. Both share the buffer. A stream
held open does not end with its supply: its reader blocks. -/
structure Capture where
  buffer : Buffer
  supply : List Supply
  heldOpen : Bool
  reader : Reader
  waiter : Waiter
deriving DecidableEq, Repr

namespace Capture

def start (cap : Nat) (supply : List Supply) (heldOpen : Bool) : Capture :=
  ⟨.empty cap, supply, heldOpen, .reading, .waiting⟩

/-- One read in the background. An interrupted read is made again, any other failure ends the
stream without a word. -/
def read (c : Capture) : Capture :=
  match takeRead c.supply with
  | (.chunk [], rest) => { c with supply := rest, reader := .ended }
  | (.chunk bytes, rest) => { c with supply := rest, reader := .holding bytes }
  | (.failed e, rest) =>
    { c with supply := rest, reader := if e.kind = .interrupted then .reading else .ended }

/-- A step of one of the two. Who has to wait stays where it is. -/
def step (c : Capture) : Turn → Capture
  | .reader =>
    match c.reader with
    | .reading => if c.heldOpen && c.supply.isEmpty then c else c.read
    | .holding bytes => { c with buffer := c.buffer.push bytes, reader := .reading }
    | .ended => { c with reader := .gone }
    | .gone => c
  | .waiter timeIsUp =>
    match c.waiter with
    | .waiting => if c.reader = .gone ∨ timeIsUp then { c with waiter := .woken } else c
    | .woken => { c with waiter := .served c.buffer.bytes c.buffer.truncated }
    | .served .. => c

/-- The capture after some steps. -/
def after (c : Capture) (turns : List Turn) : Capture := turns.foldl step c

/-- What waiting for the reader gives, once it is over. -/
def finish (c : Capture) (turns : List Turn) : Option (Utf8.Bytes × Bool) :=
  match (c.after turns).waiter with
  | .served bytes truncated => some (bytes, truncated)
  | _ => none

/-- Enough steps of the reader for all that a supply holds, and then those of the one that waits. -/
def patient (supply : List Supply) : List Turn :=
  List.replicate (2 * supplySize supply + 2) .reader ++ [.waiter true, .waiter true]

/-- What has arrived when the reader has nothing left to do. -/
def drain (c : Capture) : Utf8.Bytes × Bool := (c.finish (patient c.supply)).getD ([], false)

end Capture

/-- Whether a byte continues a character. -/
def isContinuation (b : UInt8) : Bool := 0x80 ≤ b && b < 0xc0

/-- The length of a character by its first byte, if it has more than one. -/
def charLength? (b : UInt8) : Option Nat :=
  if 0xc0 ≤ b && b < 0xe0 then some 2
  else if 0xe0 ≤ b && b < 0xf0 then some 3
  else if 0xf0 ≤ b && b < 0xf8 then some 4
  else none

/-- The number of bytes of an unfinished character, the bytes given from the last one backwards.
`passed` of them continue it. -/
def unfinished (passed : Nat) : Utf8.Bytes → Nat
  | [] => 0
  | b :: before =>
    if isContinuation b then unfinished (passed + 1) before
    else
      match charLength? b with
      | some n => if passed + 1 < n then passed + 1 else 0
      | none => 0

/-- The bytes without a character that a cut left unfinished. -/
def trimCut (bytes : Utf8.Bytes) : Utf8.Bytes :=
  bytes.take (bytes.length - unfinished 0 (bytes.reverse.take 3))

/-- The text of captured bytes. A character split by the cap is dropped, all other ill-formed parts
are replaced. -/
def decodeOutput (bytes : Utf8.Bytes) (truncated : Bool) : String :=
  String.ofList (Utf8.decode (if truncated then trimCut bytes else bytes))

end Tandem.Sandbox
