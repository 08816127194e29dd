import Tandem.Sandbox.Capture
import Tandem.Sandbox.Environment
import Tandem.Sandbox.Error
import Tandem.Sandbox.Group
import Tandem.Sandbox.Limits
import Tandem.Sandbox.WorkDir

/-!
One run of a guest in its working directory.

A guest that fails, crashes or runs out of time gives a record; an error is a fault of the sandbox.
Either way its group is killed and the guest waited for before the working directory is removed.
-/

namespace Tandem.Sandbox

open Tandem.Host Tandem.Number

structure Request where
  interpreter : Path
  directory : WorkDir
  entry : Path
  input : Option String
  limits : ResourceLimits
  /-- The variable that points the guest at its directory. -/
  moduleVariable : Option String
deriving DecidableEq, Repr

/-- How a guest ended, and whether it ran out of time before. -/
structure Finish where
  ending : Ending
  timedOut : Bool
deriving DecidableEq, Repr

namespace Finish

def signal? (f : Finish) : Option Int32 :=
  match f.ending with
  | .code _ => none
  | .signal n => some n

/-- The exit code: that of the guest, or 128 more than the signal that ended it. A guest that ran
out of time has none. -/
def code? (f : Finish) : Option Int32 :=
  if f.timedOut then none
  else
    match f.ending with
    | .code n => some n
    | .signal n => some (128 + n)

end Finish

/-- The least time that output is waited for once the guest is gone. -/
def leastDrain : Duration := milliseconds 500

/-- A duration in seconds. The part of a second is rounded before it is added, and the sum again. -/
def inSeconds? (d : Duration) : Option Binary64 := do
  let part ← (Binary64.ofNat (d % seconds 1)).div? (.ofNat (seconds 1))
  (Binary64.ofNat (d / seconds 1)).add? part

/-- A duration in milliseconds with two decimals. Every operation rounds, so that a tie in the
duration itself, such as 35000 nanoseconds, can go down. -/
def elapsedMs (d : Duration) : Binary64 :=
  let result := do
    let hundredths ← (← inSeconds? d).mul? (.ofNat 100000)
    (← hundredths.round?).div? (.ofNat 100)
  result.getD default

/-- What the sandbox keeps of a guest's stream. -/
def captured (pid : UInt32) (stream : Stream) (limits : ResourceLimits) : Task host Buffer := do
  let reads ← ask (.drain pid stream (max limits.killGrace leastDrain))
  return (Buffer.empty limits.maxOutputBytes.toNat).gather reads

/-- Ends a guest that ran out of time. -/
def timeOut (g : Guest) (grace : Duration) : Task host (Except SandboxError Finish) := do
  match ← g.expire grace with
  | .error e =>
    g.abort
    return .error (.io "terminate guest process group" e)
  | .ok _ =>
    match ← ask (.wait g.pid) with
    | .ok ending => return .ok ⟨ending, true⟩
    | .error e =>
      g.abort
      return .error (.io "reap guest after timeout" e)

/-- Polls until the guest has ended or its deadline has passed, which it has after the last poll. A
deadline that the clock cannot name does not pass before. -/
def await (g : Guest) (grace : Duration) (deadline : Option Duration) (polls : Nat) :
    Task host (Except SandboxError Finish) := do
  match ← ask (.poll g.pid) with
  | .error e =>
    g.abort
    return .error (.io "wait for guest" e)
  | .ok (some ending) => return .ok ⟨ending, false⟩
  | .ok none =>
    match polls with
    | 0 => timeOut g grace
    | polls + 1 =>
      let now ← ask .now
      if deadline.any (· ≤ now) then timeOut g grace
      else
        ask (.sleep pollInterval)
        await g grace deadline polls

namespace Request

def launch (r : Request) (environment : Environment) : Launch where
  program := r.interpreter
  arguments := [r.entry.text]
  directory := some r.directory.path
  environment := environment
  input := if r.input.isSome then .pipe else .none
  captured := true
  limits := some r.limits.child

/-- The run of a guest that was started at a time. -/
def follow (r : Request) (g : Guest) (start : Duration) :
    Task host (Except SandboxError Record) := do
  match r.input with
  | some input => ask (.feed g.pid input)
  | none => pure ()
  let timeout := r.limits.timeout
  match ← await g r.limits.killGrace (deadline? start timeout) (pollsWithin timeout) with
  | .error e => return .error e
  | .ok finish =>
    let stop ← ask .now
    g.sweep
    let out ← captured g.pid .out r.limits
    let err ← captured g.pid .err r.limits
    return .ok {
      exitCode := finish.code?
      exitSignal := finish.signal?
      stdout := decodeOutput out.bytes out.truncated
      stderr := decodeOutput err.bytes err.truncated
      truncated := out.truncated || err.truncated
      timedOut := finish.timedOut
      elapsedMs := elapsedMs (stop - start)
      memoryLimited := true
      fault := none }

/-- The run, its working directory left as it is. -/
def attempt (r : Request) : Task host (Except SandboxError Record) := do
  if !r.entry.isSafe then return .error (.unsafePath r.entry)
  let environment ← ask .environment
  let module := r.moduleVariable.map fun name => (name, r.directory.path.text)
  let start ← ask .now
  match ← ask (.spawn (r.launch (.sanitized environment module))) with
  | .error e => return .error (.ofSpawn r.interpreter e)
  | .ok child =>
    let g := Guest.ofChild child
    if child.piped then r.follow g start
    else
      g.abort
      return .error (.io "take guest output pipes" (.plain .brokenPipe))

/-- The run. Its working directory is removed at the end, however it ends. -/
def run (r : Request) : Task host (Except SandboxError Record) := do
  let result ← r.attempt
  r.directory.remove
  return result

end Request

end Tandem.Sandbox
