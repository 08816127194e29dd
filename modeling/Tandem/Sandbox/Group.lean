import Tandem.Host.Call
import Tandem.Sandbox.Escalation

/-!
Signals to the process group of a guest.
-/

namespace Tandem.Sandbox

open Tandem.Host

/-- Sends a signal to a group. A group that is gone already needs no signal any more. -/
def signal (group : UInt32) (s : Signal) : Task host (Except IoError Unit) := do
  match ← ask (.signalGroup group s) with
  | .ok () => return .ok ()
  | .error e => if e = .noProcess then return .ok () else return .error e

/-- Whether a group has members. One that may not be signalled has. -/
def isAlive (group : UInt32) : Task host Bool := do
  match ← ask (.signalGroup group .probe) with
  | .ok () => return true
  | .error e => return e = .notPermitted

/-- A child that was started, and the group that it leads. -/
structure Guest where
  pid : UInt32
  group : Option UInt32
deriving DecidableEq, Repr

namespace Guest

def ofChild (c : Child) : Guest := ⟨c.pid, leaderGroup? c.pid⟩

/-- How the calls of an escalation reach a group and its leader. -/
def handle (pid group : UInt32) : (c : GroupCall) → Task host (groupInterface.Reply c)
  | .terminate => signal group .terminate
  | .kill => signal group .kill
  | .hasExited => do return (← ask (.poll pid)).map Option.isSome
  | .isAlive => isAlive group
  | .now => ask .now
  | .sleep wait => ask (.sleep wait)

/-- Ends a guest and its group within a grace. A guest without a group is killed alone. -/
def expire (g : Guest) (grace : Duration) : Task host (Except IoError Escalation) := do
  match g.group with
  | some group => (Escalation.of grace).via (handle g.pid group)
  | none => return (← ask (.killChild g.pid)).map fun () => .killed

/-- Kills whatever is left in the group. -/
def sweep (g : Guest) : Task host Unit := do
  match g.group with
  | some group =>
    let _ ← signal group .kill
  | none => return ()

/-- Kills the group and the guest, and waits for the guest. -/
def abort (g : Guest) : Task host Unit := do
  g.sweep
  let _ ← ask (.killChild g.pid)
  let _ ← ask (.wait g.pid)

end Guest

end Tandem.Sandbox
