import Tandem.Host.Clock
import Tandem.Host.IoError
import Tandem.Host.Task

/-!
Ending a process group: a polite signal, some grace to wind down, then the forceful signal.
-/

namespace Tandem.Sandbox

open Tandem.Host

/-- The group of a leader's process id. Ids that would address every process have none, nor have
those that are no process id. -/
def leaderGroup? (pid : UInt32) : Option UInt32 :=
  if 1 < pid ∧ pid < 2147483648 then some pid else none

inductive Escalation where
  | exitedAfterTerminate
  | killed
deriving DecidableEq, Repr

/-- What can be asked of a group and of the clock. `hasExited` looks at the leader alone. -/
inductive GroupCall where
  | terminate
  | kill
  | hasExited
  | isAlive
  | now
  | sleep (wait : Duration)
deriving DecidableEq, Repr

abbrev groupInterface : Interface where
  Call := GroupCall
  Reply
    | .terminate => Except IoError Unit
    | .kill => Except IoError Unit
    | .hasExited => Except IoError Bool
    | .isAlive => Bool
    | .now => Duration
    | .sleep _ => Unit

namespace Escalation

/-- The forceful end. -/
def force : Task groupInterface (Except IoError Escalation) := do
  match ← Task.ask (I := groupInterface) .kill with
  | .ok () => return .ok .killed
  | .error e => return .error e

/-- Polls until leader and group are gone or the deadline has passed. A deadline that the clock
cannot name has passed after the first poll. No more polls fit in before the deadline, as each sleep
takes at least its interval. -/
def poll (deadline : Option Duration) (polls : Nat) :
    Task groupInterface (Except IoError Escalation) := do
  match ← Task.ask (I := groupInterface) .hasExited with
  | .error e => return .error e
  | .ok exited =>
    let gone ← if exited then (! ·) <$> Task.ask (I := groupInterface) .isAlive else pure false
    if gone then return .ok .exitedAfterTerminate
    else
      match deadline with
      | none => force
      | some d =>
        let now ← Task.ask (I := groupInterface) .now
        if d ≤ now then force
        else
          match polls with
          | 0 => force
          | polls + 1 =>
            Task.ask (I := groupInterface) (.sleep pollInterval)
            poll (some d) polls

/-- Ends a group within a grace. -/
def of (grace : Duration) : Task groupInterface (Except IoError Escalation) := do
  match ← Task.ask (I := groupInterface) .terminate with
  | .error e => return .error e
  | .ok () =>
    let now ← Task.ask (I := groupInterface) .now
    poll (deadline? now grace) (pollsWithin grace)

end Escalation

end Tandem.Sandbox
