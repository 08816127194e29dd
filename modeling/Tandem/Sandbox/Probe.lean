import Tandem.Sandbox.Environment
import Tandem.Sandbox.Group

/-!
Whether an interpreter is there: it is if it answers `--version` with success in time.
-/

namespace Tandem.Sandbox.Probe

open Tandem.Host

/-- The time that an interpreter has to answer unless told otherwise. -/
def patience : Duration := seconds 10

def launch (interpreter : Path) (environment : Environment) : Launch where
  program := interpreter
  arguments := ["--version"]
  directory := none
  environment := environment
  input := .none
  captured := false
  limits := none

/-- Polls until the interpreter has ended, and says whether it succeeded. One that is too late, or
cannot be waited for, is killed. A deadline that the clock cannot name has always passed. -/
def await (g : Guest) (deadline : Option Duration) (polls : Nat) : Task host Bool := do
  match ← ask (.poll g.pid) with
  | .ok (some ending) => return ending = .code 0
  | .error _ =>
    g.abort
    return false
  | .ok none =>
    match polls with
    | 0 =>
      g.abort
      return false
    | polls + 1 =>
      let now ← ask .now
      if deadline.all (· ≤ now) then
        g.abort
        return false
      else
        ask (.sleep pollInterval)
        await g deadline polls

/-- Whether an interpreter answers within a time. -/
def within (interpreter : Path) (patience : Duration) : Task host Bool := do
  let environment ← ask .environment
  match ← ask (.spawn (launch interpreter (.sanitized environment none))) with
  | .error _ => return false
  | .ok child =>
    let now ← ask .now
    await (.ofChild child) (deadline? now patience) (pollsWithin patience)

/-- Whether an interpreter answers. -/
def available (interpreter : Path) : Task host Bool := within interpreter patience

end Tandem.Sandbox.Probe
