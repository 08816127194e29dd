import Tandem.Host.IoError
import Tandem.Host.Task

/-!
What a child process does to itself before it becomes a guest.

A child leaves the session of its parent and sets its ceilings, one call after the other. The first
failure ends the child with that failure, so no guest runs outside its limits.
-/

namespace Tandem.Host

/-- A sum of words that stops at the largest one. -/
def saturatingAdd (a b : UInt64) : UInt64 := UInt64.ofNat (min (a.toNat + b.toNat) (UInt64.size - 1))

/-- A product of words that stops at the largest one. -/
def saturatingMul (a b : UInt64) : UInt64 := UInt64.ofNat (min (a.toNat * b.toNat) (UInt64.size - 1))

/-- The ceilings that the kernel holds a guest to. -/
structure ChildLimits where
  cpuSeconds : UInt64
  memoryBytes : UInt64
deriving DecidableEq, Repr

namespace ChildLimits

def of (timeoutSeconds memoryMb : UInt64) : ChildLimits :=
  ⟨timeoutSeconds, saturatingMul memoryMb 1048576⟩

/-- The processor time after which a guest is told to stop: just above the wall-clock limit, so
that a busy guest is still found to have run out of time. -/
def cpuSoft (l : ChildLimits) : UInt64 := saturatingAdd l.cpuSeconds 1

/-- The processor time after which a guest is stopped. -/
def cpuHard (l : ChildLimits) : UInt64 := saturatingAdd l.cpuSeconds 2

end ChildLimits

/-- The word that the kernel takes for no limit. -/
def unlimited : UInt64 := 18446744073709551615

inductive Resource where
  | cpu
  | addressSpace
  | core
deriving DecidableEq, Repr

/-- The calls of a child before it becomes the guest, and the one that makes it so. -/
inductive ChildCall where
  | newSession
  | newGroup
  | limit (resource : Resource) (soft hard : UInt64)
  | become
deriving DecidableEq, Repr

abbrev childInterface : Interface := ⟨ChildCall, fun _ => Except IoError Unit⟩

/-- Makes the calls one after the other until one fails. -/
def inTurn : List ChildCall → Task childInterface (Except IoError Unit)
  | [] => return .ok ()
  | c :: rest => do
    match ← Task.ask c with
    | .ok () => inTurn rest
    | .error e => return .error e

/-- Leaves the parent's session, or at least its process group. -/
def detach : Task childInterface (Except IoError Unit) := do
  match ← Task.ask (I := childInterface) .newSession with
  | .ok () => return .ok ()
  | .error _ => Task.ask (I := childInterface) .newGroup

def ChildLimits.calls (l : ChildLimits) : List ChildCall :=
  [.limit .cpu l.cpuSoft l.cpuHard, .limit .addressSpace l.memoryBytes l.memoryBytes,
   .limit .core 0 0]

/-- What a child does: it detaches, sets its ceilings if it has any, and becomes the guest. -/
def childTask (limits : Option ChildLimits) : Task childInterface (Except IoError Unit) := do
  match ← detach with
  | .error e => return .error e
  | .ok () => inTurn ((limits.map ChildLimits.calls).getD [] ++ [.become])

end Tandem.Host
