import Tandem.Host.Child
import Tandem.Host.Clock

/-!
The limits of a run.
-/

namespace Tandem.Sandbox

open Tandem.Host

structure ResourceLimits where
  timeoutSeconds : UInt64
  memoryMb : UInt64
  maxOutputBytes : UInt64
  killGrace : Duration
deriving DecidableEq, Repr

namespace ResourceLimits

/-- The limits unless told otherwise. -/
def standard : ResourceLimits where
  timeoutSeconds := 30
  memoryMb := 256
  maxOutputBytes := 10485760
  killGrace := seconds 2

/-- The wall-clock time that a run may take. -/
def timeout (l : ResourceLimits) : Duration := seconds l.timeoutSeconds.toNat

/-- The ceilings of the kernel that go with the limits. -/
def child (l : ResourceLimits) : ChildLimits := .of l.timeoutSeconds l.memoryMb

end ResourceLimits

end Tandem.Sandbox
