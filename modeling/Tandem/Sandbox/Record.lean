import Tandem.Number.Binary64

/-!
The record of one guest run, and the fault that stands in for a run that never started.
-/

namespace Tandem.Sandbox

open Tandem.Number

inductive FaultKind where
  | interpreterUnavailable
  | isolation
  | unsafePath
  | spawn
  | limits
  | io
deriving DecidableEq, Repr

namespace FaultKind

def all : List FaultKind := [interpreterUnavailable, isolation, unsafePath, spawn, limits, io]

def name : FaultKind → String
  | interpreterUnavailable => "interpreter_unavailable"
  | isolation => "isolation"
  | unsafePath => "unsafe_path"
  | spawn => "spawn"
  | limits => "limits"
  | io => "io"

end FaultKind

/-- What kept the sandbox from running a guest, in words. -/
structure Fault where
  kind : FaultKind
  message : String
deriving DecidableEq, Repr

/-- What one run left behind. A guest that was killed for time has no exit code. -/
structure Record where
  exitCode : Option Int32
  exitSignal : Option Int32
  stdout : String
  stderr : String
  truncated : Bool
  timedOut : Bool
  elapsedMs : Binary64
  memoryLimited : Bool
  fault : Option Fault
deriving DecidableEq

namespace Record

/-- The record of a run that never started: its error output is the fault's message. -/
def ofFault (f : Fault) : Record where
  exitCode := none
  exitSignal := none
  stdout := ""
  stderr := f.message
  truncated := false
  timedOut := false
  elapsedMs := .zero false
  memoryLimited := false
  fault := some f

def started (r : Record) : Bool := r.fault.isNone

end Record

end Tandem.Sandbox
