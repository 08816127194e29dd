import Tandem.Host.Chain
import Tandem.Host.IoError
import Tandem.Host.Path
import Tandem.Sandbox.Record

/-!
Faults of the sandbox itself, with their causes. Whatever a guest does is no fault.
-/

namespace Tandem.Sandbox

open Tandem.Host

inductive SandboxError where
  | interpreterUnavailable (interpreter : Path) (cause : IoError)
  | isolation (message : String)
  | unsafePath (path : Path)
  | spawn (interpreter : Path) (cause : IoError)
  | limitsUnsupported
  | io (context : String) (cause : IoError)
deriving DecidableEq, Repr

namespace SandboxError

/-- The fault of a guest that could not be started: a program that is not there counts as an
interpreter that is not available. -/
def ofSpawn (interpreter : Path) (cause : IoError) : SandboxError :=
  if cause.kind = .notFound then .interpreterUnavailable interpreter cause
  else .spawn interpreter cause

/-- The fault of a working directory that could not be prepared. -/
def ofPreparation (c : Chain) : SandboxError := .isolation c.text

def kind : SandboxError → FaultKind
  | interpreterUnavailable .. => .interpreterUnavailable
  | isolation _ => .isolation
  | unsafePath _ => .unsafePath
  | spawn .. => .spawn
  | limitsUnsupported => .limits
  | io .. => .io

def message : SandboxError → String
  | interpreterUnavailable interpreter cause =>
    s!"interpreter not invocable: {interpreter.text}: {cause.message}"
  | isolation message => s!"failed to prepare isolated working directory: {message}"
  | unsafePath path => s!"expected safe relative path, got {path.text}"
  | spawn interpreter cause => s!"spawn {interpreter.text}: {cause.message}"
  | limitsUnsupported => "refusing to run: CPU time limits are not available on this platform"
  | io context cause => s!"{context}: {cause.message}"

def cause? : SandboxError → Option IoError
  | interpreterUnavailable _ cause => some cause
  | spawn _ cause => some cause
  | io _ cause => some cause
  | isolation _ => none
  | unsafePath _ => none
  | limitsUnsupported => none

def fault (e : SandboxError) : Fault := ⟨e.kind, e.message⟩

end SandboxError

end Tandem.Sandbox
