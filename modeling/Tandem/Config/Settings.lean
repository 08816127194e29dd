import Tandem.Sandbox.Environment
import Tandem.Sandbox.Limits
import Tandem.Host.Path
import Tandem.Text.Quoted

/-!
The settings of the runner, and the rules that they have to meet.
-/

namespace Tandem.Config

open Tandem.Host Tandem.Sandbox Tandem.Text

structure Settings where
  schemaVersion : Option String
  projectsDir : Path
  sourceInterpreter : Path
  targetInterpreter : Path
  timeoutSeconds : UInt64
  maxTimeoutSeconds : UInt64
  memoryMb : UInt64
  maxOutputBytes : UInt64
  killGraceMs : UInt64
  /-- The variable that points guests at their working directory; none if empty. -/
  moduleVariable : String
  /-- The parent of working directories, in place of the directory for temporary files. -/
  scratchDir : Option Path
deriving DecidableEq, Repr

/-- A rule that settings break. -/
inductive SettingsFlaw where
  | zero (setting : String)
  | timeoutBeyondMaximum (timeout maximum : UInt64)
  | noInterpreter
  | badModuleVariable (name : String)
deriving DecidableEq, Repr

def SettingsFlaw.message : SettingsFlaw → String
  | zero setting => s!"{setting} must be >= 1"
  | timeoutBeyondMaximum timeout maximum =>
    s!"timeout_seconds ({timeout.toNat}) exceeds max_timeout_seconds ({maximum.toNat})"
  | noInterpreter => "source_interpreter and target_interpreter must be set"
  | badModuleVariable name =>
    s!"module_path_var is not a valid environment variable name: {quoted name}"

namespace Settings

/-- The settings unless told otherwise, given the directory for temporary files. -/
def standard (temporary : Path) : Settings where
  schemaVersion := none
  projectsDir := temporary / "parity_projects"
  sourceInterpreter := ⟨"python2"⟩
  targetInterpreter := ⟨"python3"⟩
  timeoutSeconds := 30
  maxTimeoutSeconds := 300
  memoryMb := 256
  maxOutputBytes := 10485760
  killGraceMs := 2000
  moduleVariable := defaultModulePathVariable
  scratchDir := none

/-- The rules with what breaks them, in the order in which they are looked at. -/
def rules (s : Settings) : List (Bool × SettingsFlaw) :=
  [(s.timeoutSeconds == 0, .zero "timeout_seconds"),
   (s.maxTimeoutSeconds == 0, .zero "max_timeout_seconds"),
   (s.maxTimeoutSeconds < s.timeoutSeconds,
     .timeoutBeyondMaximum s.timeoutSeconds s.maxTimeoutSeconds),
   (s.memoryMb == 0, .zero "memory_limit_mb"),
   (s.maxOutputBytes == 0, .zero "max_output_bytes"),
   (s.killGraceMs == 0, .zero "kill_grace_ms"),
   (s.sourceInterpreter.isEmpty || s.targetInterpreter.isEmpty, .noInterpreter),
   (!s.moduleVariable.isEmpty && !isVariableName s.moduleVariable,
     .badModuleVariable s.moduleVariable)]

/-- The first rule that is broken. -/
def flaw? (s : Settings) : Option SettingsFlaw :=
  (s.rules.find? Prod.fst).map Prod.snd

/-- The variable that points guests at their working directory. -/
def moduleVariable? (s : Settings) : Option String :=
  if s.moduleVariable.isEmpty then none else some s.moduleVariable

/-- The parent of working directories. -/
def scratch (s : Settings) (temporary : Path) : Path := s.scratchDir.getD temporary

/-- The limits of a run with a timeout of its own. -/
def limits (s : Settings) (timeoutSeconds : UInt64) : ResourceLimits where
  timeoutSeconds := timeoutSeconds
  memoryMb := s.memoryMb
  maxOutputBytes := s.maxOutputBytes
  killGrace := milliseconds s.killGraceMs.toNat

end Settings

end Tandem.Config
