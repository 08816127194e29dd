import Tandem.Config.Settings
import Tandem.Document.Reader
import Tandem.Document.Value

/-!
The written form of settings.

A file may leave out any setting, which then has its standard value, but names nothing else.
-/

namespace Tandem.Config.Settings

open Tandem.Document Tandem.Host

/-- The version of the written form. -/
def version : String := "parity.config@0.1.0"

def word (n : UInt64) : Value := .int n.toNat

/-- A version and a scratch directory are only written where they are set. -/
def value (s : Settings) : Value :=
  .record <|
    (match s.schemaVersion with
      | some v => [("schema_version", .text v)]
      | none => []) ++
    [("projects_dir", .text s.projectsDir.text),
     ("source_interpreter", .text s.sourceInterpreter.text),
     ("target_interpreter", .text s.targetInterpreter.text),
     ("timeout_seconds", word s.timeoutSeconds),
     ("max_timeout_seconds", word s.maxTimeoutSeconds),
     ("memory_limit_mb", word s.memoryMb),
     ("max_output_bytes", word s.maxOutputBytes),
     ("kill_grace_ms", word s.killGraceMs),
     ("module_path_var", .text s.moduleVariable)] ++
    (match s.scratchDir with
      | some p => [("scratch_dir", .text p.text)]
      | none => [])

def path : Reader Path := fun t => (⟨·⟩) <$> Reader.text "path string" t

def seconds : Reader UInt64 := Reader.word64 "u64"

def bytes : Reader UInt64 := Reader.word64 "usize"

def known : List Reader.Field :=
  [Reader.field "schema_version" (Reader.optional Reader.string) true,
   Reader.field "projects_dir" path true,
   Reader.field "source_interpreter" path true,
   Reader.field "target_interpreter" path true,
   Reader.field "timeout_seconds" seconds true,
   Reader.field "max_timeout_seconds" seconds true,
   Reader.field "memory_limit_mb" seconds true,
   Reader.field "max_output_bytes" bytes true,
   Reader.field "kill_grace_ms" seconds true,
   Reader.field "module_path_var" Reader.string true,
   Reader.field "scratch_dir" (Reader.optional path) true]

/-- Reads settings over standard ones. -/
def reader (s : Settings) : Reader Settings := fun t => do
  let fs ← Reader.fields "RunnerConfig" true known t
  return {
    schemaVersion :=
      ← Reader.absent s.schemaVersion "schema_version" (Reader.optional Reader.string) fs
    projectsDir := ← Reader.absent s.projectsDir "projects_dir" path fs
    sourceInterpreter := ← Reader.absent s.sourceInterpreter "source_interpreter" path fs
    targetInterpreter := ← Reader.absent s.targetInterpreter "target_interpreter" path fs
    timeoutSeconds := ← Reader.absent s.timeoutSeconds "timeout_seconds" seconds fs
    maxTimeoutSeconds := ← Reader.absent s.maxTimeoutSeconds "max_timeout_seconds" seconds fs
    memoryMb := ← Reader.absent s.memoryMb "memory_limit_mb" seconds fs
    maxOutputBytes := ← Reader.absent s.maxOutputBytes "max_output_bytes" bytes fs
    killGraceMs := ← Reader.absent s.killGraceMs "kill_grace_ms" seconds fs
    moduleVariable := ← Reader.absent s.moduleVariable "module_path_var" Reader.string fs
    scratchDir := ← Reader.absent s.scratchDir "scratch_dir" (Reader.optional path) fs }

end Tandem.Config.Settings
