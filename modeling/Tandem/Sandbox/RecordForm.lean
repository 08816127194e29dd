import Tandem.Document.Reader
import Tandem.Document.Value
import Tandem.Sandbox.Record

/-!
The written form of run records and faults.
-/

namespace Tandem.Sandbox

open Tandem.Document

def FaultKind.reader : Reader FaultKind :=
  Reader.variant (FaultKind.all.map fun kind => (kind.name, kind))

namespace Fault

def value (f : Fault) : Value :=
  .record [("kind", .text f.kind.name), ("message", .text f.message)]

def reader : Reader Fault := fun t => do
  let fs ← Reader.fields "SandboxFault" false
    [Reader.field "kind" FaultKind.reader false, Reader.field "message" Reader.string false] t
  return {
    kind := ← Reader.required "kind" FaultKind.reader fs
    message := ← Reader.required "message" Reader.string fs }

end Fault

/-- A field that is left out where it has no value. -/
def fieldOf? {α : Type} (name : String) (write : α → Value) : Option α → List (String × Value)
  | some a => [(name, write a)]
  | none => []

def exitValue (code : Int32) : Value := .int code.toInt

namespace Record

/-- An absent exit code is written as null; an absent signal or fault is not written. -/
def value (r : Record) : Value :=
  .record <|
    [("exit_code", (r.exitCode.map exitValue).getD .null)] ++
    fieldOf? "exit_signal" exitValue r.exitSignal ++
    [("stdout", .text r.stdout), ("stderr", .text r.stderr), ("truncated", .bool r.truncated),
     ("timed_out", .bool r.timedOut), ("execution_time_ms", .real r.elapsedMs),
     ("memory_limit_enforced", .bool r.memoryLimited)] ++
    fieldOf? "fault" Fault.value r.fault

def known : List Reader.Field :=
  [Reader.field "exit_code" (Reader.optional Reader.int32) false,
   Reader.field "exit_signal" (Reader.optional Reader.int32) true,
   Reader.field "stdout" Reader.string false,
   Reader.field "stderr" Reader.string false,
   Reader.field "truncated" Reader.bool false,
   Reader.field "timed_out" Reader.bool false,
   Reader.field "execution_time_ms" Reader.double false,
   Reader.field "memory_limit_enforced" Reader.bool false,
   Reader.field "fault" (Reader.optional Fault.reader) true]

def reader : Reader Record := fun t => do
  let fs ← Reader.fields "ExecutionResult" false known t
  return {
    exitCode := ← Reader.absent none "exit_code" (Reader.optional Reader.int32) fs
    exitSignal := ← Reader.absent none "exit_signal" (Reader.optional Reader.int32) fs
    stdout := ← Reader.required "stdout" Reader.string fs
    stderr := ← Reader.required "stderr" Reader.string fs
    truncated := ← Reader.required "truncated" Reader.bool fs
    timedOut := ← Reader.required "timed_out" Reader.bool fs
    elapsedMs := ← Reader.required "execution_time_ms" Reader.double fs
    memoryLimited := ← Reader.required "memory_limit_enforced" Reader.bool fs
    fault := ← Reader.absent none "fault" (Reader.optional Fault.reader) fs }

end Record

end Tandem.Sandbox
