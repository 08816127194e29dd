import Tandem.Config.Settings
import Tandem.Number.Word
import Tandem.Text.Class

/-!
The layer of environment variables over settings.

Every variable changes one setting. They are applied in the order of `Variable.all`, and the first
one that cannot be read ends the overlay: what the variables before it changed stays changed.
-/

namespace Tandem.Config

open Tandem.Host Tandem.Number Tandem.Text

/-- A text without the white space at both ends. -/
def trim (text : List Char) : List Char :=
  ((text.dropWhile isBlank).reverse.dropWhile isBlank).reverse

/-- What an environment variable says about one setting. -/
inductive Change where
  /-- A path. An empty one says nothing. -/
  | path (set : Path → Settings → Settings)
  /-- A number, with white space around it. A blank text says nothing. -/
  | word (set : UInt64 → Settings → Settings)
  /-- A text, also an empty one. -/
  | text (set : String → Settings → Settings)

structure Variable where
  name : String
  change : Change

/-- A number that could not be read. -/
structure VariableFlaw where
  name : String
  value : String
  flaw : WordFlaw
deriving DecidableEq, Repr

def VariableFlaw.message (f : VariableFlaw) : String :=
  s!"invalid {f.name}={quoted f.value}: {f.flaw.text}"

namespace Variable

def all : List Variable :=
  [⟨"PARITY_PROJECTS_DIR", .path fun p s => { s with projectsDir := p }⟩,
   ⟨"PARITY_SOURCE_INTERPRETER", .path fun p s => { s with sourceInterpreter := p }⟩,
   ⟨"PARITY_TARGET_INTERPRETER", .path fun p s => { s with targetInterpreter := p }⟩,
   ⟨"PARITY_TIMEOUT_SECONDS", .word fun n s => { s with timeoutSeconds := n }⟩,
   ⟨"PARITY_MAX_TIMEOUT_SECONDS", .word fun n s => { s with maxTimeoutSeconds := n }⟩,
   ⟨"PARITY_MEMORY_LIMIT_MB", .word fun n s => { s with memoryMb := n }⟩,
   ⟨"PARITY_MAX_OUTPUT_BYTES", .word fun n s => { s with maxOutputBytes := n }⟩,
   ⟨"PARITY_KILL_GRACE_MS", .word fun n s => { s with killGraceMs := n }⟩,
   ⟨"PARITY_MODULE_PATH_VAR", .text fun v s => { s with moduleVariable := v }⟩,
   ⟨"PARITY_SCRATCH_DIR", .path fun p s => { s with scratchDir := some p }⟩]

/-- The settings after a variable with this value. -/
def apply (v : Variable) (value : String) (s : Settings) : Except VariableFlaw Settings :=
  match v.change with
  | .path set => .ok (if value.isEmpty then s else set ⟨value⟩ s)
  | .text set => .ok (set value s)
  | .word set =>
    match trim value.toList with
    | [] => .ok s
    | digits =>
      match readWord digits with
      | .ok n => .ok (set n s)
      | .error flaw => .error ⟨v.name, String.ofList digits, flaw⟩

end Variable

/-- The settings after some variables, up to the first one that cannot be read. -/
def overlayWith (lookup : String → Option String) :
    List Variable → Settings → Settings × Option VariableFlaw
  | [], s => (s, none)
  | v :: rest, s =>
    match lookup v.name with
    | none => overlayWith lookup rest s
    | some value =>
      match v.apply value s with
      | .ok s => overlayWith lookup rest s
      | .error flaw => (s, some flaw)

/-- The settings after all variables, or those before the first one that cannot be read. -/
def Settings.overlay (s : Settings) (lookup : String → Option String) :
    Settings × Option VariableFlaw :=
  overlayWith lookup Variable.all s

end Tandem.Config
