import Tandem.Cli.Arguments
import Tandem.Cli.Reply
import Tandem.Config.Load
import Tandem.Project.Comparison

/-!
The commands.

Options go over the settings of the process, and the settings have to meet their rules with the
options applied; only `probe` uses none of them and so checks none. The timeout of a comparison is
part of the inquiry and is checked there.
-/

namespace Tandem.Cli

open Tandem.Config Tandem.Host Tandem.Project Tandem.Sandbox

namespace CompareArguments

variable (a : CompareArguments)

def adjust (s : Settings) : Settings :=
  { s with
    projectsDir := a.projectsDir.getD s.projectsDir
    sourceInterpreter := a.sourceInterpreter.getD s.sourceInterpreter
    targetInterpreter := a.targetInterpreter.getD s.targetInterpreter }

/-- The input of both programs, or why its file cannot be read. -/
def readInput : Task host (Except String (Option String)) := do
  match a.input with
  | none => return .ok none
  | some (.text input) => return .ok (some input)
  | some (.file path) =>
    match ← readText path with
    | .ok input => return .ok (some input)
    | .error e => return .error s!"read stdin file: {path.text}: {e.message}"

def inquiry (input : Option String) : Inquiry where
  projectId := a.projectId
  file := ⟨a.file⟩
  timeoutSeconds := a.timeoutSeconds
  input := input

def reply : Except Refusal Outcome → Reply
  | .ok o => .carriedOut .page (compareDocument o) o.isMatch
  | .error r => .failed compareVersion r.kind r.message

def carryOut (settings : Settings) : Task host Reply := do
  let s := a.adjust settings
  match s.flaw? with
  | some flaw => return .stopped flaw.message
  | none =>
    match ← a.readInput with
    | .error message => return .stopped message
    | .ok input =>
      return reply (← Project.compare s (DiskStore.mk s.projectsDir).store (a.inquiry input))

end CompareArguments

namespace RunArguments

variable (a : RunArguments)

def adjust (s : Settings) : Settings :=
  { s with
    timeoutSeconds := a.timeoutSeconds.getD s.timeoutSeconds
    memoryMb := a.memoryMb.getD s.memoryMb
    maxOutputBytes := a.maxOutputBytes.getD s.maxOutputBytes }

/-- The label of working directories. -/
def label : String := "parity_run"

def request (s : Settings) (directory : WorkDir) : Request where
  interpreter := a.interpreter
  directory := directory
  entry := a.entry
  input := a.input
  limits := s.limits s.timeoutSeconds
  moduleVariable := s.moduleVariable?

def reply : Except SandboxError Record → Reply
  | .ok r =>
    .carriedOut .page (runDocument a.interpreter a.entry r) (r.exitCode == some 0 && !r.timedOut)
  | .error e => .failed runVersion e.kind.name e.message

def carryOut (settings : Settings) : Task host Reply := do
  let s := a.adjust settings
  match s.flaw? with
  | some flaw => return .stopped flaw.message
  | none =>
    match ← WorkDir.seed (← scratchDirectory s) a.tree label with
    | .error e => return .stopped (e.within s!"prepare working copy of {a.tree.text}").text
    | .ok directory => return a.reply (← (a.request s directory).run)

end RunArguments

/-- Whether an interpreter answers, as a reply. -/
def probeReply (interpreter : Path) : Task host Reply := do
  let available ← Probe.available interpreter
  return .carriedOut .line (probeDocument interpreter available) available

def Command.carryOut (s : Settings) : Command → Task host Reply
  | .compare a => a.carryOut s
  | .run a => a.carryOut s
  | .probe interpreter => probeReply interpreter

/-- Loads the settings and carries out the command. -/
def Arguments.carryOut (a : Arguments) : Task host Reply := do
  match ← Settings.load a.configFile with
  | .error e => return .stopped e.message
  | .ok s => a.command.carryOut s

end Tandem.Cli
