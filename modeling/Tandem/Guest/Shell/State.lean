import Tandem.Guest.Script
import Tandem.Guest.Tool.Job
import Tandem.Machine.Basic

/-!
The state of a shell: its variables, where its output goes, and how far it got.
-/

namespace Tandem.Guest

open Tandem.Host Tandem.Machine Tandem.Text

/-- Why a shell goes no further. -/
inductive Stop where
  | exited
  /-- A signal ended the process with this number, which may be a shell around this one. -/
  | killed (pid signal : Nat)
  | asleep
  | returned
  /-- It leaves so many loops. -/
  | broken (loops : Nat)
  /-- It goes on with the next round, of an outer loop if there are several. -/
  | continued (loops : Nat)
deriving DecidableEq, Repr

/-- Where output goes. -/
inductive Sink where
  | out
  | err
  /-- To another command, through the pipe with this number. -/
  | pipe (number : Nat)
  | file (path : Path)
  | closed

structure Setting where
  /-- A variable can be exported before it has a value. -/
  value : Option Raw
  exported : Bool
  fixed : Bool

/-- A command in the background. It runs when the shell waits for it, or else at the end. -/
structure Background where
  pid : Nat
  command : Command
  directory : List String
  bindings : List (Raw × Setting)
  positional : List Raw
  sinks : List (Nat × Sink)
  /-- Its status, once it has run. -/
  status : Option Nat
  /-- Whether it sleeps for good. -/
  isAsleep : Bool

namespace Background

/-- Whether the process of a command in the background becomes the program that it runs. -/
def isProgram (b : Background) : Bool :=
  match b.command with
  | .simple .. => true
  | _ => false

/-- What is left of a command that sleeps for good, given which process had left the group before it
ran and after. A command that is more than one program waits for the process that strayed. -/
def sleepers (b : Background) (before after : Option Nat) : List Sleeper :=
  let own : UInt32 := UInt32.ofNat b.pid
  match before, after with
  | none, none => [⟨own, false⟩]
  | none, some pid =>
    if b.isProgram then [⟨own, true⟩] else [⟨own, false⟩, ⟨UInt32.ofNat pid, true⟩]
  | some _, _ => [⟨own, true⟩]

end Background

structure Shell where
  files : Node
  directory : List String
  bindings : List (Raw × Setting)
  /-- The name that the shell was called by, and that messages begin with. -/
  name : Raw
  positional : List Raw
  functions : List (Raw × Command)
  input : Raw
  /-- Where the descriptors lead, the first entry of each number counting. -/
  sinks : List (Nat × Sink)
  /-- Inputs under other descriptors. -/
  inputs : List (Nat × Raw)
  /-- What was written, last stretch first. -/
  out : List Raw
  err : List Raw
  /-- What was written into the pipes that are open, the last pipe first. -/
  pipes : List (List Raw)
  status : Nat
  stop : Option Stop
  /-- Letters of the options that are on. -/
  options : List Char
  /-- Whether a failure is looked at and so does not end a shell that ends at failures. -/
  guarded : Bool
  traps : List (Nat × Raw)
  backgrounds : List Background
  lastBackground : Option Nat
  /-- The variables that a function made its own, with what they were before. -/
  saved : List (Raw × Option Setting)
  /-- The processes that it left asleep. -/
  leftovers : List Sleeper
  /-- The process in front that left the group it was started in, if one did. -/
  strayed : Option Nat
  /-- The processes of the machine, as far as they are no shell around this one. -/
  others : List Nat
  /-- The ones of them that it ended, and the signals that it did so with. -/
  ended : List (Nat × Nat)
  pid : Nat
  /-- The shells around it. -/
  elders : List Nat
  nextPid : Nat
  /-- Sleeps of fewer milliseconds pass. -/
  patience : Nat
  /-- The ceilings of resources by their letters, the one that counts and the highest one. -/
  ceilings : List (Char × Nat × Nat)
  mask : Nat
  /-- The command that reads the script in, if it is another than the shell itself. -/
  caller : Raw
  /-- The status of the last command whose output went into the command that is put together. -/
  outputStatus : Option Nat
  /-- The loops around the command that runs. -/
  loops : Nat
  /-- The functions around it, and the scripts that are read in. -/
  calls : Nat
  line : Nat

namespace Shell

variable (s : Shell)

def view : Files.View := ⟨s.files, s.directory⟩

def has (option : Char) : Bool := s.options.contains option

def value? (name : Raw) : Option Raw := (s.bindings.lookup name).bind Setting.value

/-- Changes the setting of a variable. -/
def update (name : Raw) (f : Setting → Setting) : Shell :=
  let rec put : List (Raw × Setting) → List (Raw × Setting)
    | [] => [(name, f ⟨none, false, false⟩)]
    | (other, old) :: rest => if other = name then (name, f old) :: rest else (other, old) :: put rest
  { s with bindings := put s.bindings }

def isFixed (name : Raw) : Bool := (s.bindings.lookup name).any Setting.fixed

def setVariable (name value : Raw) : Shell :=
  s.update name fun v => { v with value := some value, exported := v.exported || s.has 'a' }

def unsetVariable (name : Raw) : Shell :=
  { s with bindings := s.bindings.filter (·.1 ≠ name) }

def publish (name : Raw) : Shell := s.update name fun v => { v with exported := true }

/-- The variables that programs see. -/
def environment : List (Raw × Raw) :=
  s.bindings.filterMap fun (name, v) => if v.exported then v.value.map (name, ·) else none

/-- What a message about a line begins with. -/
def place : Raw := s.name ++ raw ": " ++ digits s.line ++ raw ": "

def sinkOf (descriptor : Nat) : Sink := (s.sinks.lookup descriptor).getD .closed

def isOpen (descriptor : Nat) : Bool :=
  match s.sinkOf descriptor with
  | .closed => false
  | _ => true

def lead (descriptor : Nat) (sink : Sink) : Shell :=
  { s with sinks := (descriptor, sink) :: s.sinks.filter (·.1 ≠ descriptor) }

def send (sink : Sink) (r : Raw) : Shell :=
  if r.isEmpty then s
  else
    match sink with
    | .out => { s with out := r :: s.out }
    | .err => { s with err := r :: s.err }
    | .pipe number =>
      { s with pipes := s.pipes.modify (s.pipes.length - 1 - number) (r :: ·) }
    | .closed => s
    | .file path =>
      match Files.write s.view path true (toBytes r) with
      | .ok files => { s with files }
      | .error _ => s

def say (r : Raw) : Shell := s.send (s.sinkOf 1) r

def warn (r : Raw) : Shell := s.send (s.sinkOf 2) r

def withStatus (n : Nat) : Shell := { s with status := n }

/-- A message about the line that the shell is at. -/
def complain (message : Raw) (status : Nat) : Shell :=
  (s.warn (s.place ++ message ++ ['\n'])).withStatus status

/-- A message about a script that some command reads in. -/
def complainIn (message : Raw) (status : Nat) : Shell := s.complain (s.caller ++ message) status

/-- An error that ends the shell. -/
def fail (message : Raw) : Shell := { s.complain message 2 with stop := some .exited }

/-- The value of a parameter. -/
def parameter? (name : Raw) : Option Raw :=
  match name with
  | ['@'] => if s.positional.isEmpty then none else some (spaced s.positional)
  | ['*'] => if s.positional.isEmpty then none else some (spaced s.positional)
  | ['#'] => some (digits s.positional.length)
  | ['?'] => some (digits s.status)
  | ['$'] => some (digits s.pid)
  | ['!'] => s.lastBackground.map digits
  | ['-'] => some s.options
  | ['0'] => some s.name
  | _ =>
    match number? name with
    | some n => s.positional[n - 1]?
    | none => s.value? name

/-- The characters that separate fields. -/
def separators : Raw := (s.value? (raw "IFS")).getD [' ', '\t', '\n']

/-- A shell with what another process of its own changed outside itself. -/
def after (inner : Shell) : Shell :=
  { s with
    files := inner.files
    input := inner.input
    out := inner.out
    err := inner.err
    pipes := inner.pipes
    status := inner.status
    leftovers := inner.leftovers
    strayed := if inner.stop = some .asleep then inner.strayed else s.strayed
    others := inner.others
    ended := inner.ended
    nextPid := inner.nextPid
    stop :=
      match inner.stop with
      | some (.killed pid n) => some (.killed pid n)
      | some .asleep => some .asleep
      | _ => s.stop }

/-- The shell of a subshell. -/
def forked : Shell :=
  { s with traps := s.traps.filter (·.2.isEmpty), backgrounds := [] }

/-- A subshell whose output goes into a new pipe. -/
def piping : Shell :=
  { s.forked with pipes := [] :: s.pipes }.lead 1 (.pipe s.pipes.length)

/-- What was written into the last pipe, and the shell without it. -/
def closePipe : Raw × Shell :=
  match s.pipes with
  | [] => ([], s)
  | p :: rest => (p.reverse.flatten, { s with pipes := rest })

/-- The process of a program that a shell starts. -/
def child (pid : Nat) : Shell :=
  { s.forked with
    bindings := s.environment.map fun (name, value) => (name, ⟨some value, true, false⟩)
    positional := []
    functions := []
    status := 0
    stop := none
    options := []
    guarded := false
    lastBackground := none
    saved := []
    pid
    elders := s.pid :: s.elders
    caller := []
    outputStatus := none
    loops := 0
    calls := 0
    line := 0 }

/-- A shell that does not end. -/
def endless : Shell := { s with stop := some .asleep }

/-- A shell after a command that may fail only if the failure is looked at. -/
def checked : Shell :=
  if s.status ≠ 0 && s.has 'e' && !s.guarded && s.stop.isNone then
    { s with stop := some .exited }
  else s

/-- A path that leads to the same file from every directory. -/
def fullPath (r : Raw) : Path :=
  if r.head? = some '/' then pathOf r
  else pathOf (raw (Machine.pathOf s.directory).text ++ '/' :: r)

end Shell

/-- The ceilings that a process starts with. -/
def ceilingsOf (limits : Option ChildLimits) : List (Char × Nat × Nat) :=
  match limits with
  | none => []
  | some l =>
    [('t', l.cpuSoft.toNat, l.cpuHard.toNat), ('v', l.memoryBytes.toNat, l.memoryBytes.toNat),
     ('c', 0, 0)]

end Tandem.Guest
