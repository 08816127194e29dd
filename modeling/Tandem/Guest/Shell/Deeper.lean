import Tandem.Guest.Grammar
import Tandem.Guest.Shell.Field
import Tandem.Guest.Shell.Signal
import Tandem.Guest.Shell.State
import Tandem.Machine.Exec

/-!
Commands inside commands: scripts that a command reads in, and commands in the background.

What runs deeper inside is a value, `Deeper`, of which every function of a shell knows one. So no
function calls itself, and how deep a shell can go is decided in one place.
-/

namespace Tandem.Guest

open Tandem.Machine

/-- How commands, words and programs inside a command are carried out. -/
structure Deeper where
  command : Command → Shell → Shell
  parts : Word → Shell → List Part × Shell
  /-- Runs an image in the process with a number. -/
  launch : Nat → Image → Shell → Shell
  /-- The end of a shell. -/
  finish : Shell → Shell

namespace Shell

variable (s : Shell)

def background? (pid : Nat) : Option Background := s.backgrounds.find? (·.pid == pid)

def updateBackground (pid : Nat) (f : Background → Background) : Shell :=
  { s with backgrounds := s.backgrounds.map fun b => if b.pid = pid then f b else b }

/-- Puts a command into the background. -/
def leave (c : Command) : Shell :=
  let b : Background :=
    { pid := s.nextPid
      command := c
      directory := s.directory
      bindings := s.bindings
      positional := s.positional
      sinks := s.sinks
      status := none
      isAsleep := false }
  { s with
    nextPid := s.nextPid + 1
    backgrounds := s.backgrounds ++ [b]
    lastBackground := some b.pid
    status := 0 }

/-- The lines of a text as the lines of a script that a command reads in. -/
def within (caller : Raw) : Shell :=
  { s with caller := caller ++ raw ": ", calls := s.calls + 1, status := 0 }

/-- A shell after a script or a function that `return` may have left. -/
def returned (before : Shell) : Shell :=
  { s with
    caller := before.caller
    calls := before.calls
    loops := before.loops
    stop := if s.stop = some .returned then none else s.stop }

end Shell

variable (d : Deeper)

/-- Runs the commands of a script one after the other. -/
def execute (script : Script) (s : Shell) : Shell :=
  let t := script.commands.foldl (fun t c => if t.stop.isSome then t else d.command c t) s
  match if t.stop.isSome then none else script.flaw with
  | none => t
  | some flaw => { { t with line := flaw.line }.complainIn flaw.message 2 with stop := some .exited }

/-- Runs a command in the background, with so much time to sleep in. -/
def settleOne (time : Nat) (s : Shell) (b : Background) : Shell :=
  let inner := d.finish <| d.command b.command
    { s.forked with
      directory := b.directory
      bindings := b.bindings
      positional := b.positional
      sinks := b.sinks
      input := []
      patience := time
      stop := none }
  let isAsleep := inner.stop = some .asleep
  let status :=
    match inner.stop with
    | some (.killed _ k) => 128 + k
    | _ => inner.status
  let t := s.after
    { inner with
      input := s.input
      status := s.status
      stop :=
        match inner.stop with
        | some (.killed ..) => inner.stop
        | _ => none
      leftovers := inner.leftovers ++ if isAsleep then b.sleepers s.strayed inner.strayed else [] }
  t.updateBackground b.pid fun b => { b with isAsleep, status := if isAsleep then none else some status }

/-- Runs those of some commands in the background that have not run. -/
def settle (pids : List Nat) (time : Nat) (s : Shell) : Shell :=
  pids.foldl
    (fun t pid =>
      match t.background? pid with
      | some b => if b.status.isSome || b.isAsleep then t else settleOne d time t b
      | none => t) s

def settleAll (time : Nat) (s : Shell) : Shell := settle d (s.backgrounds.map Background.pid) time s

/-- Lets so many milliseconds pass, in which commands in the background run. -/
def slumber (time : Nat) (s : Shell) : Shell :=
  let t := settleAll d time s
  if t.stop.isNone && t.patience ≤ time then t.endless else t

/-- The end of a shell: what it does when it exits, and what it left in the background. -/
def finish (s : Shell) : Shell :=
  let isOver :=
    match s.stop with
    | some (.killed ..) => true
    | some .asleep => true
    | _ => false
  let t :=
    match if isOver then none else s.traps.lookup 0 with
    | none => s
    | some action =>
      let t := execute d (Script.of 1 action)
        { s with traps := s.traps.filter (·.1 ≠ 0), stop := none }
      if t.stop.isSome then t else { t with status := s.status, stop := s.stop }
  settleAll d 0 t

/-- What a shell does about a signal. -/
def receive (signal : Nat) (s : Shell) : Shell :=
  match s.traps.lookup signal with
  | some action =>
    if action.isEmpty || signal = 0 then s
    else
      let t := execute d (Script.of 1 action) s
      if t.stop.isSome then t else t.withStatus s.status
  | none =>
    if isIgnored signal then s
    else if isStopping signal then s.endless
    else { s with stop := some (.killed s.pid signal) }

/-- Sends a signal to a process. -/
def sendTo (signal : Nat) (target : Raw) (s : Shell) : Shell :=
  let missing : Shell := s.complain (raw "kill: No such process\n") 1
  let pid := (number? (if target.head? = some '-' then target.drop 1 else target)).getD 0
  if pid = s.pid || pid = 0 then receive d signal s
  else if s.elders.contains pid then
    if isIgnored signal then s else { s with stop := some (.killed pid signal) }
  else
    match s.background? pid with
    | none =>
      if !s.others.contains pid then missing
      else if isIgnored signal || isStopping signal then s
      else
        { s with
          others := s.others.filter (· ≠ pid)
          ended := s.ended ++ [(pid, signal)] }
    | some b =>
      if b.status.isSome then missing
      else if isIgnored signal then s
      else
        { s.updateBackground pid fun b =>
            { b with isAsleep := false, status := some (128 + signal) } with
          leftovers := s.leftovers.filter (·.pid ≠ UInt32.ofNat pid) }

def kill (arguments : List Raw) (s : Shell) : Shell :=
  match arguments with
  | ['-', 'l'] :: name :: _ =>
    match number? name with
    | some k => (s.say (signalName (k % 128) ++ ['\n'])).withStatus 0
    | none => s.complain (raw "kill: invalid signal number or name: " ++ name) 2
  | [['-', 'l']] =>
    (s.say (unlines ((signals.drop 1).map fun (name, _) => raw name))).withStatus 0
  | _ =>
    match Sending.of arguments with
    | .error message => s.complain message 2
    | .ok ⟨signal, targets⟩ =>
      targets.foldl (fun t a => if t.stop.isSome then t else sendTo d signal a t) (s.withStatus 0)

/-- Waits for a command in the background. -/
def waitFor (s : Shell) (argument : Raw) : Shell :=
  match number? argument with
  | none => s.complain (raw "wait: Illegal number: " ++ argument) 2
  | some pid =>
    let t := settle d [pid] s.patience s
    match t.background? pid with
    | none => t.withStatus 127
    | some b =>
      match b.status with
      | none => if b.isAsleep then t.endless else t
      | some status =>
        match if 128 < status then signalText (status - 128) else none with
        | some message => (t.warn (message ++ ['\n'])).withStatus status
        | none => t.withStatus status

def wait (arguments : List Raw) (s : Shell) : Shell :=
  if arguments.isEmpty then
    let t := settleAll d s.patience s
    if t.backgrounds.any Background.isAsleep then t.endless else t.withStatus 0
  else arguments.foldl (fun t a => if t.stop.isSome then t else waitFor d t a) s

end Tandem.Guest
