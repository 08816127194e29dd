import Tandem.Guest.Shell.Run

/-!
The programs of a machine: a shell and some tools, in the directories where they are looked for.
-/

namespace Tandem.Guest

open Tandem.Host Tandem.Machine

/-- How deep commands may stand inside each other, calls of functions and shells included. -/
def depthLimit : Nat := 12000

/-- Sleeps of fewer milliseconds pass, longer ones do not end. -/
def sleepLimit : Nat := 10000

/-- A shell around a process, which only starts it. -/
def shellAround (start : Start) (around : Surroundings) : Shell where
  files := around.files
  directory := start.directory
  bindings := start.environment.map fun (name, value) => (raw name, ⟨some (raw value), true, false⟩)
  name := []
  positional := []
  functions := []
  input := ofBytes start.input
  sinks := [(1, .out), (2, .err)]
  inputs := []
  out := []
  err := []
  pipes := []
  status := 0
  stop := none
  options := []
  guarded := false
  traps := []
  backgrounds := []
  lastBackground := none
  saved := []
  leftovers := []
  strayed := none
  others := around.others.map UInt32.toNat
  ended := []
  pid := start.pid.toNat
  elders := []
  nextPid := around.nextPid.toNat
  patience := sleepLimit
  ceilings := ceilingsOf start.limits
  mask := 0o22
  caller := []
  outputStatus := none
  loops := 0
  calls := 0
  line := 0

/-- How far a shell got. -/
def Shell.fate (s : Shell) : Fate :=
  match s.stop with
  | some (.killed _ n) => .ended (.signal (Int32.ofNat n))
  | some .asleep => .asleep
  | _ => .ended (.code (Int32.ofNat s.status))

/-- The processes that a shell left asleep. One that does not end itself may wait for a process that
left its group. -/
def Shell.sleepers (s : Shell) : List Sleeper :=
  match s.fate, s.strayed with
  | .asleep, some pid => s.leftovers ++ [⟨UInt32.ofNat pid, true⟩]
  | _, _ => s.leftovers

/-- What the programs do. -/
def programs : Programs := fun start around =>
  let s := launch (deeper depthLimit) start.pid.toNat start.image (shellAround start around)
  { files := s.files
    out := toBytes s.out.reverse.flatten
    err := toBytes s.err.reverse.flatten
    fate := s.fate
    leftovers := s.sleepers
    ended := s.ended.map fun (pid, signal) => (UInt32.ofNat pid, Int32.ofNat signal)
    nextPid := UInt32.ofNat s.nextPid }

/-- A directory of programs. -/
def programDirectory : Node :=
  .directory 0o755 <|
    [("sh", Node.program "sh"), ("dash", Node.program "sh")] ++
    tools.map fun (name, _) => (name, Node.program name)

/-- The devices of a machine. -/
def deviceDirectory : Node :=
  .directory 0o755 <|
    ["full", "null", "random", "stderr", "stdin", "stdout", "tty", "urandom", "zero"].map fun name =>
      (name, Node.device name)

/-- The files of a machine that has programs and nothing else. -/
def standardFiles : Node :=
  .directory 0o755
    [("bin", programDirectory),
     ("usr", .directory 0o755
       [("bin", programDirectory),
        ("local", .directory 0o755 [("bin", .emptyDirectory), ("sbin", .emptyDirectory)]),
        ("sbin", .emptyDirectory)]),
     ("sbin", .emptyDirectory),
     ("dev", deviceDirectory),
     ("etc", .directory 0o755 [("passwd", .file 0o644 [])]),
     ("tmp", .emptyDirectory)]

end Tandem.Guest
