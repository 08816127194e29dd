import Tandem.Machine.Exec

/-!
A machine in memory: files, processes and a clock, on which tasks over `host` run.

What programs do is a parameter. A process starts when its parent first sleeps, so that a parent
that does not wait finds it not yet started; then it runs at once until it ends or falls asleep for
good. Signals reach every process of a group, sleepers that a guest left behind included, but no
sleeper that has left the group.
-/

namespace Tandem.Machine

open Tandem.Host Tandem.Text

/-- What a process runs with. -/
structure Start where
  image : Image
  directory : List String
  environment : List (String × String)
  input : Utf8.Bytes
  limits : Option ChildLimits
  pid : UInt32

/-- How far a process got. -/
inductive Fate where
  | ended (ending : Ending)
  /-- It sleeps for good. -/
  | asleep
deriving DecidableEq, Repr

/-- What a process finds around it when it starts. -/
structure Surroundings where
  files : Node
  /-- The processes that are alive. -/
  others : List UInt32
  /-- The number of the next process. -/
  nextPid : UInt32

/-- A process that was left asleep. -/
structure Sleeper where
  pid : UInt32
  /-- Whether it left the group that it was started in. -/
  strayed : Bool

/-- What a process did. -/
structure Effect where
  files : Node
  out : Utf8.Bytes
  err : Utf8.Bytes
  fate : Fate
  leftovers : List Sleeper
  /-- The processes that it ended, and the signals that it did so with. -/
  ended : List (UInt32 × Int32)
  /-- The number of the next process after it. -/
  nextPid : UInt32

/-- What the programs of a machine do. -/
abbrev Programs := Start → Surroundings → Effect

inductive State where
  | ready (start : Start)
  | ran (fate : Fate) (out err : Utf8.Bytes)

structure Process where
  pid : UInt32
  group : UInt32
  state : State
  captured : Bool
  /-- Whether its parent knows how it ended. -/
  reaped : Bool

namespace Process

def ending? (p : Process) : Option Ending :=
  match p.state with
  | .ran (.ended e) _ _ => some e
  | _ => none

def isAlive (p : Process) : Bool := p.ending?.isNone

/-- The process after a signal that ends it. -/
def signalled (n : Int32) (p : Process) : Process :=
  match p.state with
  | .ready _ => { p with state := .ran (.ended (.signal n)) [] [] }
  | .ran .asleep out err => { p with state := .ran (.ended (.signal n)) out err }
  | .ran (.ended _) _ _ => p

/-- The process after those of some signals that were sent to it. -/
def hit (signals : List (UInt32 × Int32)) (p : Process) : Process :=
  signals.foldl (fun p (pid, n) => if p.pid = pid then p.signalled n else p) p

end Process

/-- The process of a sleeper that was left by a member of a group. -/
def Sleeper.process (group : UInt32) (s : Sleeper) : Process :=
  ⟨s.pid, if s.strayed then s.pid else group, .ran .asleep [] [], false, false⟩

end Tandem.Machine

namespace Tandem

open Tandem.Host Tandem.Machine Tandem.Text

structure Machine where
  files : Node
  directory : List String
  environment : List (Utf8.Bytes × Utf8.Bytes)
  pid : UInt32
  counter : Nat
  clock : Duration
  processes : List Process
  nextPid : UInt32

namespace Machine

def view (m : Machine) : Files.View := ⟨m.files, m.directory⟩

/-- The answer of a call that may change the files. -/
def changing (m : Machine) (r : Except IoError Node) : Except IoError Unit × Machine :=
  match r with
  | .ok files => (.ok (), { m with files })
  | .error e => (.error e, m)

def process? (m : Machine) (pid : UInt32) : Option Process :=
  m.processes.find? (·.pid == pid)

def updateProcess (m : Machine) (pid : UInt32) (f : Process → Process) : Machine :=
  { m with processes := m.processes.map fun p => if p.pid = pid then f p else p }

def hasNul (s : String) : Bool := s.contains '\x00'

/-- How the calls of a child are answered: it becomes an image if there is one. -/
def childAnswer (image : Except IoError Image) (c : ChildCall) (s : Unit) :
    childInterface.Reply c × Unit :=
  match c with
  | .become => (image.map fun _ => (), s)
  | _ => (.ok (), s)

/-- What a launch runs, or why it cannot. The child first changes its directory, then sets itself up,
and only then looks for the program. -/
def prepare (m : Machine) (l : Launch) : Except IoError (Image × List String) := do
  if hasNul l.program.text || l.arguments.any hasNul ||
      l.environment.any fun (name, value) => hasNul name || hasNul value then
    throw .nulInArgument
  let directory ← match l.directory with
    | none => pure m.directory
    | some path => do
      let (names, node) ← Machine.lookup m.files m.directory path
      if node.isDirectory then pure names else throw .notDirectory
  let image := exec ⟨m.files, directory⟩ (l.environment.lookup "PATH") l.program
    (l.program.text :: l.arguments)
  ((childTask l.limits).run (childAnswer image) ()).1
  return (← image, directory)

def spawn (m : Machine) (l : Launch) : Except IoError Child × Machine :=
  match m.prepare l with
  | .error e => (.error e, m)
  | .ok (image, directory) =>
    let pid := m.nextPid
    let start : Start := ⟨image, directory, l.environment, [], l.limits, pid⟩
    let p : Process := ⟨pid, pid, .ready start, l.captured, false⟩
    (.ok ⟨pid, l.captured⟩,
      { m with processes := m.processes ++ [p], nextPid := pid + 1 })

def surroundings (m : Machine) : Surroundings :=
  ⟨m.files, (m.processes.filter Process.isAlive).map Process.pid, m.nextPid⟩

/-- Runs a process that is ready. -/
def runProcess (programs : Programs) (m : Machine) (p : Process) : Machine :=
  match p.state with
  | .ran .. => m
  | .ready start =>
    let effect := programs start m.surroundings
    let m := m.updateProcess p.pid fun p =>
      { p with state := .ran effect.fate effect.out effect.err }
    { m with
      files := effect.files
      processes :=
        m.processes.map (Process.hit effect.ended) ++ effect.leftovers.map (Sleeper.process p.group)
      nextPid := effect.nextPid }

/-- Runs every process that is ready. -/
def runReady (programs : Programs) (m : Machine) : Machine :=
  m.processes.foldl (runProcess programs) m

def signalGroup (m : Machine) (group : UInt32) (s : Signal) : Except IoError Unit × Machine :=
  let isMember (p : Process) : Bool := p.group == group && !p.reaped
  if m.processes.any isMember then
    let hit (n : Int32) : Machine :=
      { m with processes := m.processes.map fun p => if isMember p then p.signalled n else p }
    (.ok (),
      match s with
      | .terminate => hit 15
      | .kill => hit 9
      | .probe => m)
  else (.error .noProcess, m)

/-- A child that was waited for, if it ended. -/
def reap (m : Machine) (pid : UInt32) : Option Ending × Machine :=
  match (m.process? pid).bind Process.ending? with
  | some ending => (some ending, m.updateProcess pid fun p => { p with reaped := true })
  | none => (none, m)

/-- All that a child wrote. -/
def output (m : Machine) (pid : UInt32) (stream : Stream) : Utf8.Bytes :=
  match m.process? pid with
  | some ⟨_, _, .ran _ out err, true, _⟩ =>
    match stream with
    | .out => out
    | .err => err
  | _ => []

/-- Gives a process that has not started more to read. -/
def Process.fed (input : Utf8.Bytes) (p : Process) : Process :=
  match p.state with
  | .ready start => { p with state := .ready { start with input := start.input ++ input } }
  | _ => p

/-- How the machine answers a call. -/
def answer (programs : Programs) : (c : Call) → Machine → host.Reply c × Machine
  | .environment, m => (m.environment, m)
  | .processId, m => (m.pid, m)
  | .nextNumber, m => (m.counter, { m with counter := m.counter + 1 })
  | .turn, m => (true, m)
  | .now, m => (m.clock, m)
  | .sleep wait, m => ((), { m.runReady programs with clock := m.clock + wait })
  | .stat path, m => (Files.stat m.view path, m)
  | .createDir path, m => m.changing (Files.createDir m.view path)
  | .setMode path mode, m => m.changing (Files.setMode m.view path mode)
  | .listDir path, m => (Files.listDir m.view path, m)
  | .readFile path, m => (Files.read m.view path, m)
  | .copyFile source target, m => m.changing (Files.copy m.view source target)
  | .removeTree path, m => m.changing (Files.removeTree m.view path)
  | .resolve path, m => (Files.resolve m.view path, m)
  | .spawn launch, m => m.spawn launch
  | .feed pid input, m => ((), m.updateProcess pid (Process.fed (Utf8.encode input.toList)))
  | .poll pid, m => let (ending, m) := m.reap pid; (.ok ending, m)
  | .wait pid, m =>
    match (m.runReady programs).reap pid with
    | (some ending, m) => (.ok ending, m)
    | (none, m) => (.error .noChild, m)
  | .killChild pid, m => (.ok (), m.updateProcess pid (Process.signalled 9))
  | .signalGroup group signal, m => m.signalGroup group signal
  | .drain pid stream _, m => ([.chunk (m.output pid stream), .chunk []], m)

/-- Runs a task on the machine. -/
def run {α : Type} (programs : Programs) (t : Task host α) (m : Machine) : α × Machine :=
  t.run (answer programs) m

end Machine

end Tandem
