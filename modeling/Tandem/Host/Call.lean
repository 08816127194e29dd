import Tandem.Host.Child
import Tandem.Host.Clock
import Tandem.Host.Path
import Tandem.Host.Together
import Tandem.Text.Utf8

/-!
The calls to the world outside: the clock, the environment, the file system and other processes.

Everything that depends on the world is a `Task` over `host`. Nothing is assumed about the answers,
so a fact about all ways through a task holds whatever fails and whenever it does.
-/

namespace Tandem.Host

open Tandem.Text

/-- What a name in the file system stands for. -/
inductive FileKind where
  | file
  | directory
  | link
  | special
deriving DecidableEq, Repr

/-- An entry of a directory. Its kind does not look through links. -/
structure Entry where
  name : String
  kind : Except IoError FileKind

inductive Signal where
  /-- Asks a process to end. -/
  | terminate
  /-- Ends a process. -/
  | kill
  /-- Does nothing but fail where there is no process. -/
  | probe
deriving DecidableEq, Repr

inductive Stream where
  | out
  | err
deriving DecidableEq, Repr

/-- What the standard input of a child is. -/
inductive Input where
  | none
  | pipe
deriving DecidableEq, Repr

/-- A program to start, and what it is given. -/
structure Launch where
  program : Path
  arguments : List String
  /-- The directory to change to before the program is looked for. -/
  directory : Option Path
  environment : List (String × String)
  input : Input
  /-- Whether both outputs are pipes, or else discarded. -/
  captured : Bool
  limits : Option ChildLimits
deriving DecidableEq, Repr

/-- A child that was started. -/
structure Child where
  pid : UInt32
  /-- Whether there are pipes to both of its outputs. -/
  piped : Bool
deriving DecidableEq, Repr

/-- How a process ended. -/
inductive Ending where
  | code (n : Int32)
  | signal (n : Int32)
deriving DecidableEq, Repr

/-- What one read gives. -/
inductive Read where
  | chunk (bytes : Utf8.Bytes)
  | failed (e : IoError)
deriving DecidableEq, Repr

inductive Call where
  | environment
  | processId
  /-- The next number of a counter that this process never sets back. -/
  | nextNumber
  /-- Whether the first of two tasks that run side by side goes on. -/
  | turn
  | now
  | sleep (wait : Duration)
  /-- What a path names, looking through links. -/
  | stat (path : Path)
  | createDir (path : Path)
  /-- Sets the access rights of a file. -/
  | setMode (path : Path) (mode : Nat)
  | listDir (path : Path)
  | readFile (path : Path)
  | copyFile (source target : Path)
  /-- Removes a directory with all it holds. Links are removed and not followed. -/
  | removeTree (path : Path)
  /-- The absolute path without links of the same place. -/
  | resolve (path : Path)
  | spawn (launch : Launch)
  /-- Writes to a child's input in the background. -/
  | feed (pid : UInt32) (input : String)
  /-- How a child ended, if it did. -/
  | poll (pid : UInt32)
  /-- Waits for a child to end. -/
  | wait (pid : UInt32)
  /-- Kills a child alone. -/
  | killChild (pid : UInt32)
  | signalGroup (group : UInt32) (signal : Signal)
  /-- The reads on a child's output so far, after waiting for its end for a while at most. -/
  | drain (pid : UInt32) (stream : Stream) (patience : Duration)
deriving DecidableEq, Repr

abbrev host : Interface where
  Call := Call
  Reply
    | .environment => List (Utf8.Bytes × Utf8.Bytes)
    | .processId => UInt32
    | .nextNumber => Nat
    | .turn => Bool
    | .now => Duration
    | .sleep _ => Unit
    | .stat _ => Except IoError FileKind
    | .createDir _ => Except IoError Unit
    | .setMode _ _ => Except IoError Unit
    | .listDir _ => Except IoError (List (Except IoError Entry))
    | .readFile _ => Except IoError Utf8.Bytes
    | .copyFile _ _ => Except IoError Unit
    | .removeTree _ => Except IoError Unit
    | .resolve _ => Except IoError Path
    | .spawn _ => Except IoError Child
    | .feed _ _ => Unit
    | .poll _ => Except IoError (Option Ending)
    | .wait _ => Except IoError Ending
    | .killChild _ => Except IoError Unit
    | .signalGroup _ _ => Except IoError Unit
    | .drain _ _ _ => List Read

/-- One call to the world. -/
def ask (c : Call) : Task host (host.Reply c) := Task.ask (I := host) c

/-- Two tasks side by side. -/
def both {α β : Type} (first : Task host α) (second : Task host β) : Task host (α × β) :=
  Task.together (I := host) .turn id first second

/-- A text file, which has to be UTF-8. -/
def readText (path : Path) : Task host (Except IoError String) := do
  match ← ask (.readFile path) with
  | .error e => return .error e
  | .ok bytes =>
    match Utf8.decode? bytes with
    | some text => return .ok (String.ofList text)
    | none => return .error .notUtf8

/-- The value of a variable of the host, if it is text. -/
def variableText (environment : List (Utf8.Bytes × Utf8.Bytes)) (name : String) : Option String := do
  let value ← environment.lookup (Utf8.encode name.toList)
  String.ofList <$> Utf8.decode? value

/-- The directory for temporary files. -/
def temporaryDirectory (environment : List (Utf8.Bytes × Utf8.Bytes)) : Path :=
  match environment.lookup (Utf8.encode "TMPDIR".toList) with
  | some value => ⟨String.ofList (Utf8.decode value)⟩
  | none => ⟨"/tmp"⟩

end Tandem.Host
