import Tandem.Machine.Files

/-!
From the name of a program to what runs: search along the path, access rights, and the first line of
scripts that names their interpreter.
-/

namespace Tandem.Machine

open Tandem.Host Tandem.Text

/-- A program of the machine with all its arguments, the zeroth included. -/
structure Image where
  program : String
  arguments : List String
deriving DecidableEq, Repr

/-- The most scripts that one program may go through to its interpreter. -/
def scriptLimit : Nat := 5

def isTab (b : UInt8) : Bool := b == 0x20 || b == 0x09

def trimBytes (bytes : Utf8.Bytes) : Utf8.Bytes :=
  ((bytes.dropWhile isTab).reverse.dropWhile isTab).reverse

/-- The interpreter that a script names in its first line, and the argument for it. -/
def scriptLine? (bytes : Utf8.Bytes) : Option (String × Option String) :=
  match bytes with
  | 0x23 :: 0x21 :: rest =>
    let line := trimBytes (rest.takeWhile (· ≠ 0x0a))
    let name := line.takeWhile fun b => !isTab b
    let argument := trimBytes (line.dropWhile fun b => !isTab b)
    let text (bytes : Utf8.Bytes) := String.ofList (Utf8.decode bytes)
    if name.isEmpty then none
    else some (text name, if argument.isEmpty then none else some (text argument))
  | _ => none

/-- Runs the file at a path. -/
def execFile (v : Files.View) (scripts : Nat) (path : Path) (arguments : List String) :
    Except IoError Image := do
  let (_, node) ← lookup v.root v.directory path
  if node.isDirectory || !node.isExecutable then throw .denied
  match node with
  | .program name => return ⟨name, arguments⟩
  | .file _ bytes =>
    match scriptLine? bytes with
    | none => throw .execFormat
    | some (interpreter, argument) =>
      match scripts with
      | 0 => throw .linkLoop
      | scripts + 1 =>
        execFile v scripts ⟨interpreter⟩
          ([interpreter] ++ argument.toList ++ [path.text] ++ arguments.drop 1)
  | _ => throw .denied

/-- Runs the file at a path; one in no known format is a script of the shell. -/
def execOrScript (v : Files.View) (path : Path) (arguments : List String) : Except IoError Image :=
  match execFile v scriptLimit path arguments with
  | .error e =>
    if e = .execFormat then
      execFile v scriptLimit ⟨"/bin/sh"⟩ (["/bin/sh", path.text] ++ arguments.drop 1)
    else .error e
  | image => image

/-- Tries the directories of a search path in turn. One that lacks the program is passed over; what
may not be run is remembered for the case that no other is found. -/
def search (v : Files.View) (name : String) (arguments : List String) (denied : Bool) :
    List String → Except IoError Image
  | [] => .error (if denied then .denied else .notFound)
  | directory :: rest =>
    let path : Path := if directory.isEmpty then ⟨name⟩ else ⟨directory ++ "/" ++ name⟩
    match execOrScript v path arguments with
    | .ok image => .ok image
    | .error e =>
      if e = .denied then search v name arguments true rest
      else if e = .notFound ∨ e = .notDirectory then search v name arguments denied rest
      else .error e

/-- The search path of a process without one. -/
def systemPath : String := "/bin:/usr/bin"

/-- Finds what a program's name stands for: a name with a separator is a path, any other is searched
for. -/
def exec (v : Files.View) (searchPath : Option String) (program : Path)
    (arguments : List String) : Except IoError Image :=
  if program.isEmpty then .error .notFound
  else if program.text.contains '/' then execOrScript v program arguments
  else if nameLimit < program.text.utf8ByteSize then .error .nameTooLong
  else search v program.text arguments false ((searchPath.getD systemPath).splitOn ":")

end Tandem.Machine
