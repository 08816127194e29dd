import Tandem.Machine.Walk

/-!
The calls of a file system, on a tree and seen from a working directory.

A call that changes something gives the tree after it. A new file or directory gets the usual
rights; a copy gets those of what it was copied from.
-/

namespace Tandem.Machine.Files

open Tandem.Host Tandem.Text

/-- A tree and the directory that relative paths start from. -/
structure View where
  root : Node
  directory : List String

variable (v : View)

def stat (path : Path) : Except IoError FileKind :=
  (fun found => found.2.kind) <$> lookup v.root v.directory path

def resolve (path : Path) : Except IoError Path :=
  (fun found => pathOf found.1) <$> lookup v.root v.directory path

/-- The bytes of a file. A program reads as its first bytes, a device as nothing. -/
def contents : Node → Except IoError Utf8.Bytes
  | .file _ bytes => .ok bytes
  | .program _ => .ok [0x7f, 0x45, 0x4c, 0x46]
  | .device _ => .ok []
  | _ => .error .isDirectory

def read (path : Path) : Except IoError Utf8.Bytes := do
  contents (← lookup v.root v.directory path).2

def listDir (path : Path) : Except IoError (List (Except IoError Entry)) := do
  let (_, node) ← lookup v.root v.directory path
  if node.isDirectory then
    return node.entries.map fun (name, inner) => .ok ⟨name, .ok inner.kind⟩
  else throw .notDirectory

/-- A place where nothing may be yet. -/
def free (path : Path) : Except IoError (List String) := do
  let place ← locate v.root v.directory false path
  if place.node.isSome then throw .alreadyExists
  return place.names

def createDir (path : Path) : Except IoError Node := do
  return v.root.put (← free v path) .emptyDirectory

def link (path : Path) (target : String) : Except IoError Node := do
  return v.root.put (← free v path) (.link target)

/-- Makes a directory and those around it, as far as they are missing. -/
def createDirs (path : Path) : Except IoError Node :=
  let rec add (root : Node) (here : List String) : List Step → Except IoError Node
    | [] => .ok root
    | .up :: rest => add root here.dropLast rest
    | .down name :: rest =>
      match root.get? (here ++ [name]) with
      | some _ => add root (here ++ [name]) rest
      | none => add (root.put (here ++ [name]) .emptyDirectory) (here ++ [name]) rest
  add v.root (if path.isAbsolute then [] else v.directory) (stepsOf path)

/-- Writes a file, after what it holds already if it is appended to. -/
def write (path : Path) (append : Bool) (bytes : Utf8.Bytes) : Except IoError Node := do
  if endsAsDirectory path then throw .isDirectory
  let place ← locate v.root v.directory true path
  match place.node with
  | none => return v.root.put place.names (.file 0o644 bytes)
  | some (.file mode old) =>
    return v.root.put place.names (.file mode (if append then old ++ bytes else bytes))
  | some (.device _) => return v.root
  | some (.program _) => throw (.system 26)
  | some _ => throw .isDirectory

def setMode (path : Path) (mode : Nat) : Except IoError Node := do
  let (names, node) ← lookup v.root v.directory path
  return v.root.put names (node.withMode mode)

def copy (source target : Path) : Except IoError Node := do
  let (_, node) ← lookup v.root v.directory source
  let bytes ← contents node
  let root ← write v target false bytes
  setMode ⟨root, v.directory⟩ target node.mode

/-- Removes a directory with all it holds; a link is removed itself. -/
def removeTree (path : Path) : Except IoError Node := do
  let place ← locate v.root v.directory false path
  match place.node with
  | none => throw .notFound
  | some (.directory ..) => return v.root.erase place.names
  | some (.link _) => return v.root.erase place.names
  | some _ => throw .notDirectory

/-- Removes a file. -/
def remove (path : Path) : Except IoError Node := do
  let place ← locate v.root v.directory false path
  match place.node with
  | none => throw .notFound
  | some (.directory ..) => throw .isDirectory
  | some _ => return v.root.erase place.names

end Tandem.Machine.Files
