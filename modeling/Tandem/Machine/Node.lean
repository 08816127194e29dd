import Tandem.Host.Call

/-!
File trees.

A directory holds its entries in the order in which they were made. `get?` looks an entry up by the
names that lead to it, `put` and `erase` change it; no name leads through a link here.
-/

namespace Tandem.Machine

open Tandem.Host Tandem.Text

inductive Node where
  | file (mode : Nat) (bytes : Utf8.Bytes)
  | directory (mode : Nat) (entries : List (String × Node))
  | link (target : String)
  /-- A program that the machine itself provides. -/
  | program (name : String)
  /-- A device by its name. -/
  | device (name : String)

namespace Node

def emptyDirectory : Node := directory 0o755 []

def kind : Node → FileKind
  | file .. => .file
  | directory .. => .directory
  | link _ => .link
  | program _ => .file
  | device _ => .special

def isDirectory (n : Node) : Bool := n.kind == .directory

/-- The entries of a directory; of anything else, none. -/
def entries : Node → List (String × Node)
  | directory _ entries => entries
  | _ => []

def child? (n : Node) (name : String) : Option Node := n.entries.lookup name

/-- The node that some names lead to. -/
def get? (n : Node) : List String → Option Node
  | [] => some n
  | name :: rest =>
    match n.child? name with
    | some inner => inner.get? rest
    | none => none

/-- A list of entries with one of them replaced, or added at the end. -/
def putEntry (name : String) (node : Node) : List (String × Node) → List (String × Node)
  | [] => [(name, node)]
  | (other, old) :: rest =>
    if other = name then (name, node) :: rest else (other, old) :: putEntry name node rest

/-- Puts a node in the place that some names lead to, where the directory around it exists. -/
def put (n : Node) (names : List String) (node : Node) : Node :=
  match names with
  | [] => node
  | name :: rest =>
    match n with
    | directory mode entries =>
      match rest with
      | [] => directory mode (putEntry name node entries)
      | _ :: _ =>
        match entries.lookup name with
        | some inner => directory mode (putEntry name (inner.put rest node) entries)
        | none => n
    | _ => n

/-- Removes the node that some names lead to. -/
def erase (n : Node) (names : List String) : Node :=
  match names with
  | [] => n
  | name :: rest =>
    match n with
    | directory mode entries =>
      match rest with
      | [] => directory mode (entries.filter fun e => e.1 ≠ name)
      | _ :: _ =>
        match entries.lookup name with
        | some inner => directory mode (putEntry name (inner.erase rest) entries)
        | none => n
    | _ => n

/-- Sets the access rights of a file or directory. -/
def withMode (mode : Nat) : Node → Node
  | file _ bytes => file mode bytes
  | directory _ entries => directory mode entries
  | n => n

/-- The access rights of a node. -/
def mode : Node → Nat
  | file mode _ => mode
  | directory mode _ => mode
  | link _ => 0o777
  | program _ => 0o755
  | device _ => 0o666

/-- Whether the rights let someone run the node as a program. -/
def isExecutable (n : Node) : Bool := n.mode &&& 0o111 ≠ 0

end Node

end Tandem.Machine
