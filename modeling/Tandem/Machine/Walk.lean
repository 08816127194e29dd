import Tandem.Machine.Node

/-!
Following a path through a file tree, with its links.
-/

namespace Tandem.Machine

open Tandem.Host

/-- The longest name of an entry, in bytes. -/
def nameLimit : Nat := 255

/-- The length at which a path is too long, in bytes. -/
def pathLimit : Nat := 4096

/-- The most links that one walk follows. -/
def linkLimit : Nat := 40

/-- The steps that a path asks for. -/
inductive Step where
  | up
  | down (name : String)
deriving DecidableEq, Repr

def stepOf? (piece : List Char) : Option Step :=
  match piece with
  | [] => none
  | ['.'] => none
  | ['.', '.'] => some .up
  | piece => some (.down (String.ofList piece))

def stepsOf (path : Path) : List Step := (Path.split path.text.toList).filterMap stepOf?

/-- Whether a path can only name a directory, because it ends in a separator or in `.`. -/
def endsAsDirectory (path : Path) : Bool :=
  match (Path.split path.text.toList).getLast? with
  | some [] => true
  | some ['.'] => true
  | _ => false

/-- Where a walk ends: the names that lead there without links, and what is there, if anything. -/
structure Place where
  names : List String
  node : Option Node

/-- Goes on from the directory that some names lead to. `links` more links may be followed, the last
one of a path only if `follow` says so or a directory has to be there. -/
def walk (root : Node) (follow : Bool) (links : Nat) (directory : Bool) (here : List String)
    (steps : List Step) : Except IoError Place :=
  match steps with
  | [] =>
    match root.get? here with
    | some node =>
      if directory && !node.isDirectory then .error .notDirectory else .ok ⟨here, some node⟩
    | none => .error .notFound
  | .up :: rest => walk root follow links directory here.dropLast rest
  | .down name :: rest =>
    match root.get? here with
    | none => .error .notFound
    | some node =>
      if !node.isDirectory then .error .notDirectory
      else if nameLimit < name.utf8ByteSize then .error .nameTooLong
      else
        match node.child? name with
        | none => if rest.isEmpty then .ok ⟨here ++ [name], none⟩ else .error .notFound
        | some (.link target) =>
          if rest.isEmpty && !follow && !directory then
            .ok ⟨here ++ [name], some (.link target)⟩
          else
            match links with
            | 0 => .error .linkLoop
            | links + 1 =>
              let path : Path := ⟨target⟩
              walk root follow links (directory || (rest.isEmpty && endsAsDirectory path))
                (if path.isAbsolute then [] else here) (stepsOf path ++ rest)
        | some inner =>
          if !rest.isEmpty && !inner.isDirectory then .error .notDirectory
          else walk root follow links directory (here ++ [name]) rest
termination_by (links, steps.length)

/-- The place that a path names, seen from a directory. -/
def locate (root : Node) (directory : List String) (follow : Bool) (path : Path) :
    Except IoError Place :=
  if path.text.contains '\x00' then .error .nulInPath
  else if path.isEmpty then .error .notFound
  else if pathLimit ≤ path.text.utf8ByteSize then .error .nameTooLong
  else
    walk root follow linkLimit (endsAsDirectory path) (if path.isAbsolute then [] else directory)
      (stepsOf path)

/-- The node that a path names, looking through links. -/
def lookup (root : Node) (directory : List String) (path : Path) :
    Except IoError (List String × Node) :=
  match locate root directory true path with
  | .error e => .error e
  | .ok ⟨names, some node⟩ => .ok (names, node)
  | .ok ⟨_, none⟩ => .error .notFound

/-- The absolute path of some names. -/
def pathOf (names : List String) : Path := ⟨"/" ++ "/".intercalate names⟩

end Tandem.Machine
