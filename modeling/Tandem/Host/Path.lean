/-!
Paths as text, and the parts they name.

Repeated separators, a trailing separator and every `.` but a leading one name nothing. Two paths
with the same parts are the same place: `Path.same`.
-/

namespace Tandem.Host

/-- A path as it was written. -/
structure Path where
  text : String
deriving DecidableEq, Repr

inductive Part where
  | root
  | current
  | parent
  | name (text : String)
deriving DecidableEq, Repr

namespace Path

def isEmpty (p : Path) : Bool := p.text.isEmpty

def isAbsolute (p : Path) : Bool := p.text.toList.head? == some '/'

/-- The stretches of a text between separators, empty ones included. -/
def split : List Char → List (List Char)
  | [] => [[]]
  | '/' :: rest => [] :: split rest
  | c :: rest =>
    match split rest with
    | [] => [[c]]
    | piece :: more => (c :: piece) :: more

/-- The part that a stretch inside a path names, if any. -/
def part? : List Char → Option Part
  | [] => none
  | ['.'] => none
  | ['.', '.'] => some .parent
  | piece => some (.name (String.ofList piece))

/-- The parts of a path in order. -/
def parts (p : Path) : List Part :=
  match split p.text.toList with
  | [] => []
  | [] :: rest => if p.isEmpty then [] else .root :: rest.filterMap part?
  | ['.'] :: rest => .current :: rest.filterMap part?
  | pieces => pieces.filterMap part?

/-- Whether two paths have the same parts. -/
def same (p q : Path) : Bool := p.parts == q.parts

/-- Whether the parts of `p` begin with those of `q`. -/
def isUnder (p q : Path) : Bool := q.parts.isPrefixOf p.parts

/-- `rel` seen from `base`. -/
def join (base rel : Path) : Path :=
  if rel.isAbsolute || base.isEmpty then rel
  else if base.text.toList.getLast? == some '/' then ⟨base.text ++ rel.text⟩
  else ⟨base.text ++ "/" ++ rel.text⟩

instance : HDiv Path String Path := ⟨fun base name => base.join ⟨name⟩⟩

/-- Whether a path is relative and names nothing but entries below where it starts. -/
def isSafe (p : Path) : Bool :=
  !p.isEmpty && !p.isAbsolute && p.parts.all fun | .name _ => true | _ => false

/-- What is wrong with a path that is not safe. -/
def hazard? (p : Path) : Option String :=
  if p.isSafe then none
  else if p.isEmpty then some "expected safe relative path, got an empty path"
  else some s!"expected safe relative path, got {p.text}"

/-- The names of a path, joined by single separators. -/
def key (p : Path) : String :=
  "/".intercalate (p.parts.filterMap fun | .name n => some n | _ => none)

end Path

end Tandem.Host
