import Tandem.Guest.Glob
import Tandem.Machine.Files

/-!
Fields: what the words of a command come to.

A word expands to parts. Letters of a value that separate fields, and the breaks between the
arguments of `"$@"`, cut the parts into fields; then names in the file system take the place of a
field that is a pattern for them.
-/

namespace Tandem.Guest

open Tandem.Machine

/-- A part of an expanded word. -/
inductive Part where
  | letter (l : Letter)
  /-- Quotes: there is a field here even if it is empty. -/
  | quotes
  /-- The end of a field. -/
  | cut
deriving DecidableEq, Repr

def partsFrom (origin : Origin) (r : Raw) : List Part := r.map fun c => .letter ⟨c, origin⟩

/-- The letters of parts that are not cut. -/
def joinedLetters (parts : List Part) : List Letter :=
  parts.filterMap fun
    | .letter l => some l
    | .quotes => none
    | .cut => some ⟨' ', .quoted⟩

/-- The fields of an expanded word. Blanks among the separators count as one, others each. -/
def fieldsOf (separators : Raw) : Option (List Letter) → List Part → List (List Letter)
  | none, [] => []
  | some ls, [] => [ls]
  | field, .quotes :: rest => fieldsOf separators (some (field.getD [])) rest
  | none, .cut :: rest => fieldsOf separators none rest
  | some ls, .cut :: rest => ls :: fieldsOf separators none rest
  | field, .letter l :: rest =>
    if l.origin = .value && separators.contains l.char then
      if [' ', '\t', '\n'].contains l.char then
        match field with
        | none => fieldsOf separators none rest
        | some ls => ls :: fieldsOf separators none rest
      else field.getD [] :: fieldsOf separators none rest
    else fieldsOf separators (some (field.getD [] ++ [l])) rest

/-- The stretches of a field between slashes. -/
def segments : List Letter → List (List Letter)
  | [] => [[]]
  | l :: rest =>
    if l.char = '/' then [] :: segments rest
    else
      match segments rest with
      | part :: more => (l :: part) :: more
      | [] => [[l]]

/-- The names that the segments of a pattern lead to, from a name on. -/
def paths (view : Files.View) : Raw → List (List Letter) → List Raw
  | start, [] => [start]
  | start, segment :: rest =>
    let goOn (name : Raw) : List Raw :=
      paths view (start ++ name ++ if rest.isEmpty then [] else ['/']) rest
    let g := Glob.of segment
    if g.isProper then
      match Machine.lookup view.root view.directory ⟨text (if start.isEmpty then ['.'] else start)⟩ with
      | .ok (_, node) =>
        let names := (node.entries.map fun e => raw e.1).filter fun name =>
          g.fits name && (name.head? ≠ some '.' || (segment.head?.any (·.char == '.')))
        (names.mergeSort precedes).flatMap goOn
      | .error _ => []
    else goOn (plain segment)

/-- What a field stands for: the files it is a pattern for, or itself. -/
def filesOf (view : Files.View) (field : List Letter) : List Raw :=
  if (Glob.of field).isProper then
    let found := (paths view [] (segments field)).filter fun r =>
      match Machine.locate view.root view.directory false ⟨text r⟩ with
      | .ok ⟨_, some _⟩ => true
      | _ => false
    if found.isEmpty then [plain field] else found
  else [plain field]

/-- A character of a line of input, and whether a backslash keeps it from separating. -/
abbrev Kept := Char × Bool

/-- A line of input and what follows it. The flag says whether the line has an end. -/
def inputLine (plainly : Bool) : Raw → List Kept × Raw × Bool
  | [] => ([], [], false)
  | '\n' :: rest => ([], rest, true)
  | '\\' :: c :: rest =>
    if plainly then
      let (l, after, ended) := inputLine plainly (c :: rest)
      (('\\', false) :: l, after, ended)
    else if c = '\n' then inputLine plainly rest
    else
      let (l, after, ended) := inputLine plainly rest
      ((c, true) :: l, after, ended)
  | c :: rest =>
    let (l, after, ended) := inputLine plainly rest
    (if c = '\x00' then l else (c, false) :: l, after, ended)

/-- The words of a line for so many names: the last name takes the rest. -/
def splitFor (separators : Raw) : Nat → List Kept → List Raw
  | 0, _ => []
  | n + 1, l =>
    let isGap (k : Kept) : Bool := separators.contains k.1 && !k.2
    let isBlank (k : Kept) : Bool := isGap k && [' ', '\t', '\n'].contains k.1
    let l := l.dropWhile isBlank
    match n with
    | 0 =>
      let l := (l.reverse.dropWhile isBlank).reverse
      [l.map Prod.fst]
    | _ + 1 =>
      let word := l.takeWhile fun k => !isGap k
      let rest := (l.drop word.length).dropWhile isBlank
      let rest := if rest.head?.any isGap then rest.drop 1 else rest
      word.map Prod.fst :: splitFor separators n rest

end Tandem.Guest
