import Tandem.Diff.Hunk
import Tandem.Text.Lines

/-!
The unified form of a line diff: two file headers, then each hunk under a header of its own, one
signed line for every piece. `Changes.ofUnified` reads the changed lines back.
-/

namespace Tandem.Diff

open Tandem.Text

/-- Positions from 1, the length left out when it is 1. An empty span names the line before it. -/
def Span.header (s : Span) : String :=
  match s.length with
  | 0 => s!"{s.start},0"
  | 1 => s!"{s.start + 1}"
  | n => s!"{s.start + 1},{n}"

def Mark.render : Mark (List Char) → String
  | .kept line => .ofList (' ' :: chomp line)
  | .removed line => .ofList ('-' :: chomp line)
  | .added line => .ofList ('+' :: chomp line)

def Hunk.render (h : Hunk (List Char)) : List String :=
  s!"@@ -{h.old.header} +{h.new.header} @@" :: h.body.map Mark.render

def fileHeaders : List String :=
  ["--- source stdout", "+++ target stdout"]

/-- The unified diff of two texts, one entry a line. Equal texts have none. -/
def unified (old new : String) : List String :=
  if old = new then []
  else fileHeaders ++ (hunks (pieces old.toList) (pieces new.toList)).flatMap Hunk.render

/-- The lines that a diff removes and adds, without their signs. -/
structure Changes where
  removed : List String
  added : List String
deriving DecidableEq, Repr

namespace Changes

/-- Whether an entry of a diff is the header of a hunk. -/
def isHunkHeader (line : String) : Bool :=
  ['@', '@', ' '].isPrefixOf line.toList

/-- The rest of a line that carries the sign `c`. -/
def unsigned? (c : Char) (line : String) : Option String :=
  match line.toList with
  | sign :: rest => if sign = c then some (.ofList rest) else none
  | [] => none

/-- The changed lines of a unified diff. What stands before the first hunk header is the file
header; after it only the first character of a line says what the line is. -/
def ofUnified (diff : List String) : Changes :=
  let body := diff.dropWhile fun line => !isHunkHeader line
  ⟨body.filterMap (unsigned? '-'), body.filterMap (unsigned? '+')⟩

/-- All changed lines, the removed ones first. -/
def all (c : Changes) : List String := c.removed ++ c.added

end Changes

end Tandem.Diff
