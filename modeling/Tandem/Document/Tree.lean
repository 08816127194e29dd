import Tandem.Document.Token

/-!
Documents as trees, also those with a flaw in them.

A flaw stands in the tree where it stands in the text, so that a reader who goes through the tree
in order meets it only after everything in front of it. What follows a flaw is not in the tree.
-/

namespace Tandem.Document

mutual

inductive Tree where
  /-- No value where one should be. -/
  | missing (flaw : Flaw)
  | atom (meaning : Except Flaw Atom) (passing : Option Flaw)
  | text (meaning : Except Flaw String) (passing : Option Flaw)
  | list (items : Items)
  | record (members : Members)

/-- The items of a list from some place on. -/
inductive Items where
  | closed
  | cons (head : Tree) (tail : Items)
  /-- Neither an item nor the end. A reader who wants an item meets the first flaw, one who wants
  the end the second. -/
  | cut (next last : Flaw)

/-- The members of a record from some place on. -/
inductive Members where
  | closed
  | cons (name : Except Flaw String) (passing : Option Flaw) (value : Tree) (tail : Members)
  | cut (next last : Flaw)
  /-- A value where the first name should be. -/
  | nameless (value : Tree)

end

/-- Where the parser stands inside brackets: behind the opening one or behind a part. -/
inductive Place where
  | opening
  | following
deriving DecidableEq, Repr

mutual

/-- The value that tokens start with and what follows it. Of two calls in a row one takes a token
off, so fuel for twice the tokens is enough. -/
def parseTree : (fuel : Nat) → List Token → Tree × List Token
  | _, [] => (.missing .unfinished, [])
  | 0, _ => (.missing .malformed, [])
  | fuel + 1, token :: rest =>
    match token with
    | .atom meaning passing => (.atom meaning passing, rest)
    | .text meaning passing => (.text meaning passing, rest)
    | .listOpen =>
      let (items, rest) := parseItems .opening fuel rest
      (.list items, rest)
    | .recordOpen =>
      let (members, rest) := parseMembers .opening fuel rest
      (.record members, rest)
    | _ => (.missing .malformed, [])

def parseItems (place : Place) : (fuel : Nat) → List Token → Items × List Token
  | _, [] => (.cut .unfinished .unfinished, [])
  | 0, _ => (.cut .malformed .malformed, [])
  | _, .listClose :: rest => (.closed, rest)
  | fuel + 1, tokens =>
    match place, tokens with
    | .opening, tokens =>
      let (head, rest) := parseTree fuel tokens
      let (tail, rest) := parseItems .following fuel rest
      (.cons head tail, rest)
    | .following, [.comma] => (.cut .unfinished .malformed, [])
    | .following, .comma :: .listClose :: _ => (.cut .malformed .malformed, [])
    | .following, .comma :: tokens =>
      let (head, rest) := parseTree fuel tokens
      let (tail, rest) := parseItems .following fuel rest
      (.cons head tail, rest)
    | .following, _ => (.cut .malformed .malformed, [])

def parseMembers (place : Place) : (fuel : Nat) → List Token → Members × List Token
  | _, [] => (.cut .unfinished .unfinished, [])
  | 0, _ => (.cut .malformed .malformed, [])
  | _, .recordClose :: rest => (.closed, rest)
  | fuel + 1, tokens =>
    match place, tokens with
    | .opening, .text name passing :: tokens =>
      let (value, rest) := parseField fuel tokens
      let (tail, rest) := parseMembers .following fuel rest
      (.cons name passing value tail, rest)
    | .opening, tokens => (.nameless (parseTree fuel tokens).1, [])
    | .following, [.comma] => (.cut .unfinished .malformed, [])
    | .following, .comma :: .text name passing :: tokens =>
      let (value, rest) := parseField fuel tokens
      let (tail, rest) := parseMembers .following fuel rest
      (.cons name passing value tail, rest)
    | .following, _ => (.cut .malformed .malformed, [])

/-- The value after a name. -/
def parseField : (fuel : Nat) → List Token → Tree × List Token
  | fuel + 1, .colon :: tokens => parseTree fuel tokens
  | _, [] => (.missing .unfinished, [])
  | _, _ => (.missing .malformed, [])

end

/-- The tree of a text, and the tokens that are left over. -/
def Tree.ofText (text : List Char) : Tree × List Token :=
  let tokens := tokens text
  parseTree (2 * tokens.length + 1) tokens

mutual

/-- The first flaw that going past a value meets. -/
def Tree.passing : Tree → Option Flaw
  | .missing flaw => some flaw
  | .atom _ passing => passing
  | .text _ passing => passing
  | .list items => items.passing
  | .record members => members.passing

def Items.passing : Items → Option Flaw
  | .closed => none
  | .cons head tail => head.passing.or tail.passing
  | .cut next _ => some next

def Members.passing : Members → Option Flaw
  | .closed => none
  | .cons _ passing value tail => (passing.or value.passing).or tail.passing
  | .cut next _ => some next
  | .nameless _ => some .malformed

end

end Tandem.Document
