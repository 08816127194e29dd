import Tandem.Guest.Raw

/-!
Scripts of the shell, as they are read: words with their expansions, and commands made of them.
-/

namespace Tandem.Guest

/-- What is made of a parameter's value. -/
inductive Rule where
  | plain
  | length
  /-- Another text in place of a value that is there, and not empty if that is asked for. -/
  | instead (filled : Bool) (word : Raw)
  /-- A text for a value that is missing, or empty if that counts. -/
  | fallback (filled : Bool) (word : Raw)
  /-- A text that becomes the value where there is none. -/
  | assign (filled : Bool) (word : Raw)
  /-- A value that has to be there, with what is said otherwise. -/
  | demand (filled : Bool) (word : Raw)
  /-- The value without a start or an end of some form. -/
  | trim (atEnd longest : Bool) (word : Raw)
  /-- A form that the shell does not know. -/
  | unknown
deriving DecidableEq, Repr

/-- Whether a rule asks for a value that is there. -/
def Rule.wantsValue : Rule → Bool
  | plain => true
  | length => true
  | trim .. => true
  | _ => false

/-- A stretch of a word. An unquoted result is split at blanks. -/
inductive Piece where
  | text (quoted : Bool) (s : Raw)
  | parameter (quoted : Bool) (name : Raw) (rule : Rule)
  | sum (quoted : Bool) (source : Raw)
  /-- What commands print. Their lines are counted anew or from the line of the word on. -/
  | output (quoted anew : Bool) (source : Raw)
deriving DecidableEq, Repr

abbrev Word := List Piece

/-- A word without quotes and expansions, as it stands. -/
def literal? : Word → Option Raw
  | [] => some []
  | .text false s :: rest => (literal? rest).map (s ++ ·)
  | _ => none

inductive Direction where
  | write
  | append
  | read
  /-- To where another descriptor goes, or nowhere. -/
  | copy
  /-- From a text in the script. -/
  | here
deriving DecidableEq, Repr

structure Redirect where
  descriptor : Nat
  direction : Direction
  target : Word
deriving DecidableEq, Repr

inductive Command where
  | nothing
  | simple (line : Nat) (assignments : List (Raw × Word)) (words : List Word)
      (redirects : List Redirect)
  | piped (a b : Command)
  | negated (c : Command)
  | andThen (a b : Command)
  | orElse (a b : Command)
  | inOrder (a b : Command)
  | background (c : Command)
  | choice (condition yes no : Command)
  /-- Goes on while the condition fails, or as long as it holds. -/
  | loop (untilHolds : Bool) (condition body : Command)
  | forEach (name : Raw) (words : List Word) (body : Command)
  /-- The first command that has a pattern of the form of a word. -/
  | select (w : Word) (arms : List (List Word × Command))
  | subshell (c : Command)
  | function (name : Raw) (body : Command)
  | redirected (line : Nat) (c : Command) (redirects : List Redirect)

/-- The commands that are carried out one after the other. -/
def Command.steps : Command → List Command
  | inOrder a b => a.steps ++ b.steps
  | c => [c]

/-- What is wrong with a script, and where. -/
structure Flaw where
  line : Nat
  message : Raw
deriving DecidableEq, Repr

/-- The commands of a script line by line, and what is wrong with it after them, if anything. -/
structure Script where
  commands : List Command
  flaw : Option Flaw

end Tandem.Guest
