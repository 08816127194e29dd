import Tandem.Text.Class.Word
import Tandem.Text.Scan

/-!
Phrases: words that follow each other with white space and word edges between them.
-/

namespace Tandem.Text

inductive Item where
  /-- Exactly these characters. -/
  | word (text : String)
  /-- Any amount of white space. -/
  | space
  /-- At least one white-space character. -/
  | gap
  /-- A place between a word character and something else. -/
  | edge
deriving DecidableEq, Repr

/-- The items of a phrase in order. What follows white space in a phrase starts with none. -/
abbrev Phrase := List Item

/-- Whether the place between two characters, or at an end of the text, is the edge of a word. -/
def isEdge (before next : Option Char) : Bool :=
  before.any isWord != next.any isWord

/-- Whether a text starts with a phrase. -/
def Phrase.startsAt : Phrase → Option Char → List Char → Bool
  | [], _, _ => true
  | .word w :: items, before, text =>
    match after? w.toList text with
    | some rest => Phrase.startsAt items (w.toList.getLast?.or before) rest
    | none => false
  | .space :: items, before, text =>
    Phrase.startsAt items ((text.takeWhile isBlank).getLast?.or before) (text.dropWhile isBlank)
  | .gap :: items, before, text =>
    text.head?.any isBlank &&
      Phrase.startsAt items ((text.takeWhile isBlank).getLast?.or before) (text.dropWhile isBlank)
  | .edge :: items, before, text =>
    isEdge before text.head? && Phrase.startsAt items before text

/-- Whether a phrase occurs in a text. -/
def Phrase.occursIn (phrase : Phrase) (text : List Char) : Bool :=
  anywhere phrase.startsAt none text

end Tandem.Text
