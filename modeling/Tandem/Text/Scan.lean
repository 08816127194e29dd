/-!
Searching a text from left to right.
-/

namespace Tandem.Text

/-- What follows `word` at the start of a text. -/
def after? : (word text : List Char) → Option (List Char)
  | [], text => some text
  | w :: word, c :: text => if w = c then after? word text else none
  | _ :: _, [] => none

theorem after?_eq_some_iff {word text rest : List Char} :
    after? word text = some rest ↔ text = word ++ rest := by
  fun_induction after? word text <;> simp_all [eq_comm]

/-- What follows the first of these words that the text starts with. -/
def afterAny? (words : List (List Char)) (text : List Char) : Option (List Char) :=
  words.findSome? (after? · text)

/-- What follows `word`, or the whole text where it does not start with it. -/
def afterOptional (word text : List Char) : List Char :=
  (after? word text).getD text

/-- Whether `p` holds at some place of a text, given the character before the place and the text
from there on. -/
def anywhere (p : Option Char → List Char → Bool) (before : Option Char) : List Char → Bool
  | [] => p before []
  | c :: rest => p before (c :: rest) || anywhere p (some c) rest

/-- All captures of a text: the leftmost one, then those of what follows it. -/
def captures {α : Type} (capture? : List Char → Option (α × List Char)) (text : List Char) :
    List α :=
  match capture? text with
  | some (a, rest) =>
    if rest.length < text.length then a :: captures capture? rest else [a]
  | none =>
    match text with
    | [] => []
    | _ :: rest => captures capture? rest
termination_by text.length

end Tandem.Text
