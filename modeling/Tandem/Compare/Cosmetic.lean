import Tandem.Diff.Unified
import Tandem.Text.Class.Word
import Tandem.Text.Scan

/-!
Cosmetic differences: signs, in the lines that a diff changes, that two runtimes print the same
thing in different ways.
-/

namespace Tandem.Compare

open Tandem.Text Tandem.Diff

def isBrace (c : Char) : Bool := c == '\x7b' || c == '\x7d'

/-- Whether a text starts with a mapping: braces around a colon and no further brace. -/
def mappingAt : Option Char → List Char → Bool
  | _, '\x7b' :: rest =>
    (rest.dropWhile (!isBrace ·)).head? == some '\x7d' && (rest.takeWhile (!isBrace ·)).contains ':'
  | _, _ => false

/-- Whether a text starts with a marked string literal that is no part of a name. -/
def markedStringAt : Option Char → List Char → Bool
  | before, 'u' :: c :: _ => (c == '\'' || c == '"') && !before.any isNameChar
  | _, _ => false

/-- Whether a text starts with the name of a type in angle brackets. -/
def typeNameAt (_ : Option Char) (text : List Char) : Bool :=
  match afterAny? ["<type".toList, "<class".toList] text with
  | some rest =>
    rest.head?.any isBlank && (rest.dropWhile isBlank).head? == some '\''
  | none => false

/-- Whether a text starts with digits and an `L` that stand alone. -/
def longIntegerAt (before : Option Char) (text : List Char) : Bool :=
  !before.any isWord && text.head?.any isDecimal &&
    match text.dropWhile isDecimal with
    | 'L' :: rest => !rest.head?.any isWord
    | _ => false

/-- The number at the start of a text: digits, and a point with digits after it if there is one. -/
def number? (text : List Char) : Option (List Char × List Char) :=
  let digits := text.takeWhile isDecimal
  if digits = [] then none
  else
    match text.dropWhile isDecimal with
    | '.' :: rest =>
      let decimals := rest.takeWhile isDecimal
      if decimals = [] then some (digits, '.' :: rest)
      else some (digits ++ '.' :: decimals, rest.dropWhile isDecimal)
    | rest => some (digits, rest)

/-- The numbers of a text from left to right. -/
def numbers (text : List Char) : List (List Char) := captures number? text

def hasPoint (number : List Char) : Bool := number.contains '.'

inductive Cosmetic where
  | mappingOrder
  | stringMark
  | typeName
  | longInteger
  | division
deriving DecidableEq, Repr

namespace Cosmetic

def all : List Cosmetic := [mappingOrder, stringMark, typeName, longInteger, division]

def message : Cosmetic → String
  | mappingOrder => "Outputs contain mapping reprs; iteration order of unordered mappings differs between runtimes (arbitrary in the source runtime, insertion order in the target)."
  | stringMark => "String prefix difference detected (u'...' vs '...'); likely cosmetic, not a behavioral change."
  | typeName => "Type representation difference detected (<type '...'> vs <class '...'>); cosmetic difference between runtimes."
  | longInteger => "Long integer suffix detected (123L vs 123); the target runtime has a single integer type."
  | division => "Possible division semantics difference: the source runtime floors '/' on integers while the target runtime performs true division."

/-- Whether a line shows something. -/
def shows (p : Option Char → List Char → Bool) (line : String) : Bool :=
  anywhere p none line.toList

/-- Whether two outputs and their changed lines give reason for a warning. -/
def applies (source target : String) (changes : Changes) : Cosmetic → Bool
  | mappingOrder =>
    changes.all.any (shows mappingAt) && shows mappingAt source && shows mappingAt target
  | stringMark => changes.all.any (shows markedStringAt)
  | typeName => changes.all.any (shows typeNameAt)
  | longInteger => changes.removed.any (shows longIntegerAt)
  | division =>
    changes.removed.any (fun line => (numbers line.toList).any (!hasPoint ·)) &&
      changes.added.any (fun line => (numbers line.toList).any hasPoint)

end Cosmetic

/-- The cosmetic warnings for two outputs and the changed lines between them. -/
def cosmetics (source target : String) (changes : Changes) : List String :=
  (Cosmetic.all.filter (Cosmetic.applies source target changes)).map Cosmetic.message

end Tandem.Compare
