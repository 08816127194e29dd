import Tandem.Number.Shortest

/-!
Document values and their two written forms.

`compact` writes a value on one line without blanks, `pretty` with an indentation of two. Both write
fields in the order in which the value holds them; `sorted` puts them in order of their names.
-/

namespace Tandem.Document

open Tandem.Number

inductive Value where
  | null
  | bool (b : Bool)
  | int (n : Int)
  | real (x : Binary64)
  | text (s : String)
  | list (items : List Value)
  | record (fields : List (String × Value))

/-- One character of a quoted text. Quotes, backslashes and control characters are escaped, all
else stands for itself. -/
def escape (c : Char) : List Char :=
  match c with
  | '"' => ['\\', '"']
  | '\\' => ['\\', '\\']
  | '\n' => ['\\', 'n']
  | '\r' => ['\\', 'r']
  | '\t' => ['\\', 't']
  | '\x08' => ['\\', 'b']
  | '\x0c' => ['\\', 'f']
  | c =>
    if c.toNat < 0x20 then
      ['\\', 'u', '0', '0', Nat.digitChar (c.toNat / 16), Nat.digitChar (c.toNat % 16)]
    else [c]

def quote (s : String) : List Char :=
  '"' :: s.toList.flatMap escape ++ ['"']

namespace Value

/-- The written form of a value without parts. -/
def atom : Value → List Char
  | bool true => "true".toList
  | bool false => "false".toList
  | int n => (toString n).toList
  | real x => x.render.toList
  | text s => quote s
  | _ => "null".toList

mutual

def compact : Value → List Char
  | list [] => ['[', ']']
  | list (v :: rest) => '[' :: compact v ++ compactItems rest ++ [']']
  | record [] => ['\x7b', '\x7d']
  | record ((name, v) :: rest) =>
    '\x7b' :: quote name ++ ':' :: compact v ++ compactFields rest ++ ['\x7d']
  | v => v.atom

def compactItems : List Value → List Char
  | [] => []
  | v :: rest => ',' :: compact v ++ compactItems rest

def compactFields : List (String × Value) → List Char
  | [] => []
  | (name, v) :: rest => ',' :: quote name ++ ':' :: compact v ++ compactFields rest

end

/-- The start of a line at a depth. -/
def newline (depth : Nat) : List Char :=
  '\n' :: List.replicate (2 * depth) ' '

mutual

/-- The form of a value whose parts stand one deeper than `depth`. -/
def prettyAt (depth : Nat) : Value → List Char
  | list [] => ['[', ']']
  | list (v :: rest) =>
    '[' :: newline (depth + 1) ++ prettyAt (depth + 1) v ++ prettyItems (depth + 1) rest ++
      newline depth ++ [']']
  | record [] => ['\x7b', '\x7d']
  | record ((name, v) :: rest) =>
    '\x7b' :: newline (depth + 1) ++ quote name ++ ':' :: ' ' :: prettyAt (depth + 1) v ++
      prettyFields (depth + 1) rest ++ newline depth ++ ['\x7d']
  | v => v.atom

def prettyItems (depth : Nat) : List Value → List Char
  | [] => []
  | v :: rest => ',' :: newline depth ++ prettyAt depth v ++ prettyItems depth rest

def prettyFields (depth : Nat) : List (String × Value) → List Char
  | [] => []
  | (name, v) :: rest =>
    ',' :: newline depth ++ quote name ++ ':' :: ' ' :: prettyAt depth v ++
      prettyFields depth rest

end

/-- A field put into fields that are in order of their names. -/
def insertField (field : String × Value) : List (String × Value) → List (String × Value)
  | [] => [field]
  | other :: rest =>
    if other.1 < field.1 then other :: insertField field rest else field :: other :: rest

mutual

/-- The value with the fields of every record in order of their names. -/
def sorted : Value → Value
  | list items => list (sortedItems items)
  | record fields => record (sortedFields fields)
  | v => v

def sortedItems : List Value → List Value
  | [] => []
  | v :: rest => sorted v :: sortedItems rest

def sortedFields : List (String × Value) → List (String × Value)
  | [] => []
  | (name, v) :: rest => insertField (name, sorted v) (sortedFields rest)

end

/-- The document on one line. -/
def line (v : Value) : String := String.ofList v.compact

/-- The document with an indentation of two. -/
def page (v : Value) : String := String.ofList (prettyAt 0 v)

end Value

end Tandem.Document
