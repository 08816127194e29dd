import Tandem.Text.Utf8

/-!
Bytes as characters. Guests work on bytes; a raw text has one character below U+0100 for each.
-/

namespace Tandem.Guest

open Tandem.Text

abbrev Raw := List Char

def ofBytes (bytes : Utf8.Bytes) : Raw := bytes.map fun b => Char.ofNat b.toNat

def toBytes (r : Raw) : Utf8.Bytes := r.map fun c => UInt8.ofNat c.toNat

def raw (s : String) : Raw := ofBytes (Utf8.encode s.toList)

def text (r : Raw) : String := String.ofList (Utf8.decode (toBytes r))

def digits (n : Nat) : Raw := Nat.toDigits 10 n

def signed (n : Int) : Raw := if n < 0 then '-' :: digits n.natAbs else digits n.natAbs

/-- The value of a digit below sixteen. -/
def digitValue (c : Char) : Nat :=
  if c.isDigit then c.toNat - '0'.toNat else c.toLower.toNat - 'a'.toNat + 10

def isDigitOf (base : Nat) (c : Char) : Bool :=
  (c.isDigit || ('a' ≤ c.toLower && c.toLower ≤ 'f')) && digitValue c < base

def valueOf (base : Nat) (r : Raw) : Nat := r.foldl (fun n c => base * n + digitValue c) 0

/-- The value of decimal digits, if there are only such. -/
def number? (r : Raw) : Option Nat :=
  if r.isEmpty || !r.all Char.isDigit then none else some (valueOf 10 r)

def integer? : Raw → Option Int
  | '-' :: r => (number? r).map fun n => -(n : Int)
  | '+' :: r => (number? r).map Int.ofNat
  | r => (number? r).map Int.ofNat

/-- The lines of a text without their ends. -/
def lines : Raw → List Raw
  | [] => []
  | '\n' :: rest => [] :: lines rest
  | c :: rest =>
    match rest, lines rest with
    | [], _ => [[c]]
    | _, line :: more => (c :: line) :: more
    | _, [] => [[c]]

def unlines (ls : List Raw) : Raw := ls.flatMap (· ++ ['\n'])

/-- The stretches between marks. -/
def splitAt (mark : Char) : Raw → List Raw
  | [] => [[]]
  | c :: rest =>
    if c = mark then [] :: splitAt mark rest
    else
      match splitAt mark rest with
      | part :: more => (c :: part) :: more
      | [] => [[c]]

/-- Texts with a blank between them. -/
def spaced (rs : List Raw) : Raw := [' '].intercalate rs

/-- The order of raw texts, byte by byte. -/
def precedes (a b : Raw) : Bool := String.ofList a ≤ String.ofList b

/-- What stands before a mark, and what follows it. -/
def upTo (mark : Char) : Raw → Option (Raw × Raw)
  | [] => none
  | c :: rest =>
    if c = mark then some ([], rest)
    else (upTo mark rest).map fun (before, after) => (c :: before, after)

/-- Octal digits, at most so many. -/
def octal (most : Nat) (r : Raw) : Nat × Raw :=
  let ds := (r.take most).takeWhile (isDigitOf 8)
  (valueOf 8 ds, r.drop ds.length)

/-- A text filled up to a width on its left. -/
def padLeft (width : Nat) (c : Char) (r : Raw) : Raw := List.replicate (width - r.length) c ++ r

def padRight (width : Nat) (r : Raw) : Raw := r ++ List.replicate (width - r.length) ' '

end Tandem.Guest
