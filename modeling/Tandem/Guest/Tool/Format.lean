import Tandem.Guest.Arithmetic
import Tandem.Guest.Tool.Job
import Tandem.Number.Binary64

/-!
Formatted output: the escapes of `echo`, and the directives of `printf`.
-/

namespace Tandem.Guest

open Tandem.Number

/-- The character that a letter behind a backslash stands for. -/
def escapeOf? (c : Char) : Option Char :=
  match c with
  | 'n' => some '\n'
  | 't' => some '\t'
  | 'r' => some '\r'
  | 'a' => some '\x07'
  | 'b' => some '\x08'
  | 'f' => some '\x0c'
  | 'v' => some '\x0b'
  | 'e' => some '\x1b'
  | '\\' => some '\\'
  | _ => none

/-- A text without its escapes. In a format, `\"` is one too, and nothing ends the output; elsewhere
`\c` does, which the flag tells, and octal numbers may begin with a zero more. -/
def unescape (inFormat : Bool) : Nat → Raw → Raw × Bool
  | 0, s => (s, true)
  | _ + 1, [] => ([], true)
  | n + 1, '\\' :: c :: rest =>
    let put (c : Char) (rest : Raw) :=
      let (more, goesOn) := unescape inFormat n rest
      (c :: more, goesOn)
    match escapeOf? c with
    | some e => put e rest
    | none =>
      if isDigitOf 8 c then
        let (code, rest) := octal (if !inFormat && c = '0' then 4 else 3) (c :: rest)
        put (Char.ofNat (code % 256)) rest
      else if c = 'c' && !inFormat then ([], false)
      else if c = '"' && inFormat then put '"' rest
      else
        let (more, goesOn) := unescape inFormat n (c :: rest)
        ('\\' :: more, goesOn)
  | n + 1, c :: rest =>
    let (more, goesOn) := unescape inFormat n rest
    (c :: more, goesOn)

/-- A directive without its letter. -/
structure Directive where
  flags : Raw
  width : Nat
  precision : Option Nat

namespace Directive

/-- A text in the width of a directive. -/
def fill (d : Directive) (r : Raw) : Raw :=
  if d.flags.contains '-' then padRight d.width r else padLeft d.width ' ' r

/-- A number in the width of a directive, after its sign. Zeros fill it up where they may. -/
def fillNumber (d : Directive) (sign body : Raw) (zeros : Bool) : Raw :=
  if zeros && d.flags.contains '0' && !d.flags.contains '-' then
    sign ++ padLeft (d.width - sign.length) '0' body
  else d.fill (sign ++ body)

def signOf (d : Directive) (isNegative : Bool) : Raw :=
  if isNegative then ['-']
  else if d.flags.contains '+' then ['+']
  else if d.flags.contains ' ' then [' ']
  else []

/-- Digits of a base, at least as many as the precision says. -/
def inBase (d : Directive) (base n : Nat) : Raw :=
  padLeft (d.precision.getD 1) '0' (Nat.toDigits base n)

def integer (d : Directive) (n : Int) : Raw :=
  d.fillNumber (d.signOf (n < 0)) (d.inBase 10 n.natAbs) d.precision.isNone

/-- A number of 64 bits without a sign. -/
def natural (d : Directive) (base : Nat) (lead : Raw) (upper : Bool) (n : Int) : Raw :=
  let body := d.inBase base (n % UInt64.size).toNat
  let body := if upper then body.map Char.toUpper else body
  d.fillNumber (if d.flags.contains '#' && n ≠ 0 then lead else []) body d.precision.isNone

/-- A double with a fixed number of places. -/
def fixed (d : Directive) (x : Binary64) : Raw :=
  let places := d.precision.getD 6
  let (num, den) := x.magnitude
  let n := roundEven (num * Nat.pow 10 places) den
  let ds := padLeft (places + 1) '0' (digits n)
  let whole := ds.take (ds.length - places)
  let body := if places = 0 then whole else whole ++ '.' :: ds.drop (ds.length - places)
  d.fillNumber (d.signOf x.negative) body true

end Directive

/-- The value of an argument as a number, and what is said about it if it is none. -/
def numberArgument (argument : Raw) : Int × Option Raw :=
  match argument with
  | [] => (0, none)
  | '\'' :: c :: _ => (c.toNat, none)
  | '"' :: c :: _ => (c.toNat, none)
  | _ =>
    let (negative, r) := match argument.dropWhile (· = ' ') with
      | '-' :: r => (true, r)
      | '+' :: r => (false, r)
      | r => (false, r)
    if r.head?.any Char.isDigit then
      let (n, rest) := leadingNumber r
      (if negative then -(n : Int) else n,
        if rest.isEmpty then none else some (argument ++ raw ": not completely converted"))
    else (0, some (argument ++ raw ": expected numeric value"))

/-- The value of an argument as a decimal fraction. -/
def decimalArgument (argument : Raw) : Binary64 :=
  let (negative, r) := match argument with
    | '-' :: r => (true, r)
    | r => (false, r)
  let whole := r.takeWhile Char.isDigit
  let places :=
    match r.drop whole.length with
    | '.' :: rest => rest.takeWhile Char.isDigit
    | _ => []
  (Binary64.ofFraction? negative (valueOf 10 (whole ++ places)) (Nat.pow 10 places.length)).getD
    default

/-- What formatting has come to. -/
structure Formatted where
  out : Raw
  left : List Raw
  /-- What is said about arguments. -/
  notes : List Raw
  /-- A directive that is none, which ends the output. -/
  invalid : Option Raw
  /-- Whether an argument ended the output. -/
  isOver : Bool

namespace Formatted

def put (f : Formatted) (r : Raw) : Formatted := { f with out := f.out ++ r }

def next (f : Formatted) : Raw × Formatted := (f.left.headD [], { f with left := f.left.drop 1 })

/-- The width or precision in front of a text, an argument where a star stands. -/
def width (f : Formatted) (s : Raw) : Option Nat × Formatted × Raw :=
  match s with
  | '*' :: rest =>
    let (a, f) := f.next
    (some (numberArgument a).1.toNat, f, rest)
  | s =>
    let ds := s.takeWhile Char.isDigit
    (number? ds, f, s.drop ds.length)

/-- One directive with its letter. -/
def directive (f : Formatted) (d : Directive) (letter : Char) : Formatted :=
  let (argument, f') := f.next
  let number (shown : Int → Raw) : Formatted :=
    let (n, note) := numberArgument argument
    { f'.put (shown n) with notes := f.notes ++ note.toList }
  match letter with
  | '%' => f.put ['%']
  | 's' => f'.put (d.fill ((d.precision.map fun p => argument.take p).getD argument))
  | 'b' =>
    let (r, goesOn) := unescape false (argument.length + 1) argument
    { f'.put (d.fill r) with isOver := !goesOn }
  | 'c' => f'.put (d.fill (argument.take 1))
  | 'd' => number d.integer
  | 'i' => number d.integer
  | 'u' => number (d.natural 10 [] false)
  | 'o' => number (d.natural 8 ['0'] false)
  | 'x' => number (d.natural 16 ['0', 'x'] false)
  | 'X' => number (d.natural 16 ['0', 'X'] true)
  | 'f' => f'.put (d.fixed (decimalArgument argument))
  | 'F' => f'.put (d.fixed (decimalArgument argument))
  | letter => { f with invalid := some ['%', letter] }

/-- Goes through a format once. -/
def through : Nat → Raw → Formatted → Formatted
  | 0, _, f => f
  | _ + 1, [], f => f
  | n + 1, '%' :: rest, f =>
    let flags := rest.takeWhile fun c => ['-', '+', ' ', '#', '0'].contains c
    let (width, f, rest) := f.width (rest.drop flags.length)
    let (precision, f, rest) := match rest with
      | '.' :: rest => let (p, f, rest) := f.width rest; (some (p.getD 0), f, rest)
      | rest => (none, f, rest)
    match rest with
    | [] => { f with invalid := some ['%'] }
    | letter :: rest =>
      let f := f.directive ⟨flags, width.getD 0, precision⟩ letter
      if f.invalid.isSome || f.isOver then f else through n rest f
  | n + 1, '\\' :: c :: rest, f =>
    /- An escape takes at most four characters of the format. -/
    if isDigitOf 8 c then
      let (code, rest) := octal 3 (c :: rest)
      through n rest (f.put [Char.ofNat (code % 256)])
    else through n rest (f.put (unescape true 3 ['\\', c]).1)
  | n + 1, c :: rest, f => through n rest (f.put [c])

/-- Goes through a format until the arguments are used up. -/
def all : Nat → Raw → Formatted → Formatted
  | 0, _, f => f
  | n + 1, pattern, f =>
    let g := through (pattern.length + 1) pattern f
    if g.left.isEmpty || g.left.length = f.left.length || g.invalid.isSome || g.isOver then g
    else all n pattern g

end Formatted

def printf (j : Job) : Done :=
  match if j.arguments.head? = some ['-', '-'] then j.arguments.drop 1 else j.arguments with
  | [] => j.complain (raw "usage: printf format [arg ...]") 2
  | pattern :: arguments =>
    let f := Formatted.all (arguments.length + 1) pattern ⟨[], arguments, [], none, false⟩
    match f.invalid with
    | some d => j.done f.out (j.note (d ++ raw ": invalid directive")) 2
    | none => j.done f.out (f.notes.flatMap j.note) (if f.notes.isEmpty then 0 else 1)

end Tandem.Guest
