import Tandem.Guest.Raw

/-!
Patterns of the shell: `*` for any text, `?` for any character, sets in brackets.

A pattern is made of letters that know where they come from, as a quoted character stands for itself.
-/

namespace Tandem.Guest

/-- Where a character of an expanded word comes from. -/
inductive Origin where
  /-- It stands in the script. -/
  | script
  | quoted
  /-- It is part of a value. Such blanks separate fields. -/
  | value
deriving DecidableEq, Repr

structure Letter where
  char : Char
  origin : Origin
deriving DecidableEq, Repr

def lettersOf (origin : Origin) (r : Raw) : List Letter := r.map fun c => ⟨c, origin⟩

def plain (ls : List Letter) : Raw := ls.map Letter.char

/-- Whether a letter is this sign and has its special meaning. -/
def Letter.isSign (c : Char) (l : Letter) : Bool := l.char == c && l.origin != .quoted

/-- A part of a pattern. -/
inductive Mark where
  | char (c : Char)
  | one
  | any
  | among (inverted : Bool) (members : List (Char × Char))
deriving DecidableEq, Repr

abbrev Glob := List Mark

namespace Glob

/-- The characters of a named class, as ranges. -/
def classRanges (name : Raw) : List (Char × Char) :=
  match String.ofList name with
  | "alpha" => [('a', 'z'), ('A', 'Z')]
  | "digit" => [('0', '9')]
  | "alnum" => [('a', 'z'), ('A', 'Z'), ('0', '9')]
  | "upper" => [('A', 'Z')]
  | "lower" => [('a', 'z')]
  | "space" => [('\t', '\x0d'), (' ', ' ')]
  | "blank" => [('\t', '\t'), (' ', ' ')]
  | "punct" => [('!', '/'), (':', '@'), ('[', '\x60'), ('\x7b', '~')]
  | "xdigit" => [('0', '9'), ('a', 'f'), ('A', 'F')]
  | "cntrl" => [('\x00', '\x1f'), ('\x7f', '\x7f')]
  | "print" => [(' ', '~')]
  | "graph" => [('!', '~')]
  | _ => []

/-- The members of a set up to its closing bracket, and what follows it. A bracket in front is a
member. -/
def members : Nat → Bool → List Letter → Option (List (Char × Char) × List Letter)
  | 0, _, _ => none
  | _ + 1, _, [] => none
  | n + 1, isFirst, l :: rest =>
    if l.isSign ']' && !isFirst then some ([], rest)
    else
      let add (ranges : List (Char × Char)) (rest : List Letter) :=
        (members n false rest).map fun (more, rest) => (ranges ++ more, rest)
      let name := (rest.drop 1).takeWhile fun l => l.char.isAlpha
      if l.isSign '[' && (rest.head?.any (·.isSign ':')) &&
          ((rest.drop (1 + name.length)).take 2).map Letter.char = [':', ']'] then
        add (classRanges (plain name)) (rest.drop (3 + name.length))
      else
        match rest with
        | dash :: high :: after =>
          if dash.isSign '-' && !high.isSign ']' then add [(l.char, high.char)] after
          else add [(l.char, l.char)] rest
        | _ => add [(l.char, l.char)] rest

/-- The pattern that some letters make. -/
def ofLetters : Nat → List Letter → Glob
  | 0, _ => []
  | _ + 1, [] => []
  | n + 1, l :: rest =>
    if l.isSign '*' then .any :: ofLetters n rest
    else if l.isSign '?' then .one :: ofLetters n rest
    else if l.isSign '[' then
      let inverted := rest.head?.any fun l => l.isSign '!' || l.isSign '^'
      match members (rest.length + 1) true (if inverted then rest.drop 1 else rest) with
      | some (ranges, rest) => .among inverted ranges :: ofLetters n rest
      | none => .char '[' :: ofLetters n rest
    else .char l.char :: ofLetters n rest

def of (ls : List Letter) : Glob := ofLetters (ls.length + 1) ls

/-- Whether a pattern has any part that stands for more than itself. -/
def isProper (g : Glob) : Bool := g.any fun | .char _ => false | _ => true

end Glob

def inSet (members : List (Char × Char)) (c : Char) : Bool :=
  members.any fun (low, high) => low ≤ c && c ≤ high

def Mark.holds : Mark → Char → Bool
  | char d, c => c == d
  | among inverted members, c => inSet members c != inverted
  | _, _ => true

/-- A text and all that is left of it from some place on. -/
def tails : Raw → List Raw
  | [] => [[]]
  | c :: rest => (c :: rest) :: tails rest

namespace Glob

/-- Whether a whole text has the form of a pattern. -/
def fits : Glob → Raw → Bool
  | [], s => s.isEmpty
  | .any :: marks, s => (tails s).any fun t => fits marks t
  | m :: marks, c :: s => m.holds c && fits marks s
  | _ :: _, [] => false

/-- A text without the shortest or the longest start of this form. -/
def trimStart (g : Glob) (longest : Bool) (s : Raw) : Raw :=
  let cuts := (List.range (s.length + 1)).filter fun k => g.fits (s.take k)
  match if longest then cuts.getLast? else cuts.head? with
  | some k => s.drop k
  | none => s

/-- A text without the shortest or the longest end of this form. -/
def trimEnd (g : Glob) (longest : Bool) (s : Raw) : Raw :=
  let cuts := (List.range (s.length + 1)).filter fun k => g.fits (s.drop k)
  match if longest then cuts.head? else cuts.getLast? with
  | some k => s.take k
  | none => s

end Glob

end Tandem.Guest
