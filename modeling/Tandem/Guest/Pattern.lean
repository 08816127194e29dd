import Tandem.Guest.Glob

/-!
Regular expressions, as `grep` and `sed` take them.

* `Sign` is what a pattern's text consists of. The basic form writes `\(`, `\|`, `\+` where the
  extended form writes `(`, `|`, `+`; after `signsOf` there is no difference.
* `Regex.ends` lists the ends of all matches at a place, those that take more first.
-/

namespace Tandem.Guest

inductive Atom where
  | any
  | char (c : Char)
  | among (inverted : Bool) (members : List (Char × Char))
deriving DecidableEq, Repr

/-- Whether an atom stands for a character, perhaps in its other case. -/
def Atom.holds (anyCase : Bool) (a : Atom) (c : Char) : Bool :=
  let one (c : Char) : Bool :=
    match a with
    | any => true
    | char d => c == d
    | among inverted members => inSet members c != inverted
  one c || (anyCase && (one c.toLower || one c.toUpper))

inductive Regex where
  | nothing
  | atom (a : Atom)
  | lineStart
  | lineEnd
  | both (a b : Regex)
  | either (a b : Regex)
  | repeated (least : Nat) (most : Option Nat) (r : Regex)
  | group (k : Nat) (r : Regex)
  /-- The text of a group once more. -/
  | again (k : Nat)
deriving DecidableEq, Repr

/-- A place in a line: what is left of it, and the texts of the groups so far. -/
structure Mid where
  rest : Raw
  groups : List (Nat × Raw)
deriving DecidableEq, Repr

namespace Regex

/-- The ends after several rounds of a step, `count` of which are done. -/
def rounds (step : Mid → List Mid) (least : Nat) (most : Option Nat) :
    Nat → Nat → Mid → List Mid
  | 0, count, m => if least ≤ count then [m] else []
  | n + 1, count, m =>
    let more :=
      if most.any (· ≤ count) then []
      else
        ((step m).filter fun next => next.rest.length < m.rest.length || count < least).flatMap
          (rounds step least most n (count + 1))
    more ++ if least ≤ count then [m] else []

/-- The ends of all matches at a place of a line of this length. -/
def ends (anyCase : Bool) (length : Nat) : Regex → Mid → List Mid
  | nothing, m => [m]
  | atom a, m =>
    match m.rest with
    | c :: rest => if a.holds anyCase c then [{ m with rest }] else []
    | [] => []
  | lineStart, m => if m.rest.length = length then [m] else []
  | lineEnd, m => if m.rest.isEmpty then [m] else []
  | both a b, m => (ends anyCase length a m).flatMap (ends anyCase length b)
  | either a b, m => ends anyCase length a m ++ ends anyCase length b m
  | repeated least most r, m =>
    rounds (ends anyCase length r) least most (m.rest.length + least + 1) 0 m
  | group k r, m =>
    (ends anyCase length r m).map fun e =>
      { e with groups := (k, m.rest.take (m.rest.length - e.rest.length)) :: e.groups }
  | again k, m =>
    let taken := (m.groups.lookup k).getD []
    if taken.isPrefixOf m.rest then [{ m with rest := m.rest.drop taken.length }] else []

/-- The longest match at a place. -/
def longest? (anyCase : Bool) (length : Nat) (r : Regex) (s : Raw) : Option Mid :=
  (ends anyCase length r ⟨s, []⟩).foldl
    (fun best e =>
      match best with
      | some b => if e.rest.length < b.rest.length then some e else best
      | none => some e)
    none

end Regex

/-- What the text of a pattern consists of. -/
inductive Sign where
  | atom (a : Atom)
  | bounds (least : Nat) (most : Option Nat)
  | opening
  | closing
  | bar
  | start
  | finish
  | again (k : Nat)
deriving DecidableEq, Repr

/-- The bounds between braces, as in `2`, `2,` or `2,5`. -/
def boundsOf (body : Raw) : Sign :=
  match splitAt ',' body with
  | [a] => .bounds ((number? a).getD 0) (number? a)
  | a :: b :: _ => .bounds ((number? a).getD 0) (number? b)
  | [] => .bounds 0 none

/-- The signs of a pattern's text. The flag says whether an expression begins here. -/
def signsOf (extended : Bool) : Nat → Bool → Raw → List Sign
  | 0, _, _ => []
  | _ + 1, _, [] => []
  | n + 1, isFirst, c :: rest =>
    let put (s : Sign) (rest : Raw) := s :: signsOf extended n false rest
    /- A sign of the extended form, which the basic form writes behind a backslash. -/
    let special? (c : Char) (rest : Raw) : Option (List Sign) :=
      match c with
      | '(' => some (.opening :: signsOf extended n true rest)
      | ')' => some (put .closing rest)
      | '|' => some (.bar :: signsOf extended n true rest)
      | '+' => some (put (.bounds 1 none) rest)
      | '?' => some (put (.bounds 0 (some 1)) rest)
      | '\x7b' =>
        (upTo '\x7d' rest).map fun (body, rest) =>
          put (boundsOf (body.filter (· ≠ '\\'))) rest
      | _ => none
    match c, rest with
    | '\\', d :: rest =>
      if '1' ≤ d && d ≤ '9' then put (.again (digitValue d)) rest
      else if d = 'n' then put (.atom (.char '\n')) rest
      else if d = 't' then put (.atom (.char '\t')) rest
      else if extended then put (.atom (.char d)) rest
      else (special? d rest).getD (put (.atom (.char d)) rest)
    | '[', rest =>
      let inverted := rest.head? == some '^'
      let body := lettersOf .script (if inverted then rest.drop 1 else rest)
      match Glob.members (body.length + 1) true body with
      | some (ranges, rest) => put (.atom (.among inverted ranges)) (plain rest)
      | none => put (.atom (.char '[')) rest
    | '.', rest => put (.atom .any) rest
    | '*', rest => if isFirst then put (.atom (.char '*')) rest else put (.bounds 0 none) rest
    | '^', rest =>
      if isFirst || extended then .start :: signsOf extended n true rest
      else put (.atom (.char '^')) rest
    | '$', rest =>
      if rest.isEmpty || extended || rest.take 2 = ['\\', ')'] then put .finish rest
      else put (.atom (.char '$')) rest
    | c, rest =>
      if extended then (special? c rest).getD (put (.atom (.char c)) rest)
      else put (.atom (.char c)) rest

mutual

/-- Alternatives, with the number of groups before them and after. -/
def readEither : Nat → Nat → List Sign → Regex × Nat × List Sign
  | 0, k, s => (.nothing, k, s)
  | n + 1, k, s =>
    let (a, k, rest) := readBoth n k .nothing s
    match rest with
    | .bar :: rest =>
      let (b, k, rest) := readEither n k rest
      (.either a b, k, rest)
    | rest => (a, k, rest)

/-- A row of parts, behind one that is read already. -/
def readBoth : Nat → Nat → Regex → List Sign → Regex × Nat × List Sign
  | 0, k, a, s => (a, k, s)
  | n + 1, k, a, s =>
    let one (r : Regex) (k : Nat) (rest : List Sign) :=
      let (r, rest) := readBounds n r rest
      readBoth n k (.both a r) rest
    match s with
    | [] => (a, k, [])
    | .bar :: _ => (a, k, s)
    | .closing :: _ => (a, k, s)
    | .atom x :: rest => one (.atom x) k rest
    | .start :: rest => one .lineStart k rest
    | .finish :: rest => one .lineEnd k rest
    | .again i :: rest => one (.again i) k rest
    | .bounds .. :: rest => readBoth n k a rest
    | .opening :: rest =>
      let (r, k', rest) := readEither n (k + 1) rest
      one (.group (k + 1) r) k' (rest.drop 1)

/-- A part with the bounds behind it. -/
def readBounds : Nat → Regex → List Sign → Regex × List Sign
  | 0, r, s => (r, s)
  | n + 1, r, s =>
    match s with
    | .bounds least most :: rest => readBounds n (.repeated least most r) rest
    | s => (r, s)

end

structure Pattern where
  regex : Regex
  anyCase : Bool
deriving DecidableEq, Repr

/-- A match in a line: what stands before it, the match itself, what follows, and the groups. -/
structure Found where
  before : Raw
  found : Raw
  after : Raw
  groups : List (Nat × Raw)
deriving DecidableEq, Repr

namespace Pattern

def of (extended anyCase : Bool) (source : Raw) : Pattern :=
  let signs := signsOf extended (source.length + 1) true source
  ⟨(readEither (4 * signs.length + 4) 0 signs).1, anyCase⟩

/-- The pattern of a text that stands for itself. -/
def ofText (anyCase : Bool) (source : Raw) : Pattern :=
  ⟨source.foldr (fun c r => .both (.atom (.char c)) r) .nothing, anyCase⟩

/-- The first match in the rest of a line of this length. -/
def findIn (p : Pattern) (length : Nat) : Raw → Option Found
  | [] => (p.regex.longest? p.anyCase length []).map fun m => ⟨[], [], [], m.groups⟩
  | c :: s =>
    match p.regex.longest? p.anyCase length (c :: s) with
    | some m => some ⟨[], (c :: s).take (s.length + 1 - m.rest.length), m.rest, m.groups⟩
    | none => (findIn p length s).map fun f => { f with before := c :: f.before }

def find? (p : Pattern) (s : Raw) : Option Found := p.findIn s.length s

def occurs (p : Pattern) (s : Raw) : Bool := (p.find? s).isSome

/-- Whether a match makes up a whole line. -/
def covers (p : Pattern) (s : Raw) : Bool :=
  (p.regex.longest? p.anyCase s.length s).any fun m => m.rest.isEmpty

/-- All matches in the rest of a line, each after the end of the one before. -/
def all (p : Pattern) (length : Nat) : Nat → Raw → List Raw
  | 0, _ => []
  | n + 1, s =>
    match p.findIn length s with
    | none => []
    | some f =>
      if f.found.isEmpty then all p length n (f.after.drop 1)
      else f.found :: all p length n f.after

/-- What replaces a match: `&` stands for the match itself, a number for a group. -/
def fill (f : Found) : Raw → Raw
  | [] => []
  | '\\' :: 'n' :: rest => '\n' :: fill f rest
  | '\\' :: 't' :: rest => '\t' :: fill f rest
  | '\\' :: c :: rest =>
    if c.isDigit then
      (if c = '0' then f.found else (f.groups.lookup (digitValue c)).getD []) ++ fill f rest
    else c :: fill f rest
  | '&' :: rest => f.found ++ fill f rest
  | c :: rest => c :: fill f rest

/-- Replaces matches in the rest of a line: all from the `skip`th on, or that one alone. The flag
says whether anything was replaced. -/
def replaceIn (p : Pattern) (filler : Raw) (all : Bool) (length : Nat) :
    Nat → Nat → Raw → Raw × Bool
  | 0, _, s => (s, false)
  | n + 1, skip, s =>
    match p.findIn length s with
    | none => (s, false)
    | some f =>
      let filled := f.before ++ if skip = 0 then fill f filler else f.found
      if skip = 0 && !all then (filled ++ f.after, true)
      else if f.found.isEmpty then
        match f.after with
        | [] => (filled, skip = 0)
        | c :: after =>
          let (more, done) := replaceIn p filler all length n (skip - 1) after
          (filled ++ c :: more, done || skip = 0)
      else
        let (more, done) := replaceIn p filler all length n (skip - 1) f.after
        (filled ++ more, done || skip = 0)

def replace (p : Pattern) (filler : Raw) (all : Bool) (skip : Nat) (s : Raw) : Raw × Bool :=
  p.replaceIn filler all s.length (s.length + 2) skip s

end Pattern

end Tandem.Guest
