import Tandem.Guest.Script
import Tandem.Text.Class

/-!
The tokens of a script: words, operators, redirections and line ends.
-/

namespace Tandem.Guest

open Tandem.Text

/-- A token with its line. -/
inductive Token where
  | word (line : Nat) (w : Word)
  | operator (line : Nat) (s : String)
  | redirect (line descriptor : Nat) (direction : Direction)
  | newline (line : Nat)
  /-- The end of the script. -/
  | finish (line : Nat)
  /-- A word that does not end, with what is said of it. -/
  | broken (line : Nat) (message : Raw)

def isSeparator (c : Char) : Bool :=
  [' ', '\t', '\n', ';', '&', '|', '<', '>', '(', ')'].contains c

/-- Characters that stand for more than themselves in a word. -/
def isSpecial (c : Char) : Bool := isSeparator c || ['\\', '\'', '"', '\x60', '$'].contains c

/-- What stands between a bracket that is open already and its partner. Brackets in quotes do not
count; `quote` is the quotation mark that is open. -/
def balanced (opening closing : Char) (depth : Nat) (quote : Option Char) :
    Raw → Option (Raw × Raw)
  | [] => none
  | '\\' :: c :: rest =>
    if quote = some '\'' then
      (balanced opening closing depth (if c = '\'' then none else quote) rest).map
        fun (body, rest) => ('\\' :: c :: body, rest)
    else
      (balanced opening closing depth quote rest).map fun (body, rest) => ('\\' :: c :: body, rest)
  | c :: rest =>
    let add (depth : Nat) (quote : Option Char) :=
      (balanced opening closing depth quote rest).map fun (body, rest) => (c :: body, rest)
    match quote with
    | some q => add depth (if c = q then none else quote)
    | none =>
      if c = '"' || c = '\'' then add depth (some c)
      else if c = closing then
        match depth with
        | 0 => some ([], rest)
        | depth + 1 => add depth none
      else add (if c = opening then depth + 1 else depth) none

def isParameterSign (c : Char) : Bool := ['@', '*', '#', '?', '$', '!', '-'].contains c || c.isDigit

/-- The rule that follows the name in `${…}`. -/
def ruleOf : Raw → Rule
  | [] => .plain
  | ':' :: '+' :: word => .instead true word
  | '+' :: word => .instead false word
  | ':' :: '-' :: word => .fallback true word
  | '-' :: word => .fallback false word
  | ':' :: '=' :: word => .assign true word
  | '=' :: word => .assign false word
  | ':' :: '?' :: word => .demand true word
  | '?' :: word => .demand false word
  | '#' :: '#' :: word => .trim false true word
  | '#' :: word => .trim false false word
  | '%' :: '%' :: word => .trim true true word
  | '%' :: word => .trim true false word
  | _ => .unknown

/-- The inside of `${…}`. -/
def parameterOf (quoted : Bool) (body : Raw) : Piece :=
  let named (body : Raw) : Piece :=
    match body with
    | [] => .parameter quoted [] .unknown
    | c :: rest =>
      if c.isDigit then
        .parameter quoted (body.takeWhile Char.isDigit) (ruleOf (body.dropWhile Char.isDigit))
      else if isParameterSign c then .parameter quoted [c] (ruleOf rest)
      else if isNameStart c then
        .parameter quoted (body.takeWhile isNameChar) (ruleOf (body.dropWhile isNameChar))
      else .parameter quoted [c] .unknown
  match body with
  | '#' :: c :: rest =>
    match named (c :: rest) with
    | .parameter quoted name .plain => .parameter quoted name .length
    | _ => named body
  | _ => named body

/-- Why a word does not end. -/
def openQuote : Raw := raw "Syntax error: Unterminated quoted string"

def openBrace : Raw := raw "Syntax error: Missing '\x7d'"

def openBracket : Raw := raw "Syntax error: end of file unexpected (expecting \")\")"

def openBackquote : Raw := raw "Syntax error: EOF in backquote substitution"

abbrev ReadPiece := Except Raw (Piece × Raw)

abbrev ReadWord := Except Raw (Word × Raw)

/-- What follows a dollar sign. -/
def expansion (quoted : Bool) (rest : Raw) : ReadPiece :=
  match rest with
  | '(' :: '(' :: inner =>
    match balanced '(' ')' 0 none ('(' :: inner) with
    | none => .error openBracket
    | some (body, rest) =>
      if body.getLast? == some ')' then .ok (.sum quoted (body.drop 1).dropLast, rest)
      else .ok (.output quoted false body, rest)
  | '(' :: inner =>
    match balanced '(' ')' 0 none inner with
    | none => .error openBracket
    | some (body, rest) => .ok (.output quoted false body, rest)
  | '\x7b' :: inner =>
    match balanced '\x7b' '\x7d' 0 none inner with
    | none => .error openBrace
    | some (body, rest) => .ok (parameterOf quoted body, rest)
  | c :: after =>
    if isNameStart c then
      .ok (.parameter quoted (rest.takeWhile isNameChar) .plain, rest.dropWhile isNameChar)
    else if isParameterSign c then .ok (.parameter quoted [c] .plain, after)
    else .ok (.text quoted ['$'], rest)
  | [] => .ok (.text quoted ['$'], [])

/-- What stands in backquotes that are open already. The flag says whether they stand in quotes. -/
def inBackquotes (quoted : Bool) : Raw → Option (Raw × Raw)
  | [] => none
  | '\x60' :: rest => some ([], rest)
  | '\\' :: c :: rest =>
    let isEscape := ['\\', '\x60', '$'].contains c || (quoted && c = '"')
    (inBackquotes quoted rest).map fun (body, rest) =>
      (if isEscape then c :: body else '\\' :: c :: body, rest)
  | c :: rest => (inBackquotes quoted rest).map fun (body, rest) => (c :: body, rest)

def backquoted (quoted : Bool) (rest : Raw) : ReadPiece :=
  match inBackquotes quoted rest with
  | none => .error openBackquote
  | some (body, rest) => .ok (.output quoted true body, rest)

/-- What a quotation mark means in a text that is read as in double quotes. -/
inductive Frame where
  /-- The end. -/
  | quotes
  /-- Itself: the text is a document or a sum. -/
  | document
  /-- Nothing: the text is the word of a rule. -/
  | rule
deriving DecidableEq

/-- Whether a backslash before a character is only there for the character to stand for itself. -/
def Frame.isEscape (f : Frame) (c : Char) : Bool :=
  ['$', '\x60', '\\'].contains c || (c = '"' && f ≠ .document) || (c = '\x7d' && f = .rule)

/-- A text as it is read within double quotes, up to the quote that ends it if one does, through at
most so many pieces. -/
def inDouble (f : Frame) : Nat → Raw → ReadWord
  | 0, _ => .error openQuote
  | _ + 1, [] => if f = .quotes then .error openQuote else .ok ([], [])
  | n + 1, c :: rest =>
    let add (p : Piece) (rest : Raw) : ReadWord :=
      (inDouble f n rest).map fun (w, rest) => (p :: w, rest)
    match c, rest with
    | '\\', '\n' :: rest => inDouble f n rest
    | '\\', d :: rest =>
      if f.isEscape d then add (.text true [d]) rest else add (.text true ['\\', d]) rest
    | '$', rest => do
      let (p, rest) ← expansion true rest
      add p rest
    | '\x60', rest => do
      let (p, rest) ← backquoted true rest
      add p rest
    | c, rest =>
      if c = '"' && f = .quotes then .ok ([], rest)
      else if c = '"' && f = .rule then inDouble f n rest
      else add (.text true [c]) rest

/-- A word, up to a separator or through a whole text, and what follows it. -/
def readWord (whole : Bool) : Nat → Raw → ReadWord
  | 0, s => .ok ([], s)
  | _ + 1, [] => .ok ([], [])
  | n + 1, c :: rest =>
    let add (w : Word) (rest : Raw) : ReadWord :=
      (readWord whole n rest).map fun (more, rest) => (w ++ more, rest)
    match c, rest with
    | '\\', '\n' :: rest => readWord whole n rest
    | '\\', d :: rest => add [.text true [d]] rest
    | '\'', rest =>
      match upTo '\'' rest with
      | none => .error openQuote
      | some (body, rest) => add [.text true body] rest
    | '"', rest => do
      let (w, rest) ← inDouble .quotes (rest.length + 1) rest
      add (.text true [] :: w) rest
    | '$', rest => do
      let (p, rest) ← expansion false rest
      add [p] rest
    | '\x60', rest => do
      let (p, rest) ← backquoted false rest
      add [p] rest
    | c, rest =>
      if isSeparator c && !whole then .ok ([], c :: rest)
      else
        let run := (c :: rest).takeWhile fun c => !isSpecial c
        if run.isEmpty then add [.text false [c]] rest
        else add [.text false run] ((c :: rest).drop run.length)

/-- A text as one word. -/
def wordOf (s : Raw) : Word :=
  match readWord true (s.length + 1) s with
  | .ok (w, _) => w
  | .error _ => [.text false s]

/-- A text as one word that stands in a frame. -/
def wordWithin (f : Frame) (s : Raw) : Word :=
  match inDouble f (s.length + 1) s with
  | .ok (w, _) => w
  | .error _ => [.text true s]

/-- A redirection sign for a descriptor, unless another one is given. -/
def redirectOf (s : Raw) : Option (Nat × Direction × Raw) :=
  match s with
  | '>' :: '>' :: rest => some (1, .append, rest)
  | '>' :: '&' :: rest => some (1, .copy, rest)
  | '>' :: '|' :: rest => some (1, .write, rest)
  | '>' :: rest => some (1, .write, rest)
  | '<' :: '&' :: rest => some (0, .copy, rest)
  | '<' :: '<' :: rest => some (0, .here, rest)
  | '<' :: rest => some (0, .read, rest)
  | _ => none

/-- A redirection sign with the descriptor before it. -/
def redirect? (s : Raw) : Option (Nat × Direction × Raw) :=
  let ds := s.takeWhile Char.isDigit
  match redirectOf (s.drop ds.length) with
  | none => none
  | some (descriptor, direction, rest) => some ((number? ds).getD descriptor, direction, rest)

/-- A text in the script up to a line that is its mark: the text, the number of lines that it takes,
and what follows them. -/
def hereText (strip : Bool) (mark : Raw) : Nat → Raw → Raw × Nat × Raw
  | 0, s => ([], 0, s)
  | _ + 1, [] => ([], 0, [])
  | n + 1, s =>
    let full := s.takeWhile (· ≠ '\n')
    let rest := s.drop (full.length + 1)
    let line := if strip then full.dropWhile (· = '\t') else full
    if line = mark then ([], 1, rest)
    else
      let (more, count, rest) := hereText strip mark n rest
      (line ++ '\n' :: more, count + 1, rest)

/-- The literal text of a mark. -/
def markOf (w : Word) : Raw :=
  w.flatMap fun
    | .text _ s => s
    | .parameter _ name _ => '$' :: name
    | _ => []

/-- Whether a part of a word is quoted. -/
def isQuoted (w : Word) : Bool := w.any fun | .text quoted _ => quoted | _ => false

/-- The tokens of a text from a line on, at most so many. `skipped` lines that stand below are read
already. -/
def tokens : Nat → (line skipped : Nat) → Raw → List Token
  | 0, _, _, _ => []
  | n + 1, line, skipped, s =>
    match s with
    | [] => [.finish line]
    | ' ' :: rest => tokens n line skipped rest
    | '\t' :: rest => tokens n line skipped rest
    | '\\' :: '\n' :: rest => tokens n (line + 1) skipped rest
    | '\n' :: rest => .newline (line + 1 + skipped) :: tokens n (line + 1 + skipped) 0 rest
    | '#' :: rest => tokens n line skipped (rest.dropWhile (· ≠ '\n'))
    | '&' :: '&' :: rest => .operator line "&&" :: tokens n line skipped rest
    | '|' :: '|' :: rest => .operator line "||" :: tokens n line skipped rest
    | ';' :: ';' :: rest => .operator line ";;" :: tokens n line skipped rest
    | c :: rest =>
      match redirect? s with
      | some (descriptor, .here, rest) =>
        let (strip, rest) := match rest with
          | '-' :: rest => (true, rest)
          | rest => (false, rest)
        match readWord false (rest.length + 1) (rest.dropWhile fun c => c = ' ' || c = '\t') with
        | .error message => [.broken (line + s.count '\n') message]
        | .ok ([], rest) => .redirect line descriptor .here :: tokens n line skipped rest
        | .ok (mark, rest) =>
          let same := rest.takeWhile (· ≠ '\n')
          let below := rest.drop (same.length + 1)
          let (body, count, after) := hereText strip (markOf mark) (below.length + 1) below
          let w := if isQuoted mark then [.text true body] else wordWithin .document body
          .redirect line descriptor .here :: .word line w ::
            tokens n line (skipped + count) (same ++ '\n' :: after)
      | some (descriptor, direction, rest) =>
        .redirect line descriptor direction :: tokens n line skipped rest
      | none =>
        if isSeparator c then .operator line (String.ofList [c]) :: tokens n line skipped rest
        else
          match readWord false (s.length + 1) s with
          | .error message =>
            [.broken (if message = openBrace then line else line + s.count '\n') message]
          | .ok (w, rest) =>
            let passed := s.take (s.length - rest.length)
            .word line w :: tokens n (line + passed.count '\n') skipped rest

end Tandem.Guest
