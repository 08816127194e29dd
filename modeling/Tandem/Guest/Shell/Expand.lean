import Tandem.Guest.Arithmetic
import Tandem.Guest.Shell.Builtin
import Tandem.Guest.Shell.Deeper

/-!
The values of words: parameters, sums, and what commands print.
-/

namespace Tandem.Guest

namespace Shell

variable (s : Shell)

/-- The parts that a parameter comes to, given its value. -/
def partsOf (quoted : Bool) (name value : Raw) : List Part :=
  let each (f : Raw → List Part) : List Part := [Part.cut].intercalate (s.positional.map f)
  match String.ofList name, quoted with
  | "@", true => each fun r => .quotes :: partsFrom .quoted r
  | "*", true => .quotes :: partsFrom .quoted ((s.separators.take 1).intercalate s.positional)
  | "@", false => each (partsFrom .value)
  | "*", false => each (partsFrom .value)
  | _, true => .quotes :: partsFrom .quoted value
  | _, false => partsFrom .value value

/-- A word with the home directory in the place of a tilde in front. -/
def atHome (w : Word) : Word :=
  match w, s.value? (raw "HOME") with
  | .text false ('~' :: rest) :: more, some home =>
    if rest.head? = some '/' || (rest.isEmpty && more.isEmpty) then
      .text true home :: .text false rest :: more
    else w
  | _, _ => w

/-- Whether a word is all the arguments and there are none. -/
def isVoid (w : Word) : Bool :=
  s.positional.isEmpty && w = [.text true [], .parameter true ['@'] .plain]

/-- The texts that some fields stand for. -/
def namesOf (fields : List (List Letter)) : List Raw :=
  if s.has 'f' then fields.map plain else fields.flatMap (filesOf s.view)

end Shell

/-- What commands printed as it becomes part of a word: without line ends at its end. -/
def outputText (r : Raw) : Raw := ((r.filter (· ≠ '\x00')).reverse.dropWhile (· = '\n')).reverse

/-- A part of a rule's word. What stands there without quotes is split like a value. -/
def Part.asValue : Part → Part
  | letter ⟨c, .script⟩ => letter ⟨c, .value⟩
  | p => p

variable (d : Deeper)

/-- The parts of the word in a rule. -/
def ruleParts (quoted : Bool) (r : Raw) (s : Shell) : List Part × Shell :=
  let (parts, s) := d.parts (if quoted then wordWithin .rule r else wordOf r) s
  (parts.map Part.asValue, s)

/-- The parts of a parameter that a rule is applied to. -/
def parameterParts (quoted : Bool) (name : Raw) (rule : Rule) (s : Shell) : List Part × Shell :=
  let value := s.parameter? name
  let isThere (filled : Bool) : Bool := value.any fun r => !(filled && r.isEmpty)
  let whole := s.partsOf quoted name (value.getD [])
  if value.isNone && s.has 'u' && rule.wantsValue && name ≠ ['@'] && name ≠ ['*'] then
    ([], s.fail (name ++ raw ": parameter not set"))
  else
    match rule with
    | .plain => (whole, s)
    | .length => (s.partsOf quoted [] (digits (value.getD []).length), s)
    | .instead filled word => if isThere filled then ruleParts d quoted word s else ([], s)
    | .fallback filled word => if isThere filled then (whole, s) else ruleParts d quoted word s
    | .assign filled word =>
      if isThere filled then (whole, s)
      else if !isVariable name then ([], s.fail (raw "Bad substitution"))
      else
        let (parts, s) := ruleParts d quoted word s
        let value := plain (joinedLetters parts)
        if s.isFixed name then ([], s.fail (name ++ raw ": is read only"))
        else (s.partsOf quoted name value, s.setVariable name value)
    | .demand filled word =>
      if isThere filled then (whole, s)
      else
        let (parts, s) := ruleParts d quoted word s
        let message :=
          if !word.isEmpty then plain (joinedLetters parts)
          else raw (if filled then "parameter not set or null" else "parameter not set")
        ([], s.fail (name ++ raw ": " ++ message))
    | .trim atEnd longest word =>
      let (parts, s) := d.parts (wordOf word) s
      let g := Glob.of (joinedLetters parts)
      let value := value.getD []
      let value := if atEnd then g.trimEnd longest value else g.trimStart longest value
      (s.partsOf quoted [] value, s)
    | .unknown => ([], s.fail (raw "Bad substitution"))

/-- The parts of a piece of a word. -/
def pieceParts (piece : Piece) (s : Shell) : List Part × Shell :=
  match piece with
  | .text quoted r => (if quoted then .quotes :: partsFrom .quoted r else partsFrom .script r, s)
  | .parameter quoted name rule => parameterParts d quoted name rule s
  | .sum quoted source =>
    let (parts, s) := d.parts (wordWithin .document source) s
    let source := plain (joinedLetters parts)
    let before (name : Raw) : Raw := (s.value? name).getD []
    match (Sum.ofText source).bind fun sum => sum.value before [] with
    | .error flaw => ([], s.fail (flaw.message source))
    | .ok (value, assigned) =>
      let s := assigned.foldr (fun (name, k) t => t.setVariable name (signed k.toInt)) s
      (s.partsOf quoted [] (signed value.toInt), s)
  | .output quoted anew source =>
    let script := Script.of (if anew then 1 else s.line) source
    let (out, inner) := (finish d (execute d script s.piping)).closePipe
    let t := { s.after inner with status := s.status, outputStatus := some inner.status }
    (t.partsOf quoted [] (outputText out), t)

/-- The parts of a word, up to an expansion that stops the shell. -/
def wordParts : Word → Shell → List Part × Shell
  | [], s => ([], s)
  | piece :: rest, s =>
    let (a, s) := pieceParts d piece s
    if s.stop.isSome then (a, s)
    else
      let (b, s) := wordParts rest s
      (a ++ b, s)

/-- The value of a word that is not split. -/
def wordValue (w : Word) (s : Shell) : Raw × Shell :=
  let (parts, s) := wordParts d (s.atHome w) s
  (plain (joinedLetters parts), s)

/-- The texts that some words come to. -/
def expand : List Word → Shell → List Raw × Shell
  | [], s => ([], s)
  | w :: rest, s =>
    let (parts, s) := wordParts d (s.atHome w) s
    let names := if s.isVoid w then [] else s.namesOf (fieldsOf s.separators none parts)
    if s.stop.isSome then (names, s)
    else
      let (more, s) := expand rest s
      (names ++ more, s)

/-- Sets the variables of some assignments. -/
def assign : List (Raw × Word) → Shell → Shell
  | [], s => s
  | (name, w) :: rest, s =>
    let (value, s) := wordValue d w s
    if s.stop.isSome then s
    else if s.isFixed name then s.fail (name ++ raw ": is read only")
    else assign rest (s.setVariable name value)

end Tandem.Guest
