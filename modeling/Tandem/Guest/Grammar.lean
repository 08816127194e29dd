import Tandem.Guest.Token

/-!
The grammar of scripts.

A script is read line by line, so that the commands before a flaw are known, and run, when it is
found. The number that the readers carry bounds the depth of a script by its length.
-/

namespace Tandem.Guest

/-- A command and what follows it, or what is wrong. -/
abbrev Parsed := Except Flaw (Command × List Token)

def inQuotes (s : String) : Raw := '"' :: raw s ++ ['"']

/-- The words with a meaning of their own in front of a command. -/
def keywords : List String :=
  ["!", "\x7b", "\x7d", "case", "do", "done", "elif", "else", "esac", "fi", "for", "if", "in",
   "then", "until", "while"]

/-- What a token is called. -/
def Token.title : Token → Raw
  | word _ w =>
    match literal? w with
    | some s => if keywords.contains (String.ofList s) then '"' :: s ++ ['"'] else raw "word"
    | none => raw "word"
  | operator _ s => inQuotes s
  | redirect .. => raw "redirection"
  | newline _ => raw "newline"
  | finish _ => raw "end of file"
  | broken _ message => message

def Token.line : Token → Nat
  | word line _ => line
  | operator line _ => line
  | redirect line _ _ => line
  | newline line => line
  | finish line => line
  | broken line _ => line

/-- A flaw at the first of some tokens, with what should stand there if that is known. -/
def unexpected (tokens : List Token) (expected : Option Raw) : Flaw :=
  match tokens with
  | .broken line message :: _ => ⟨line, message⟩
  | t :: _ =>
    ⟨t.line, raw "Syntax error: " ++ t.title ++ raw " unexpected" ++
      match expected with
      | some e => raw " (expecting " ++ e ++ [')']
      | none => []⟩
  | [] => ⟨0, raw "Syntax error: end of file unexpected"⟩

/-- The word in front, if it stands there without quotes. -/
def keyword? : List Token → Option String
  | .word _ w :: _ => (literal? w).map String.ofList
  | _ => none

def dropNewlines : List Token → List Token
  | .newline _ :: rest => dropNewlines rest
  | tokens => tokens

/-- The words that end a list of commands. -/
def endings : List String := ["then", "else", "elif", "fi", "do", "done", "\x7d", "esac"]

def endsList : List Token → Bool
  | [] => true
  | .finish _ :: _ => true
  | .operator _ ")" :: _ => true
  | .operator _ ";;" :: _ => true
  | tokens => (keyword? tokens).any endings.contains

/-- Takes a word that has to stand in front. -/
def expect (s : String) (tokens : List Token) : Except Flaw (List Token) :=
  if keyword? tokens = some s then .ok (tokens.drop 1)
  else .error (unexpected tokens (some (inQuotes s)))

/-- Whether a text is the name of a variable. -/
def isVariable : Raw → Bool
  | c :: rest => Text.isNameStart c && rest.all Text.isNameChar
  | [] => false

/-- The name and the value of an assignment. -/
def assignment? (w : Word) : Option (Raw × Word) :=
  match w with
  | .text false s :: rest =>
    match upTo '=' s with
    | some (name, value) =>
      if isVariable name then some (name, .text false value :: rest) else none
    | none => none
  | _ => none

/-- What is collected of a simple command. -/
structure Parts where
  assignments : List (Raw × Word)
  words : List Word
  redirects : List Redirect

/-- Whether a word can stand behind a redirection. A descriptor to copy is a digit, if it is known. -/
def isTarget (direction : Direction) (w : Word) : Bool :=
  match direction, literal? w with
  | .copy, some [c] => c.isDigit || c = '-'
  | .copy, some _ => false
  | _, _ => true

def badTarget (rest : List Token) : Flaw :=
  ⟨((rest.head?).map Token.line).getD 0, raw "Syntax error: Bad fd number"⟩

/-- The rest of a simple command. -/
def readSimple (p : Parts) : List Token → Except Flaw (Parts × List Token)
  | .redirect _ descriptor direction :: .word _ target :: rest =>
    if isTarget direction target then
      readSimple { p with redirects := p.redirects ++ [⟨descriptor, direction, target⟩] } rest
    else .error (badTarget rest)
  | .word _ w :: rest =>
    match p.words, assignment? w with
    | [], some a => readSimple { p with assignments := p.assignments ++ [a] } rest
    | _, _ => readSimple { p with words := p.words ++ [w] } rest
  | .redirect .. :: rest => .error (unexpected rest none)
  | tokens => .ok (p, tokens)

/-- The redirections after a command. -/
def readRedirects : List Token → Except Flaw (List Redirect × List Token)
  | .redirect _ descriptor direction :: .word _ target :: rest => do
    if !isTarget direction target then throw (badTarget rest)
    let (more, rest) ← readRedirects rest
    return (⟨descriptor, direction, target⟩ :: more, rest)
  | .redirect .. :: rest => .error (unexpected rest none)
  | tokens => .ok ([], tokens)

def withRedirects (line : Nat) (c : Command) (tokens : List Token) : Parsed := do
  let (redirects, rest) ← readRedirects tokens
  return (if redirects.isEmpty then c else .redirected line c redirects, rest)

/-- The words up to the end of a line. -/
def readWords : List Token → List Word × List Token
  | .word _ w :: rest => let (more, rest) := readWords rest; (w :: more, rest)
  | tokens => ([], tokens)

def isOver : List Token → Bool
  | [] => true
  | .finish _ :: _ => true
  | _ => false

/-- Commands of which there has to be one. -/
def someCommand (list : List Token → Parsed) (tokens : List Token) : Parsed :=
  let tokens := dropNewlines tokens
  if endsList tokens && !isOver tokens then .error (unexpected tokens none) else list tokens

/-- The commands before a word that ends them. -/
def block (list : List Token → Parsed) (ending : String) (tokens : List Token) : Parsed := do
  let (c, rest) ← someCommand list tokens
  return (c, ← expect ending rest)

/-- The values that a loop goes through: those after `in`, or the arguments of the script. -/
def readValues (tokens : List Token) : Except Flaw (List Word × List Token) :=
  let arguments : List Word := [[.parameter true ['@'] .plain]]
  if keyword? (dropNewlines tokens) = some "in" then
    let (words, rest) := readWords ((dropNewlines tokens).drop 1)
    match rest with
    | .operator _ ";" :: rest => .ok (words, rest)
    | .newline _ :: rest => .ok (words, rest)
    | _ => .error (unexpected rest none)
  else
    match tokens with
    | .operator _ ";" :: rest => .ok (arguments, rest)
    | _ => .ok (arguments, tokens)

/-- The patterns in front of a command to select. -/
def readPatterns : List Token → Except Flaw (List Word × List Token)
  | .word _ w :: .operator _ "|" :: rest => do
    let (more, rest) ← readPatterns rest
    return (w :: more, rest)
  | .word _ w :: .operator _ ")" :: rest => .ok ([w], rest)
  | .word _ _ :: rest => .error (unexpected rest (some (inQuotes ")")))
  | tokens => .error (unexpected tokens (some (inQuotes ")")))

def endsSimple (p : Parts) (line : Nat) (rest : List Token) : Parsed :=
  .ok (.simple line p.assignments p.words p.redirects, rest)

/-- A command that begins with a word or a bracket, by the readers of what may stand in it. -/
def readCommand (list alternative single : List Token → Parsed)
    (arms : List Token → Except Flaw (List (List Word × Command) × List Token))
    (tokens : List Token) : Parsed :=
  let simple (line : Nat) : Parsed := do
    let (p, rest) ← readSimple ⟨[], [], []⟩ tokens
    endsSimple p line rest
  let plain (line : Nat) (w : Word) (rest : List Token) : Parsed :=
    match rest, if (assignment? w).isSome then none else literal? w with
    | .operator _ "(" :: .operator _ ")" :: rest, some name => do
      let (body, rest) ← single (dropNewlines rest)
      return (.function name body, rest)
    | .operator _ "(" :: rest, some _ => .error (unexpected rest (some (inQuotes ")")))
    | .operator _ "(" :: _, none => .error (unexpected rest none)
    | _, _ => simple line
  match tokens with
  | .operator line "(" :: rest => do
    let (c, rest) ← someCommand list rest
    match rest with
    | .operator _ ")" :: rest => withRedirects line (.subshell c) rest
    | _ => throw (unexpected rest (some (inQuotes ")")))
  | .word line w :: rest =>
    match (literal? w).map String.ofList with
    | some "if" => do
      let (c, rest) ← alternative rest
      withRedirects line c rest
    | some "while" => do
      let (condition, rest) ← block list "do" rest
      let (body, rest) ← block list "done" rest
      withRedirects line (.loop false condition body) rest
    | some "until" => do
      let (condition, rest) ← block list "do" rest
      let (body, rest) ← block list "done" rest
      withRedirects line (.loop true condition body) rest
    | some "for" =>
      match rest with
      | .word _ name :: rest =>
        match literal? name with
        | none => .error ⟨line, raw "Syntax error: Bad for loop variable"⟩
        | some name => do
          if !isVariable name then throw ⟨line, raw "Syntax error: Bad for loop variable"⟩
          let (words, rest) ← readValues rest
          let rest ← expect "do" (dropNewlines rest)
          let (body, rest) ← block list "done" rest
          withRedirects line (.forEach name words body) rest
      | _ => .error ⟨line, raw "Syntax error: Bad for loop variable"⟩
    | some "case" =>
      match rest with
      | .word _ w :: rest => do
        let rest ← expect "in" (dropNewlines rest)
        let (choices, rest) ← arms rest
        withRedirects line (.select w choices) rest
      | _ => .error (unexpected rest (some (raw "word")))
    | some "\x7b" => do
      let (c, rest) ← block list "\x7d" rest
      withRedirects line c rest
    | some s => if endings.contains s then .error (unexpected tokens none) else plain line w rest
    | none => plain line w rest
  | .redirect line _ _ :: _ => simple line
  | _ => .error (unexpected tokens none)

mutual

/-- Commands up to a token that ends them. -/
def readList : Nat → List Token → Parsed
  | 0, tokens => .error (unexpected tokens none)
  | n + 1, tokens =>
    let tokens := dropNewlines tokens
    if endsList tokens then .ok (.nothing, tokens)
    else do
      let (c, rest) ← readChain n tokens
      match rest with
      | .operator _ "&" :: rest =>
        let (more, rest) ← readList n rest
        return (.inOrder (.background c) more, rest)
      | .operator _ ";" :: rest =>
        let (more, rest) ← readList n rest
        return (.inOrder c more, rest)
      | .newline _ :: rest =>
        let (more, rest) ← readList n rest
        return (.inOrder c more, rest)
      | _ => return (c, rest)

/-- A pipeline and those that hang on its result. -/
def readChain : Nat → List Token → Parsed
  | 0, tokens => .error (unexpected tokens none)
  | n + 1, tokens => do
    let (c, rest) ← readPipeline n tokens
    readChainRest n c rest

def readChainRest : Nat → Command → List Token → Parsed
  | 0, _, tokens => .error (unexpected tokens none)
  | n + 1, c, tokens =>
    match tokens with
    | .operator _ "&&" :: rest => do
      let (d, rest) ← readPipeline n (dropNewlines rest)
      readChainRest n (.andThen c d) rest
    | .operator _ "||" :: rest => do
      let (d, rest) ← readPipeline n (dropNewlines rest)
      readChainRest n (.orElse c d) rest
    | _ => .ok (c, tokens)

def readPipeline : Nat → List Token → Parsed
  | 0, tokens => .error (unexpected tokens none)
  | n + 1, tokens =>
    if keyword? tokens = some "!" then do
      let (c, rest) ← readPipes n (tokens.drop 1)
      return (.negated c, rest)
    else readPipes n tokens

def readPipes : Nat → List Token → Parsed
  | 0, tokens => .error (unexpected tokens none)
  | n + 1, tokens => do
    let (c, rest) ← readSingle n tokens
    match rest with
    | .operator _ "|" :: rest =>
      let (d, rest) ← readPipes n (dropNewlines rest)
      return (.piped c d, rest)
    | _ => return (c, rest)

def readSingle : Nat → List Token → Parsed
  | 0, tokens => .error (unexpected tokens none)
  | n + 1, tokens =>
    readCommand (readList n) (readAlternative n) (readSingle n) (readArms n) tokens

/-- What follows `if` or `elif`. -/
def readAlternative : Nat → List Token → Parsed
  | 0, tokens => .error (unexpected tokens none)
  | n + 1, tokens => do
    let (condition, rest) ← block (readList n) "then" tokens
    let (yes, rest) ← someCommand (readList n) rest
    match keyword? rest with
    | some "elif" =>
      let (no, rest) ← readAlternative n (rest.drop 1)
      return (.choice condition yes no, rest)
    | some "else" =>
      let (no, rest) ← block (readList n) "fi" (rest.drop 1)
      return (.choice condition yes no, rest)
    | _ => return (.choice condition yes .nothing, ← expect "fi" rest)

/-- The commands to select from, up to `esac`. -/
def readArms : Nat → List Token → Except Flaw (List (List Word × Command) × List Token)
  | 0, tokens => .error (unexpected tokens none)
  | n + 1, tokens =>
    let tokens := dropNewlines tokens
    if keyword? tokens = some "esac" then .ok ([], tokens.drop 1)
    else do
      let (patterns, rest) ← readPatterns <|
        match tokens with
        | .operator _ "(" :: rest => rest
        | rest => rest
      let (c, rest) ← readList n rest
      match rest with
      | .operator _ ";;" :: rest =>
        let (more, rest) ← readArms n rest
        return ((patterns, c) :: more, rest)
      | _ =>
        if keyword? rest = some "esac" then return ([(patterns, c)], rest.drop 1)
        else throw (unexpected rest (some (inQuotes ";;")))

end

/-- The commands of one line. -/
def readLine : Nat → List Token → Parsed
  | 0, tokens => .error (unexpected tokens none)
  | n + 1, tokens => do
    let (c, rest) ← readChain n tokens
    match rest with
    | [] => return (c, [])
    | .finish _ :: _ => return (c, rest)
    | .newline _ :: rest => return (c, rest)
    | .operator _ "&" :: rest => more n (.background c) rest
    | .operator _ ";" :: rest => more n c rest
    | _ => throw (unexpected rest none)
where
  more (n : Nat) (c : Command) (rest : List Token) : Parsed :=
    match rest with
    | [] => .ok (c, [])
    | .finish _ :: _ => .ok (c, rest)
    | .newline _ :: rest => .ok (c, rest)
    | _ => do
      let (d, rest) ← readLine n rest
      return (.inOrder c d, rest)

def readLines : Nat → List Token → Script
  | 0, _ => ⟨[], none⟩
  | n + 1, tokens =>
    match dropNewlines tokens with
    | [] => ⟨[], none⟩
    | .finish _ :: _ => ⟨[], none⟩
    | tokens =>
      match readLine (20 * tokens.length + 20) tokens with
      | .error flaw => ⟨[], some flaw⟩
      | .ok (c, rest) =>
        let script := readLines n rest
        { script with commands := c :: script.commands }

/-- The script that a text is, its lines counted from this one. -/
def Script.of (line : Nat) (source : Raw) : Script :=
  let ts := tokens (source.length + 1) line 0 source
  readLines (ts.length + 1) ts

end Tandem.Guest
