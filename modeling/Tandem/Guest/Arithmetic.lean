import Tandem.Guest.Raw
import Tandem.Text.Class

/-!
Sums in scripts: integers of 64 bits that wrap around, variables, and the operators of the language
of the system with their usual precedence.

`Sum.ofText` reads a sum and `Sum.value` works it out. Assignments in it change variables, which is
why a value comes with a list of them.
-/

namespace Tandem.Guest

open Tandem.Text

inductive SumFlaw where
  | noPrimary
  | notOver
  | noColon
  | noClosing
  | divisionByZero
  | badNumber (value : Raw)
deriving DecidableEq, Repr

/-- What is said of a sum that is flawed. -/
def SumFlaw.message (source : Raw) : SumFlaw → Raw
  | noPrimary => raw "arithmetic expression: expecting primary: \"" ++ source ++ ['"']
  | notOver => raw "arithmetic expression: expecting EOF: \"" ++ source ++ ['"']
  | noColon => raw "arithmetic expression: expecting ':': \"" ++ source ++ ['"']
  | noClosing => raw "arithmetic expression: expecting ')': \"" ++ source ++ ['"']
  | divisionByZero => raw "arithmetic expression: division by zero: \"" ++ source ++ ['"']
  | badNumber value => raw "Illegal number: " ++ value

inductive Sum where
  | number (n : Int64)
  | named (name : Raw)
  | unary (op : String) (a : Sum)
  | binary (op : String) (a b : Sum)
  | conditional (c a b : Sum)
  | assign (name : Raw) (op : String) (a : Sum)
deriving DecidableEq, Repr

/-- A token of a sum. -/
inductive SumToken where
  | op (s : String)
  | number (n : Int64)
  | name (s : Raw)
deriving DecidableEq, Repr

/-- The longest number in front of a text. A leading zero makes it octal, `0x` hexadecimal. -/
def leadingNumber (r : Raw) : Nat × Raw :=
  let inBase (base : Nat) (r : Raw) := (valueOf base (r.takeWhile (isDigitOf base)),
    r.dropWhile (isDigitOf base))
  match r with
  | '0' :: x :: d :: rest =>
    if x.toLower = 'x' && isDigitOf 16 d then inBase 16 (d :: rest) else inBase 8 r
  | '0' :: _ => inBase 8 r
  | _ => inBase 10 r

/-- A whole number, with a sign if need be. -/
def wholeNumber? (r : Raw) : Option Int :=
  let (negative, r) := match r with
    | '-' :: r => (true, r)
    | '+' :: r => (false, r)
    | r => (false, r)
  let (n, rest) := leadingNumber r
  if r.head?.any Char.isDigit && rest.isEmpty then some (if negative then -(n : Int) else n)
  else none

/-- Operators, longer ones first. -/
def sumOperators : List String :=
  ["<<=", ">>=", "<<", ">>", "<=", ">=", "==", "!=", "&&", "||", "+=", "-=", "*=", "/=", "%=",
   "&=", "|=", "^="]

def sumTokens : Nat → Raw → List SumToken
  | 0, _ => []
  | _ + 1, [] => []
  | n + 1, c :: rest =>
    if c = ' ' || c = '\t' || c = '\n' then sumTokens n rest
    else if c.isDigit then
      let (k, rest) := leadingNumber (c :: rest)
      .number (Int64.ofNat k) :: sumTokens n rest
    else if isNameStart c then
      .name ((c :: rest).takeWhile isNameChar) :: sumTokens n (rest.dropWhile isNameChar)
    else
      match sumOperators.find? fun o => o.toList.isPrefixOf (c :: rest) with
      | some o => .op o :: sumTokens n ((c :: rest).drop o.length)
      | none => .op (String.ofList [c]) :: sumTokens n rest

/-- The operators of each level of precedence, those that bind least first. -/
def levels : List (List String) :=
  [["||"], ["&&"], ["|"], ["^"], ["&"], ["==", "!="], ["<", ">", "<=", ">="], ["<<", ">>"],
   ["+", "-"], ["*", "/", "%"]]

/-- An operator that assigns, as the operator that it applies first. -/
def assigning? (s : String) : Option String :=
  if s = "=" then some ""
  else if ["+=", "-=", "*=", "/=", "%=", "&=", "|=", "^=", "<<=", ">>="].contains s then
    some (String.ofList s.toList.dropLast)
  else none

abbrev ReadSum := Except SumFlaw (Sum × List SumToken)

mutual

/-- An assignment or a choice. -/
def readWhole : Nat → List SumToken → ReadSum
  | 0, _ => .error .noPrimary
  | n + 1, s =>
    let choice : ReadSum := do
      let (c, rest) ← readLevel n 0 s
      match rest with
      | .op "?" :: rest =>
        let (a, rest) ← readWhole n rest
        match rest with
        | .op ":" :: rest =>
          let (b, rest) ← readWhole n rest
          return (.conditional c a b, rest)
        | _ => throw .noColon
      | _ => return (c, rest)
    match s with
    | .name x :: .op o :: rest =>
      match assigning? o with
      | some op => do
        let (a, rest) ← readWhole n rest
        return (.assign x op a, rest)
      | none => choice
    | _ => choice

/-- Operands joined by the operators of a level and of those above it. -/
def readLevel : Nat → Nat → List SumToken → ReadSum
  | 0, _, _ => .error .noPrimary
  | n + 1, level, s =>
    if levels.length ≤ level then readOperand n s
    else do
      let (a, rest) ← readLevel n (level + 1) s
      readMore n level a rest

def readMore : Nat → Nat → Sum → List SumToken → ReadSum
  | 0, _, _, _ => .error .noPrimary
  | n + 1, level, a, s =>
    match s with
    | .op o :: rest =>
      if ((levels[level]?).getD []).contains o then do
        let (b, rest) ← readLevel n (level + 1) rest
        readMore n level (.binary o a b) rest
      else .ok (a, s)
    | _ => .ok (a, s)

def readOperand : Nat → List SumToken → ReadSum
  | 0, _ => .error .noPrimary
  | n + 1, s =>
    match s with
    | .number k :: rest => .ok (.number k, rest)
    | .name x :: rest => .ok (.named x, rest)
    | .op "(" :: rest => do
      let (a, rest) ← readWhole n rest
      match rest with
      | .op ")" :: rest => return (a, rest)
      | _ => throw .noClosing
    | .op o :: rest =>
      if ["-", "+", "!", "~"].contains o then do
        let (a, rest) ← readOperand n rest
        return (.unary o a, rest)
      else .error .noPrimary
    | [] => .error .noPrimary

end

def Sum.ofText (source : Raw) : Except SumFlaw Sum := do
  let s := sumTokens (source.length + 1) source
  if s.isEmpty then return .number 0
  let (a, rest) ← readWhole (16 * s.length + 16) s
  if rest.isEmpty then return a else throw .notOver

def truth (b : Bool) : Int64 := if b then 1 else 0

/-- An operator that needs both of its operands. -/
def operate (o : String) (a b : Int64) : Except SumFlaw Int64 :=
  match o with
  | "|" => .ok (a ||| b)
  | "^" => .ok (a ^^^ b)
  | "&" => .ok (a &&& b)
  | "==" => .ok (truth (a == b))
  | "!=" => .ok (truth (a != b))
  | "<" => .ok (truth (a < b))
  | ">" => .ok (truth (b < a))
  | "<=" => .ok (truth (a ≤ b))
  | ">=" => .ok (truth (b ≤ a))
  | "<<" => .ok (a <<< b)
  | ">>" => .ok (a >>> b)
  | "+" => .ok (a + b)
  | "-" => .ok (a - b)
  | "*" => .ok (a * b)
  | "/" => if b = 0 then .error .divisionByZero else .ok (a / b)
  | "%" => if b = 0 then .error .divisionByZero else .ok (a % b)
  | _ => .ok b

/-- Variables that a sum assigned, the last one first. -/
abbrev Assigned := List (Raw × Int64)

/-- The value of a variable: the one assigned last, or the one it had. -/
def currentValue (before : Raw → Raw) (now : Assigned) (name : Raw) : Except SumFlaw Int64 :=
  match now.lookup name with
  | some n => .ok n
  | none =>
    let value := before name
    if value.isEmpty then .ok 0
    else
      match wholeNumber? value with
      | some n => .ok (Int64.ofInt n)
      | none => .error (.badNumber value)

def Sum.value (before : Raw → Raw) : Sum → Assigned → Except SumFlaw (Int64 × Assigned)
  | number n, now => .ok (n, now)
  | named name, now => do return (← currentValue before now name, now)
  | unary o a, now => do
    let (n, now) ← a.value before now
    match o with
    | "-" => return (-n, now)
    | "!" => return (truth (n == 0), now)
    | "~" => return (~~~n, now)
    | _ => return (n, now)
  | binary "&&" a b, now => do
    let (n, now) ← a.value before now
    if n = 0 then return (0, now)
    let (m, now) ← b.value before now
    return (truth (m != 0), now)
  | binary "||" a b, now => do
    let (n, now) ← a.value before now
    if n ≠ 0 then return (1, now)
    let (m, now) ← b.value before now
    return (truth (m != 0), now)
  | binary o a b, now => do
    let (n, now) ← a.value before now
    let (m, now) ← b.value before now
    return (← operate o n m, now)
  | conditional c a b, now => do
    let (n, now) ← c.value before now
    if n ≠ 0 then a.value before now else b.value before now
  | assign name o a, now => do
    let (m, now) ← a.value before now
    if o.isEmpty then return (m, (name, m) :: now)
    let n ← operate o (← currentValue before now name) m
    return (n, (name, n) :: now)

end Tandem.Guest
