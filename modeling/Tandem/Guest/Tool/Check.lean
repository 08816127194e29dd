import Tandem.Guest.Arithmetic
import Tandem.Guest.Tool.Job

/-!
The tests of `test` and `[`.
-/

namespace Tandem.Guest

open Tandem.Host Tandem.Machine

/-- Whether what a file's name stands for is of some kind, looking through links or not. -/
def isFile (j : Job) (follow : Bool) (kinds : Node → Bool) (operand : Raw) : Bool :=
  match Machine.locate j.view.root j.view.directory follow (pathOf operand) with
  | .ok ⟨_, some node⟩ => kinds node
  | _ => false

/-- Tests with one operand. -/
def unaryTest (j : Job) (sign operand : Raw) : Option Bool :=
  let file (kinds : Node → Bool) : Option Bool := some (isFile j true kinds operand)
  let link : Option Bool := some (isFile j false (fun n => n.kind == .link) operand)
  match sign with
  | ['-', 'n'] => some !operand.isEmpty
  | ['-', 'z'] => some operand.isEmpty
  | ['-', 'e'] => file fun _ => true
  | ['-', 'f'] => file fun n => n.kind == .file
  | ['-', 'd'] => file Node.isDirectory
  | ['-', 's'] => file fun n => match n with
    | .file _ bytes => !bytes.isEmpty
    | .device _ => false
    | _ => true
  | ['-', 'x'] => file Node.isExecutable
  | ['-', 'r'] => file fun _ => true
  | ['-', 'w'] => file fun _ => true
  | ['-', 'O'] => file fun _ => true
  | ['-', 'G'] => file fun _ => true
  | ['-', 'c'] => file fun n => n.kind == .special
  | ['-', 'L'] => link
  | ['-', 'h'] => link
  | ['-', 'b'] => some false
  | ['-', 'p'] => some false
  | ['-', 'S'] => some false
  | ['-', 'u'] => some false
  | ['-', 'g'] => some false
  | ['-', 'k'] => some false
  | ['-', 't'] => some false
  | _ => none

/-- Tests with two operands: whether a sign is one, and the outcome or what is said of an operand. -/
def binaryTest (j : Job) (sign left right : Raw) : Option (Except Raw Bool) :=
  let numbers (f : Int → Int → Bool) : Option (Except Raw Bool) :=
    match wholeNumber? left, wholeNumber? right with
    | some a, some b => some (.ok (f a b))
    | none, _ => some (.error (raw "Illegal number: " ++ left))
    | _, none => some (.error (raw "Illegal number: " ++ right))
  match String.ofList sign with
  | "=" => some (.ok (left == right))
  | "==" => some (.ok (left == right))
  | "!=" => some (.ok (left != right))
  | "<" => some (.ok (precedes left right && left != right))
  | ">" => some (.ok (precedes right left && left != right))
  | "-eq" => numbers (· == ·)
  | "-ne" => numbers (· != ·)
  | "-lt" => numbers (· < ·)
  | "-le" => numbers (· ≤ ·)
  | "-gt" => numbers (· > ·)
  | "-ge" => numbers (· ≥ ·)
  | "-ef" =>
    let place (r : Raw) := (Machine.lookup j.view.root j.view.directory (pathOf r)).toOption.map Prod.fst
    some (.ok ((place left).isSome && place left == place right))
  | "-nt" => some (.ok false)
  | "-ot" => some (.ok false)
  | _ => none

abbrev Tested := Except Raw (Bool × List Raw)

mutual

/-- Tests joined by `-o`. -/
def testOr (j : Job) : Nat → List Raw → Tested
  | 0, _ => .error (raw "too many arguments")
  | n + 1, s => do
    let (a, rest) ← testAnd j n s
    match rest with
    | ['-', 'o'] :: rest =>
      let (b, rest) ← testOr j n rest
      return (a || b, rest)
    | rest => return (a, rest)

/-- Tests joined by `-a`. -/
def testAnd (j : Job) : Nat → List Raw → Tested
  | 0, _ => .error (raw "too many arguments")
  | n + 1, s => do
    let (a, rest) ← testOne j n s
    match rest with
    | ['-', 'a'] :: rest =>
      let (b, rest) ← testAnd j n rest
      return (a && b, rest)
    | rest => return (a, rest)

/-- One test. Three words with a sign in their middle are always a test with two operands. -/
def testOne (j : Job) : Nat → List Raw → Tested
  | 0, _ => .error (raw "too many arguments")
  | n + 1, s =>
    match s with
    | [] => .error (raw "argument expected")
    | a :: sign :: b :: rest =>
      match binaryTest j sign a b with
      | some (.ok r) => .ok (r, rest)
      | some (.error e) => .error e
      | none => testSingle j n s
    | s => testSingle j n s

/-- A test that does not begin with an operand of two. -/
def testSingle (j : Job) : Nat → List Raw → Tested
  | 0, _ => .error (raw "too many arguments")
  | n + 1, s =>
    match s with
    | [] => .error (raw "argument expected")
    | [a] => .ok (!a.isEmpty, [])
    | ['!'] :: rest => do
      let (b, rest) ← testOne j n rest
      return (!b, rest)
    | ['('] :: rest => do
      let (b, rest) ← testOr j n rest
      match rest with
      | [')'] :: rest => return (b, rest)
      | _ => throw (raw "closing paren expected")
    | [a, sign] =>
      match unaryTest j a sign with
      | some b => .ok (b, [])
      | none =>
        if (binaryTest j sign [] []).isSome then .error (sign ++ raw ": argument expected")
        else .error (a ++ raw ": unexpected operator")
    | a :: b :: rest =>
      match unaryTest j a b with
      | some r => .ok (r, rest)
      | none =>
        if b = ['-', 'a'] || b = ['-', 'o'] then .ok (!a.isEmpty, b :: rest)
        else .error (a ++ raw ": unexpected operator")

end

def test (j : Job) : Done :=
  match j.arguments with
  | [] => j.silent 1
  | arguments =>
    match testOr j (8 * arguments.length + 8) arguments with
    | .ok (b, []) => j.silent (if b then 0 else 1)
    | .ok (_, _ :: _) => j.complain (arguments.headD [] ++ raw ": unexpected operator") 2
    | .error e => j.complain e 2

/-- The test in brackets, which have to be closed. -/
def bracket (j : Job) : Done :=
  if j.arguments.getLast? = some [']'] then test { j with arguments := j.arguments.dropLast }
  else j.complain (raw "missing ]") 2

end Tandem.Guest
