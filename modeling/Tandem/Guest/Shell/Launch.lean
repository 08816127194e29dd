import Tandem.Guest.Shell.Builtin
import Tandem.Guest.Shell.Deeper

/-!
Programs that a shell runs: tools, and shells again.
-/

namespace Tandem.Guest

open Tandem.Host Tandem.Machine Tandem.Text

namespace Shell

variable (s : Shell)

/-- A shell after a program of its own: it tells of the signal that ended it. -/
def afterChild (pid : Nat) : Shell :=
  match s.stop with
  | some (.killed q n) =>
    if q = pid then
      let t := { s with stop := none }.withStatus (128 + n)
      match signalText n with
      | some message => t.warn (message ++ ['\n'])
      | none => t
    else s
  | _ => s

/-- A shell that finds no program of a name. -/
def unfound (command name : Raw) (e : IoError) : Shell :=
  let (message, status) :=
    if name.isEmpty then (raw "Permission denied", 127)
    else if e = .denied then (raw "Permission denied", 126)
    else if e = .notFound ∨ e = .notDirectory then (raw "not found", 127)
    else (words e, 126)
  s.complainIn (command ++ name ++ raw ": " ++ message) status

end Shell

/-- What a shell is called with. -/
structure Opening where
  options : List Char
  operands : List Raw

/-- The options and operands of a shell, or the option that it does not know. -/
def Opening.of : List Raw → Except Raw Opening
  | [] => .ok ⟨[], []⟩
  | ['-', '-'] :: rest => .ok ⟨[], rest⟩
  | ['-'] :: rest => .ok ⟨[], rest⟩
  | ['-', 'o'] :: name :: rest => do
    let o ← of rest
    match Shell.optionNames.lookup (String.ofList name) with
    | some option => return { o with options := option :: o.options }
    | none => throw (raw "-o " ++ name)
  | ('-' :: letters) :: rest => do
    match letters.find? fun c => !(c = 'c' || c = 's' || Shell.optionNames.any (·.2 == c)) with
    | some c => throw ['-', c]
    | none =>
      let o ← of rest
      return { o with options := letters ++ o.options }
  | operand :: rest => .ok ⟨[], operand :: rest⟩

/-- What a program says about one that it is to run and that is not there, and its status then. -/
def unfoundBy (name command : Raw) (e : IoError) : Raw × Nat :=
  let message := name ++ raw ": " ++ curly command ++ raw ": " ++ words e ++ ['\n']
  (message, if e = .notFound then 127 else 126)

variable (d : Deeper)

/-- A shell by the arguments it is called with. -/
def runShell (arguments : List Raw) (s : Shell) : Shell :=
  let own := arguments.headD (raw "sh")
  let s := (s.setVariable (raw "PWD") (raw (Machine.pathOf s.directory).text)).publish (raw "PWD")
  let s := { s with name := own }
  match Opening.of (arguments.drop 1) with
  | .error option => s.complain (raw "Illegal option " ++ option) 2
  | .ok opening =>
    let s := { s with options := opening.options.filter fun c => c ≠ 'c' && c ≠ 's' }
    let go (source : Raw) (name : Raw) (positional : List Raw) (s : Shell) : Shell :=
      finish d (execute d (Script.of 1 source) { s with name, positional })
    let isText := opening.options.contains 'c'
    let isInput := opening.options.contains 's'
    match opening.operands with
    | [] =>
      if isText then s.complain (raw "-c requires an argument") 2
      else go s.input own [] { s with input := [] }
    | first :: rest =>
      if isText then go first (rest.headD own) (rest.drop 1) s
      else if isInput then go s.input own opening.operands { s with input := [] }
      else
        match Files.read s.view (pathOf first) with
        | .ok bytes => go (ofBytes bytes) first rest s
        | .error e =>
          if e = .isDirectory then s.withStatus 0
          else s.complain (raw "cannot open " ++ first ++ raw ": No such file") 2

/-- Tools that leave the group they are started in before they go on with a program. -/
def strayers : List String := ["setsid", "timeout"]

/-- Runs a program that a tool goes on with. The tool, whose messages bear its name, looks for the
program by itself. -/
def runNext (pid : Nat) (tool : String) (name : Raw) (next : Next) (s : Shell) : Shell :=
  let bindings := next.environment.map fun (name, value) => (name, ⟨some value, true, false⟩)
  let t := { s with bindings, strayed := if strayers.contains tool then some pid else s.strayed }
  let command := next.command.headD []
  match exec t.view ((t.value? (raw "PATH")).map text) (pathOf command) (next.command.map text) with
  | .ok image =>
    let u := d.launch pid image t
    { u with
      bindings := s.bindings
      strayed := if u.stop = some .asleep then u.strayed else s.strayed }
  | .error e =>
    let (message, status) := unfoundBy name command e
    (s.warn message).withStatus status

/-- Runs a tool, and the programs that it goes on with. -/
def runImage (pid : Nat) (name : Raw) (image : Image) (s : Shell) : Shell :=
  let arguments := (image.arguments.drop 1).map raw
  let e := runTool image.program ⟨name, arguments, s.environment, s.view, s.input⟩
  let isLost := !e.out.isEmpty && !s.isOpen 1
  let err := if isLost then e.err ++ name ++ raw ": write error: Bad file descriptor\n" else e.err
  let s :=
    { s with files := e.root, input := if readers.contains image.program then [] else s.input }
  let s := ((s.say e.out).warn err).withStatus (if isLost then 1 else e.status)
  let s := if e.sleep = 0 then s else slumber d e.sleep s
  e.next.foldl (fun t next => if t.stop.isSome then t else runNext d pid image.program name next t) s

/-- Runs an image in the process with a number. -/
def launch (pid : Nat) (image : Image) (s : Shell) : Shell :=
  let arguments := image.arguments.map raw
  if image.program = "sh" then s.after (runShell d arguments (s.child pid))
  else runImage d pid (arguments.headD []) image s

/-- Runs a program in a process of its own. -/
def runProgram (name : Raw) (arguments : List Raw) (s : Shell) : Shell :=
  match findProgram name arguments s with
  | .ok image =>
    let pid := s.nextPid
    (launch d pid image { s with nextPid := pid + 1 }).afterChild pid
  | .error e => s.unfound [] name e

end Tandem.Guest
