import Tandem.Guest.Grammar
import Tandem.Guest.Shell.Field
import Tandem.Guest.Shell.Signal
import Tandem.Guest.Shell.State
import Tandem.Guest.Tool

/-!
The commands that a shell carries out itself, as far as they run no other command.
-/

namespace Tandem.Guest

open Tandem.Host Tandem.Machine Tandem.Text

/-- A limit as it is printed: the kernel's word for none in a word, all else as a signed number. -/
def limitText (value unit : Nat) : Raw :=
  if value = unlimited.toNat then raw "unlimited"
  else
    let n := value / unit
    signed (if n < 9223372036854775808 then (n : Int) else (n : Int) - UInt64.size)

/-- The unit that a resource is told in. -/
def unitOf (resource : Char) : Nat :=
  match resource with
  | 'v' => 1024
  | 'd' => 1024
  | 's' => 1024
  | 'm' => 1024
  | 'c' => 512
  | 'f' => 512
  | _ => 1

namespace Shell

variable (s : Shell)

/-- Runs a tool as a command of the shell. Its messages name the script. -/
def useTool (name : Raw) (arguments : List Raw) (tool : Job → Done) : Shell :=
  let d := tool ⟨s.place ++ name, arguments, s.environment, s.view, s.input⟩
  if !d.out.isEmpty && !s.isOpen 1 then
    s.complain (name ++ raw ": " ++ name ++ raw ": I/O error") 1
  else ((s.say d.out).warn d.err).withStatus d.status

def echo (arguments : List Raw) : Shell :=
  s.useTool (raw "echo") arguments fun j =>
    let (lineEnd, operands) := match arguments with
      | ['-', 'n'] :: rest => (false, rest)
      | _ => (true, arguments)
    let r := spaced operands
    let (r, goesOn) := unescape false (r.length + 1) r
    j.say (if lineEnd && goesOn then r ++ ['\n'] else r)

/-- The number that a command such as `exit` is given, or the error that it is none. -/
def numberOr (name : Raw) (absent : Nat) (arguments : List Raw) (f : Nat → Shell) : Shell :=
  match arguments with
  | [] => f absent
  | a :: _ =>
    match number? a with
    | some n => f n
    | none => s.fail (name ++ raw ": Illegal number: " ++ a)

def read (arguments : List Raw) : Shell :=
  let c := Choices.of ['p', 't'] arguments
  let names := c.operands
  let s := match c.value? 'p' with
    | some prompt => s.warn prompt
    | none => s
  if names.isEmpty then s.complain (raw "read: arg count") 2
  else
    match names.find? fun name => !isVariable name with
    | some name => s.complain (raw "read: " ++ name ++ raw ": bad variable name") 2
    | none =>
      let (line, rest, ended) := inputLine (c.has 'r') s.input
      let s := (names.zip (splitFor s.separators names.length line)).foldl
        (fun s (name, value) => s.setVariable name value) { s with input := rest }
      s.withStatus (if ended then 0 else 1)

/-- The number of loops that `break` or `continue` is given. -/
def roundsOr (name : Raw) (arguments : List Raw) (f : Nat → Shell) : Shell :=
  s.numberOr name 1 arguments fun n =>
    if n = 0 then s.fail (name ++ raw ": Illegal number: 0") else f n

def cd (arguments : List Raw) : Shell :=
  let arguments := arguments.filter fun a => a ≠ ['-', 'L'] && a ≠ ['-', 'P']
  let back := arguments.head? = some ['-']
  let own := raw (Machine.pathOf s.directory).text
  let target :=
    if back then (s.value? (raw "OLDPWD")).getD own
    else arguments.headD ((s.value? (raw "HOME")).getD [])
  let failed : Shell := s.complain (raw "cd: can't cd to " ++ target) 2
  if target.isEmpty then s.withStatus 0
  else
    match Machine.lookup s.files s.directory (pathOf target) with
    | .ok (names, node) =>
      if node.isDirectory then
        let t := { s with directory := names }.setVariable (raw "OLDPWD") own
        let here := raw (Machine.pathOf names).text
        let t := ((t.setVariable (raw "PWD") here).publish (raw "OLDPWD")).publish (raw "PWD")
        (if back then t.say (here ++ ['\n']) else t).withStatus 0
      else failed
    | .error _ => failed

/-- Sets a variable to a value that a command is given, if it may be. -/
def giveValue (command : Raw) (argument : Raw) (f : Shell → Raw → Shell) : Shell :=
  let (name, value) := match upTo '=' argument with
    | some (name, value) => (name, some value)
    | none => (argument, none)
  if s.stop.isSome then s
  else if !isVariable name then s.fail (command ++ raw ": " ++ name ++ raw ": bad variable name")
  else
    match value with
    | some value =>
      if s.isFixed name then s.fail (command ++ raw ": " ++ name ++ raw ": is read only")
      else f (s.setVariable name value) name
    | none => f s name

/-- A value as a script writes it. -/
def inScript (r : Raw) : Raw :=
  '\'' :: (r.flatMap fun c => if c = '\'' then raw "'\"'\"'" else [c]) ++ ['\'']

/-- The variables of some kind, as commands that set them. -/
def listVariables (command : Raw) (kind : Setting → Bool) : Raw :=
  let chosen := (s.bindings.filter fun (_, v) => kind v).mergeSort fun a b => precedes a.1 b.1
  unlines <| chosen.filterMap fun (name, v) =>
    match v.value with
    | some value => some (command ++ name ++ '=' :: inScript value)
    | none => if command.isEmpty then none else some (command ++ name)

def exportVariables (arguments : List Raw) : Shell :=
  match arguments.filter (· ≠ ['-', 'p']) with
  | [] => (s.say (s.listVariables (raw "export ") Setting.exported)).withStatus 0
  | names =>
    names.foldl (fun t a => t.giveValue (raw "export") a Shell.publish) (s.withStatus 0)

def readonly (arguments : List Raw) : Shell :=
  match arguments.filter (· ≠ ['-', 'p']) with
  | [] => (s.say (s.listVariables (raw "readonly ") Setting.fixed)).withStatus 0
  | names =>
    names.foldl
      (fun t a => t.giveValue (raw "readonly") a fun t name =>
        t.update name fun v => { v with fixed := true }) (s.withStatus 0)

/-- Makes variables a function's own. -/
def makeLocal (arguments : List Raw) : Shell :=
  if s.calls = 0 then s.fail (raw "local: not in a function")
  else
    arguments.foldl
      (fun t a =>
        let name := ((upTo '=' a).map Prod.fst).getD a
        let t := { t with saved := (name, t.bindings.lookup name) :: t.saved }
        t.giveValue (raw "local") a fun t _ => t) (s.withStatus 0)

/-- What a function's own variables were before its call. -/
def restore (depth : Nat) : Shell :=
  let own := s.saved.take (s.saved.length - depth)
  own.foldl
    (fun t (name, before) =>
      let t := t.unsetVariable name
      match before with
      | some v => t.update name fun _ => v
      | none => t) { s with saved := s.saved.drop own.length }

def unset (arguments : List Raw) : Shell :=
  let c := Choices.of [] arguments
  c.operands.foldl
    (fun t name =>
      if c.has 'f' then { t with functions := t.functions.filter (·.1 ≠ name) }
      else if !isVariable name then t.fail (raw "unset: " ++ name ++ raw ": bad variable name")
      else if t.isFixed name then t.fail (raw "unset: " ++ name ++ raw ": is read only")
      else t.unsetVariable name) (s.withStatus 0)

/-- The letters of options that have a name. -/
def optionNames : List (String × Char) :=
  [("errexit", 'e'), ("noglob", 'f'), ("noexec", 'n'), ("nounset", 'u'), ("verbose", 'v'),
   ("xtrace", 'x'), ("allexport", 'a'), ("noclobber", 'C'), ("monitor", 'm'), ("notify", 'b')]

def switch (on : Bool) (option : Char) : Shell :=
  { s with options := s.options.filter (· ≠ option) ++ if on then [option] else [] }

/-- Sets options and, after them, arguments. Without any, the variables are printed. -/
def setOptions (isFirst : Bool) : List Raw → Shell → Shell
  | [], s => if isFirst then (s.say (s.listVariables [] fun _ => true)).withStatus 0 else s.withStatus 0
  | ['-', '-'] :: rest, s => { s with positional := rest, status := 0 }
  | (sign :: c :: letters) :: rest, s =>
    if sign = '-' || sign = '+' then
      let on := sign = '-'
      let short := (c :: letters).filter (· ≠ 'o')
      match short.find? fun c => !(optionNames.any (·.2 == c)) with
      | some c => s.fail (raw "set: Illegal option " ++ [sign, c])
      | none =>
        let s := short.foldl (fun t c => t.switch on c) s
        if short = c :: letters then setOptions false rest s
        else
          match rest with
          | name :: rest => named on name rest s
          | [] => s.withStatus 0
    else { s with positional := (sign :: c :: letters) :: rest, status := 0 }
  | argument :: rest, s => { s with positional := argument :: rest, status := 0 }
where
  named (on : Bool) (name : Raw) (rest : List Raw) (s : Shell) : Shell :=
    match optionNames.lookup (String.ofList name) with
    | some option => setOptions false rest (s.switch on option)
    | none => s.fail (raw "set: Illegal option -o " ++ name)

/-- Prints or sets a ceiling. -/
def ulimit (arguments : List Raw) : Shell :=
  let c := Choices.of [] arguments
  let resource := ((c.flags.filter fun f => f ≠ 'S' && f ≠ 'H').getLast?).getD 'f'
  let (soft, hard) := (s.ceilings.lookup resource).getD (unlimited.toNat, unlimited.toNat)
  let unit := unitOf resource
  match c.operands with
  | [] => (s.say (limitText (if c.has 'H' then hard else soft) unit ++ ['\n'])).withStatus 0
  | value :: _ =>
    match if value = raw "unlimited" then some unlimited.toNat else (number? value).map (· * unit) with
    | none => s.complain (raw "ulimit: bad number") 2
    | some n =>
      let soft := if c.has 'H' && !c.has 'S' then soft else n
      let hard := if c.has 'S' && !c.has 'H' then hard else n
      { s with
        ceilings := (resource, soft, hard) :: s.ceilings.filter (·.1 ≠ resource)
        status := 0 }

/-- Sets what is done about signals, or prints it. -/
def trap (arguments : List Raw) : Shell :=
  match if arguments.head? = some ['-', '-'] then arguments.drop 1 else arguments with
  | [] =>
    let lines := (s.traps.mergeSort fun a b => a.1 ≤ b.1).map fun (n, action) =>
      raw "trap -- " ++ inScript action ++ ' ' :: signalName n
    (s.say (unlines lines)).withStatus 0
  | action :: names =>
    let (action, names) := if names.isEmpty then (['-'], [action]) else (action, names)
    names.foldl
      (fun t name =>
        match signal? name with
        | none => (t.warn (raw "trap: " ++ name ++ raw ": bad trap\n")).withStatus 1
        | some n =>
          let others := t.traps.filter (·.1 ≠ n)
          { t with traps := if action = ['-'] || (number? action).isSome then others
              else (n, action) :: others }) (s.withStatus 0)

end Shell

/-- The names of the commands that a shell carries out itself. -/
def builtins : List String :=
  [".", ":", "[", "alias", "bg", "break", "cd", "command", "continue", "echo", "eval", "exec",
   "exit", "export", "false", "fg", "getopts", "hash", "jobs", "kill", "local", "printf", "pwd",
   "read", "readonly", "return", "set", "shift", "test", "times", "trap", "true", "type",
   "ulimit", "umask", "unalias", "unset", "wait"]

/-- The ones of which an error ends the shell. -/
def specialBuiltins : List String :=
  [".", ":", "break", "continue", "eval", "exec", "exit", "export", "readonly", "return", "set",
   "shift", "times", "trap", "unset"]

def isSpecialBuiltin (name : Raw) : Bool := specialBuiltins.contains (String.ofList name)

/-- What a program's name stands for. Nothing is found without a search path. -/
def findProgram (name : Raw) (arguments : List Raw) (s : Shell) : Except IoError Image :=
  let words := (name :: arguments).map text
  match s.value? (raw "PATH") with
  | some path => exec s.view (some (text path)) (pathOf name) words
  | none =>
    if name.contains '/' then exec s.view none (pathOf name) words else .error .notFound

/-- The file that a program's name leads to. -/
def programFile (name : Raw) (s : Shell) : Option Raw :=
  let isProgram (r : Raw) : Bool :=
    (nodeAt? s.view true r).any fun n => !n.isDirectory && n.isExecutable
  if name.contains '/' then (if isProgram name then some name else none)
  else
    ((splitAt ':' ((s.value? (raw "PATH")).getD [])).map fun d =>
      if d.isEmpty then name else below d name).find? isProgram

/-- The script that a name without a slash leads to. -/
def sourceFile (name : Raw) (s : Shell) : Option Raw :=
  let candidates := (splitAt ':' ((s.value? (raw "PATH")).getD [])).map fun d =>
    if d.isEmpty then name else below d name
  candidates.find? fun r => (nodeAt? s.view true r).any fun n => !n.isDirectory

/-- What a command's name stands for: a short answer, and one in words. -/
def meaningOf (name : Raw) (s : Shell) : Option (Raw × Raw) :=
  if keywords.contains (String.ofList name) then some (name, raw " is a shell keyword")
  else if (s.functions.lookup name).isSome then some (name, raw " is a shell function")
  else if isSpecialBuiltin name then
    some (name, raw " is a special shell builtin")
  else if builtins.contains (String.ofList name) then some (name, raw " is a shell builtin")
  else (programFile name s).map fun file => (file, raw " is " ++ file)

def typeCommand (names : List Raw) (s : Shell) : Shell :=
  names.foldl
    (fun t name =>
      match meaningOf name t with
      | some (_, phrase) => t.say (name ++ phrase ++ ['\n'])
      | none => (t.say (name ++ raw ": not found\n")).withStatus 127) (s.withStatus 0)

/-- Commands that the shell carries out itself, with all that they need of it. -/
def builtin? (name : Raw) (arguments : List Raw) (s : Shell) : Option Shell :=
  match String.ofList name with
  | ":" => some (s.withStatus 0)
  | "true" => some (s.withStatus 0)
  | "false" => some (s.withStatus 1)
  | "echo" => some (s.echo arguments)
  | "printf" => some (s.useTool name arguments printf)
  | "test" => some (s.useTool name arguments test)
  | "[" => some (s.useTool name arguments bracket)
  | "pwd" =>
    some (s.useTool name arguments (·.say (raw (Machine.pathOf s.directory).text ++ ['\n'])))
  | "exit" =>
    some <| s.numberOr name s.status arguments fun n =>
      { s with status := n % 256, stop := some .exited }
  | "return" =>
    some <| s.numberOr name s.status arguments fun n =>
      { s with status := n % 256, stop := some .returned }
  | "break" =>
    some <| s.roundsOr name arguments fun n =>
      { s with status := 0, stop := if s.loops = 0 then none else some (.broken (min n s.loops)) }
  | "continue" =>
    some <| s.roundsOr name arguments fun n =>
      { s with status := 0, stop := if s.loops = 0 then none else some (.continued (min n s.loops)) }
  | "shift" =>
    some <| s.numberOr name 1 arguments fun n =>
      if s.positional.length < n then s.fail (raw "shift: can't shift that many")
      else { s with positional := s.positional.drop n, status := 0 }
  | "read" => some (s.read arguments)
  | "cd" => some (s.cd arguments)
  | "export" => some (s.exportVariables arguments)
  | "readonly" => some (s.readonly arguments)
  | "local" => some (s.makeLocal arguments)
  | "unset" => some (s.unset arguments)
  | "set" => some (Shell.setOptions true arguments s)
  | "ulimit" => some (s.ulimit arguments)
  | "umask" =>
    match arguments with
    | [] => some ((s.say (padLeft 4 '0' (Nat.toDigits 8 s.mask) ++ ['\n'])).withStatus 0)
    | a :: _ =>
      if a.all (isDigitOf 8) then some { s with mask := valueOf 8 a, status := 0 }
      else
        let flaw := if a.head?.any Char.isDigit then "number" else "mode"
        some (s.complain (raw "umask: Illegal " ++ raw flaw ++ raw ": " ++ a) 2)
  | "trap" => some (s.trap arguments)
  | "type" => some (typeCommand arguments s)
  | "hash" => some (s.withStatus 0)
  | "jobs" => some (s.withStatus 0)
  | "alias" => some (s.withStatus 0)
  | "unalias" => some (s.withStatus 0)
  | "times" => some ((s.say (raw "0m0.000000s 0m0.000000s\n0m0.000000s 0m0.000000s\n")).withStatus 0)
  | "fg" => some (s.complain (raw "fg: No current job") 2)
  | "bg" => some (s.complain (raw "bg: No current job") 2)
  | _ => none

end Tandem.Guest
