import Tandem.Guest.Tool.Check
import Tandem.Guest.Tool.Edit
import Tandem.Guest.Tool.Files

/-!
The programs of a machine by their names.
-/

namespace Tandem.Guest

/-- Texts of the external `echo`, which knows `-e`. -/
def echoTool (j : Job) : Done :=
  let options := j.arguments.takeWhile fun a =>
    isOption a && (a.drop 1).all ['n', 'e', 'E'].contains
  let r := spaced (j.arguments.drop options.length)
  let (r, goesOn) :=
    if options.any (·.contains 'e') then unescape false (r.length + 1) r else (r, true)
  j.say (if goesOn && !options.any (·.contains 'n') then r ++ ['\n'] else r)

/-- Sets a variable of an environment. -/
def withVariable (environment : List (Raw × Raw)) (name value : Raw) : List (Raw × Raw) :=
  if environment.any (·.1 == name) then
    environment.map fun (n, v) => if n = name then (n, value) else (n, v)
  else environment ++ [(name, value)]

def listing (environment : List (Raw × Raw)) : Raw :=
  unlines (environment.map fun (name, value) => name ++ '=' :: value)

/-- Goes through the arguments of `env` up to the program that it runs. -/
def env (j : Job) : List Raw → List (Raw × Raw) → Done
  | [], environment => j.say (listing environment)
  | ['-', 'u'] :: name :: rest, environment =>
    env j rest (environment.filter fun e => e.1 ≠ name)
  | argument :: rest, environment =>
    if argument = ['-', 'i'] || argument = ['-'] then env j rest []
    else
      match upTo '=' argument with
      | some (name, value) => env j rest (withVariable environment name value)
      | none => { j.silent 0 with next := [⟨argument :: rest, environment⟩] }

def printenv (j : Job) : Done :=
  match j.arguments with
  | [] => j.say (listing j.environment)
  | names =>
    let found := names.map fun name => j.environment.lookup name
    j.done (unlines (found.filterMap id)) [] (if found.any Option.isNone then 1 else 0)

/-- The milliseconds of a duration such as `0.5` or `2m`. -/
def durationOf (r : Raw) : Nat :=
  let whole := r.takeWhile Char.isDigit
  let (places, rest) :=
    match r.drop whole.length with
    | '.' :: rest => (rest.takeWhile Char.isDigit, rest.dropWhile Char.isDigit)
    | rest => ([], rest)
  let seconds :=
    match rest with
    | ['m'] => 60
    | ['h'] => 3600
    | ['d'] => 86400
    | _ => 1
  if rest = raw "infinity" || r = raw "infinity" then 1000000000
  else valueOf 10 (whole ++ places) * seconds * 1000 / Nat.pow 10 places.length

def sleep (j : Job) : Done :=
  match j.arguments with
  | [] => j.misused (raw "missing operand") 1
  | arguments =>
    match arguments.find? fun a => a ≠ raw "infinity" && !(a.headD 'x').isDigit && a.head? ≠ some '.' with
    | some a => j.misused (raw "invalid time interval " ++ curly a) 1
    | none => { j.silent 0 with sleep := (arguments.map durationOf).foldl (· + ·) 0 }

/-- A program that runs another one after so many arguments of its own. -/
def runner (own : List Raw → List Raw) (j : Job) : Done :=
  match own j.arguments with
  | [] => j.misused (raw "missing operand") 125
  | command => { j.silent 0 with next := [⟨command, j.environment⟩] }

/-- Arguments without options in front. -/
def afterOptions (arguments : List Raw) : List Raw := arguments.dropWhile isOption

/-- The stretches of so many members. -/
def stretches (size : Nat) : Nat → List Raw → List (List Raw)
  | 0, _ => []
  | _ + 1, [] => []
  | n + 1, rs => rs.take size :: stretches size n (rs.drop size)

/-- Options of `xargs`: those with a value, and the command after them. -/
def xargsOptions : List Raw → List (Char × Raw) × List Raw
  | ['-', c] :: value :: rest =>
    if ['n', 'I', 'L', 'P', 'd', 's'].contains c then
      let (options, command) := xargsOptions rest
      ((c, value) :: options, command)
    else
      let (options, command) := xargsOptions (value :: rest)
      ((c, []) :: options, command)
  | ('-' :: c :: value) :: rest =>
    let (options, command) := xargsOptions rest
    ((c, value) :: options, command)
  | command => ([], command)

/-- A text with another one in the place of a mark. -/
def withInstead (mark r : Raw) : Nat → Raw → Raw
  | 0, s => s
  | _ + 1, [] => []
  | n + 1, c :: rest =>
    if mark.isPrefixOf (c :: rest) then r ++ withInstead mark r n ((c :: rest).drop mark.length)
    else c :: withInstead mark r n rest

/-- Runs a command with the words of the input as arguments. -/
def xargs (j : Job) : Done :=
  let (options, command) := xargsOptions j.arguments
  let command := if command.isEmpty then [raw "echo"] else command
  let isBlank (c : Char) : Bool := [' ', '\t', '\n'].contains c
  let items :=
    if options.any (·.1 == '0') then splitAt '\x00' j.input
    else if options.any (·.1 == 'I') then (lines j.input).map (·.dropWhile isBlank)
    else (lines j.input).flatMap fun l => (splitAt ' ' l).flatMap (splitAt '\t')
  let items := items.filter fun w => !w.isEmpty
  let go (command : List Raw) : Next := ⟨command, j.environment⟩
  let next :=
    match options.lookup 'I' with
    | some mark =>
      items.map fun item =>
        go (command.map fun w => if mark.isEmpty then w else withInstead mark item w.length w)
    | none =>
      if items.isEmpty && options.any (·.1 == 'r') then []
      else
        match (options.lookup 'n').bind number? with
        | some size =>
          if items.isEmpty then [go command]
          else (stretches (max size 1) items.length items).map fun more => go (command ++ more)
        | none => [go (command ++ items)]
  { j.silent 0 with next }

/-- Sums and comparisons of two arguments. -/
def expr (j : Job) : Done :=
  let result (r : Raw) : Done := j.done (r ++ ['\n']) [] (if r.isEmpty || r = ['0'] then 1 else 0)
  match j.arguments with
  | [] => j.misused (raw "missing operand") 2
  | [a] => result a
  | [a, b] =>
    if a = raw "length" then result (digits (Guest.text b).length)
    else j.complain (raw "syntax error: unexpected argument " ++ curly b) 2
  | [a, o, b] =>
    match wholeNumber? a, wholeNumber? b with
    | some x, some y =>
      match String.ofList o with
      | "+" => result (signed (x + y))
      | "-" => result (signed (x - y))
      | "*" => result (signed (x * y))
      | "/" =>
        if y = 0 then j.complain (raw "division by zero") 2 else result (signed (Int.tdiv x y))
      | "%" =>
        if y = 0 then j.complain (raw "division by zero") 2 else result (signed (Int.tmod x y))
      | "=" => result (truthText (x == y))
      | "!=" => result (truthText (x != y))
      | "<" => result (truthText (x < y))
      | "<=" => result (truthText (x ≤ y))
      | ">" => result (truthText (y < x))
      | ">=" => result (truthText (y ≤ x))
      | _ => textual a o b
    | _, _ => textual a o b
  | a :: _ => j.complain (raw "syntax error: unexpected argument " ++ curly a) 2
where
  truthText (b : Bool) : Raw := if b then ['1'] else ['0']
  textual (a o b : Raw) : Done :=
    let result (r : Raw) : Done := j.done (r ++ ['\n']) [] (if r.isEmpty || r = ['0'] then 1 else 0)
    match String.ofList o with
    | "=" => result (truthText (a == b))
    | "!=" => result (truthText (a != b))
    | "<" => result (truthText (precedes a b && a != b))
    | ">" => result (truthText (precedes b a && a != b))
    | ":" =>
      match (Pattern.of false false b).regex.longest? false a.length a with
      | some m =>
        match m.groups.lookup 1 with
        | some g => result g
        | none => result (digits (a.length - m.rest.length))
      | none => result ['0']
    | "+" => j.complain (raw "non-integer argument") 2
    | "-" => j.complain (raw "non-integer argument") 2
    | "*" => j.complain (raw "non-integer argument") 2
    | _ => j.complain (raw "syntax error: unexpected argument " ++ curly o) 2

def uname (j : Job) : Done :=
  match j.arguments with
  | [] => j.say (raw "Linux\n")
  | [['-', 's']] => j.say (raw "Linux\n")
  | _ => j.say (raw "Linux x86_64\n")

/-- The files that programs' names lead to. -/
def which (j : Job) : Done :=
  let directories := splitAt ':' ((j.environment.lookup (raw "PATH")).getD [])
  let fileOf (name : Raw) : Option Raw :=
    (if name.contains '/' then [name] else directories.map fun d => below d name).find? fun r =>
      (nodeAt? j.view true r).any fun n => !n.isDirectory && n.isExecutable
  let found := j.arguments.map fileOf
  j.done (unlines (found.filterMap id)) [] (if found.any Option.isNone || found.isEmpty then 1 else 0)

def identity (j : Job) : Done :=
  if j.arguments.any (·.contains 'n') then j.say (raw "root\n")
  else if j.arguments.isEmpty then j.say (raw "uid=0(root) gid=0(root) groups=0(root)\n")
  else j.say (raw "0\n")

/-- The tools by their names. -/
def tools : List (String × (Job → Done)) :=
  [("[", bracket), ("base64", base64Tool), ("basename", basename), ("cat", cat), ("chmod", chmod),
   ("cp", cp), ("cut", cut), ("dd", dd), ("dirname", dirname), ("echo", echoTool),
   ("env", fun j => env j j.arguments j.environment), ("expr", expr), ("false", (·.silent 1)),
   ("find", find), ("grep", grep), ("head", head), ("id", identity), ("ln", ln), ("ls", ls),
   ("mkdir", mkdir), ("mv", mv), ("nice", runner afterOptions), ("nohup", runner id), ("od", od),
   ("printenv", printenv), ("printf", printf),
   ("pwd", fun j => j.say (raw (Machine.pathOf j.view.directory).text ++ ['\n'])),
   ("readlink", readlink), ("realpath", realpath), ("rev", rev), ("rm", rm), ("rmdir", rmdir),
   ("sed", sed), ("seq", seq), ("setsid", runner afterOptions), ("sleep", sleep), ("sort", sort),
   ("stat", stat), ("tac", tac), ("tail", tail), ("tee", tee), ("test", test),
   ("timeout", runner fun a => (afterOptions a).drop 1), ("touch", touch), ("tr", tr),
   ("true", (·.silent 0)), ("uname", uname), ("uniq", uniq), ("wc", wc), ("which", which),
   ("whoami", (·.say (raw "root\n"))), ("xargs", xargs), ("yes", yes)]

/-- Tools that read all of their input. -/
def readers : List String :=
  ["base64", "cat", "cut", "dd", "grep", "head", "od", "rev", "sed", "sort", "tac", "tail", "tee",
   "tr", "uniq", "wc", "xargs"]

/-- Runs a tool. Asked for its version, it answers with its name. -/
def runTool (name : String) (j : Job) : Done :=
  match tools.lookup name with
  | none => j.silent 127
  | some tool =>
    if j.arguments.head? = some (raw "--version") && name ≠ "test" && name ≠ "yes" then
      { j.say (raw name ++ ['\n']) with status := if name = "false" then 1 else 0 }
    else tool j

end Tandem.Guest
