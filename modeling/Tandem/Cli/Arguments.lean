import Tandem.Host.Path
import Tandem.Number.Word
import Tandem.Text.Scan

/-!
What a command line asks for.

* `scan` splits a command line into the options that a command knows and the first argument that is
  no option. An option has one value, after `=` or as the argument behind it. A wish for help ends
  the reading: what stands behind it is not looked at, and what is missing is not asked for.
* An option with its value after `=` is settled at once, any other with the option that follows or
  after the command. So a wish for help outruns the last option before the command, if its value
  stands apart: `settled`.
* `Wish.read` reads a whole command line. A configuration file may be named before the command or
  among its options; of two, the latter counts.
-/

namespace Tandem.Cli

open Tandem.Host Tandem.Number

/-- Why a command line cannot be read. -/
inductive Misuse where
  | noCommand
  | unexpected (argument : String)
  | noValue (option : String)
  | repeated (option : String)
  | missing (option : String)
  | emptyPath (option : String)
  | badNumber (option value : String) (flaw : WordFlaw)
  | conflict (first second : String)
deriving DecidableEq, Repr

def Misuse.message : Misuse → String
  | noCommand => "a command is needed: compare, run or probe"
  | unexpected argument => s!"unexpected argument {argument}"
  | noValue option => s!"--{option} needs a value"
  | repeated option => s!"--{option} is given more than once"
  | missing option => s!"--{option} is needed"
  | emptyPath option => s!"--{option} needs a path that is not empty"
  | badNumber option value flaw => s!"--{option} {value}: {flaw.text}"
  | conflict first second => s!"--{first} and --{second} exclude each other"

/-- What an argument is by its form. -/
inductive Form where
  /-- The end of all options. -/
  | stop
  | help
  | option (name : String) (value : Option String)
  /-- A dash with a letter other than that of help. No option has this form. -/
  | short
  | plain
deriving DecidableEq, Repr

/-- The form of an argument. A single dash is a plain one. -/
def Form.of (argument : String) : Form :=
  match argument.toList with
  | ['-', '-'] => .stop
  | '-' :: '-' :: rest =>
    if rest = "help".toList then .help
    else
      let name := rest.takeWhile (· ≠ '=')
      .option (String.ofList name) <|
        match rest.drop name.length with
        | [] => none
        | _ :: value => some (String.ofList value)
  | '-' :: 'h' :: _ => .help
  | '-' :: _ :: _ => .short
  | _ => .plain

/-- An option with its value, as it is given. -/
structure Use where
  name : String
  value : String
  /-- Whether both stand in one argument. -/
  isJoined : Bool
deriving DecidableEq, Repr

/-- The uses that are settled when the argument behind them is looked at. -/
def settled (uses : List Use) : List Use :=
  match uses.getLast? with
  | some last => if last.isJoined then uses else uses.dropLast
  | none => []

/-- The options of one level of a command line with their values. -/
abbrev Given := List (String × String)

def Given.ofUses (uses : List Use) : Given := uses.map fun u => (u.name, u.value)

/-- Where the reading of one level of a command line ends. -/
inductive Ending where
  /-- At an argument that is no option, or at the end. -/
  | rest (arguments : List String)
  | help
  | misuse (m : Misuse)
deriving DecidableEq, Repr

/-- Splits off the options that are known, up to the first plain argument. Nothing may follow the
end of all options. -/
def scan (known : List String) : List String → List Use × Ending
  | [] => ([], .rest [])
  | argument :: rest =>
    match Form.of argument with
    | .plain => ([], .rest (argument :: rest))
    | .help => ([], .help)
    | .short => ([], .misuse (.unexpected argument))
    | .stop =>
      match rest with
      | [] => ([], .rest [])
      | other :: _ => ([], .misuse (.unexpected other))
    | .option name value? =>
      if known.contains name then
        match value?, rest with
        | some value, rest =>
          let (uses, ending) := scan known rest
          (⟨name, value, true⟩ :: uses, ending)
        | none, [] => ([], .misuse (.noValue name))
        | none, value :: rest =>
          match Form.of value with
          | .plain =>
            let (uses, ending) := scan known rest
            (⟨name, value, false⟩ :: uses, ending)
          | _ => ([], .misuse (.noValue name))
      else ([], .misuse (.unexpected argument))

/-- The first option that is given more than once. -/
def repeated? : Given → Option String
  | [] => none
  | (name, _) :: rest => if (rest.lookup name).isSome then some name else repeated? rest

namespace Given

variable (g : Given)

/-- A text, also an empty one. -/
def text (name : String) : Except Misuse (Option String) := .ok (g.lookup name)

/-- A path, which may not be empty. -/
def path (name : String) : Except Misuse (Option Path) :=
  match g.lookup name with
  | none => .ok none
  | some value => if value.isEmpty then .error (.emptyPath name) else .ok (some ⟨value⟩)

def word (name : String) : Except Misuse (Option UInt64) :=
  match g.lookup name with
  | none => .ok none
  | some value =>
    match readWord value.toList with
    | .ok n => .ok (some n)
    | .error flaw => .error (.badNumber name value flaw)

/-- An option that has to be there, as `read` reads it. -/
def needed {α : Type} (read : Given → String → Except Misuse (Option α)) (name : String) :
    Except Misuse α := do
  match ← read g name with
  | some a => return a
  | none => throw (.missing name)

end Given

/-- What the value of an option is. -/
inductive ValueForm where
  | text
  | path
  | word
deriving DecidableEq, Repr

structure OptionForm where
  name : String
  form : ValueForm
  isNeeded : Bool
  /-- What stands for the value in a help page. -/
  label : String
  /-- What the option is for. -/
  summary : String
deriving DecidableEq, Repr

/-- Whether the value of an option can be read, if it is given. -/
def OptionForm.check (o : OptionForm) (g : Given) : Except Misuse Unit :=
  match o.form with
  | .text => return ()
  | .path => discard (g.path o.name)
  | .word => discard (g.word o.name)

/-- Reads the uses of some options: each at most once and with a value that can be read. -/
def Given.read (options : List OptionForm) (uses : List Use) : Except Misuse Given := do
  let g := Given.ofUses uses
  match repeated? g with
  | some name => throw (.repeated name)
  | none =>
    options.forM (·.check g)
    return g

/-- Where the input of both programs comes from. -/
inductive InputSource where
  | text (input : String)
  | file (path : Path)
deriving DecidableEq, Repr

/-- A comparison of a file of a project. -/
structure CompareArguments where
  projectId : String
  file : String
  projectsDir : Option Path
  timeoutSeconds : Option UInt64
  input : Option InputSource
  sourceInterpreter : Option Path
  targetInterpreter : Option Path
deriving DecidableEq, Repr

/-- A run of one program in a copy of a tree. -/
structure RunArguments where
  interpreter : Path
  tree : Path
  entry : Path
  timeoutSeconds : Option UInt64
  memoryMb : Option UInt64
  maxOutputBytes : Option UInt64
  input : Option String
deriving DecidableEq, Repr

inductive Command where
  | compare (arguments : CompareArguments)
  | run (arguments : RunArguments)
  | probe (interpreter : Path)
deriving DecidableEq, Repr

structure Arguments where
  /-- The file to load settings from. -/
  configFile : Option Path
  command : Command
deriving DecidableEq, Repr

def inputSource (g : Given) : Except Misuse (Option InputSource) := do
  match ← g.text "stdin", ← g.path "stdin-file" with
  | some _, some _ => throw (.conflict "stdin" "stdin-file")
  | some input, none => return some (.text input)
  | none, some path => return some (.file path)
  | none, none => return none

def compareCommand (g : Given) : Except Misuse Command := do
  return .compare {
    projectId := ← g.needed Given.text "project"
    file := ← g.needed Given.text "file"
    projectsDir := ← g.path "projects-dir"
    timeoutSeconds := ← g.word "timeout-seconds"
    input := ← inputSource g
    sourceInterpreter := ← g.path "source-interpreter"
    targetInterpreter := ← g.path "target-interpreter" }

def runCommand (g : Given) : Except Misuse Command := do
  return .run {
    interpreter := ← g.needed Given.path "interpreter"
    tree := ← g.needed Given.path "tree"
    entry := ← g.needed Given.path "entry"
    timeoutSeconds := ← g.word "timeout-seconds"
    memoryMb := ← g.word "memory-limit-mb"
    maxOutputBytes := ← g.word "max-output-bytes"
    input := ← g.text "stdin" }

def probeCommand (g : Given) : Except Misuse Command := do
  return .probe (← g.needed Given.path "interpreter")

/-- A command with its options. -/
structure CommandForm where
  name : String
  summary : String
  options : List OptionForm
  read : Given → Except Misuse Command

/-- The option that all levels know. -/
def configOption : OptionForm :=
  ⟨"config", .path, false, "CONFIG", "JSON config file (parity.config@0.1.0)"⟩

def commandForms : List CommandForm :=
  [⟨"compare", "Run one project file under both runtimes and compare",
     [⟨"project", .text, true, "PROJECT", ""⟩,
      ⟨"file", .text, true, "FILE", ""⟩,
      ⟨"projects-dir", .path, false, "PROJECTS_DIR", ""⟩,
      ⟨"timeout-seconds", .word, false, "TIMEOUT_SECONDS", ""⟩,
      ⟨"stdin", .text, false, "STDIN", ""⟩,
      ⟨"stdin-file", .path, false, "STDIN_FILE", ""⟩,
      ⟨"source-interpreter", .path, false, "SOURCE_INTERPRETER", ""⟩,
      ⟨"target-interpreter", .path, false, "TARGET_INTERPRETER", ""⟩], compareCommand⟩,
   ⟨"run", "Run a single program in the sandbox",
     [⟨"interpreter", .path, true, "INTERPRETER", ""⟩,
      ⟨"tree", .path, true, "TREE", ""⟩,
      ⟨"entry", .path, true, "ENTRY", ""⟩,
      ⟨"timeout-seconds", .word, false, "TIMEOUT_SECONDS", ""⟩,
      ⟨"memory-limit-mb", .word, false, "MEMORY_LIMIT_MB", ""⟩,
      ⟨"max-output-bytes", .word, false, "BYTES", ""⟩,
      ⟨"stdin", .text, false, "STDIN", ""⟩], runCommand⟩,
   ⟨"probe", "Check that an interpreter answers `--version`",
     [⟨"interpreter", .path, true, "INTERPRETER", ""⟩], probeCommand⟩]

def CommandForm.ofName? (name : String) : Option CommandForm := commandForms.find? (·.name == name)

/-- What a help page is about. -/
inductive Topic where
  /-- The program with its commands. -/
  | program
  | command (form : CommandForm)
  /-- The command that shows help pages. -/
  | help

/-- The topic that stands behind the command for help. -/
def Topic.read : List String → Except Misuse Topic
  | [] => .ok .program
  | name :: rest =>
    let topic? := if name = "help" then some Topic.help else (CommandForm.ofName? name).map command
    match topic?, rest with
    | none, _ => .error (.unexpected name)
    | some topic, [] => .ok topic
    | some _, other :: _ => .error (.unexpected other)

/-- What a command line asks for. -/
inductive Wish where
  | help (topic : Topic)
  | carryOut (arguments : Arguments)

/-- Reads the options of a command, after those that stand before its name. -/
def CommandForm.wish (form : CommandForm) (before : List Use) (arguments : List String) :
    Except Misuse Wish := do
  let options := configOption :: form.options
  match scan (options.map (·.name)) arguments with
  | (_, .misuse m) => throw m
  | (_, .rest (other :: _)) => throw (.unexpected other)
  | (uses, .help) =>
    let _ ← Given.read options uses
    return .help (.command form)
  | (uses, .rest []) =>
    let inner ← Given.read options uses
    let outer ← Given.read [configOption] before
    let file := (← inner.path "config") <|> (← outer.path "config")
    return .carryOut ⟨file, ← form.read inner⟩

/-- Reads a command line. -/
def Wish.read (arguments : List String) : Except Misuse Wish := do
  match scan [configOption.name] arguments with
  | (_, .misuse m) => throw m
  | (uses, .help) =>
    let _ ← Given.read [configOption] uses
    return .help .program
  | (_, .rest []) => throw .noCommand
  | (uses, .rest (name :: rest)) =>
    let _ ← Given.read [configOption] (settled uses)
    if name = "help" then return .help (← Topic.read rest)
    else
      match CommandForm.ofName? name with
      | none => throw (.unexpected name)
      | some form => form.wish uses rest

end Tandem.Cli
