import Tandem.Guest.Raw
import Tandem.Machine.Files

/-!
What a small program is given and what it leaves: all programs but the shell are functions from a
`Job` to a `Done`.
-/

namespace Tandem.Guest

open Tandem.Host Tandem.Machine

/-- What a program is given. -/
structure Job where
  /-- What its messages begin with. -/
  name : Raw
  arguments : List Raw
  environment : List (Raw × Raw)
  view : Files.View
  input : Raw

/-- A program to go on with. -/
structure Next where
  command : List Raw
  environment : List (Raw × Raw)

/-- What a program did. -/
structure Done where
  root : Node
  out : Raw
  err : Raw
  status : Nat
  /-- The milliseconds that it sleeps. -/
  sleep : Nat
  /-- The programs that it goes on with, one after the other. -/
  next : List Next

namespace Job

def done (j : Job) (out err : Raw) (status : Nat) : Done := ⟨j.view.root, out, err, status, 0, []⟩

def say (j : Job) (out : Raw) : Done := j.done out [] 0

def silent (j : Job) (status : Nat) : Done := j.done [] [] status

/-- A message of the program about itself. -/
def note (j : Job) (message : Raw) : Raw := j.name ++ raw ": " ++ message ++ ['\n']

def complain (j : Job) (message : Raw) (status : Nat) : Done := j.done [] (j.note message) status

/-- A complaint about the way in which the program was called. -/
def misused (j : Job) (message : Raw) (status : Nat) : Done :=
  j.done [] (j.note message ++ raw "Try " ++ '\'' :: j.name ++ raw " --help' for more information.\n")
    status

end Job

/-- An error of the system in words alone. -/
def words (e : IoError) : Raw :=
  match e with
  | .system code => raw (systemText code)
  | e => raw e.message

def pathOf (r : Raw) : Path := ⟨text r⟩

/-- A name in straight quotes, as most programs quote files. -/
def straight (r : Raw) : Raw := '\'' :: r ++ ['\'']

/-- A name in curly quotes, as programs quote other things. -/
def curly (r : Raw) : Raw := raw "‘" ++ r ++ raw "’"

/-- Options begin with a dash and are not a dash alone. -/
def isOption (r : Raw) : Bool :=
  match r with
  | '-' :: _ :: _ => true
  | _ => false

/-- The letters of all options and the operands. A letter of `valued` takes the rest of its option,
or the argument behind it, as its value. -/
structure Choices where
  flags : Raw
  values : List (Char × Raw)
  operands : List Raw

namespace Choices

def has (c : Choices) (flag : Char) : Bool := c.flags.contains flag

def value? (c : Choices) (flag : Char) : Option Raw := c.values.lookup flag

/-- The values of an option that may be given several times, in order. -/
def allOf (c : Choices) (flag : Char) : List Raw :=
  c.values.filterMap fun (f, value) => if f = flag then some value else none

/-- Goes through the letters of one option: the flags in it, and the option that wants a value with
what is left for it. -/
def letters (valued : Raw) : Raw → Raw × Option (Char × Raw)
  | [] => ([], none)
  | c :: rest =>
    if valued.contains c then ([], some (c, rest))
    else
      let (flags, value) := letters valued rest
      (c :: flags, value)

def of (valued : Raw) : List Raw → Choices
  | [] => ⟨[], [], []⟩
  | ['-', '-'] :: rest => ⟨[], [], rest⟩
  | argument :: rest =>
    if isOption argument && argument.take 2 ≠ ['-', '-'] then
      match letters valued (argument.drop 1), rest with
      | (flags, none), rest => let c := of valued rest; { c with flags := flags ++ c.flags }
      | (flags, some (f, [])), value :: rest =>
        let c := of valued rest
        { c with flags := flags ++ c.flags, values := (f, value) :: c.values }
      | (flags, some (f, value)), rest =>
        let c := of valued rest
        { c with flags := flags ++ c.flags, values := (f, value) :: c.values }
    else
      let c := of valued rest
      { c with operands := argument :: c.operands }

end Choices

/-- The contents of a file, or what is said about it after these words. A dash is the input. -/
def contents (j : Job) (lead : Raw) (file : Raw) : Except Raw Raw :=
  if file = ['-'] || file = raw "/dev/stdin" then .ok j.input
  else
    match Files.read j.view (pathOf file) with
    | .ok bytes => .ok (ofBytes bytes)
    | .error e => .error (j.note (lead ++ file ++ raw ": " ++ words e))

/-- The contents of some files, or the input where there are none, and what is said about those that
cannot be read. -/
def gathered (j : Job) (lead : Raw) (files : List Raw) : Raw × Raw :=
  ((if files.isEmpty then [['-']] else files).map (contents j lead)).foldl
    (fun (out, err) r =>
      match r with
      | .ok s => (out ++ s, err)
      | .error e => (out, err ++ e))
    ([], [])

/-- Works on the contents of some files, or on the input where there are none. -/
def overFiles (j : Job) (files : List Raw) (f : Raw → Raw) : Done :=
  let (all, errors) := gathered j [] files
  j.done (f all) errors (if errors.isEmpty then 0 else 1)

end Tandem.Guest
