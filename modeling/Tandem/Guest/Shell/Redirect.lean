import Tandem.Guest.Shell.Expand

/-!
Where the input of a command comes from and its output goes.
-/

namespace Tandem.Guest

open Tandem.Host Tandem.Machine Tandem.Text

namespace Shell

variable (s : Shell)

/-- A shell that gives up a command as a file for it cannot be opened. -/
def unredirected (e : IoError) (isCreated : Bool) (target : Raw) : Shell :=
  let isMissing := e = .notFound || e = .notDirectory
  let reason :=
    if !isMissing then words e
    else if isCreated then raw "Directory nonexistent"
    else raw "No such file"
  s.complainIn (raw (if isCreated then "cannot create " else "cannot open ") ++ target ++ raw ": " ++
    reason) 2

/-- Has a descriptor give an input. -/
def feed (descriptor : Nat) (input : Raw) : Shell :=
  if descriptor = 0 then { s with input }
  else { s with inputs := (descriptor, input) :: s.inputs.filter (·.1 ≠ descriptor) }

/-- Has a descriptor lead nowhere. -/
def close (descriptor : Nat) : Shell :=
  if descriptor = 0 then { s with input := [] }
  else
    { s.lead descriptor .closed with inputs := s.inputs.filter (·.1 ≠ descriptor) }

/-- Sets up a redirection to a file for output. The flag says whether it could be. -/
def write (descriptor : Nat) (append : Bool) (target : Raw) : Bool × Shell :=
  if target = raw "/dev/stdout" then (true, s.lead descriptor (s.sinkOf 1))
  else if target = raw "/dev/stderr" then (true, s.lead descriptor (s.sinkOf 2))
  else
    match Files.write s.view (pathOf target) append [] with
    | .ok files => (true, { s with files }.lead descriptor (.file (s.fullPath target)))
    | .error e => (false, s.unredirected e true target)

/-- Sets up a redirection from a file. -/
def take (descriptor : Nat) (target : Raw) : Bool × Shell :=
  if target = raw "/dev/stdin" then (true, s)
  else
    match Files.read s.view (pathOf target) with
    | .ok bytes => (true, s.feed descriptor (ofBytes bytes))
    | .error e =>
      if e = .isDirectory then (true, s.feed descriptor []) else (false, s.unredirected e false target)

/-- Has a descriptor lead where another one does. -/
def duplicate (descriptor : Nat) (target : Raw) : Bool × Shell :=
  if target = ['-'] then (true, s.close descriptor)
  else
    match number? target with
    | none => (false, s.fail (raw "Syntax error: Bad fd number"))
    | some k =>
      match if k = 0 then some s.input else s.inputs.lookup k with
      | some input => (true, s.feed descriptor input)
      | none =>
        if s.isOpen k then (true, s.lead descriptor (s.sinkOf k))
        else (false, s.complainIn (target ++ raw ": Bad file descriptor") 2)

/-- A shell after redirected commands: the descriptors lead where they did before. -/
def withOldSinks (before : Shell) (redirects : List Redirect) : Shell :=
  let copied? : Option Nat := redirects.findSome? fun r =>
    if r.direction = .copy && r.descriptor = 0 then (literal? r.target).bind number? else none
  let inputs :=
    match copied? with
    | some k => before.inputs.map fun (d, r) => if d = k then (d, s.input) else (d, r)
    | none => before.inputs
  { s with
    sinks := before.sinks
    inputs
    input := if redirects.any (·.descriptor == 0) then before.input else s.input }

end Shell

/-- Sets up redirections one after the other. The flag says whether all of them could be. -/
def redirect (d : Deeper) : List Redirect → Shell → Bool × Shell
  | [], s => (true, s)
  | r :: rest, s =>
    let (target, s) := wordValue d r.target s
    if s.stop.isSome then (false, s)
    else
      let (ready, s) :=
        match r.direction with
        | .write => s.write r.descriptor false target
        | .append => s.write r.descriptor true target
        | .read => s.take r.descriptor target
        | .here => (true, s.feed r.descriptor target)
        | .copy => s.duplicate r.descriptor target
      if ready then redirect d rest s else (false, s)

end Tandem.Guest
