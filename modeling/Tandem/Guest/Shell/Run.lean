import Tandem.Guest.Shell.Launch
import Tandem.Guest.Shell.Redirect

/-!
What the commands of a shell do.
-/

namespace Tandem.Guest

open Tandem.Host Tandem.Machine Tandem.Text

namespace Shell

variable (s : Shell)

/-- Prints a command that is carried out, if such is asked for. -/
def trace (assigned fields : List Raw) : Shell :=
  if s.has 'x' && !(assigned.isEmpty && fields.isEmpty) then
    let settings := assigned.map fun name => name ++ '=' :: (s.value? name).getD []
    s.warn (raw "+ " ++ spaced (settings ++ fields) ++ ['\n'])
  else s

/-- A shell whose variables of these names are again what they were before. -/
def withOld (before : Shell) (names : List Raw) : Shell :=
  names.foldl
    (fun t name =>
      match before.bindings.lookup name with
      | some v => t.update name fun _ => v
      | none => t.unsetVariable name) s

/-- The end of a loop's round: whether the loop goes on, and the shell after it. -/
def endRound : Bool × Shell :=
  match s.stop with
  | none => (true, s)
  | some (.broken k) => (false, { s with stop := if k ≤ 1 then none else some (.broken (k - 1)) })
  | some (.continued k) =>
    if k ≤ 1 then (true, { s with stop := none })
    else (false, { s with stop := some (.continued (k - 1)) })
  | some _ => (false, s)

end Shell

/-- A command without the words in front that only have it looked for as a command. -/
def bare (isAfter : Bool) : List Raw → List Raw
  | [] => []
  | w :: rest =>
    let isQuestion := rest.isEmpty || rest.head? = some ['-', 'v'] || rest.head? = some ['-', 'V']
    if w = raw "command" && !isQuestion then bare true rest
    else if isAfter && (w = ['-', 'p'] || w = ['-', '-']) then bare true rest
    else w :: rest

variable (d : Deeper)

/-- Reads in a script. -/
def source (arguments : List Raw) (s : Shell) : Shell :=
  match arguments with
  | [] => s.withStatus 0
  | file :: _ =>
    match if file.contains '/' then some file else sourceFile file s with
    | none => s.fail (raw ".: " ++ file ++ raw ": not found")
    | some path =>
      match Files.read s.view (pathOf path) with
      | .ok bytes => (execute d (Script.of 1 (ofBytes bytes)) (s.within path)).returned s
      | .error _ => s.fail (raw ".: cannot open " ++ path ++ raw ": No such file")

def eval (arguments : List Raw) (s : Shell) : Shell :=
  let t := execute d (Script.of 1 (spaced arguments)) (s.within (raw "eval"))
  { t with caller := s.caller, calls := s.calls }

/-- Has a program take the place of the shell. -/
def become (arguments : List Raw) (s : Shell) : Shell :=
  match arguments with
  | [] => s.withStatus 0
  | program :: rest =>
    match findProgram program rest s with
    | .ok image =>
      let t := launch d s.pid image s
      if t.stop.isSome then t else { t with stop := some .exited, traps := [] }
    | .error e => { s.unfound (raw "exec: ") program e with stop := some .exited }

/-- Answers what some name stands for. -/
def commandQuestion (arguments : List Raw) (s : Shell) : Shell :=
  match arguments with
  | ['-', 'v'] :: name :: _ =>
    match meaningOf name s with
    | some (answer, _) => (s.say (answer ++ ['\n'])).withStatus 0
    | none => s.withStatus 127
  | ['-', 'V'] :: names => typeCommand names s
  | _ => s.withStatus 0

/-- Carries out a command that is no function. -/
def perform (name : Raw) (arguments : List Raw) (s : Shell) : Shell :=
  match String.ofList name with
  | "." => source d arguments s
  | "eval" => eval d arguments s
  | "exec" => become d arguments s
  | "command" => commandQuestion arguments s
  | "kill" => kill d arguments s
  | "wait" => wait d arguments s
  | _ => (builtin? name arguments s).getD (runProgram d name arguments s)

/-- The most calls of functions inside each other. -/
def callLimit : Nat := 1000

/-- Runs a command by its name and arguments. -/
def call (name : Raw) (arguments : List Raw) (s : Shell) : Shell :=
  match if isSpecialBuiltin name then none else s.functions.lookup name with
  | some body =>
    if callLimit ≤ s.calls then
      let message := raw "Maximum function recursion depth (" ++ digits callLimit ++ raw ") reached"
      { s.complainIn message 2 with stop := some .exited }
    else
      let t := d.command body { s with positional := arguments, calls := s.calls + 1, loops := 0 }
      { (t.restore s.saved.length).returned s with positional := s.positional }
  | none =>
    match bare false (name :: arguments) with
    | [] => s
    | name :: arguments => perform d name arguments s

/-- Runs a simple command whose words are known. -/
def simple (assignments : List (Raw × Word)) (fields : List Raw) (redirects : List Redirect)
    (s : Shell) : Shell :=
  let assigned := assignments.map Prod.fst
  let t := assign d assignments s
  if t.stop.isSome then t
  else
    let (ready, t) := redirect d redirects (t.trace assigned fields)
    match fields with
    | [] =>
      let t := t.withOldSinks s redirects
      if ready then (t.withStatus (t.outputStatus.getD 0)).checked else t.checked
    | name :: arguments =>
      let isSpecial := isSpecialBuiltin name
      if ready then
        let t := call d name arguments (if isSpecial then t else assigned.foldl Shell.publish t)
        let t := if name = raw "exec" && arguments.isEmpty then t else t.withOldSinks s redirects
        (if isSpecial then t else t.withOld s assigned).checked
      else
        let t := t.withOldSinks s redirects
        if isSpecial && t.stop.isNone then { t with stop := some .exited }
        else (t.withOld s assigned).checked

/-- The rounds of a loop with a condition, at most so many. Its status is the one of its last
round. -/
def cycle (untilHolds : Bool) (condition body : Shell → Shell) : Nat → Nat → Shell → Shell
  | 0, _, s => s.endless
  | n + 1, status, s =>
    match (condition s).endRound with
    | (false, t) => t
    | (true, t) =>
      if (t.status = 0) = untilHolds then t.withStatus status
      else
        match (body t).endRound with
        | (true, t) => cycle untilHolds condition body n t.status t
        | (false, t) => t

/-- The rounds of a loop over values. -/
def rounds (name : Raw) (body : Shell → Shell) : List Raw → Shell → Shell
  | [], s => s
  | value :: rest, s =>
    match (body (s.setVariable name value)).endRound with
    | (true, s) => rounds name body rest s
    | (false, s) => s

/-- Whether a value has the form of one of some patterns. -/
def fitsOne (value : Raw) : List Word → Shell → Bool × Shell
  | [], s => (false, s)
  | w :: rest, s =>
    let (parts, s) := wordParts d (s.atHome w) s
    if s.stop.isSome then (false, s)
    else if (Glob.of (joinedLetters parts)).fits value then (true, s)
    else fitsOne value rest s

/-- The first commands with a pattern that a value has the form of. -/
def choose (value : Raw) : List (List Word × Command) → Shell → Shell
  | [], s => s.withStatus 0
  | (patterns, body) :: rest, s =>
    let (fits, t) := fitsOne d value patterns s
    if t.stop.isSome then t
    else if fits then
      match body with
      | .nothing => t.withStatus 0
      | body => d.command body t
    else choose value rest t

/-- The most rounds of a loop. One that goes on after them counts as endless. -/
def roundLimit : Nat := 100000

/-- Runs a command. -/
def runCommand (c : Command) (s : Shell) : Shell :=
  if s.stop.isSome || s.has 'n' then s
  else
    let guarded (c : Command) (s : Shell) : Shell :=
      { d.command c { s with guarded := true } with guarded := s.guarded }
    match c with
    | .nothing => s
    | .simple line assignments words redirects =>
      let (fields, t) := expand d words { s with line, outputStatus := none }
      if t.stop.isSome then t else simple d assignments fields redirects t
    | .piped a b =>
      let (between, left) := (finish d (d.command a s.piping)).closePipe
      let t := s.after { left with input := s.input }
      let right := finish d (d.command b { t.forked with input := between, stop := s.stop })
      (t.after { right with input := s.input }).checked
    | .negated c =>
      let t := guarded c s
      t.withStatus (if t.status = 0 then 1 else 0)
    | .andThen a b =>
      let t := guarded a s
      if t.status = 0 then d.command b t else t
    | .orElse a b =>
      let t := guarded a s
      if t.status = 0 then t else d.command b t
    | .inOrder a b => (a.steps ++ b.steps).foldl (fun t c => d.command c t) s
    | .background c => s.leave c
    | .choice condition yes no =>
      let t := guarded condition s
      if t.stop.isSome then t
      else if t.status = 0 then d.command yes t
      else
        match no with
        | .nothing => t.withStatus 0
        | no => d.command no t
    | .loop untilHolds condition body =>
      let t := cycle untilHolds (guarded condition) (d.command body) roundLimit 0
        { s with loops := s.loops + 1 }
      { t with loops := s.loops }
    | .forEach name words body =>
      let (values, t) := expand d words s
      if t.stop.isSome then t
      else
        let t := rounds name (d.command body) values { t with loops := s.loops + 1, status := 0 }
        { t with loops := s.loops }
    | .select w arms =>
      let (value, t) := wordValue d w s
      if t.stop.isSome then t else choose d value arms t
    | .subshell c => (s.after (finish d (d.command c s.forked))).checked
    | .function name body =>
      { s with functions := (name, body) :: s.functions.filter (·.1 ≠ name), status := 0 }
    | .redirected line c redirects =>
      let (ready, t) := redirect d redirects { s with line }
      if ready then (d.command c t).withOldSinks s redirects
      else (t.withOldSinks s redirects).checked

/-- A shell that goes so deep, and breaks off with a memory fault if it is to go deeper. -/
def deeper : Nat → Deeper
  | 0 =>
    let fault (s : Shell) : Shell := { s with stop := some (.killed s.pid 11) }
    { command := fun _ s => fault s
      parts := fun _ s => ([], fault s)
      launch := fun _ _ s => fault s
      finish := fault }
  | n + 1 =>
    { command := fun c s => runCommand (deeper n) c s
      parts := fun w s => wordParts (deeper n) w s
      launch := fun pid image s => launch (deeper n) pid image s
      finish := fun s => finish (deeper n) s }

end Tandem.Guest
