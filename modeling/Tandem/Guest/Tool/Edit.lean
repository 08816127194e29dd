import Tandem.Guest.Tool.Filter

/-!
The stream editor: a script of commands that goes over the lines of a text.
-/

namespace Tandem.Guest

/-- Where a command applies. -/
inductive Address where
  | line (n : Nat)
  | last
  | like (p : Pattern)
deriving DecidableEq, Repr

inductive EditAction where
  | replace (p : Pattern) (filler : Raw) (all : Bool) (skip : Nat) (shown : Bool)
  | remove
  | write
  | quit
  | number
  | exchange (sources targets : Raw)
  | append (s : Raw)
  | insert (s : Raw)
  | change (s : Raw)
deriving DecidableEq, Repr

structure Edit where
  first : Option Address
  last : Option Address
  inverted : Bool
  action : EditAction
deriving DecidableEq, Repr

/-- A text up to a mark, and what follows it. A mark behind a backslash does not count. -/
def untilMark (mark : Char) : Raw → Option (Raw × Raw)
  | [] => none
  | '\\' :: c :: rest =>
    (untilMark mark rest).map fun (part, rest) =>
      (if c = mark then c :: part else '\\' :: c :: part, rest)
  | c :: rest =>
    if c = mark then some ([], rest)
    else (untilMark mark rest).map fun (part, rest) => (c :: part, rest)

def readAddress (extended : Bool) (s : Raw) : Option Address × Raw :=
  match s with
  | '$' :: rest => (some .last, rest)
  | '/' :: rest =>
    match untilMark '/' rest with
    | some (source, rest) => (some (.like (.of extended false source)), rest)
    | none => (none, s)
  | s =>
    let ds := s.takeWhile Char.isDigit
    ((number? ds).map .line, s.drop ds.length)

/-- The action in front of a script. A text goes on to the end of its line. -/
def readAction (extended : Bool) (s : Raw) : Option (EditAction × Raw) :=
  let line (r : Raw) : Raw × Raw :=
    let r := (if r.take 1 = ['\\'] then r.drop 1 else r).dropWhile fun c =>
      c = ' ' || c = '\n'
    (r.takeWhile (· ≠ '\n'), r.dropWhile (· ≠ '\n'))
  match s with
  | 's' :: mark :: rest => do
    let (source, rest) ← untilMark mark rest
    let (filler, rest) ← untilMark mark rest
    let flags := rest.takeWhile fun c => c.isAlphanum
    let place := valueOf 10 (flags.filter Char.isDigit)
    some (.replace (.of extended (flags.contains 'i' || flags.contains 'I') source) filler
      (flags.contains 'g') (place - 1) (flags.contains 'p'), rest.drop flags.length)
  | 'y' :: mark :: rest => do
    let (sources, rest) ← untilMark mark rest
    let (targets, rest) ← untilMark mark rest
    some (.exchange sources targets, rest)
  | 'd' :: rest => some (.remove, rest)
  | 'p' :: rest => some (.write, rest)
  | 'q' :: rest => some (.quit, rest)
  | '=' :: rest => some (.number, rest)
  | 'a' :: rest => let (r, rest) := line rest; some (.append r, rest)
  | 'i' :: rest => let (r, rest) := line rest; some (.insert r, rest)
  | 'c' :: rest => let (r, rest) := line rest; some (.change r, rest)
  | _ => none

/-- The commands of a script, at most so many. -/
def readEdits (extended : Bool) : Nat → Raw → Option (List Edit)
  | 0, _ => none
  | n + 1, s =>
    match s.dropWhile fun c => c = ' ' || c = ';' || c = '\n' || c = '\x7d' || c = '\x7b' with
    | [] => some []
    | s => do
      let (first, s) := readAddress extended s
      let (last, s) := match s with
        | ',' :: rest => readAddress extended rest
        | s => (none, s)
      let s := s.dropWhile (· = ' ')
      let (inverted, s) := match s with
        | '!' :: rest => (true, rest)
        | s => (false, s)
      let (action, rest) ← readAction extended (s.dropWhile fun c => c = ' ' || c = '\x7b')
      return ⟨first, last, inverted, action⟩ :: (← readEdits extended n rest)

/-- What goes on while the lines are gone through. -/
structure Editing where
  /-- The commands whose range of lines is open. -/
  inRange : List Nat
  out : Raw
  isOver : Bool

def Address.holds (a : Address) (k total : Nat) (l : Raw) : Bool :=
  match a with
  | line n => n == k
  | last => k == total
  | like p => p.occurs l

/-- Whether the `i`th command applies to a line, and whether its range is open behind the line. -/
def Edit.applies (e : Edit) (isOpen : Bool) (k total : Nat) (l : Raw) : Bool × Bool :=
  match e.first, e.last with
  | none, _ => (!e.inverted, false)
  | some a, none => (a.holds k total l != e.inverted, false)
  | some a, some b =>
    let starts := !isOpen && a.holds k total l
    let ends := match b with
      | .line n => n ≤ k
      | b => isOpen && b.holds k total l
    ((isOpen || starts) != e.inverted, (isOpen || starts) && !ends)

/-- One line as the commands go over it. -/
structure EditedLine where
  text : Raw
  before : Raw
  after : Raw
  kept : Bool
  isDone : Bool

/-- The effect of an action on the `k`th line. -/
def EditAction.run (a : EditAction) (k : Nat) (l : EditedLine) : EditedLine × Bool :=
  match a with
  | replace p filler all skip shown =>
    let (text, done) := p.replace filler all skip l.text
    ({ l with text, before := if done && shown then l.before ++ text ++ ['\n'] else l.before }, false)
  | remove => ({ l with kept := false, isDone := true }, false)
  | write => ({ l with before := l.before ++ l.text ++ ['\n'] }, false)
  | quit => ({ l with isDone := true }, true)
  | number => ({ l with before := l.before ++ digits k ++ ['\n'] }, false)
  | exchange sources targets => ({ l with text := l.text.map (mapped sources targets) }, false)
  | append s => ({ l with after := l.after ++ s ++ ['\n'] }, false)
  | insert s => ({ l with before := l.before ++ s ++ ['\n'] }, false)
  | change s => ({ l with before := l.before ++ s ++ ['\n'], kept := false, isDone := true }, false)

/-- All commands on the `k`th line. -/
def editLine (k total : Nat) : List (Nat × Edit) → Editing → EditedLine → Editing × EditedLine
  | [], s, l => (s, l)
  | (i, e) :: rest, s, l =>
    let (applies, isOpen) := e.applies (s.inRange.contains i) k total l.text
    let others := s.inRange.filter (· ≠ i)
    let s := { s with inRange := if isOpen then i :: others else others }
    if applies && !l.isDone then
      let (l, isOver) := e.action.run k l
      editLine k total rest { s with isOver := s.isOver || isOver } l
    else editLine k total rest s l

def editLines (quiet : Bool) (edits : List (Nat × Edit)) (total : Nat) :
    Nat → List Raw → Editing → Editing
  | _, [], s => s
  | k, l :: rest, s =>
    let (s, l) := editLine k total edits s ⟨l, [], [], true, false⟩
    let s := { s with
      out := s.out ++ l.before ++ (if l.kept && !quiet then l.text ++ ['\n'] else []) ++ l.after }
    if s.isOver then s else editLines quiet edits total (k + 1) rest s

def sed (j : Job) : Done :=
  let c := Choices.of ['e'] j.arguments
  let (script, files) := match c.allOf 'e' with
    | [] => (c.operands.headD [], c.operands.drop 1)
    | given => (['\n'].intercalate given, c.operands)
  match readEdits (c.has 'E' || c.has 'r') (script.length + 2) script with
  | none => j.complain (raw "-e expression #1, char 1: unknown command: " ++ curly (script.take 1)) 1
  | some edits =>
    let indexed := edits.zipIdx.map fun (e, i) => (i, e)
    let edited (s : Raw) : Raw :=
      let ls := lines s
      let r := editLines (c.has 'n') indexed ls.length 1 ls ⟨[], [], false⟩
      if s.getLast? == some '\n' || r.isOver then r.out else r.out.dropLast
    if c.has 'i' then
      let root := files.foldl
        (fun root file =>
          match contents j [] file with
          | .ok s =>
            (Machine.Files.write ⟨root, j.view.directory⟩ (pathOf file) false
              (toBytes (edited s))).toOption.getD root
          | .error _ => root) j.view.root
      { j.silent 0 with root }
    else
      let (s, errors) := gathered j (raw "can't read ") files
      j.done (edited s) errors (if errors.isEmpty then 0 else 2)

end Tandem.Guest
