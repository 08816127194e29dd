import Tandem.Guest.Glob
import Tandem.Guest.Tool.Format

/-!
Programs that look at files and change them.
-/

namespace Tandem.Guest

open Tandem.Host Tandem.Machine

/-- A name below a directory. -/
def below (directory name : Raw) : Raw :=
  if directory.getLast? == some '/' then directory ++ name else directory ++ '/' :: name

def baseName (r : Raw) : Raw :=
  let r := (r.reverse.dropWhile (· = '/')).reverse
  (r.reverse.takeWhile (· ≠ '/')).reverse

def nodeAt? (view : Files.View) (follow : Bool) (r : Raw) : Option Node :=
  match Machine.locate view.root view.directory follow (pathOf r) with
  | .ok ⟨_, node⟩ => node
  | .error _ => none

/-- The names in a directory as they are listed. -/
def listedNames (n : Node) (hidden : Bool) : List Raw :=
  let names := n.entries.map fun e => raw e.1
  (if hidden then names else names.filter fun name => name.head? ≠ some '.').mergeSort precedes

/-- The listing of a directory and of those in it. -/
def listTree (view : Files.View) (c : Choices) : Nat → Raw → Raw
  | 0, _ => []
  | n + 1, directory =>
    match nodeAt? view true directory with
    | none => []
    | some node =>
      let names := listedNames node (c.has 'a' || c.has 'A')
      let inner := names.filter fun name =>
        (nodeAt? view false (below directory name)).any Node.isDirectory
      directory ++ ':' :: '\n' :: unlines names ++
        inner.flatMap fun name => '\n' :: listTree view c n (below directory name)

def ls (j : Job) : Done :=
  let c := Choices.of [] j.arguments
  let operands := if c.operands.isEmpty then [['.']] else c.operands
  let found (operand : Raw) : Except Raw Node :=
    match Machine.lookup j.view.root j.view.directory (pathOf operand) with
    | .ok (_, node) => .ok node
    | .error e => .error (j.note (raw "cannot access " ++ straight operand ++ raw ": " ++ words e))
  let results := (operands.mergeSort precedes).map fun o => (o, found o)
  let errors := results.flatMap fun (_, r) => match r with | .ok _ => [] | .error e => e
  let files := results.filterMap fun (o, r) =>
    match r with
    | .ok node => if node.isDirectory && !c.has 'd' then none else some o
    | .error _ => none
  let directories := results.filterMap fun (o, r) =>
    match r with
    | .ok node => if node.isDirectory && !c.has 'd' then some (o, node) else none
    | .error _ => none
  let listing (node : Node) : Raw :=
    unlines ((if c.has 'a' then [['.'], ['.', '.']] else []) ++
      listedNames node (c.has 'a' || c.has 'A'))
  let titled := 1 < operands.length
  let sections := directories.map fun (o, node) =>
    if c.has 'R' then listTree j.view c 100 o
    else (if titled then o ++ [':', '\n'] else []) ++ listing node
  let blocks := (if files.isEmpty then [] else [unlines files]) ++ sections
  j.done (['\n'].intercalate blocks) errors (if errors.isEmpty then 0 else 2)

/-- Applies a change of files to each operand. -/
def change (j : Job) (what : Raw) (quote : Raw → Raw) (operands : List Raw) (quiet : Bool)
    (f : Files.View → Path → Except IoError Node) : Done :=
  operands.foldl
    (fun d operand =>
      match f ⟨d.root, j.view.directory⟩ (pathOf operand) with
      | .ok root => { d with root }
      | .error e =>
        if quiet && (e = .notFound || e = .notDirectory) then d
        else
          { d with
            err := d.err ++ j.note (what ++ [' '] ++ quote operand ++ raw ": " ++ words e)
            status := 1 })
    (j.silent 0)

def removeAny (view : Files.View) (path : Path) : Except IoError Node :=
  match Files.remove view path with
  | .ok root => .ok root
  | .error _ => Files.removeTree view path

def rm (j : Job) : Done :=
  let c := Choices.of [] j.arguments
  if c.operands.isEmpty && !c.has 'f' then j.misused (raw "missing operand") 1
  else
    change j (raw "cannot remove") straight c.operands (c.has 'f')
      (if c.has 'r' || c.has 'R' then removeAny else Files.remove)

def rmdir (j : Job) : Done :=
  change j (raw "failed to remove") straight (Choices.of [] j.arguments).operands false
    fun view path => do
      let (_, node) ← Machine.lookup view.root view.directory path
      if !node.isDirectory then throw .notDirectory
      if node.entries.isEmpty then Files.removeTree view path else throw (.system 39)

/-- The rights that letters such as `rx` stand for, for one class of users. -/
def rightsOf (r : Raw) : Nat :=
  (if r.contains 'r' then 4 else 0) + (if r.contains 'w' then 2 else 0) +
    (if r.contains 'x' || r.contains 'X' then 1 else 0)

/-- The rights after a clause such as `u+x`. -/
def applyClause (mode : Nat) (clause : Raw) : Option Nat :=
  let users := clause.takeWhile fun c => ['u', 'g', 'o', 'a'].contains c
  match clause.drop users.length with
  | op :: letters =>
    if !letters.all ['r', 'w', 'x', 'X', 's', 't'].contains then none
    else
      let all := users.isEmpty || users.contains 'a'
      let rights := rightsOf letters
      let spread (bits : Nat) : Nat :=
        (if all || users.contains 'u' then bits * 64 else 0) +
        (if all || users.contains 'g' then bits * 8 else 0) +
        (if all || users.contains 'o' then bits else 0)
      /- Without users, writing is left to the owner. -/
      let granted := if users.isEmpty then spread rights &&& 0o755 else spread rights
      match op with
      | '+' => some (mode ||| granted)
      | '-' => some (mode - (mode &&& granted))
      | '=' => some ((mode - (mode &&& spread 7)) ||| granted)
      | _ => none
  | [] => none

def newMode (r : Raw) (mode : Nat) : Option Nat :=
  if !r.isEmpty && r.all (isDigitOf 8) then some (valueOf 8 r)
  else (splitAt ',' r).foldl (fun m clause => m.bind (applyClause · clause)) (some mode)

def chmod (j : Job) : Done :=
  let arguments := if (j.arguments.headD []).take 2 = ['-', 'R'] then j.arguments.drop 1 else j.arguments
  match arguments with
  | mode :: operands =>
    if (newMode mode 0).isNone then j.complain (raw "invalid mode: " ++ curly mode) 1
    else
      change j (raw "cannot access") straight operands false fun view path => do
        let (_, node) ← Machine.lookup view.root view.directory path
        Files.setMode view path ((newMode mode node.mode).getD node.mode)
  | [] => j.misused (raw "missing operand") 1

def mkdir (j : Job) : Done :=
  let c := Choices.of ['m'] j.arguments
  if c.operands.isEmpty then j.misused (raw "missing operand") 1
  else
    change j (raw "cannot create directory") curly c.operands false fun view path =>
      if c.has 'p' then
        match Machine.lookup view.root view.directory path with
        | .ok (_, node) => if node.isDirectory then .ok view.root else .error .alreadyExists
        | .error _ => Files.createDirs view path
      else Files.createDir view path

def touch (j : Job) : Done :=
  let c := Choices.of ['t', 'd', 'r'] j.arguments
  change j (raw "cannot touch") straight c.operands false fun view path =>
    match Machine.lookup view.root view.directory path with
    | .ok _ => .ok view.root
    | .error _ => if c.has 'c' then .ok view.root else Files.write view path true []

/-- A tree with a node put where a path leads. -/
def place (view : Files.View) (r : Raw) (node : Node) : Except IoError Node := do
  let p ← Machine.locate view.root view.directory true (pathOf r)
  return view.root.put p.names node

/-- Where something goes: into a directory under its own name, or to a name. -/
def destination (view : Files.View) (source target : Raw) : Raw :=
  if (nodeAt? view true target).any Node.isDirectory then below target (baseName source) else target

/-- Copies or moves some things to the last operand. -/
def transfer (j : Job) (what : Raw) (operands : List Raw)
    (f : Files.View → Raw → Raw → Except Raw Node) : Done :=
  match operands.getLast? with
  | none => j.misused (raw "missing file operand") 1
  | some target =>
    let sources := operands.dropLast
    if sources.isEmpty then
      j.misused (raw "missing destination file operand after " ++ straight target) 1
    else if 1 < sources.length && !(nodeAt? j.view true target).any Node.isDirectory then
      j.complain (raw "target " ++ straight target ++ raw ": No such file or directory") 1
    else
      sources.foldl
        (fun d source =>
          let view : Files.View := ⟨d.root, j.view.directory⟩
          match Machine.locate view.root view.directory false (pathOf source) with
          | .ok ⟨_, some _⟩ =>
            match f view source (destination view source target) with
            | .ok root => { d with root }
            | .error e => { d with err := d.err ++ j.note e, status := 1 }
          | _ =>
            { d with
              err := d.err ++ j.note (raw "cannot " ++ what ++ [' '] ++ straight source ++
                raw ": No such file or directory")
              status := 1 })
        (j.silent 0)

def cp (j : Job) : Done :=
  let c := Choices.of [] j.arguments
  transfer j (raw "stat") c.operands fun view source target =>
    match nodeAt? view true source with
    | none => .error (raw "cannot stat " ++ straight source ++ raw ": No such file or directory")
    | some node =>
      if node.isDirectory && !(c.has 'r' || c.has 'R' || c.has 'a') then
        .error (raw "-r not specified; omitting directory " ++ straight source)
      else
        let result := if node.isDirectory then place view target node
          else Files.copy view (pathOf source) (pathOf target)
        match result with
        | .ok root => .ok root
        | .error e =>
          .error (raw "cannot create regular file " ++ straight target ++ raw ": " ++ words e)

def mv (j : Job) : Done :=
  let c := Choices.of [] j.arguments
  transfer j (raw "stat") c.operands fun view source target =>
    let moved : Except IoError Node := do
      let p ← Machine.locate view.root view.directory false (pathOf source)
      match p.node with
      | none => throw .notFound
      | some node => place ⟨view.root.erase p.names, view.directory⟩ target node
    match moved with
    | .ok root => .ok root
    | .error e =>
      .error (raw "cannot move " ++ straight source ++ raw " to " ++ straight target ++ raw ": " ++
        words e)

def ln (j : Job) : Done :=
  let c := Choices.of [] j.arguments
  match c.operands with
  | [] => j.misused (raw "missing file operand") 1
  | target :: rest =>
    let name := destination j.view target (rest.headD ['.'])
    let view : Files.View :=
      if c.has 'f' then ⟨(removeAny j.view (pathOf name)).toOption.getD j.view.root, j.view.directory⟩
      else j.view
    let kind := if c.has 's' then raw "symbolic link " else raw "hard link "
    let isThere := (nodeAt? view false target).isSome
    if !c.has 's' && !isThere then
      j.complain (raw "failed to access " ++ straight target ++ raw ": No such file or directory") 1
    else
    let result := if c.has 's' then Files.link view (pathOf name) (text target)
      else
        match nodeAt? view false target with
        | some node => do
          let p ← Machine.locate view.root view.directory false (pathOf name)
          if p.node.isSome then throw .alreadyExists
          return view.root.put p.names node
        | none => .error .notFound
    match result with
    | .ok root => { j.silent 0 with root }
    | .error e =>
      j.complain (raw "failed to create " ++ kind ++ straight name ++ raw ": " ++ words e) 1

def readlink (j : Job) : Done :=
  let c := Choices.of [] j.arguments
  let resolved (o : Raw) : Option Raw :=
    if c.has 'f' || c.has 'e' || c.has 'm' then
      match Machine.locate j.view.root j.view.directory true (pathOf o) with
      | .ok p => some (raw (Machine.pathOf p.names).text)
      | .error _ => none
    else
      match nodeAt? j.view false o with
      | some (.link target) => some (raw target)
      | _ => none
  let results := c.operands.map resolved
  j.done (unlines (results.filterMap id)) [] (if results.any Option.isNone then 1 else 0)

def realpath (j : Job) : Done :=
  let c := Choices.of [] j.arguments
  let results := c.operands.map fun o =>
    match Machine.locate j.view.root j.view.directory true (pathOf o) with
    | .ok p => (raw (Machine.pathOf p.names).text ++ ['\n'], [])
    | .error e => ([], j.note (o ++ raw ": " ++ words e))
  let errors := results.flatMap Prod.snd
  j.done (results.flatMap Prod.fst) errors (if errors.isEmpty then 0 else 1)

/-- The kind of a node in words. -/
def kindText (n : Node) : Raw :=
  match n with
  | .file _ [] => raw "regular empty file"
  | .file .. => raw "regular file"
  | .program _ => raw "regular file"
  | .directory .. => raw "directory"
  | .link _ => raw "symbolic link"
  | .device _ => raw "character special file"

/-- The letter of a node's kind. -/
def kindLetter (n : Node) : Char :=
  match n.kind with
  | .file => 'f'
  | .directory => 'd'
  | .link => 'l'
  | .special => 'c'

/-- The rights of a node in letters. -/
def rightsText (n : Node) : Raw :=
  (if kindLetter n = 'f' then '-' else kindLetter n) ::
    ([n.mode / 64 % 8, n.mode / 8 % 8, n.mode % 8].flatMap fun bits =>
      [if bits / 4 % 2 = 1 then 'r' else '-', if bits / 2 % 2 = 1 then 'w' else '-',
       if bits % 2 = 1 then 'x' else '-'])

def nodeSize (n : Node) : Nat :=
  match n with
  | .file _ bytes => bytes.length
  | .link target => target.utf8ByteSize
  | _ => 4096

/-- What a format says about a node. -/
def describe (name : Raw) (n : Node) : Raw → Raw
  | '%' :: c :: rest =>
    (match c with
      | 'a' => Nat.toDigits 8 n.mode
      | 'A' => rightsText n
      | 's' => digits (nodeSize n)
      | 'n' => name
      | 'F' => kindText n
      | 'u' => ['0']
      | 'g' => ['0']
      | 'U' => raw "root"
      | 'G' => raw "root"
      | 'h' => ['1']
      | c => ['%', c]) ++ describe name n rest
  | c :: rest => c :: describe name n rest
  | [] => []

def stat (j : Job) : Done :=
  let c := Choices.of ['c'] j.arguments
  let results := c.operands.map fun o =>
    match Machine.locate j.view.root j.view.directory (c.has 'L') (pathOf o) with
    | .ok ⟨_, some node⟩ => (describe o node ((c.value? 'c').getD ['%', 'n']) ++ ['\n'], [])
    | .ok ⟨_, none⟩ =>
      ([], j.note (raw "cannot statx " ++ straight o ++ raw ": No such file or directory"))
    | .error e => ([], j.note (raw "cannot statx " ++ straight o ++ raw ": " ++ words e))
  let errors := results.flatMap Prod.snd
  j.done (results.flatMap Prod.fst) errors (if errors.isEmpty then 0 else 1)

/-- A tree's names with their nodes, directories before what is in them. -/
def under : Nat → Raw → Node → List (Raw × Node × Nat)
  | 0, name, node => [(name, node, 0)]
  | n + 1, name, node =>
    (name, node, 0) :: node.entries.flatMap fun (entry, inner) =>
      (under n (below name (raw entry)) inner).map fun (name, node, depth) => (name, node, depth + 1)

/-- The conditions of `find` as one. -/
def findTest (entry : Raw × Node × Nat) : List Raw → Bool
  | ['-', 't', 'y', 'p', 'e'] :: kind :: rest =>
    kind.head? == some (kindLetter entry.2.1) && findTest entry rest
  | ['-', 'n', 'a', 'm', 'e'] :: g :: rest =>
    (Glob.of (lettersOf .script g)).fits (baseName entry.1) && findTest entry rest
  | ['-', 'm', 'a', 'x', 'd', 'e', 'p', 't', 'h'] :: k :: rest =>
    entry.2.2 ≤ (number? k).getD 0 && findTest entry rest
  | ['-', 'm', 'i', 'n', 'd', 'e', 'p', 't', 'h'] :: k :: rest =>
    (number? k).getD 0 ≤ entry.2.2 && findTest entry rest
  | ['-', 'e', 'm', 'p', 't', 'y'] :: rest =>
    (match entry.2.1 with
      | .file _ bytes => bytes.isEmpty
      | .directory _ entries => entries.isEmpty
      | _ => false) && findTest entry rest
  | ['!'] :: flag :: value :: rest =>
    !(findTest entry [flag, value]) && findTest entry rest
  | _ :: rest => findTest entry rest
  | [] => true

def find (j : Job) : Done :=
  let roots := j.arguments.takeWhile fun a => a.head? ≠ some '-' && a ≠ ['!']
  let tests := j.arguments.drop roots.length
  let results := (if roots.isEmpty then [['.']] else roots).map fun r =>
    match nodeAt? j.view false r with
    | some node =>
      (unlines (((under 100 r node).filter (findTest · tests)).map Prod.fst), [])
    | none => ([], j.note (straight r ++ raw ": No such file or directory"))
  let errors := results.flatMap Prod.snd
  j.done (results.flatMap Prod.fst) errors (if errors.isEmpty then 0 else 1)

def basename (j : Job) : Done :=
  match j.arguments with
  | [] => j.misused (raw "missing operand") 1
  | a :: rest =>
    let name := if a.all (· = '/') && !a.isEmpty then ['/'] else baseName a
    let ending := rest.headD []
    let isCut := !ending.isEmpty && ending.isSuffixOf name && ending ≠ name
    j.say ((if isCut then name.take (name.length - ending.length) else name) ++ ['\n'])

def dirname (j : Job) : Done :=
  match j.arguments with
  | [] => j.misused (raw "missing operand") 1
  | names =>
    j.say <| unlines <| names.map fun a =>
      let a := (a.reverse.dropWhile (· = '/')).reverse
      match (a.reverse.dropWhile (· ≠ '/')).dropWhile (· = '/') with
      | [] => if a.contains '/' || a.isEmpty then ['/'] else ['.']
      | r => r.reverse

/-- Copies the input to files and on to the output. -/
def tee (j : Job) : Done :=
  let c := Choices.of [] j.arguments
  let d := change j [] id c.operands false fun view path =>
    Files.write view path (c.has 'a') (toBytes j.input)
  { d with out := j.input }

/-- Blocks of bytes from one file to another. -/
def dd (j : Job) : Done :=
  let option (name : String) : Option Raw :=
    j.arguments.findSome? fun a => if name.toList.isPrefixOf a then some (a.drop name.length) else none
  let unit (r : Raw) : Nat :=
    let ds := r.takeWhile Char.isDigit
    valueOf 10 ds *
      match r.drop ds.length with
      | ['k'] => 1024
      | ['K'] => 1024
      | ['M'] => 1048576
      | _ => 1
  let size := ((option "bs=").map unit).getD 512
  let count := (option "count=").map unit
  let source : Except Raw Raw :=
    match option "if=" with
    | none => .ok j.input
    | some file =>
      match nodeAt? j.view true file with
      | some (.device "null") => .ok []
      | some (.device _) => .ok (List.replicate (size * count.getD 0) '\x00')
      | some (.file _ bytes) => .ok (ofBytes bytes)
      | _ => .error (j.note (raw "failed to open " ++ straight file ++
          raw ": No such file or directory"))
  match source with
  | .error e => j.done [] e 1
  | .ok s =>
    let s := s.drop (size * ((option "skip=").map unit).getD 0)
    let s := match count with
      | some k => s.take (size * k)
      | none => s
    let blocks := digits (s.length / size) ++ '+' :: digits (if s.length % size = 0 then 0 else 1)
    let err := blocks ++ raw " records in\n" ++ blocks ++ raw " records out\n"
    match option "of=" with
    | none => j.done s err 0
    | some file =>
      match Files.write j.view (pathOf file) false (toBytes s) with
      | .ok root => { j.done [] err 0 with root }
      | .error e => j.complain (raw "failed to open " ++ straight file ++ raw ": " ++ words e) 1

end Tandem.Guest
