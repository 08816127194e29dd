import Tandem.Machine.Basic
import Tandem.Proofs.Host.Child
import Tandem.Proofs.Machine.Files
import Tandem.Proofs.Machine.Meaning

/-!
Which file a program's name stands for, and what a launch of it comes to.
-/

namespace Tandem.Machine

open Tandem.Host Tandem.Machine.Node

/-! ## Trees that have grown -/

/-- What is found is the same, apart from what directories hold. -/
inductive Alike {α : Type} : Except IoError (α × Node) → Except IoError (α × Node) → Prop where
  | same (found : Except IoError (α × Node)) : Alike found found
  | directories (a : α) {inner inner' : Node} (isDir : inner.isDirectory = true)
      (isDir' : inner'.isDirectory = true) : Alike (.ok (a, inner)) (.ok (a, inner'))

/-- What a walk finds. -/
def Place.found (place : Place) : Except IoError (List String × Node) :=
  match place.node with
  | some node => .ok (place.names, node)
  | none => .error .notFound

section
variable {root root' : Node} {cwd here : List String} {steps : List Step} {links : Nat}
  {follow flag : Bool} {p : Path}

theorem lookup_eq : lookup root cwd p = locate root cwd true p >>= Place.found := by
  rw [lookup]
  cases locate root cwd true p with
  | error e => rfl
  | ok place =>
    obtain ⟨names, node⟩ := place
    cases node <;> rfl

/-- A walk goes on from what stands in its way, if that is no link. -/
theorem walk_plain {name : String} {node inner : Node} (around : root.get? here = some node)
    (short : name.utf8ByteSize ≤ nameLimit) (child : node.child? name = some inner)
    (plain : inner.kind ≠ .link) :
    walk root follow links flag here (.down name :: steps) =
      if !steps.isEmpty && !inner.isDirectory then .error .notDirectory
      else walk root follow links flag (here ++ [name]) steps := by
  rw [walk]
  simp only [around, isDirectory_of_child? child, Nat.not_lt.2 short, child]
  cases inner with
  | link target => exact absurd rfl plain
  | _ => rfl

/-- A walk goes on from what a link in its way names. -/
theorem walk_link {name target : String} {node : Node} (around : root.get? here = some node)
    (short : name.utf8ByteSize ≤ nameLimit) (child : node.child? name = some (.link target)) :
    walk root follow links flag here (.down name :: steps) =
      if steps.isEmpty && !follow && !flag then .ok ⟨here ++ [name], some (.link target)⟩
      else
        match links with
        | 0 => .error .linkLoop
        | links + 1 =>
          walk root follow links (flag || (steps.isEmpty && endsAsDirectory ⟨target⟩))
            (if (⟨target⟩ : Path).isAbsolute then [] else here) (stepsOf ⟨target⟩ ++ steps) := by
  rw [walk]
  simp only [around, isDirectory_of_child? child, Nat.not_lt.2 short, child]
  rfl

/-- Where a walk finds something, or fails for a reason other than that nothing is there, it does so
in another tree too. -/
def WalksAlike (root root' : Node) (follow : Bool) (links : Nat) (flag : Bool) (here : List String)
    (steps : List Step) : Prop :=
  (walk root follow links flag here steps >>= Place.found) = .error .notFound ∨
    Alike (walk root follow links flag here steps >>= Place.found)
      (walk root' follow links flag here steps >>= Place.found)

section
variable {name : String} {node node' : Node}

theorem walksAlike_link {target : String} (found : root.get? here = some node)
    (found' : root'.get? here = some node') (short : name.utf8ByteSize ≤ nameLimit)
    (child : node.child? name = some (.link target))
    (child' : node'.child? name = some (.link target))
    (deeper : ∀ fewer < links, ∀ flag here steps,
      WalksAlike root root' follow fewer flag here steps) :
    WalksAlike root root' follow links flag here (.down name :: steps) := by
  rw [WalksAlike, walk_link found short child, walk_link found' short child']
  split
  · exact .inr (.same _)
  · cases links with
    | zero => exact .inr (.same _)
    | succ links => exact deeper links (Nat.lt_succ_self links) _ _ _

theorem walksAlike_plain {inner inner' : Node} (found : root.get? here = some node)
    (found' : root'.get? here = some node') (short : name.utf8ByteSize ≤ nameLimit)
    (child : node.child? name = some inner) (child' : node'.child? name = some inner')
    (plain : inner.kind ≠ .link) (plain' : inner'.kind ≠ .link)
    (kept : inner'.isDirectory = inner.isDirectory)
    (further : WalksAlike root root' follow links flag (here ++ [name]) steps) :
    WalksAlike root root' follow links flag here (.down name :: steps) := by
  rw [WalksAlike, walk_plain found short child plain, walk_plain found' short child' plain', kept]
  split
  · exact .inr (.same _)
  · exact further

/-- Every link that is followed counts down `links`, every other step shortens `steps`. -/
theorem walksAlike_down (grows : Grows root root')
    (deeper : ∀ fewer < links, ∀ flag here steps,
      WalksAlike root root' follow fewer flag here steps)
    (further : ∀ here, WalksAlike root root' follow links flag here steps) :
    WalksAlike root root' follow links flag here (.down name :: steps) := by
  cases found : root.get? here with
  | none =>
    rw [WalksAlike, walk, found]
    exact .inl rfl
  | some node =>
    obtain ⟨node', found', kept⟩ := grows here node found
    have isDir : node'.isDirectory = node.isDirectory := by
      obtain rfl | ⟨isDir, isDir'⟩ := kept
      · rfl
      · rw [isDir, isDir']
    by_cases around : node.isDirectory = true
    · by_cases short : name.utf8ByteSize ≤ nameLimit
      · cases child : node.child? name with
        | none =>
          left
          rw [walk]
          simp only [found, around, Nat.not_lt.2 short, child]
          cases steps <;> rfl
        | some inner =>
          obtain ⟨inner', stands', grown⟩ :=
            grows _ inner (get?_snoc_eq_some_iff.2 ⟨node, found, child⟩)
          obtain ⟨_, same, child'⟩ := get?_snoc_eq_some_iff.1 stands'
          obtain rfl := Option.some.inj (found'.symm.trans same)
          obtain rfl | ⟨isDir₂, isDir₂'⟩ := grown
          · obtain ⟨target, rfl⟩ | plain := inner'.link_or_plain
            · exact walksAlike_link found found' short child child' deeper
            · exact walksAlike_plain found found' short child child' plain plain rfl (further _)
          · exact walksAlike_plain found found' short child child' (plain_of_isDirectory isDir₂)
              (plain_of_isDirectory isDir₂') (isDir₂'.trans isDir₂.symm) (further _)
      · rw [WalksAlike, walk, walk]
        simp only [found, found', isDir, around, Nat.not_le.1 short, if_true]
        exact .inr (.same _)
    · rw [WalksAlike, walk, walk]
      simp only [found, found', isDir, around]
      exact .inr (.same _)

end

theorem walk_alike (grows : Grows root root') :
    WalksAlike root root' follow links flag here steps := by
  induction links using Nat.strongRecOn generalizing flag here steps with
  | ind links deeper =>
    induction steps generalizing here with
    | nil =>
      rw [WalksAlike, walk, walk]
      cases found : root.get? here with
      | none => exact .inl rfl
      | some node =>
        obtain ⟨node', found', rfl | ⟨isDir, isDir'⟩⟩ := grows here node found
        · rw [found']
          exact .inr (.same _)
        · simp only [found', isDir, isDir', Bool.not_true, Bool.and_false, Bool.false_eq_true,
            if_false]
          exact .inr (.directories here isDir isDir')
    | cons step steps ih =>
      cases step with
      | up =>
        rw [WalksAlike, walk, walk]
        exact ih
      | down name =>
        exact walksAlike_down grows (fun fewer less _ _ _ => deeper fewer less) fun _ => ih

theorem lookup_alike (grows : Grows root root') (cwd : List String) (p : Path) :
    lookup root cwd p = .error .notFound ∨ Alike (lookup root cwd p) (lookup root' cwd p) := by
  rw [lookup_eq, lookup_eq]
  by_cases sayable : Sayable p
  · rw [locate_of_sayable sayable, locate_of_sayable sayable]
    exact walk_alike grows
  · rw [locate_eq_of_not_sayable sayable root root']
    exact .inr (.same _)

/-- A path from the root names the same from everywhere. -/
theorem lookup_absolute (absolute : p.isAbsolute = true) (cwd cwd' : List String) :
    lookup root cwd p = lookup root cwd' p := by
  simp only [lookup, locate, absolute, if_true]

end

/-! ## What a path runs -/

/-- What a node is to one who runs it. -/
inductive Format where
  | program (name : String)
  | script (interpreter : String) (argument : Option String)
  | useless (e : IoError)

def Format.of (node : Node) : Format :=
  if node.isDirectory || !node.isExecutable then .useless .denied
  else
    match node with
    | .program name => .program name
    | .file _ bytes =>
      match scriptLine? bytes with
      | none => .useless .execFormat
      | some (interpreter, argument) => .script interpreter argument
    | _ => .useless .denied

theorem Format.of_directory {node : Node} (isDir : node.isDirectory = true) :
    Format.of node = .useless .denied := by
  rw [Format.of.eq_def, isDir]
  rfl

/-- The shell that runs files in no known format. -/
def shell : Path := ⟨"/bin/sh"⟩

section
variable {v v' : Files.View} {path : Path} {scripts : Nat} {arguments : List String}

theorem execFile_eq : execFile v scripts path arguments = (do
    let (_, node) ← lookup v.root v.directory path
    match Format.of node with
    | .program name => .ok ⟨name, arguments⟩
    | .useless e => .error e
    | .script interpreter argument =>
      match scripts with
      | 0 => .error .linkLoop
      | scripts + 1 =>
        execFile v scripts ⟨interpreter⟩
          ([interpreter] ++ argument.toList ++ [path.text] ++ arguments.drop 1)) := by
  rw [execFile.eq_def]
  refine bind_congr fun found => ?_
  obtain ⟨names, node⟩ := found
  dsimp only
  rw [Format.of.eq_def]
  by_cases useless : (node.isDirectory || !node.isExecutable) = true
  · rw [if_pos useless, if_pos useless]
    rfl
  · rw [if_neg useless, if_neg useless]
    cases node with
    | file mode bytes =>
      dsimp only
      cases scriptLine? bytes <;> rfl
    | _ => rfl

/-- A path, and the paths that running it goes through: the interpreters that scripts name, and the
shell for a file in no known format. -/
inductive ComesTo (v : Files.View) : Path → Path → Prop where
  | self (p : Path) : ComesTo v p p
  | script {p q : Path} {names : List String} {node : Node} {interpreter : String}
      {argument : Option String}
      (found : lookup v.root v.directory p = .ok (names, node))
      (format : Format.of node = .script interpreter argument)
      (more : ComesTo v ⟨interpreter⟩ q) : ComesTo v p q
  | shell {p q : Path} {arguments : List String}
      (unknown : execFile v scriptLimit p arguments = .error .execFormat)
      (more : ComesTo v shell q) : ComesTo v p q

/-- The program that a path runs in the end, or why it runs none. -/
def outcome (v : Files.View) (path : Path) : Except IoError String :=
  Image.program <$> execOrScript v path []

/-- Where all that it goes through is found alike, a path runs the same program. -/
theorem execFile_alike (arguments arguments' : List String)
    (alike : ∀ q, ComesTo v path q →
      Alike (lookup v.root v.directory q) (lookup v'.root v'.directory q)) :
    Image.program <$> execFile v scripts path arguments =
      Image.program <$> execFile v' scripts path arguments' := by
  induction scripts using Nat.strongRecOn generalizing path arguments arguments' with
  | ind scripts ih =>
    have here := alike path (.self path)
    rw [execFile_eq, execFile_eq]
    generalize first : lookup v.root v.directory path = found at here
    generalize lookup v'.root v'.directory path = found' at here
    cases here with
    | directories names isDir isDir' =>
      simp only [bind, Except.bind, Format.of_directory isDir, Format.of_directory isDir']
    | same =>
      cases found with
      | error e => rfl
      | ok place =>
        simp only [bind, Except.bind]
        cases format : Format.of place.2 with
        | program name => rfl
        | useless e => rfl
        | script interpreter argument =>
          cases scripts with
          | zero => rfl
          | succ scripts =>
            exact ih scripts (Nat.lt_succ_self _) _ _ fun q more =>
              alike q (.script first format more)

theorem execOrScript_alike (arguments arguments' : List String)
    (alike : ∀ q, ComesTo v path q →
      Alike (lookup v.root v.directory q) (lookup v'.root v'.directory q)) :
    Image.program <$> execOrScript v path arguments =
      Image.program <$> execOrScript v' path arguments' := by
  have file : Image.program <$> execFile v scriptLimit path arguments =
      Image.program <$> execFile v' scriptLimit path arguments' := execFile_alike _ _ alike
  rw [execOrScript.eq_def, execOrScript.eq_def]
  cases ran : execFile v scriptLimit path arguments with
  | ok image =>
    rw [ran] at file
    cases ran' : execFile v' scriptLimit path arguments' with
    | ok image' =>
      rw [ran'] at file
      exact file
    | error e =>
      rw [ran'] at file
      cases file
  | error e =>
    rw [ran] at file
    cases ran' : execFile v' scriptLimit path arguments' with
    | ok image' =>
      rw [ran'] at file
      cases file
    | error e' =>
      rw [ran'] at file
      obtain rfl : e = e' := Except.error.inj file
      dsimp only
      split
      · rename_i unknown
        subst unknown
        exact execFile_alike _ _ fun q more => alike q (.shell ran more)
      · rfl

/-- A program runs in the end whatever its arguments are. -/
theorem outcome_eq (v : Files.View) (path : Path) (arguments : List String) :
    Image.program <$> execOrScript v path arguments = outcome v path :=
  execOrScript_alike _ _ fun _ _ => .same _

/-- The place of a program in one directory of a search path. -/
def candidate (name directory : String) : Path :=
  if directory.isEmpty then ⟨name⟩ else ⟨directory ++ "/" ++ name⟩

/-- Whether a search goes on after a place that could not be run. -/
def passedOver (e : IoError) : Bool := e = .denied ∨ e = .notFound ∨ e = .notDirectory

/-- The places that a search tries. -/
def searched (v : Files.View) (name : String) : List String → List Path
  | [] => []
  | directory :: rest =>
    let path := candidate name directory
    path ::
      match outcome v path with
      | .ok _ => []
      | .error e => if passedOver e then searched v name rest else []

/-- The places that are tried for a program. The last one is run, if any is. -/
def tried (v : Files.View) (searchPath : Option String) (program : Path) : List Path :=
  if program.text.contains '/' then [program]
  else searched v program.text ((searchPath.getD systemPath).splitOn ":")

theorem search_cons (name : String) (denied : Bool) (directory : String) (rest : List String) :
    Image.program <$> search v name arguments denied (directory :: rest) =
      match outcome v (candidate name directory) with
      | .ok found => .ok found
      | .error e =>
        if passedOver e then Image.program <$> search v name arguments (denied || e = .denied) rest
        else .error e := by
  rw [← outcome_eq v _ arguments, search.eq_def, candidate]
  dsimp only
  cases execOrScript v (if directory.isEmpty then ⟨name⟩ else ⟨directory ++ "/" ++ name⟩)
    arguments with
  | ok image => rfl
  | error e =>
    simp only [passedOver, Functor.map, Except.map]
    by_cases isDenied : e = .denied
    · simp [isDenied]
    · by_cases absent : e = .notFound ∨ e = .notDirectory <;> simp [isDenied, absent]

theorem search_last (name : String) (denied : Bool) (directories : List String) {program : String}
    (found : Image.program <$> search v name arguments denied directories = .ok program) :
    ∃ path, (searched v name directories).getLast? = some path ∧ outcome v path = .ok program := by
  induction directories generalizing denied with
  | nil => cases found
  | cons directory rest ih =>
    rw [search_cons] at found
    rw [searched]
    cases ran : outcome v (candidate name directory) with
    | ok program' =>
      rw [ran] at found
      exact ⟨_, rfl, ran.trans found⟩
    | error e =>
      rw [ran] at found
      dsimp only at found ⊢
      split at found
      · rename_i passed
        obtain ⟨path, last, runs⟩ := ih _ found
        rw [if_pos passed]
        exact ⟨path, by rw [List.getLast?_cons, last]; rfl, runs⟩
      · cases found

/-- Where all that they go through is found alike, the same places are tried and the same program is
found. -/
theorem search_alike (name : String) (denied : Bool) (directories : List String)
    (arguments arguments' : List String)
    (alike : ∀ path ∈ searched v name directories, ∀ q, ComesTo v path q →
      Alike (lookup v.root v.directory q) (lookup v'.root v'.directory q)) :
    searched v' name directories = searched v name directories ∧
      Image.program <$> search v' name arguments' denied directories =
        Image.program <$> search v name arguments denied directories := by
  induction directories generalizing denied with
  | nil => exact ⟨rfl, rfl⟩
  | cons directory rest ih =>
    have first : outcome v' (candidate name directory) = outcome v (candidate name directory) :=
      (execOrScript_alike _ _ (alike _ (List.mem_cons_self ..))).symm
    rw [search_cons, search_cons, searched, searched, first]
    cases ran : outcome v (candidate name directory) with
    | ok program => exact ⟨rfl, rfl⟩
    | error e =>
      dsimp only
      split
      · rename_i passed
        obtain ⟨same, found⟩ := ih (denied || e = .denied) fun path member =>
          alike path (by
            rw [searched, ran]
            simp [passed, member])
        exact ⟨by rw [same], found⟩
      · exact ⟨rfl, rfl⟩

theorem exec_last {searchPath : Option String} {program : Path} {image : Image}
    (found : exec v searchPath program arguments = .ok image) :
    ∃ path, (tried v searchPath program).getLast? = some path ∧
      outcome v path = .ok image.program := by
  rw [exec.eq_def] at found
  rw [tried]
  split at found
  · cases found
  · split at found
    · rename_i separated
      rw [if_pos separated]
      exact ⟨program, rfl, by rw [← outcome_eq v program arguments, found]; rfl⟩
    · rename_i bare
      rw [if_neg bare]
      split at found
      · cases found
      · exact search_last _ _ _ (congrArg (Image.program <$> ·) found)

theorem exec_alike {searchPath : Option String} {program : Path}
    (arguments arguments' : List String)
    (alike : ∀ path ∈ tried v searchPath program, ∀ q, ComesTo v path q →
      Alike (lookup v.root v.directory q) (lookup v'.root v'.directory q)) :
    tried v' searchPath program = tried v searchPath program ∧
      Image.program <$> exec v' searchPath program arguments' =
        Image.program <$> exec v searchPath program arguments := by
  rw [exec.eq_def, exec.eq_def]
  rw [tried] at alike
  rw [tried, tried]
  by_cases separated : program.text.contains '/' = true
  · rw [if_pos separated] at alike
    rw [if_pos separated, if_pos separated, if_pos separated, if_pos separated]
    refine ⟨rfl, ?_⟩
    split
    · rfl
    · exact (execOrScript_alike _ _ (alike _ (List.mem_singleton_self _))).symm
  · rw [if_neg separated] at alike
    rw [if_neg separated, if_neg separated, if_neg separated, if_neg separated]
    obtain ⟨same, found⟩ := search_alike program.text false _ arguments arguments' alike
    refine ⟨same, ?_⟩
    split
    · rfl
    · split
      · rfl
      · exact found

end

/-! ## Launches -/

/-- The directory that a launch starts in. -/
def startDirectory (m : Machine) (l : Launch) : Except IoError (List String) :=
  match l.directory with
  | none => .ok m.directory
  | some path => do
    let (names, node) ← lookup m.files m.directory path
    if node.isDirectory then .ok names else .error .notDirectory

/-- What a launch passes on holds no character that would end it early. -/
structure Clean (l : Launch) : Prop where
  program : hasNul l.program.text = false
  arguments : ∀ argument ∈ l.arguments, hasNul argument = false
  environment : ∀ e ∈ l.environment, hasNul e.1 = false ∧ hasNul e.2 = false

/-- A launch runs the file in a place, and a program of the machine in the end. -/
def Executes (m : Machine) (l : Launch) (place : List String) (program : String) : Prop :=
  ∃ image directory path node, m.prepare l = .ok (image, directory) ∧ image.program = program ∧
    (tried ⟨m.files, directory⟩ (l.environment.lookup "PATH") l.program).getLast? = some path ∧
    lookup m.files directory path = .ok (place, node)

section
variable {m : Machine} {l : Launch} {image : Image} {directory : List String}

theorem run_inTurn (image : Image) (calls : List ChildCall) :
    (inTurn calls).run (childAnswer (.ok image)) () = (.ok (), ()) := by
  induction calls with
  | nil => rfl
  | cons c rest ih =>
    cases c <;> exact ih

theorem run_childTask (image : Image) (limits : Option ChildLimits) :
    ((childTask limits).run (childAnswer (.ok image)) ()).1 = .ok () :=
  congrArg Prod.fst (run_inTurn image _)

theorem clean_iff : (hasNul l.program.text || l.arguments.any hasNul ||
    l.environment.any fun (name, value) => hasNul name || hasNul value) = false ↔ Clean l := by
  simp only [Bool.or_eq_false_iff, List.any_eq_false, Bool.not_eq_true]
  constructor
  · rintro ⟨⟨program, arguments⟩, environment⟩
    exact ⟨program, arguments, environment⟩
  · rintro ⟨program, arguments, environment⟩
    exact ⟨⟨program, arguments⟩, environment⟩

/-- The child looks for the program from the directory that it starts in. -/
theorem prepare_eq : m.prepare l = if (hasNul l.program.text || l.arguments.any hasNul ||
    l.environment.any fun (name, value) => hasNul name || hasNul value) then .error .nulInArgument
  else do
    let directory ← m.startDirectory l
    let image := exec ⟨m.files, directory⟩ (l.environment.lookup "PATH") l.program
      (l.program.text :: l.arguments)
    ((childTask l.limits).run (childAnswer image) ()).1
    return (← image, directory) := by
  rw [prepare, startDirectory]
  split
  · rfl
  · cases l.directory with
    | none => rfl
    | some path =>
      dsimp only
      cases lookup m.files m.directory path with
      | error e => rfl
      | ok found =>
        obtain ⟨names, node⟩ := found
        dsimp only [bind, Except.bind]
        cases node.isDirectory <;> rfl

theorem prepare_ok_iff : m.prepare l = .ok (image, directory) ↔
    Clean l ∧ m.startDirectory l = .ok directory ∧
      exec ⟨m.files, directory⟩ (l.environment.lookup "PATH") l.program
        (l.program.text :: l.arguments) = .ok image := by
  rw [prepare_eq, ← clean_iff]
  split
  · rename_i dirty
    simp [dirty]
  · rename_i clean
    rw [Bool.not_eq_true] at clean
    simp only [clean, true_and]
    cases m.startDirectory l with
    | error e => exact iff_of_false nofun nofun
    | ok directory' =>
      simp only [bind, Except.bind, Except.ok.injEq]
      cases ran : exec ⟨m.files, directory'⟩ (l.environment.lookup "PATH") l.program
        (l.program.text :: l.arguments) with
      | error e =>
        refine iff_of_false ?_ ?_
        · split <;> exact nofun
        · rintro ⟨rfl, found⟩
          cases ran.symm.trans found
      | ok image' =>
        rw [run_childTask]
        constructor
        · intro same
          cases same
          exact ⟨rfl, ran⟩
        · rintro ⟨rfl, found⟩
          cases ran.symm.trans found
          rfl

/-- A path that names the same in a tree and in one that has grown from it, wherever it is asked
for: it starts at the root, and nothing has come to stand where it named nothing. -/
structure Anchored (root root' : Node) (p : Path) : Prop where
  absolute : p.isAbsolute = true
  vacant : lookup root [] p = .error .notFound → lookup root' [] p = .error .notFound

theorem Anchored.alike {root root' : Node} {p : Path} (h : Anchored root root' p)
    (grows : Grows root root') (cwd cwd' : List String) :
    Alike (lookup root cwd p) (lookup root' cwd' p) := by
  rw [lookup_absolute h.absolute cwd [], lookup_absolute h.absolute cwd' []]
  obtain none | alike := lookup_alike grows [] p
  · rw [none, h.vacant none]
    exact .same _
  · exact alike

/-- The ways in which a walk fails. -/
theorem walk_error {root : Node} {follow flag : Bool} {links : Nat} {here : List String}
    {steps : List Step} {e : IoError} (h : walk root follow links flag here steps = .error e) :
    e ∈ [IoError.notDirectory, .notFound, .nameTooLong, .linkLoop] := by
  fun_induction walk root follow links flag here steps <;> grind

theorem lookup_ne_execFormat {root : Node} {cwd : List String} {p : Path} :
    lookup root cwd p ≠ .error .execFormat := by
  intro h
  rw [lookup] at h
  split at h
  · rename_i e located
    cases h
    rw [locate] at located
    split at located
    · cases located
    · split at located
      · cases located
      · split at located
        · cases located
        · exact absurd (walk_error located) (by decide)
  · cases h
  · cases h

/-- What is run is an executable file, so no directory. -/
theorem lookup_of_outcome {v : Files.View} {path : Path} {program : String}
    (ran : outcome v path = .ok program) : ∃ place node,
      lookup v.root v.directory path = .ok (place, node) ∧ node.isDirectory = false := by
  rw [outcome, execOrScript.eq_def, execFile_eq] at ran
  cases found : lookup v.root v.directory path with
  | error e =>
    have known : e ≠ .execFormat := fun same => lookup_ne_execFormat (same ▸ found)
    rw [found] at ran
    simp only [bind, Except.bind, known, if_false] at ran
    cases ran
  | ok place =>
    obtain ⟨names, node⟩ := place
    cases isDir : node.isDirectory with
    | false => exact ⟨names, node, rfl, isDir⟩
    | true =>
      rw [found] at ran
      simp only [bind, Except.bind, Format.of_directory isDir] at ran
      cases ran

/-- A launch that ran a file still runs it in a machine whose tree has grown, with other arguments
and from another directory, if all that was tried is anchored. -/
theorem Executes.grown {m m' : Machine} {l l' : Launch} {place directory directory' : List String}
    {program : String} (h : m.Executes l place program) (grows : Grows m.files m'.files)
    (same : l'.program = l.program)
    (searchPath : l'.environment.lookup "PATH" = l.environment.lookup "PATH") (clean : Clean l')
    (starts : m.startDirectory l = .ok directory) (starts' : m'.startDirectory l' = .ok directory')
    (anchored : ∀ path ∈ tried ⟨m.files, directory⟩ (l.environment.lookup "PATH") l.program,
      ∀ q, ComesTo ⟨m.files, directory⟩ path q → Anchored m.files m'.files q) :
    m'.Executes l' place program := by
  obtain ⟨image, _, path, node, prepared, rfl, last, found⟩ := h
  obtain ⟨-, here, ran⟩ := prepare_ok_iff.1 prepared
  obtain rfl := Except.ok.inj (starts.symm.trans here)
  have alike : ∀ path ∈ tried ⟨m.files, directory⟩ (l.environment.lookup "PATH") l.program, ∀ q,
      ComesTo ⟨m.files, directory⟩ path q →
        Alike (lookup m.files directory q) (lookup m'.files directory' q) :=
    fun path member q comes => (anchored path member q comes).alike grows directory directory'
  obtain ⟨sameTried, sameRan⟩ : tried ⟨m'.files, directory'⟩ _ _ = _ ∧ _ :=
    exec_alike (l.program.text :: l.arguments) (l.program.text :: l'.arguments) alike
  rw [ran] at sameRan
  obtain ⟨image', ran', ends⟩ := map_ok_iff.1 sameRan
  obtain ⟨path', last', outcome⟩ := exec_last ran
  obtain rfl := Option.some.inj (last.symm.trans last')
  obtain ⟨_, _, found', noDirectory⟩ := lookup_of_outcome outcome
  cases found.symm.trans found'
  have kept : lookup m'.files directory' path = .ok (place, node) := by
    have paired := alike path (List.mem_of_getLast? last) path (.self path)
    rw [found] at paired
    generalize lookup m'.files directory' path = there at paired
    cases paired with
    | same => rfl
    | directories _ isDir => cases isDir.symm.trans noDirectory
  refine ⟨image', directory', path, node, prepare_ok_iff.2 ⟨clean, starts', ?_⟩, ends.symm, ?_,
    kept⟩
  · rw [searchPath, same]
    exact ran'
  · rw [searchPath, same, sameTried, last]

/-- The children of the machine make their calls before they are told of. -/
theorem born_spawn (m : Machine) (l : Launch) : ∃ own, Born l (m.spawn l).1 own := by
  rw [spawn]
  cases m.prepare l with
  | error e => exact ⟨[], .unborn e⟩
  | ok prepared =>
    obtain ⟨image, directory⟩ := prepared
    obtain ⟨own, path⟩ := Task.exists_path_run (childAnswer (.ok image)) (childTask l.limits) ()
    rw [run_childTask] at path
    exact ⟨own, .guest _ path⟩

end

end Tandem.Machine
