import Tandem.Proofs.Machine.Program
import Tandem.Proofs.Sandbox.Environment
import Tandem.Proofs.Sandbox.Teardown
import Tandem.Sandbox.Probe

/-!
The interpreter that was probed and the one that runs.

A probe starts where its parent is, a run in its working copy. So both mean the same file only if
nothing that is tried for the interpreter depends on where it is asked for.
-/

namespace Tandem.Sandbox

open Tandem.Host Tandem.Machine Tandem.Text

section
variable {programs : Programs} {m m' : Machine} {interpreter : Path} {r : Request}
  {outer : List (Utf8.Bytes × Utf8.Bytes)}

theorem run_ask_bind {α : Type} (c : Call) (f : host.Reply c → Task host α) :
    m.run programs (ask c >>= f) =
      (m.answer programs c).2.run programs (f (m.answer programs c).1) := rfl

/-- The launch of a probe. -/
def Probe.started (interpreter : Path) (outer : List (Utf8.Bytes × Utf8.Bytes)) : Launch :=
  Probe.launch interpreter (.sanitized outer none)

/-- An interpreter that answers was started. -/
theorem prepared_of_available (answers : (m.run programs (Probe.available interpreter)).1 = true) :
    ∃ image, m.prepare (Probe.started interpreter m.environment) = .ok (image, m.directory) := by
  cases prepared : m.prepare (Probe.started interpreter m.environment) with
  | ok started =>
    obtain ⟨image, directory⟩ := started
    obtain ⟨-, starts, -⟩ := prepare_ok_iff.1 prepared
    exact ⟨image, by rw [← Except.ok.inj starts]⟩
  | error e =>
    have refused : m.spawn (Probe.launch interpreter (.sanitized m.environment none)) =
        (.error e, m) := by
      rw [Probe.started] at prepared
      rw [Machine.spawn, prepared]
    rw [Probe.available, Probe.within, run_ask_bind, run_ask_bind] at answers
    dsimp only [Machine.answer] at answers
    rw [refused] at answers
    cases answers

theorem hasNul_eq_false_iff {s : String} : Machine.hasNul s = false ↔ '\x00' ∉ s.toList := by
  rw [Machine.hasNul, String.contains_char_eq, decide_eq_false_iff_not]

theorem hasNul_of_isVariableName {name : String} (h : isVariableName name = true) :
    hasNul name = false := by
  refine hasNul_eq_false_iff.2 fun inside => ?_
  rw [isVariableName] at h
  cases chars : name.toList with
  | nil => simp [chars] at inside
  | cons c rest =>
    simp only [chars, Bool.and_eq_true, List.all_eq_true] at h
    obtain rfl | later := List.mem_cons.1 (chars ▸ inside)
    · exact absurd h.1 (by decide)
    · exact absurd (h.2 _ later) (by decide)

theorem mem_set {env : Environment} {name value : String} {e : String × String}
    (h : e ∈ env.set name value) : e = (name, value) ∨ e ∈ env := by
  induction env with
  | nil => grind [Environment.set]
  | cons entry env ih => grind [Environment.set]

/-- A run is given nothing with a zero character that a probe was not, if neither its entry nor the
path of its working copy holds one. -/
theorem clean_started (probed : Clean (Probe.started r.interpreter outer))
    (entry : hasNul r.entry.text = false) (directory : hasNul r.directory.path.text = false) :
    Clean (r.started outer) := by
  refine ⟨probed.program, by simpa [Request.started, Request.launch] using entry, ?_⟩
  intro e member
  change e ∈ Environment.sanitized outer _ at member
  cases named : r.moduleVariable with
  | none =>
    rw [named] at member
    exact probed.environment e member
  | some name =>
    rw [named, Option.map_some, Environment.sanitized_some] at member
    split at member
    · rename_i isName
      obtain rfl | old := mem_set member
      · exact ⟨hasNul_of_isVariableName isName, directory⟩
      · exact probed.environment e old
    · exact probed.environment e member

theorem searchPath_started (named : r.moduleVariable ≠ some "PATH") :
    (r.started outer).environment.lookup "PATH" =
      (Probe.started r.interpreter outer).environment.lookup "PATH" := by
  change (Environment.sanitized outer _).get? "PATH" =
    (Environment.sanitized outer none).get? "PATH"
  cases given : r.moduleVariable with
  | none => rfl
  | some name =>
    have other : "PATH" ≠ name := fun same => named (same ▸ given)
    rw [Option.map_some, Environment.sanitized_some]
    split
    · rw [Environment.get?_set, if_neg other]
    · rfl

/-- A run starts in its working copy. -/
theorem startDirectory_started {work : List String} {node : Node}
    (copy : Machine.lookup m.files m.directory r.directory.path = .ok (work, node))
    (isDir : node.isDirectory = true) : m.startDirectory (r.started outer) = .ok work := by
  change (Machine.lookup m.files m.directory r.directory.path >>= fun found =>
    if found.2.isDirectory then .ok found.1 else .error .notDirectory) = _
  rw [copy]
  exact if_pos isDir

/-- The interpreter that was probed is the one that runs, and is no file of the working copy. -/
theorem probed_interpreter_runs {work : List String} {node : Node}
    (answers : (m.run programs (Probe.available r.interpreter)).1 = true)
    (grows : m.files.Grows m'.files) (kept : m'.environment = m.environment)
    (fresh : m.files.get? work = none)
    (copy : Machine.lookup m'.files m'.directory r.directory.path = .ok (work, node))
    (isDir : node.isDirectory = true) (entry : Machine.hasNul r.entry.text = false)
    (named : r.moduleVariable ≠ some "PATH")
    (anchored : ∀ path ∈ tried m.view ((Environment.sanitized m.environment none).get? "PATH")
        r.interpreter, ∀ q, ComesTo m.view path q → Anchored m.files m'.files q) :
    ∃ file program, m.Executes (Probe.started r.interpreter m.environment) file program ∧
      m'.Executes (r.started m'.environment) file program ∧ ¬ work <+: file := by
  obtain ⟨image, prepared⟩ := prepared_of_available answers
  obtain ⟨clean, starts, ran⟩ := prepare_ok_iff.1 prepared
  obtain ⟨path, last, outcome⟩ := exec_last ran
  obtain ⟨file, inner, found, -⟩ := lookup_of_outcome outcome
  have probed : m.Executes (Probe.started r.interpreter m.environment) file image.program :=
    ⟨image, _, path, inner, prepared, rfl, last, found⟩
  refine ⟨file, image.program, probed, ?_, ?_⟩
  · have sayable : Sayable r.directory.path := sayable_of_lookup copy
    have directory : Machine.hasNul r.directory.path.text = false :=
      hasNul_eq_false_iff.2 sayable.noNul
    have starts' : m'.startDirectory (r.started m'.environment) = .ok work :=
      startDirectory_started copy isDir
    rw [kept] at starts' ⊢
    exact probed.grown grows rfl (searchPath_started named)
      (clean_started clean entry directory) starts starts' anchored
  · rintro ⟨rel, rfl⟩
    have stands : m.files.get? (work ++ rel) = some inner := get?_of_lookup found
    rw [Node.get?_append, fresh] at stands
    cases stands

end

/-! ## A script as the interpreter -/

/-- A script of the shell. -/
def script : Node := .file 0o755 (Utf8.encode "#!/bin/sh\n".toList)

/-- A tree with an interpreter that is such a script, and with working copies. -/
def scriptedFiles (copies : List (String × Node)) : Node :=
  .directory 0o755
    [("bin", .directory 0o755 [("sh", .program "sh")]),
      ("tools", .directory 0o755 [("py", script)]),
      ("scratch", .directory 0o755 copies)]

def scriptedMachine (copies : List (String × Node)) : Machine where
  files := scriptedFiles copies
  directory := []
  environment := []
  pid := 7
  counter := 0
  clock := 0
  processes := []
  nextPid := 100

/-- The machine once a probe has been started. -/
def startedMachine (copies : List (String × Node)) (start : Start) : Machine :=
  { scriptedMachine copies with
    processes := [⟨100, 100, .ready start, false, false⟩]
    nextPid := 101 }

/-- Programs that succeed at once. -/
def willing : Programs := fun _ s => ⟨s.files, [], [], .ended (.code 0), [], [], s.nextPid⟩

/-- A working copy with a script of the same name below it. -/
def workCopies : List (String × Node) :=
  [("parity_run_7_0", .directory 0o700 [("tools", .directory 0o755 [("py", script)])])]

def scriptedRequest (interpreter : Path) : Request where
  interpreter := interpreter
  directory := ⟨⟨"/scratch/parity_run_7_0"⟩⟩
  entry := ⟨"main.py"⟩
  input := none
  limits := .standard
  moduleVariable := some "PYTHONPATH"

theorem script_format : Format.of script = .script "/bin/sh" none := by
  have line : scriptLine? (Utf8.encode "#!/bin/sh\n".toList) = some ("/bin/sh", none) := by
    decide +kernel
  rw [script, Format.of.eq_def]
  simp only [line]
  rfl

theorem shell_format : Format.of (.program "sh") = .program "sh" := rfl

/-- Nothing that a probe of such an interpreter passes on ends early. -/
theorem scripted_clean {p : Path} (text : Machine.hasNul p.text = false) :
    Clean (Probe.started p []) := by
  have environment : Environment.sanitized [] none = [("PATH", defaultSearchPath)] := by
    decide
  refine ⟨text, ?_, ?_⟩
  · simp [Probe.started, Probe.launch, hasNul_eq_false_iff]
  · simp [Probe.started, Probe.launch, environment, hasNul_eq_false_iff, defaultSearchPath]

section
variable {copies : List (String × Node)} {directory place : List String} {p : Path} {image : Image}

theorem script_lookup :
    Machine.lookup (scriptedFiles copies) [] ⟨"/tools/py"⟩ = .ok (["tools", "py"], script) := by
  have spells : Spells ⟨"/tools/py"⟩ ["tools", "py"] := by decide
  exact spells.lookup_ok (startOf_absolute rfl []) rfl nofun

theorem shell_lookup :
    Machine.lookup (scriptedFiles copies) [] ⟨"/bin/sh"⟩ = .ok (["bin", "sh"], .program "sh") := by
  have spells : Spells ⟨"/bin/sh"⟩ ["bin", "sh"] := by decide
  exact spells.lookup_ok (startOf_absolute rfl []) rfl nofun

theorem copy_lookup : ∃ node,
    Machine.lookup (scriptedFiles workCopies) [] ⟨"/scratch/parity_run_7_0"⟩ =
      .ok (["scratch", "parity_run_7_0"], node) ∧ node.isDirectory = true := by
  have spells : Spells ⟨"/scratch/parity_run_7_0"⟩ ["scratch", "parity_run_7_0"] := by
    decide
  exact ⟨_, spells.lookup_ok (startOf_absolute rfl []) rfl nofun, rfl⟩

theorem scripted_grows : (scriptedFiles []).Grows (scriptedFiles workCopies) := by
  have scratch : (scriptedFiles []).get? ["scratch"] = some (.directory 0o755 []) := rfl
  exact Node.grows_put_free (Node.offers_snoc scratch rfl "parity_run_7_0") rfl

theorem shell_runs (scripts : Nat) (arguments : List String) :
    execFile ⟨scriptedFiles copies, directory⟩ scripts ⟨"/bin/sh"⟩ arguments =
      .ok ⟨"sh", arguments⟩ := by
  rw [execFile_eq, lookup_absolute rfl _ [], shell_lookup]
  simp only [bind, Except.bind, shell_format]

theorem script_runs
    (found : Machine.lookup (scriptedFiles copies) directory p = .ok (place, script))
    (arguments : List String) :
    execFile ⟨scriptedFiles copies, directory⟩ scriptLimit p arguments =
      .ok ⟨"sh", ["/bin/sh", p.text] ++ arguments.drop 1⟩ := by
  rw [execFile_eq, found]
  simp only [bind, Except.bind, script_format]
  exact shell_runs 4 _

/-- A launch whose program is a path to the script runs it. -/
theorem script_executes {l : Launch} (clean : Clean l)
    (starts : (scriptedMachine copies).startDirectory l = .ok directory)
    (separated : l.program.text.contains '/' = true)
    (found : Machine.lookup (scriptedFiles copies) directory l.program = .ok (place, script)) :
    (scriptedMachine copies).Executes l place "sh" := by
  have filled : l.program.isEmpty = false := (sayable_of_lookup found).filled
  have ran : exec ⟨scriptedFiles copies, directory⟩ (l.environment.lookup "PATH") l.program
      (l.program.text :: l.arguments) = .ok ⟨"sh", ["/bin/sh", l.program.text] ++ l.arguments⟩ := by
    rw [exec, filled, separated, execOrScript, script_runs found]
    rfl
  refine ⟨_, directory, l.program, script, prepare_ok_iff.2 ⟨clean, starts, ran⟩, rfl, ?_, found⟩
  rw [tried, if_pos separated]
  rfl

/-- It has not ended at the first poll, and at the second one it has. -/
theorem startedMachine_answers (start : Start) :
    ((startedMachine copies start).run willing (Probe.await (.ofChild ⟨100, false⟩)
      (deadline? 0 Probe.patience) (pollsWithin Probe.patience))).1 = true := by
  obtain ⟨polls, more⟩ : ∃ polls, pollsWithin Probe.patience = polls + 2 :=
    ⟨1999, by decide⟩
  have waits : (startedMachine copies start).answer willing
      (.poll (Guest.ofChild ⟨100, false⟩).pid) = (.ok none, startedMachine copies start) := rfl
  have early : (deadline? 0 Probe.patience).all (· ≤ 0) = false := by decide
  have now : (startedMachine copies start).answer willing .now =
      ((0 : Duration), startedMachine copies start) := rfl
  rw [more, Probe.await, run_ask_bind, waits]
  dsimp only
  rw [run_ask_bind, now]
  dsimp only
  rw [early, if_neg Bool.false_ne_true, run_ask_bind, Probe.await]
  rfl

/-- What a willing machine can start answers. -/
theorem available_of_executes {program : String}
    (h : (scriptedMachine copies).Executes (Probe.started p []) place program) :
    ((scriptedMachine copies).run willing (Probe.available p)).1 = true := by
  obtain ⟨image, directory, -, -, prepared, -⟩ := h
  have spawned : (scriptedMachine copies).answer willing
      (.spawn (Probe.launch p (.sanitized [] none))) =
      (Except.ok ⟨100, false⟩, startedMachine copies
        ⟨image, directory, Environment.sanitized [] none, [], none, 100⟩) := by
    rw [Probe.started] at prepared
    rw [Machine.answer, Machine.spawn, prepared]
    rfl
  have environment : (scriptedMachine copies).answer willing .environment =
      (([] : List (Utf8.Bytes × Utf8.Bytes)), scriptedMachine copies) := rfl
  rw [Probe.available, Probe.within, run_ask_bind, environment]
  dsimp only
  rw [run_ask_bind, spawned]
  exact startedMachine_answers _

/-- The script comes to the shell, and to nothing else. -/
theorem script_comesTo {q : Path} (h : ComesTo ⟨scriptedFiles [], []⟩ ⟨"/tools/py"⟩ q) :
    q = ⟨"/tools/py"⟩ ∨ q = ⟨"/bin/sh"⟩ := by
  cases h with
  | self => exact .inl rfl
  | script found format more =>
    cases script_lookup.symm.trans found
    cases script_format.symm.trans format
    cases more with
    | self => exact .inr rfl
    | script found format =>
      cases shell_lookup.symm.trans found
      cases shell_format.symm.trans format
    | shell unknown => cases (shell_runs _ _).symm.trans unknown
  | shell unknown => cases (script_runs script_lookup _).symm.trans unknown

end

theorem probed_interpreter_runs_script :
    ((scriptedMachine []).run willing (Probe.available ⟨"/tools/py"⟩)).1 = true ∧
      ∃ file program,
        (scriptedMachine []).Executes (Probe.started ⟨"/tools/py"⟩ []) file program ∧
        (scriptedMachine workCopies).Executes ((scriptedRequest ⟨"/tools/py"⟩).started []) file
          program ∧
        ¬ ["scratch", "parity_run_7_0"] <+: file := by
  have answers : ((scriptedMachine []).run willing (Probe.available ⟨"/tools/py"⟩)).1 = true :=
    available_of_executes
      (script_executes (scripted_clean (by simp [hasNul_eq_false_iff])) rfl
        (by simp [Probe.started, Probe.launch, String.contains_char_eq]) script_lookup)
  obtain ⟨node, copy, isDir⟩ := copy_lookup
  have anchored : ∀ path ∈ tried ⟨scriptedFiles [], []⟩
      ((Environment.sanitized [] none).get? "PATH") ⟨"/tools/py"⟩,
      ∀ q, ComesTo ⟨scriptedFiles [], []⟩ path q →
        Anchored (scriptedFiles []) (scriptedFiles workCopies) q := by
    intro path member q comes
    rw [tried, if_pos (by simp [String.contains_char_eq])] at member
    obtain rfl := List.mem_singleton.1 member
    obtain rfl | rfl := script_comesTo comes
    · refine ⟨rfl, fun none => ?_⟩
      cases script_lookup.symm.trans none
    · refine ⟨rfl, fun none => ?_⟩
      cases shell_lookup.symm.trans none
  have entry : Machine.hasNul (scriptedRequest ⟨"/tools/py"⟩).entry.text = false := by
    simp [scriptedRequest, hasNul_eq_false_iff]
  exact ⟨answers, probed_interpreter_runs (r := scriptedRequest ⟨"/tools/py"⟩) answers
    scripted_grows rfl rfl copy isDir entry (by simp [scriptedRequest]) anchored⟩

/-- The same interpreter by a relative path: a file of the working copy runs in its place. -/
theorem relative_interpreter_strays :
    ((scriptedMachine []).run willing (Probe.available ⟨"tools/py"⟩)).1 = true ∧
      (scriptedMachine []).Executes (Probe.started ⟨"tools/py"⟩ []) ["tools", "py"] "sh" ∧
      (scriptedMachine workCopies).Executes ((scriptedRequest ⟨"tools/py"⟩).started [])
        ["scratch", "parity_run_7_0", "tools", "py"] "sh" := by
  have spells : Spells ⟨"tools/py"⟩ ["tools", "py"] := by decide
  have relative (cwd : List String) : startOf cwd ⟨"tools/py"⟩ = cwd := startOf_relative rfl cwd
  have separated : "tools/py".contains '/' = true := by simp [String.contains_char_eq]
  have clean : Clean (Probe.started ⟨"tools/py"⟩ []) :=
    scripted_clean (by simp [hasNul_eq_false_iff])
  have probed :
      (scriptedMachine []).Executes (Probe.started ⟨"tools/py"⟩ []) ["tools", "py"] "sh" :=
    script_executes clean rfl separated (spells.lookup_ok (relative []) rfl nofun)
  refine ⟨available_of_executes probed, probed, ?_⟩
  obtain ⟨node, copy, isDir⟩ := copy_lookup
  have passed : Clean ((scriptedRequest ⟨"tools/py"⟩).started []) :=
    clean_started clean (by simp [scriptedRequest, hasNul_eq_false_iff])
      (by simp [scriptedRequest, hasNul_eq_false_iff])
  exact script_executes passed (startDirectory_started copy isDir) separated
    (spells.lookup_ok (relative _) rfl nofun)

end Tandem.Sandbox
