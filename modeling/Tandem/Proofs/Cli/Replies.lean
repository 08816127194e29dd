import Tandem.Cli.Command
import Tandem.Proofs.Cli.Documents
import Tandem.Proofs.Sandbox.Teardown

/-!
What the commands answer.

* `compareReply_cases`, `runReply_cases`: the ways through a command.
* `request_answered`: a command whose settings are in order answers with one document, unless it
  breaks off before its request, for want of its input or of its working copy.
* `exit_agrees`: the exit code says what the document says.
-/

namespace Tandem.Cli

open Tandem.Config Tandem.Document Tandem.Document.Reader Tandem.Host Tandem.Host.Task
  Tandem.Project Tandem.Sandbox

/-! ## Ways through the commands -/

section
variable {s : Settings} {events : List (Event host)} {reply : Reply}

theorem compareReply_cases {a : CompareArguments} (path : Task.Path (a.carryOut s) events reply) :
    (∃ flaw, (a.adjust s).flaw? = some flaw ∧ events = [] ∧ reply = .stopped flaw.message) ∨
      (a.adjust s).flaw? = none ∧
        ((∃ message, Task.Path a.readInput events (.error message) ∧ reply = .stopped message) ∨
          ∃ reading comparing input answer, events = reading ++ comparing ∧
            Task.Path a.readInput reading (.ok input) ∧
            Task.Path (Project.compare (a.adjust s)
              (DiskStore.mk (a.adjust s).projectsDir).store (a.inquiry input)) comparing answer ∧
            reply = CompareArguments.reply answer) := by
  unfold CompareArguments.carryOut at path
  dsimp only at path
  cases flawed : (a.adjust s).flaw? with
  | some flaw =>
    rw [flawed] at path
    obtain ⟨rfl, rfl⟩ := path_done_iff.1 path
    exact .inl ⟨flaw, rfl, rfl, rfl⟩
  | none =>
    rw [flawed] at path
    obtain ⟨reading, rest, input, rfl, read, path⟩ := path_bind_iff.1 path
    cases input with
    | error message =>
      obtain ⟨rfl, rfl⟩ := path_done_iff.1 path
      exact .inr ⟨rfl, .inl ⟨message, by simpa using read, rfl⟩⟩
    | ok input =>
      obtain ⟨comparing, rest, answer, rfl, compared, path⟩ := path_bind_iff.1 path
      obtain ⟨rfl, rfl⟩ := path_done_iff.1 path
      exact .inr ⟨rfl, .inr ⟨reading, comparing, input, answer, by simp, read, compared, rfl⟩⟩

theorem runReply_cases {a : RunArguments} (path : Task.Path (a.carryOut s) events reply) :
    (∃ flaw, (a.adjust s).flaw? = some flaw ∧ events = [] ∧ reply = .stopped flaw.message) ∨
      (a.adjust s).flaw? = none ∧
        ∃ looking seeding running scratch seeded, events = looking ++ seeding ++ running ∧
          Task.Path (scratchDirectory (a.adjust s)) looking scratch ∧
          Task.Path (WorkDir.seed scratch a.tree RunArguments.label) seeding seeded ∧
          ((∃ e message, seeded = .error e ∧ running = [] ∧ reply = .stopped message) ∨
            ∃ directory answer, seeded = .ok directory ∧
              Task.Path (a.request (a.adjust s) directory).run running answer ∧
              reply = a.reply answer) := by
  unfold RunArguments.carryOut at path
  dsimp only at path
  cases flawed : (a.adjust s).flaw? with
  | some flaw =>
    rw [flawed] at path
    obtain ⟨rfl, rfl⟩ := path_done_iff.1 path
    exact .inl ⟨flaw, rfl, rfl, rfl⟩
  | none =>
    rw [flawed] at path
    obtain ⟨looking, rest, scratch, rfl, looked, path⟩ := path_bind_iff.1 path
    obtain ⟨seeding, rest, seeded, rfl, copied, path⟩ := path_bind_iff.1 path
    refine .inr ⟨rfl, looking, seeding, rest, scratch, seeded, by simp, looked, copied, ?_⟩
    cases seeded with
    | error e =>
      obtain ⟨rfl, rfl⟩ := path_done_iff.1 path
      exact .inl ⟨e, _, rfl, rfl, rfl⟩
    | ok directory =>
      obtain ⟨running, rest, answer, rfl, ran, path⟩ := path_bind_iff.1 path
      obtain ⟨rfl, rfl⟩ := path_done_iff.1 path
      exact .inr ⟨directory, answer, rfl, by simpa using ran, rfl⟩

theorem probeReply_cases {interpreter : Path}
    (path : Task.Path (probeReply interpreter) events reply) :
    ∃ available, Task.Path (Probe.available interpreter) events available ∧
      reply = .carriedOut .line (probeDocument interpreter available) available := by
  obtain ⟨probing, rest, available, rfl, probed, path⟩ := path_bind_iff.1 path
  obtain ⟨rfl, rfl⟩ := path_done_iff.1 path
  exact ⟨available, by simpa using probed, rfl⟩

/-- Settings are loaded first, and without them nothing is done. -/
theorem carryOut_cases {a : Arguments} (path : Task.Path a.carryOut events reply) :
    ∃ loading rest loaded, events = loading ++ rest ∧
      Task.Path (Settings.load a.configFile) loading loaded ∧
      ((∃ e, loaded = .error e ∧ rest = [] ∧ reply = .stopped e.message) ∨
        ∃ s, loaded = .ok s ∧ Task.Path (a.command.carryOut s) rest reply) := by
  obtain ⟨loading, rest, loaded, rfl, read, path⟩ := path_bind_iff.1 path
  refine ⟨loading, rest, loaded, rfl, read, ?_⟩
  cases loaded with
  | error e =>
    obtain ⟨rfl, rfl⟩ := path_done_iff.1 path
    exact .inl ⟨e, rfl, rfl, rfl⟩
  | ok s => exact .inr ⟨s, rfl, path⟩

end

/-! ## Requests -/

/-- What becomes of a command whose settings are in order. -/
inductive Course where
  /-- It had not got what it needed for its request. -/
  | brokenOff
  | failed (kind message : String)
  | carriedOut

/-- What the settings of a command break with its options applied. A probe uses none of them. -/
def Command.flaw? (s : Settings) : Command → Option SettingsFlaw
  | .compare a => (a.adjust s).flaw?
  | .run a => (a.adjust s).flaw?
  | .probe _ => none

/-- The ways that a command can go with settings in order. It breaks off for two reasons: the input
of a comparison cannot be read, or the working copy of a run cannot be made. -/
inductive Command.Goes (s : Settings) : Command → List (Event host) → Course → Prop
  | unread {a : CompareArguments} {reading : List (Event host)} {message : String}
    (read : Task.Path a.readInput reading (.error message)) :
    Goes s (.compare a) reading .brokenOff
  | refused {a : CompareArguments} {reading comparing : List (Event host)} {input : Option String}
    {r : Refusal} (read : Task.Path a.readInput reading (.ok input))
    (compared : Task.Path (Project.compare (a.adjust s)
      (DiskStore.mk (a.adjust s).projectsDir).store (a.inquiry input)) comparing (.error r)) :
    Goes s (.compare a) (reading ++ comparing) (.failed r.kind r.message)
  | compared {a : CompareArguments} {reading comparing : List (Event host)} {input : Option String}
    {o : Outcome} (read : Task.Path a.readInput reading (.ok input))
    (compared : Task.Path (Project.compare (a.adjust s)
      (DiskStore.mk (a.adjust s).projectsDir).store (a.inquiry input)) comparing (.ok o)) :
    Goes s (.compare a) (reading ++ comparing) .carriedOut
  | unseeded {a : RunArguments} {looking seeding : List (Event host)} {scratch : Path} {e : Chain}
    (looked : Task.Path (scratchDirectory (a.adjust s)) looking scratch)
    (seeded : Task.Path (WorkDir.seed scratch a.tree RunArguments.label) seeding (.error e)) :
    Goes s (.run a) (looking ++ seeding) .brokenOff
  | faulted {a : RunArguments} {looking seeding running : List (Event host)} {scratch : Path}
    {directory : WorkDir} {e : SandboxError}
    (looked : Task.Path (scratchDirectory (a.adjust s)) looking scratch)
    (seeded : Task.Path (WorkDir.seed scratch a.tree RunArguments.label) seeding (.ok directory))
    (ran : Task.Path (a.request (a.adjust s) directory).run running (.error e)) :
    Goes s (.run a) (looking ++ seeding ++ running) (.failed e.kind.name e.message)
  | ran {a : RunArguments} {looking seeding running : List (Event host)} {scratch : Path}
    {directory : WorkDir} {r : Record}
    (looked : Task.Path (scratchDirectory (a.adjust s)) looking scratch)
    (seeded : Task.Path (WorkDir.seed scratch a.tree RunArguments.label) seeding (.ok directory))
    (ran : Task.Path (a.request (a.adjust s) directory).run running (.ok r)) :
    Goes s (.run a) (looking ++ seeding ++ running) .carriedOut
  | probed {interpreter : Path} {probing : List (Event host)} {available : Bool}
    (probed : Task.Path (Probe.available interpreter) probing available) :
    Goes s (.probe interpreter) probing .carriedOut

def Command.version : Command → String
  | .compare _ => compareVersion
  | .run _ => runVersion
  | .probe _ => probeVersion

/-- Whether a reply fits what became of a command: a document of its kind with a failure in it or
without one, or none where there was no request. -/
def Course.Answered (version : String) : Course → Reply → Prop
  | brokenOff, reply => reply.out = "" ∧ reply.exit.code = 2
  | failed kind message, reply => reply.exit.code = 2 ∧ ∃ t, Holds reply.out t ∧
      t.Gives ["schema_version"] string version ∧ t.Gives ["ok"] bool false ∧
      t.Gives ["error", "kind"] string kind ∧ t.Gives ["error", "message"] string message
  | carriedOut, reply => reply.exit.code ≠ 2 ∧ ∃ t, Holds reply.out t ∧
      t.Gives ["schema_version"] string version

theorem code_ofBool_ne (b : Bool) : (Exit.ofBool b).code ≠ 2 := by
  cases b <;> decide

theorem failed_answered (version kind message : String) :
    (Course.failed kind message).Answered version (.failed version kind message) := by
  have document := isDocument_error version kind message
  have error : (errorDocument version kind message).fields.lookup "error" =
      some (.record [("kind", .text kind), ("message", .text message)]) := rfl
  have distinct : ([("kind", Value.text kind), ("message", .text message)].map Prod.fst).Nodup := by
    simp
  refine ⟨rfl, _, holds_out rfl, ?_, ?_, ?_, ?_⟩
  · exact document.gives ⟨_, rfl, restores_string version⟩
  · exact document.gives ⟨_, rfl, restores_bool false⟩
  · apply document.gives_inside error
    intro w same
    exact Has.gives ⟨_, rfl, restores_string kind⟩ distinct same
  · apply document.gives_inside error
    intro w same
    exact Has.gives ⟨_, rfl, restores_string message⟩ distinct same

/-- A command that gets past its settings answers with one document that names its version, and with
a failure in it if it failed. Only one that breaks off answers with none. -/
theorem request_answered {a : Arguments} {s : Settings} {loading rest : List (Event host)}
    {reply : Reply} (path : Task.Path a.carryOut (loading ++ rest) reply)
    (loaded : Task.Path (Settings.load a.configFile) loading (.ok s))
    (flawless : a.command.flaw? s = none) :
    ∃ course, a.command.Goes s rest course ∧ course.Answered a.command.version reply := by
  have path : Task.Path (a.command.carryOut s) rest reply := (path_bind_append_iff loaded).1 path
  cases command : a.command with
  | compare c =>
    rw [command] at path flawless
    obtain ⟨flaw, flawed, -⟩ | ⟨-, ⟨message, unread, rfl⟩ |
      ⟨reading, comparing, input, answer, rfl, read, compared, rfl⟩⟩ := compareReply_cases path
    · rw [Command.flaw?, flawed] at flawless
      contradiction
    · exact ⟨_, .unread unread, rfl, rfl⟩
    · cases answer with
      | error r => exact ⟨_, .refused read compared, failed_answered compareVersion _ r.message⟩
      | ok o =>
        refine ⟨_, .compared read compared, code_ofBool_ne o.isMatch, _, holds_out rfl, ?_⟩
        exact (isDocument_compare o).gives ⟨_, rfl, restores_string compareVersion⟩
  | run c =>
    rw [command] at path flawless
    obtain ⟨flaw, flawed, -⟩ | ⟨-, looking, seeding, running, scratch, seeded, rfl, looked, copied,
      ⟨e, message, rfl, rfl, rfl⟩ | ⟨directory, answer, rfl, ran, rfl⟩⟩ := runReply_cases path
    · rw [Command.flaw?, flawed] at flawless
      contradiction
    · rw [List.append_nil]
      exact ⟨_, .unseeded looked copied, rfl, rfl⟩
    · cases answer with
      | error e => exact ⟨_, .faulted looked copied ran, failed_answered runVersion _ e.message⟩
      | ok r =>
        refine ⟨_, .ran looked copied ran, code_ofBool_ne _, _, holds_out rfl, ?_⟩
        exact (isDocument_run _ _ r).gives ⟨_, rfl, restores_string runVersion⟩
  | probe interpreter =>
    rw [command] at path
    obtain ⟨available, probed, rfl⟩ := probeReply_cases path
    refine ⟨_, .probed probed, code_ofBool_ne available, _, holds_out rfl, ?_⟩
    exact (isDocument_probe interpreter available).gives ⟨_, rfl, restores_string probeVersion⟩

/-- A run of a shell script. -/
def plainRun : RunArguments where
  interpreter := ⟨"/bin/sh"⟩
  tree := ⟨"/src"⟩
  entry := ⟨"main.sh"⟩
  timeoutSeconds := none
  memoryMb := none
  maxOutputBytes := none
  input := none

def plainSettings : Settings := .standard ⟨"/tmp"⟩

def plainRequest : Request := plainRun.request plainSettings ⟨⟨"/tmp/parity_run_7_0"⟩⟩

/-- No variable is set. -/
def plainLoading : List (Event host) := [⟨.environment, []⟩]

/-- The script is copied into a working directory. -/
def plainCopying : List (Event host) :=
  [⟨.stat ⟨"/src"⟩, .ok .directory⟩, ⟨.processId, 7⟩, ⟨.nextNumber, 0⟩,
    ⟨.createDir ⟨"/tmp/parity_run_7_0"⟩, .ok ()⟩,
    ⟨.setMode ⟨"/tmp/parity_run_7_0"⟩ 0o700, .ok ()⟩,
    ⟨.listDir ⟨"/src"⟩, .ok [.ok ⟨"main.sh", .ok .file⟩]⟩,
    ⟨.copyFile ⟨"/src/main.sh"⟩ ⟨"/tmp/parity_run_7_0/main.sh"⟩, .ok ()⟩]

/-- There is no shell. -/
def shellMissing : List (Event host) :=
  [⟨.environment, []⟩, ⟨.now, 7⟩, ⟨.spawn (plainRequest.started []), .error .notFound⟩,
    ⟨.removeTree ⟨"/tmp/parity_run_7_0"⟩, .ok ()⟩]

/-- The script ends with a code of its own. -/
def scriptEnds (code : Int32) : List (Event host) :=
  [⟨.environment, []⟩, ⟨.now, 7⟩, ⟨.spawn (plainRequest.started []), .ok ⟨42, true⟩⟩,
    ⟨.poll 42, .ok (some (.code code))⟩, ⟨.now, 8⟩, ⟨.signalGroup 42 .kill, .error .noProcess⟩,
    ⟨.drain 42 .out (seconds 2), []⟩, ⟨.drain 42 .err (seconds 2), []⟩,
    ⟨.removeTree ⟨"/tmp/parity_run_7_0"⟩, .ok ()⟩]

theorem plainLoading_loads : Task.Path (Settings.load none) plainLoading (.ok plainSettings) :=
  path_of_replay rfl

theorem request_answered_shellMissing : ∃ reply course,
    Task.Path (Arguments.mk none (.run plainRun)).carryOut
      (plainLoading ++ (plainLoading ++ plainCopying ++ shellMissing)) reply ∧
    (Command.run plainRun).flaw? plainSettings = none ∧
    (Command.run plainRun).Goes plainSettings (plainLoading ++ plainCopying ++ shellMissing)
      course ∧
    course.Answered runVersion reply := by
  obtain ⟨reply, path⟩ : ∃ reply, Task.Path (Arguments.mk none (.run plainRun)).carryOut
      (plainLoading ++ (plainLoading ++ plainCopying ++ shellMissing)) reply :=
    exists_path_of_replay (by decide +kernel)
  have flawless : (Command.run plainRun).flaw? plainSettings = none := by decide +kernel
  obtain ⟨course, goes, answered⟩ := request_answered path plainLoading_loads flawless
  exact ⟨reply, course, path, flawless, goes, answered⟩

/-! ## Exit codes -/

/-- Whether a document says that the command was carried out and its answer is yes. -/
def Command.Approves : Command → Tree → Prop
  | .compare _, t => t.Gives ["ok"] bool true ∧ t.Gives ["status"] string "completed" ∧
      t.Gives ["outputs_match"] bool true ∧ t.Gives ["exit_codes_match"] bool true
  | .run _, t => t.Gives ["ok"] bool true ∧
      t.Gives ["result", "exit_code"] (optional int32) (some 0) ∧
      t.Gives ["result", "timed_out"] bool false
  | .probe _, t => t.Gives ["available"] bool true

/-- Whether a document says that the command failed. -/
def Command.Disowns : Command → Tree → Prop
  | .probe _, _ => False
  | _, t => t.Gives ["ok"] bool false

/-- The exit code and the document say the same. -/
structure Command.Agrees (c : Command) (t : Tree) (code : UInt32) : Prop where
  success : code = 0 ↔ c.Approves t
  failure : code = 2 ↔ c.Disowns t
  otherwise : code = 1 ↔ ¬ c.Approves t ∧ ¬ c.Disowns t

theorem agrees_carriedOut {c : Command} {t : Tree} {isSuccess : Bool}
    (approves : c.Approves t ↔ isSuccess = true) (owns : ¬ c.Disowns t) :
    c.Agrees t (Exit.ofBool isSuccess).code := by
  cases isSuccess with
  | true =>
    have yes := approves.2 rfl
    constructor <;> simp [Exit.ofBool, Exit.code, yes, owns]
  | false =>
    have no : ¬ c.Approves t := by simp [approves]
    constructor <;> simp [Exit.ofBool, Exit.code, no, owns]

theorem agrees_failed {c : Command} {t : Tree} (disapproves : ¬ c.Approves t)
    (disowns : c.Disowns t) : c.Agrees t Exit.failure.code := by
  constructor <;> simp [Exit.code, disapproves, disowns]

section
variable (a : RunArguments) (version kind message : String)

theorem gives_ok_failed :
    (errorDocument version kind message).sorted.tree.Gives ["ok"] bool false :=
  (isDocument_error version kind message).gives ⟨_, rfl, restores_bool false⟩

theorem agrees_compared (c : CompareArguments) (o : Outcome) :
    (Command.compare c).Agrees (compareDocument o).sorted.tree (Exit.ofBool o.isMatch).code := by
  have ok : (compareDocument o).sorted.tree.Gives ["ok"] bool true :=
    (isDocument_compare o).gives ⟨_, rfl, restores_bool true⟩
  have status : (compareDocument o).sorted.tree.Gives ["status"] string o.status.name :=
    (isDocument_compare o).gives ⟨_, rfl, restores_string _⟩
  have outputs : (compareDocument o).sorted.tree.Gives ["outputs_match"] bool
      o.report.outputsMatch := (isDocument_compare o).gives ⟨_, rfl, restores_bool _⟩
  have codes : (compareDocument o).sorted.tree.Gives ["exit_codes_match"] bool
      o.report.exitCodesMatch := (isDocument_compare o).gives ⟨_, rfl, restores_bool _⟩
  have completed : o.status.name = "completed" ↔ o.status = .completed := by
    cases o.status <;> simp [Status.name]
  apply agrees_carriedOut
  · simp only [Command.Approves, ok.iff, status.iff, outputs.iff, codes.iff, completed,
      Outcome.isMatch]
    simp [and_assoc]
  · simp [Command.Disowns, ok.iff]

theorem agrees_ran (r : Record) :
    (Command.run a).Agrees (runDocument a.interpreter a.entry r).sorted.tree
      (Exit.ofBool (r.exitCode == some 0 && !r.timedOut)).code := by
  have document := isDocument_run a.interpreter a.entry r
  have ok : (runDocument a.interpreter a.entry r).sorted.tree.Gives ["ok"] bool true :=
    document.gives ⟨_, rfl, restores_bool true⟩
  have code : (runDocument a.interpreter a.entry r).sorted.tree.Gives ["result", "exit_code"]
      (optional int32) r.exitCode := by
    apply document.gives_inside rfl
    intro w same
    exact r.has_exitCode.gives r.distinct_fields same
  have timedOut : (runDocument a.interpreter a.entry r).sorted.tree.Gives ["result", "timed_out"]
      bool r.timedOut := by
    apply document.gives_inside rfl
    intro w same
    exact r.has_timedOut.gives r.distinct_fields same
  apply agrees_carriedOut
  · simp [Command.Approves, ok.iff, code.iff, timedOut.iff]
  · simp [Command.Disowns, ok.iff]

theorem agrees_probed (interpreter : Path) (available : Bool) :
    (Command.probe interpreter).Agrees (probeDocument interpreter available).sorted.tree
      (Exit.ofBool available).code := by
  have given : (probeDocument interpreter available).sorted.tree.Gives ["available"] bool
      available := (isDocument_probe interpreter available).gives ⟨_, rfl, restores_bool _⟩
  apply agrees_carriedOut
  · simp [Command.Approves, given.iff]
  · exact id

end

/-- Whatever the command line, the host and the guests: there is no output and the exit code is 2,
or there is one document, and the exit code is the one that goes with what it says. -/
theorem exit_agrees {a : Arguments} {events : List (Event host)} {reply : Reply}
    (path : Task.Path a.carryOut events reply) :
    reply.out = "" ∧ reply.exit.code = 2 ∨
      ∃ t, Holds reply.out t ∧ a.command.Agrees t reply.exit.code := by
  obtain ⟨loading, rest, loaded, rfl, read, ⟨e, rfl, -, rfl⟩ | ⟨s, rfl, path⟩⟩ :=
    carryOut_cases path
  · exact .inl ⟨rfl, rfl⟩
  cases command : a.command with
  | compare c =>
    rw [command] at path
    obtain ⟨flaw, -, -, rfl⟩ | ⟨-, ⟨message, -, rfl⟩ | ⟨-, -, -, answer, -, -, -, rfl⟩⟩ :=
      compareReply_cases path
    · exact .inl ⟨rfl, rfl⟩
    · exact .inl ⟨rfl, rfl⟩
    · cases answer with
      | error r =>
        have failed := gives_ok_failed compareVersion r.kind r.message
        refine .inr ⟨_, holds_out rfl, agrees_failed ?_ failed⟩
        simp [Command.Approves, failed.iff]
      | ok o => exact .inr ⟨_, holds_out rfl, agrees_compared c o⟩
  | run c =>
    rw [command] at path
    obtain ⟨flaw, -, -, rfl⟩ | ⟨-, -, -, -, -, -, -, -, -, ⟨-, -, -, -, rfl⟩ |
      ⟨-, answer, -, -, rfl⟩⟩ := runReply_cases path
    · exact .inl ⟨rfl, rfl⟩
    · exact .inl ⟨rfl, rfl⟩
    · cases answer with
      | error e =>
        have failed := gives_ok_failed runVersion e.kind.name e.message
        refine .inr ⟨_, holds_out rfl, agrees_failed ?_ failed⟩
        simp [Command.Approves, failed.iff]
      | ok r => exact .inr ⟨_, holds_out rfl, agrees_ran c r⟩
  | probe interpreter =>
    rw [command] at path
    obtain ⟨available, -, rfl⟩ := probeReply_cases path
    exact .inr ⟨_, holds_out rfl, agrees_probed interpreter available⟩

theorem exit_agrees_scriptEnds : ∃ reply t,
    Task.Path (Arguments.mk none (.run plainRun)).carryOut
      (plainLoading ++ (plainLoading ++ plainCopying ++ scriptEnds 3)) reply ∧
    Holds reply.out t ∧ (Command.run plainRun).Agrees t 1 := by
  have found : (replay (Arguments.mk none (.run plainRun)).carryOut
      (plainLoading ++ (plainLoading ++ plainCopying ++ scriptEnds 3))).map
        (fun reply => reply.exit.code) = some 1 := by decide +kernel
  obtain ⟨reply, path, code⟩ := exists_path_of_replay_map found
  have code : reply.exit.code = 1 := code
  obtain ⟨-, failure⟩ | ⟨t, holds, agrees⟩ := exit_agrees path
  · exact absurd (code.symm.trans failure) (by decide)
  · rw [code] at agrees
    exact ⟨reply, t, path, holds, agrees⟩

end Tandem.Cli
