import Tandem.Proofs.Cli.Replies
import Tandem.Proofs.Project.Identical
import Tandem.Proofs.Project.Shape
import Tandem.Proofs.Sandbox.Environment

/-!
The limits that guests run under.

* `flaw?_eq_none_iff`: what settings without a flaw are.
* `inRange_of_check`: a checked inquiry has a timeout that the settings allow.
* `requests_bounded`: what reaches the sandbox keeps to the settings, and no guest is started by any
  other way.
-/

namespace Tandem

open Tandem.Config Tandem.Host Tandem.Host.Task Tandem.Project Tandem.Sandbox

/-! ## Settings without a flaw -/

namespace Config

/-- Settings that keep all rules. -/
structure Settings.Sound (s : Settings) : Prop where
  timeout : 1 ≤ s.timeoutSeconds ∧ s.timeoutSeconds ≤ s.maxTimeoutSeconds
  memory : 1 ≤ s.memoryMb
  output : 1 ≤ s.maxOutputBytes
  grace : 1 ≤ s.killGraceMs
  interpreters : s.sourceInterpreter.isEmpty = false ∧ s.targetInterpreter.isEmpty = false
  variableName : ∀ name, s.moduleVariable? = some name → isVariableName name = true

theorem one_le_iff {n : UInt64} : 1 ≤ n ↔ n ≠ 0 := by
  rw [UInt64.le_iff_toNat_le, ne_eq, ← UInt64.toNat_inj]
  simp only [UInt64.reduceToNat]
  omega

theorem flaw?_eq_none_iff {s : Settings} : s.flaw? = none ↔ s.Sound := by
  have kept : s.flaw? = none ↔ ∀ rule ∈ s.rules, rule.1 = false := by
    simp [Settings.flaw?, List.find?_eq_none]
  have named : (∀ name, s.moduleVariable? = some name → isVariableName name = true) ↔
      (s.moduleVariable.isEmpty = false → isVariableName s.moduleVariable = true) := by
    unfold Settings.moduleVariable?
    cases s.moduleVariable.isEmpty <;> simp
  rw [kept]
  simp only [Settings.rules, List.forall_mem_cons, beq_eq_false_iff_ne, decide_eq_false_iff_not,
    Bool.or_eq_false_iff, Bool.and_eq_false_imp, Bool.not_eq_true', Bool.not_eq_false',
    ← one_le_iff, UInt64.not_lt]
  constructor
  · rintro ⟨timeout, -, below, memory, output, grace, interpreters, variableName, -⟩
    exact ⟨⟨timeout, below⟩, memory, output, grace, interpreters, named.2 variableName⟩
  · rintro ⟨⟨timeout, below⟩, memory, output, grace, interpreters, variableName⟩
    exact ⟨timeout, UInt64.le_trans timeout below, below, memory, output, grace, interpreters,
      named.1 variableName, by simp⟩

end Config

/-! ## The timeout of a plan -/

namespace Project

section
variable {s : Settings} {store : ProjectStore} {q : Inquiry} {f f' : Found}
  {events : List (Event host)}

/-- Only the first check says something about the timeout. -/
theorem Check.timeout_of_passes {c : Check} (other : c ≠ .timeout)
    (passes : c.Passes s store q f events f') : f'.timeoutSeconds = f.timeoutSeconds := by
  cases c with
  | timeout => exact absurd rfl other
  | projectId | somePath | safePath =>
    obtain ⟨-, -, rfl⟩ := passes
    rfl
  | sourceTree | sourceEntry | migratedTree | migratedEntry | sourceText =>
    obtain ⟨_, -, rfl⟩ := passes
    rfl
  | recorded | sourceProbe | targetProbe =>
    obtain ⟨-, rfl⟩ := passes
    rfl

theorem timeout_of_passed {cs : List Check} (others : Check.timeout ∉ cs)
    (passed : Passed s store q f cs events f') : f'.timeoutSeconds = f.timeoutSeconds := by
  induction cs generalizing f events with
  | nil =>
    obtain ⟨-, rfl⟩ := passed
    rfl
  | cons c cs ih =>
    obtain ⟨other, others⟩ := not_or.1 (mt List.mem_cons.2 others)
    obtain ⟨front, back, g, rfl, passes, rest⟩ := passed
    rw [ih others rest, Check.timeout_of_passes (Ne.symm other) passes]

theorem inRange_of_check {plan : Plan}
    (checked : Task.Path (check s store q).run events (.ok plan)) :
    InRange s plan.timeoutSeconds := by
  obtain ⟨f, passed, rfl⟩ := path_check_ok_iff.1 checked
  obtain ⟨front, back, g, rfl, ⟨-, inside, rfl⟩, rest⟩ := passed
  have kept := timeout_of_passed (by decide) rest
  rwa [Found.plan, kept]

end

end Project

/-! ## Requests -/

/-- A request that keeps to settings. If the settings name a variable, its guest finds the working
directory in it. -/
structure Sandbox.Request.Within (r : Request) (s : Settings) : Prop where
  timeout : 1 ≤ r.limits.timeoutSeconds ∧ r.limits.timeoutSeconds ≤ s.maxTimeoutSeconds
  memory : 1 ≤ r.limits.memoryMb
  output : 1 ≤ r.limits.maxOutputBytes
  grace : milliseconds 1 ≤ r.limits.killGrace
  interpreters : s.sourceInterpreter.isEmpty = false ∧ s.targetInterpreter.isEmpty = false
  variableName : r.moduleVariable = none ∨ ∃ name, r.moduleVariable = some name ∧
    isVariableName name = true ∧
    ∀ host, Environment.get? (r.started host).environment name = some r.directory.path.text

theorem within_of_sound {s : Settings} {r : Request} {seconds : UInt64} (sound : s.Sound)
    (inside : 1 ≤ seconds ∧ seconds ≤ s.maxTimeoutSeconds) (limits : r.limits = s.limits seconds)
    (module : r.moduleVariable = s.moduleVariable?) : r.Within s := by
  have grace : milliseconds 1 ≤ milliseconds s.killGraceMs.toNat := by
    have least := UInt64.le_iff_toNat_le.1 sound.grace
    exact Nat.mul_le_mul_right _ least
  refine ⟨?_, ?_, ?_, ?_, sound.interpreters, ?_⟩
  · rw [limits]
    exact inside
  · rw [limits]
    exact sound.memory
  · rw [limits]
    exact sound.output
  · rw [limits]
    exact grace
  · cases named : r.moduleVariable with
    | none => exact .inl rfl
    | some name =>
      have good := sound.variableName name (module ▸ named)
      refine .inr ⟨name, rfl, good, fun host => ?_⟩
      simp only [Request.started, Request.launch, named, Option.map_some,
        Environment.sanitized_some, good, if_true, Environment.get?_set]

/-- A tree is copied into a new directory, and the sandbox is called for a request with it. -/
def HandsOver (s : Settings) (tree : Path) (label : String) (request : WorkDir → Request)
    (events : List (Event host)) (r : Request) : Prop :=
  ∃ looking seeding running scratch directory answer, events = looking ++ seeding ++ running ∧
    Task.Path (scratchDirectory s) looking scratch ∧
    Task.Path (WorkDir.seed scratch tree label) seeding (.ok directory) ∧
    r = request directory ∧ Task.Path r.run running answer

/-- The requests that a command hands to the sandbox: a run its only one, a comparison one for each
side. -/
inductive Cli.Command.Hands (s : Settings) : Command → List (Event host) → Request → Prop
  | run {a : RunArguments} {events : List (Event host)} {r : Request}
    (hands : HandsOver (a.adjust s) a.tree RunArguments.label (a.request (a.adjust s)) events r) :
    Hands s (.run a) events r
  | side {a : CompareArguments} {reading checking back : List (Event host)}
    {sides : Runtime → List (Event host)} {input : Option String} {plan : Plan} {r : Request}
    (runtime : Runtime) (read : Task.Path a.readInput reading (.ok input))
    (checked : Task.Path (check (a.adjust s) (DiskStore.mk (a.adjust s).projectsDir).store
      (a.inquiry input)).run checking (.ok plan))
    (mixed : Interleaved (I := host) .turn id (sides .source) (sides .target) back)
    (hands : HandsOver (a.adjust s) (plan.tree runtime) runtime.directoryName
      (sideRequest (a.adjust s) plan runtime) (sides runtime) r) :
    Hands s (.compare a) (reading ++ (checking ++ back)) r

/-- The settings of a command with its options applied. -/
def Cli.Command.adjust (s : Settings) : Command → Settings
  | .compare a => a.adjust s
  | .run a => a.adjust s
  | .probe _ => s

/-! ## Guests -/

/-- A call that starts nothing in a directory. -/
def StartsNoGuest (c : Call) : Prop := ∀ launch, c = .spawn launch → launch.directory = none

theorem startsNoGuest_of_examines {c : Call} (h : Examines c) : StartsNoGuest c := by
  rintro launch rfl
  obtain looks | tries | ⟨file, same⟩ := h
  · exact absurd looks id
  · exact tries.2
  · contradiction

theorem startsNoGuest_of_reads {c : Call} (h : Reads c) : StartsNoGuest c := by
  rintro launch rfl
  exact absurd h id

theorem startsNoGuest_of_passive {c : Call} (h : Passive c) : StartsNoGuest c := by
  rintro launch rfl
  exact absurd h id

theorem startsNoGuest_of_tends {pid : UInt32} {c : Call} (h : Tends pid c) : StartsNoGuest c := by
  rintro launch rfl
  exact absurd h id

/-- What a request starts is its own guest. -/
theorem launch_of_run {r : Request} {events : List (Event host)}
    {answer : Except SandboxError Record} (path : Task.Path r.run events answer) :
    ∀ e ∈ events, StartsNoGuest e.1 ∨ ∃ host, e.1 = .spawn (r.started host) := by
  obtain ⟨before, removed, rfl, attempt⟩ := run_cases path
  have removes : StartsNoGuest (.removeTree r.directory.path) := by simp [StartsNoGuest]
  have asks : StartsNoGuest .environment := by simp [StartsNoGuest]
  have looks : StartsNoGuest .now := by simp [StartsNoGuest]
  obtain ⟨-, rfl, -⟩ | ⟨-, host, start, ⟨e, rfl, -⟩ | ⟨child, back, rfl, attend⟩⟩ :=
    attempt_cases attempt
  · simp [removes]
  · simp only [List.cons_append, List.nil_append, List.forall_mem_cons]
    exact ⟨.inl asks, .inl looks, .inr ⟨host, rfl⟩, .inl removes, by simp⟩
  · simp only [List.cons_append, List.forall_mem_cons, List.forall_mem_append]
    refine ⟨.inl asks, .inl looks, .inr ⟨host, rfl⟩, ?_, .inl removes, by simp⟩
    intro e member
    exact .inl (startsNoGuest_of_tends (attend_tends r child start back answer attend e member))

theorem launch_of_preparation {s : Settings} {tree : Path} {label : String}
    {looking seeding : List (Event host)} {scratch : Path} {seeded : Except Chain WorkDir}
    (looked : Task.Path (scratchDirectory s) looking scratch)
    (copied : Task.Path (WorkDir.seed scratch tree label) seeding seeded) :
    ∀ e ∈ looking ++ seeding, StartsNoGuest e.1 := by
  intro e member
  apply startsNoGuest_of_passive
  obtain early | late := List.mem_append.1 member
  · exact scratchDirectory_passive s _ _ looked e early
  · exact seed_passive scratch tree label _ _ copied e late

theorem HandsOver.launch {s : Settings} {tree : Path} {label : String} {request : WorkDir → Request}
    {events : List (Event host)} {r : Request} (h : HandsOver s tree label request events r) :
    ∀ e ∈ events, StartsNoGuest e.1 ∨ ∃ host, e.1 = .spawn (r.started host) := by
  obtain ⟨looking, seeding, running, scratch, directory, answer, rfl, looked, copied, -, ran⟩ := h
  intro e member
  obtain early | late := List.mem_append.1 member
  · exact .inl (launch_of_preparation looked copied e early)
  · exact launch_of_run ran e late

theorem HandsOver.ne_nil {s : Settings} {tree : Path} {label : String}
    {request : WorkDir → Request} {events : List (Event host)} {r : Request}
    (h : HandsOver s tree label request events r) : events ≠ [] := by
  obtain ⟨looking, seeding, running, scratch, directory, answer, rfl, -, -, -, ran⟩ := h
  obtain ⟨before, removed, rfl, -⟩ := run_cases ran
  simp

/-- A side hands over its request, or it starts nothing. -/
theorem runSide_launch {s : Settings} {p : Plan} {r : Runtime} {events : List (Event host)}
    {record : Record} (path : Task.Path (runSide s p r) events record) :
    (∀ e ∈ events, StartsNoGuest e.1) ∨
      ∃ request, HandsOver s (p.tree r) r.directoryName (sideRequest s p r) events request := by
  obtain ⟨looking, rest, scratch, rfl, looked, path⟩ := path_bind_iff.1 path
  obtain ⟨seeding, rest, seeded, rfl, copied, path⟩ := path_bind_iff.1 path
  cases seeded with
  | error e =>
    obtain ⟨rfl, -⟩ := path_done_iff.1 path
    rw [List.append_nil]
    exact .inl (launch_of_preparation looked copied)
  | ok directory =>
    obtain ⟨running, rest, answer, rfl, ran, path⟩ := path_bind_iff.1 path
    have last : rest = [] := by
      cases answer <;> exact (path_done_iff.1 path).1
    refine .inr ⟨_, looking, seeding, running, scratch, directory, answer, ?_, looked, copied, rfl,
      ran⟩
    simp [last]

namespace Cli

section
variable {s : Settings} {events : List (Event host)} {reply : Reply} {r : Request}

/-- Nothing is handed over under settings with a flaw. -/
theorem sound_of_hands {c : Command} (path : Task.Path (c.carryOut s) events reply)
    (hands : c.Hands s events r) : (c.adjust s).Sound := by
  apply flaw?_eq_none_iff.1
  cases hands with
  | run hands =>
    obtain ⟨-, -, rfl, -⟩ | ⟨flawless, -⟩ := runReply_cases path
    · exact absurd rfl hands.ne_nil
    · exact flawless
  | side runtime read checked mixed hands =>
    -- A comparison that stops at its settings has no events, and a check that passed has some.
    obtain ⟨entry, bytes, member, -⟩ := warnings_of_check checked
    obtain ⟨-, -, none, -⟩ | ⟨flawless, -⟩ := compareReply_cases path
    · simp only [List.append_eq_nil_iff] at none
      rw [none.2.1] at member
      contradiction
    · exact flawless

theorem within_of_hands {c : Command} (path : Task.Path (c.carryOut s) events reply)
    (hands : c.Hands s events r) : r.Within (c.adjust s) := by
  have sound := sound_of_hands path hands
  cases hands with
  | run hands =>
    obtain ⟨-, -, -, -, directory, -, -, -, -, rfl, -⟩ := hands
    exact within_of_sound sound sound.timeout rfl rfl
  | side runtime read checked mixed hands =>
    obtain ⟨-, -, -, -, directory, -, -, -, -, rfl, -⟩ := hands
    obtain ⟨some, below⟩ := inRange_of_check checked
    exact within_of_sound sound ⟨one_le_iff.2 some, below⟩ rfl rfl

theorem readText_startsNoGuest (path : Path) : Calls StartsNoGuest (readText path) := by
  refine calls_bind (calls_ask (by simp [StartsNoGuest])) fun answer => ?_
  cases answer with
  | error e => exact calls_done _
  | ok bytes =>
    dsimp only
    split <;> exact calls_done _

theorem readInput_startsNoGuest (a : CompareArguments) : Calls StartsNoGuest a.readInput := by
  unfold CompareArguments.readInput
  cases a.input with
  | none => exact calls_done _
  | some input =>
    cases input with
    | text input => exact calls_done _
    | file path =>
      refine calls_bind (readText_startsNoGuest path) fun answer => ?_
      cases answer <;> exact calls_done _

theorem load_startsNoGuest (file : Option Path) : Calls StartsNoGuest (Settings.load file) := by
  refine calls_bind (calls_ask (by simp [StartsNoGuest])) fun environment => ?_
  refine calls_bind ?_ fun answer => ?_
  · cases file with
    | none => exact calls_done _
    | some path =>
      refine calls_bind (readText_startsNoGuest path) fun answer => ?_
      cases answer <;> exact calls_done _
  · cases answer with
    | error e => exact calls_done _
    | ok s =>
      dsimp only
      split <;> exact calls_done _

theorem startsNoGuest_of_mayCall {c : Check} {a : Call} (may : c.MayCall Reads a) :
    StartsNoGuest a := by
  obtain reads | examines := Project.examines_of_mayCall may
  · exact startsNoGuest_of_reads reads
  · exact startsNoGuest_of_examines examines

/-- A comparison has a guest for each side, in whatever turns the sides take their steps. -/
theorem launch_of_compare {a : CompareArguments}
    (path : Task.Path (a.carryOut s) events reply) :
    ∀ e ∈ events, StartsNoGuest e.1 ∨
      ∃ r host, (Command.compare a).Hands s events r ∧ e.1 = .spawn (r.started host) := by
  intro e member
  obtain ⟨-, -, rfl, -⟩ | ⟨-, ⟨message, read, -⟩ |
    ⟨reading, comparing, input, answer, rfl, read, compared, -⟩⟩ := compareReply_cases path
  · contradiction
  · exact .inl (readInput_startsNoGuest a _ _ read e member)
  obtain early | member := List.mem_append.1 member
  · exact .inl (readInput_startsNoGuest a _ _ read e early)
  have reads := diskStore_reads ⟨(a.adjust s).projectsDir⟩
  cases answer with
  | error refusal =>
    obtain ⟨check, refused⟩ := path_compare_error_iff.1 compared
    obtain ⟨check, -, may⟩ := refused_calls reads refused e member
    exact .inl (startsNoGuest_of_mayCall may)
  | ok o =>
    obtain ⟨plan, checking, back, first, second, r, r', rfl, checked, mixed, source, target, -⟩ :=
      path_compare_sides_iff.1 compared
    obtain early | late := List.mem_append.1 member
    · obtain ⟨f, passed, -⟩ := path_check_ok_iff.1 checked
      obtain ⟨check, -, may⟩ := passed_calls reads passed e early
      exact .inl (startsNoGuest_of_mayCall may)
    -- Both sides go through one argument, and `Hands.side` wants their events as a function.
    let sides (runtime : Runtime) := if runtime = .source then first else second
    have one (runtime : Runtime) (record : Record)
        (ran : Task.Path (runSide (a.adjust s) plan runtime) (sides runtime) record)
        (member : e ∈ sides runtime) : StartsNoGuest e.1 ∨ ∃ r host,
          (Command.compare a).Hands s (reading ++ (checking ++ back)) r ∧
            e.1 = .spawn (r.started host) := by
      obtain none | ⟨request, hands⟩ := runSide_launch ran
      · exact .inl (none e member)
      · obtain none | ⟨host, started⟩ := hands.launch e member
        · exact .inl none
        · exact .inr ⟨request, host, .side runtime read checked mixed hands, started⟩
    obtain ⟨turn, rfl⟩ | mine | other := mixed.mem late
    · exact .inl (by simp [StartsNoGuest])
    · exact one .source r source mine
    · exact one .target r' target other

theorem launch_of_runCommand {a : RunArguments} (path : Task.Path (a.carryOut s) events reply) :
    ∀ e ∈ events, StartsNoGuest e.1 ∨
      ∃ r host, (Command.run a).Hands s events r ∧ e.1 = .spawn (r.started host) := by
  intro e member
  obtain ⟨-, -, rfl, -⟩ | ⟨-, looking, seeding, running, scratch, seeded, rfl, looked, copied,
    ⟨error, message, rfl, rfl, -⟩ | ⟨directory, answer, rfl, ran, -⟩⟩ := runReply_cases path
  · contradiction
  · rw [List.append_nil] at member
    exact .inl (launch_of_preparation looked copied e member)
  · have hands : HandsOver (a.adjust s) a.tree RunArguments.label (a.request (a.adjust s))
        (looking ++ seeding ++ running) (a.request (a.adjust s) directory) :=
      ⟨looking, seeding, running, scratch, directory, answer, rfl, looked, copied, rfl, ran⟩
    obtain none | ⟨host, started⟩ := hands.launch e member
    · exact .inl none
    · exact .inr ⟨_, host, .run hands, started⟩

/-- The guests of a command are those of the requests that it hands over. -/
theorem launch_of_command {c : Command} (path : Task.Path (c.carryOut s) events reply) :
    ∀ e ∈ events, StartsNoGuest e.1 ∨
      ∃ r host, c.Hands s events r ∧ e.1 = .spawn (r.started host) := by
  cases c with
  | compare a => exact launch_of_compare path
  | run a => exact launch_of_runCommand path
  | probe interpreter =>
    intro e member
    obtain ⟨available, probed, -⟩ := probeReply_cases path
    have tries := available_tries interpreter _ _ probed e member
    exact .inl (startsNoGuest_of_examines (.inr (.inl tries)))

/-- Whatever the settings file, the environment and the options say: each request that reaches the
sandbox keeps to the settings as they are with the options applied, and what is started in a
directory is the guest of such a request. -/
theorem requests_bounded {a : Arguments} {loading rest : List (Event host)}
    (path : Task.Path a.carryOut (loading ++ rest) reply)
    (loaded : Task.Path (Settings.load a.configFile) loading (.ok s)) :
    (∀ r, a.command.Hands s rest r → r.Within (a.command.adjust s)) ∧
      ∀ launch answer, ⟨.spawn launch, answer⟩ ∈ loading ++ rest → launch.directory ≠ none →
        ∃ r host, a.command.Hands s rest r ∧ launch = r.started host := by
  have path : Task.Path (a.command.carryOut s) rest reply := (path_bind_append_iff loaded).1 path
  refine ⟨fun r hands => within_of_hands path hands, fun launch answer member placed => ?_⟩
  obtain early | late := List.mem_append.1 member
  · exact absurd (load_startsNoGuest a.configFile _ _ loaded _ early launch rfl) placed
  · obtain none | ⟨r, host, hands, started⟩ := launch_of_command path _ late
    · exact absurd (none launch rfl) placed
    · exact ⟨r, host, hands, Call.spawn.inj started⟩

end

theorem requests_bounded_scriptEnds : ∃ reply,
    Task.Path (Arguments.mk none (.run plainRun)).carryOut
      (plainLoading ++ (plainLoading ++ plainCopying ++ scriptEnds 3)) reply ∧
    (Command.run plainRun).Hands plainSettings (plainLoading ++ plainCopying ++ scriptEnds 3)
      plainRequest ∧
    plainRequest.Within plainSettings ∧
    ∃ r host, (Command.run plainRun).Hands plainSettings
      (plainLoading ++ plainCopying ++ scriptEnds 3) r ∧
      plainRequest.started [] = r.started host := by
  obtain ⟨reply, path⟩ : ∃ reply, Task.Path (Arguments.mk none (.run plainRun)).carryOut
      (plainLoading ++ (plainLoading ++ plainCopying ++ scriptEnds 3)) reply :=
    exists_path_of_replay (by decide +kernel)
  obtain ⟨answer, ran⟩ : ∃ answer, Task.Path plainRequest.run (scriptEnds 3) answer :=
    exists_path_of_replay (by decide +kernel)
  have looked : Task.Path (scratchDirectory plainSettings) plainLoading ⟨"/tmp"⟩ :=
    path_of_replay rfl
  have copied : Task.Path (WorkDir.seed ⟨"/tmp"⟩ ⟨"/src"⟩ RunArguments.label) plainCopying
      (.ok ⟨⟨"/tmp/parity_run_7_0"⟩⟩) := path_of_replay rfl
  have hands : (Command.run plainRun).Hands plainSettings
      (plainLoading ++ plainCopying ++ scriptEnds 3) plainRequest :=
    .run ⟨_, _, _, _, _, answer, rfl, looked, copied, rfl, ran⟩
  have bounded := requests_bounded path plainLoading_loads
  refine ⟨reply, path, hands, bounded.1 _ hands, bounded.2 _ (.ok ⟨42, true⟩) ?_ nofun⟩
  simp [plainLoading, plainCopying, scriptEnds]

end Cli

end Tandem
