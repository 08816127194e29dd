import Tandem.Proofs.Cli.Bounds
import Tandem.Proofs.Config.Layers

/-!
The timeout of a command line.

* `Reply.BlamesTimeout`: a reply that turns a command down for its timeout.
* `TimedBy`: what a timeout settles, by one rule for comparisons and for runs.
* `carryOut_sameBut`: with a timeout of its own, a command does not depend on the one below it.
* `timeout_shadows`: both hold under all layers, except that a comparison is turned down if the
  timeout below its own is out of range.
-/

namespace Tandem

open Tandem.Config Tandem.Host Tandem.Host.Task Tandem.Project Tandem.Sandbox

/-! ## Flaws about the timeout -/

namespace Config

def timeoutNames : List String := ["timeout_seconds", "max_timeout_seconds"]

/-- A complaint that begins with the name of a timeout. -/
def NamesTimeout (text : String) : Prop := ∃ name ∈ timeoutNames, name.toList <+: text.toList

theorem namesTimeout_append {opening : String} (names : NamesTimeout opening) (rest : String) :
    NamesTimeout (opening ++ rest) := by
  obtain ⟨name, known, begins⟩ := names
  refine ⟨name, known, ?_⟩
  rw [String.toList_append]
  exact begins.trans (List.prefix_append _ _)

/-- An opening that differs from both names settles that none of them opens a text. -/
theorem not_namesTimeout_append {opening : String} (differs : ∀ name ∈ timeoutNames,
      ¬ name.toList <+: opening.toList ∧ ¬ opening.toList <+: name.toList) (rest : String) :
    ¬ NamesTimeout (opening ++ rest) := by
  rintro ⟨name, known, begins⟩
  obtain ⟨longer, shorter⟩ := differs name known
  rw [String.toList_append] at begins
  exact (List.prefix_or_prefix_of_prefix begins (List.prefix_append _ _)).elim longer shorter

theorem rule_of_flaw {s : Settings} {f : SettingsFlaw} (flawed : s.flaw? = some f) :
    (true, f) ∈ s.rules := by
  obtain ⟨⟨broken, flaw⟩, found, rfl⟩ := Option.map_eq_some_iff.mp flawed
  have holds : broken = true := by simpa using List.find?_some found
  subst holds
  exact List.mem_of_find?_eq_some found

/-- The timeout is the first thing that settings are checked for. -/
theorem flaw_of_not_inRange {s : Settings} (out : ¬ InRange s s.timeoutSeconds) :
    ∃ f, s.flaw? = some f ∧ NamesTimeout f.message := by
  by_cases zero : s.timeoutSeconds = 0
  · have flawed : s.flaw? = some (.zero "timeout_seconds") := by
      simp [Settings.flaw?, Settings.rules, zero]
    exact ⟨_, flawed, namesTimeout_append ⟨"timeout_seconds", by decide, List.prefix_rfl⟩ _⟩
  by_cases noMaximum : s.maxTimeoutSeconds = 0
  · have flawed : s.flaw? = some (.zero "max_timeout_seconds") := by
      simp [Settings.flaw?, Settings.rules, zero, noMaximum]
    exact ⟨_, flawed, namesTimeout_append ⟨"max_timeout_seconds", by decide, List.prefix_rfl⟩ _⟩
  have beyond : s.maxTimeoutSeconds < s.timeoutSeconds := by
    rw [← UInt64.not_le]
    exact fun below => out ⟨zero, below⟩
  have flawed : s.flaw? = some (.timeoutBeyondMaximum s.timeoutSeconds s.maxTimeoutSeconds) := by
    simp [Settings.flaw?, Settings.rules, zero, noMaximum, beyond]
  have opening : NamesTimeout "timeout_seconds (" := ⟨"timeout_seconds", by decide, by decide⟩
  refine ⟨_, flawed, ?_⟩
  exact namesTimeout_append
    (namesTimeout_append (namesTimeout_append (namesTimeout_append opening _) _) _) _

/-- Settings with a timeout in range have other flaws, if any. -/
theorem not_namesTimeout_of_inRange {s : Settings} {f : SettingsFlaw}
    (inside : InRange s s.timeoutSeconds) (flawed : s.flaw? = some f) :
    ¬ NamesTimeout f.message := by
  have rule := rule_of_flaw flawed
  obtain ⟨some, below⟩ := inside
  unfold Settings.rules at rule
  simp only [List.mem_cons, Prod.mk.injEq, List.not_mem_nil, or_false] at rule
  obtain ⟨zero, rfl⟩ | ⟨noMaximum, rfl⟩ | ⟨beyond, rfl⟩ | ⟨-, rfl⟩ | ⟨-, rfl⟩ | ⟨-, rfl⟩ |
    ⟨-, rfl⟩ | ⟨-, rfl⟩ := rule
  · exact absurd (by simpa using zero.symm) some
  · have none : s.maxTimeoutSeconds = 0 := by simpa using noMaximum.symm
    rw [none, UInt64.le_zero_iff] at below
    exact absurd below some
  · exact absurd below (UInt64.not_le.mpr (by simpa using beyond.symm))
  · exact not_namesTimeout_append (by decide) _
  · exact not_namesTimeout_append (by decide) _
  · exact not_namesTimeout_append (by decide) _
  · have message : SettingsFlaw.noInterpreter.message =
        "source_interpreter" ++ " and target_interpreter must be set" := by decide
    rw [message]
    exact not_namesTimeout_append (by decide) _
  · exact not_namesTimeout_append (by decide) _

end Config

/-! ## The timeout of a comparison -/

namespace Project

section
variable {s : Settings} {store : ProjectStore} {q : Inquiry} {events : List (Event host)}

theorem seconds_of_check {plan : Plan}
    (checked : Task.Path (check s store q).run events (.ok plan)) :
    plan.timeoutSeconds = q.seconds s := by
  obtain ⟨f, passed, rfl⟩ := path_check_ok_iff.1 checked
  obtain ⟨front, back, g, rfl, ⟨-, -, rfl⟩, rest⟩ := passed
  exact timeout_of_passed (by decide) rest

/-- A comparison looks at its timeout before anything else. -/
theorem compare_of_not_inRange {answer : Except Refusal Outcome} (out : ¬ InRange s (q.seconds s))
    (path : Task.Path (compare s store q) events answer) :
    events = [] ∧ answer = .error (outOfRange s (q.seconds s)) := by
  have refused : Task.Path (compare s store q) [] (.error (outOfRange s (q.seconds s))) := by
    refine path_compare_error_iff.mpr ⟨.timeout, [], _, [], [], .nothing, rfl, rfl, ⟨rfl, rfl⟩, ?_⟩
    exact ⟨rfl, out, rfl⟩
  generalize compare s store q = t at path refused
  cases refused with
  | done => exact path_done_iff.mp path

/-- Where the timeout is in range, a comparison is not refused for it. -/
theorem refusal_of_inRange {r : Refusal} (inside : InRange s (q.seconds s))
    (path : Task.Path (compare s store q) events (.error r)) :
    r.kind ≠ "invalid_request" ∨ r = .invalidRequest "file path is empty" := by
  obtain ⟨c, before, after, front, back, f, -, -, -, refuses⟩ := path_compare_error_iff.mp path
  cases c with
  | timeout => exact absurd inside refuses.2.1
  | somePath => exact .inr refuses.2.2
  | _ =>
    left
    intro kind
    have member := Check.kind_mem _ refuses
    rw [kind] at member
    exact absurd member (by decide)

end

end Project

/-! ## Settings that differ in their timeout -/

namespace Cli

section
variable {s s' : Settings} {n : UInt64}

/-- The timeout on a command line. -/
def Command.timeout? : Command → Option UInt64
  | .compare a => a.timeoutSeconds
  | .run a => a.timeoutSeconds
  | .probe _ => none

/-- Settings that turn a comparison down before its own timeout is looked at. -/
def Command.Forestalled (s : Settings) : Command → Prop
  | .compare _ => ¬ InRange s s.timeoutSeconds
  | _ => False

theorem compare_sameBut {store : ProjectStore} {q : Inquiry} (flag : q.timeoutSeconds = some n)
    (m : UInt64) :
    Project.compare { s with timeoutSeconds := m } store q = Project.compare s store q := by
  obtain ⟨project, file, timeout, input⟩ := q
  subst flag
  rfl

/-- The other rules do not look at the timeout. -/
theorem flaw_sameBut {m : UInt64} (inside : InRange s s.timeoutSeconds) (inside' : InRange s m) :
    { s with timeoutSeconds := m }.flaw? = s.flaw? := by
  obtain ⟨some, below⟩ := inside
  obtain ⟨some', below'⟩ := inside'
  have kept : ¬ s.maxTimeoutSeconds < s.timeoutSeconds := UInt64.not_lt.mpr below
  have kept' : ¬ s.maxTimeoutSeconds < m := UInt64.not_lt.mpr below'
  simp only [Settings.flaw?, Settings.rules, List.find?_cons, beq_eq_false_iff_ne.mpr some,
    beq_eq_false_iff_ne.mpr some', decide_eq_false kept, decide_eq_false kept']

/-- With a timeout of its own, a command does not depend on the timeout of its settings. -/
theorem carryOut_sameBut {c : Command} {m : UInt64} (flag : c.timeout? = some n)
    (free : ¬ c.Forestalled s) (free' : ¬ c.Forestalled { s with timeoutSeconds := m }) :
    c.carryOut { s with timeoutSeconds := m } = c.carryOut s := by
  cases c with
  | probe interpreter => cases flag
  | run a =>
    have same : a.adjust { s with timeoutSeconds := m } = a.adjust s := by
      unfold RunArguments.adjust
      rw [show a.timeoutSeconds = some n from flag]
      rfl
    rw [Command.carryOut, Command.carryOut, RunArguments.carryOut, RunArguments.carryOut, same]
  | compare a =>
    have inside : InRange (a.adjust s) (a.adjust s).timeoutSeconds := not_not.mp free
    have inside' : InRange (a.adjust s) m := not_not.mp free'
    have same : a.adjust { s with timeoutSeconds := m } =
        { a.adjust s with timeoutSeconds := m } := rfl
    have compared (input : Option String) :
        Project.compare { a.adjust s with timeoutSeconds := m }
            (DiskStore.mk (a.adjust s).projectsDir).store (a.inquiry input) =
          Project.compare (a.adjust s) (DiskStore.mk (a.adjust s).projectsDir).store
            (a.inquiry input) := compare_sameBut flag m
    rw [Command.carryOut, Command.carryOut, CompareArguments.carryOut, CompareArguments.carryOut,
      same]
    simp only [flaw_sameBut inside inside', compared]

end

/-! ## What a timeout settles -/

/-- A reply that turns a command down for its timeout: for that of its settings, or for the one that
a comparison asks for. -/
inductive Reply.BlamesTimeout : Reply → Prop where
  | setting {text : String} (names : NamesTimeout text) : BlamesTimeout (.stopped text)
  | request {text : String} (names : NamesTimeout text) :
    BlamesTimeout (.failed compareVersion "invalid_request" ("invalid request: " ++ text))

/-- A comparison stops before it looks at its own timeout: for its settings or for its input. -/
inductive Command.StopsBefore (s : Settings) : Command → List (Event host) → Reply → Prop where
  | flawed {a : CompareArguments} {flaw : SettingsFlaw} (flawed : (a.adjust s).flaw? = some flaw) :
    StopsBefore s (.compare a) [] (.stopped flaw.message)
  | unread {a : CompareArguments} {reading : List (Event host)} {message : String}
    (read : Task.Path a.readInput reading (.error message)) :
    StopsBefore s (.compare a) reading (.stopped message)

/-- What a timeout settles for a command: in range it is not to blame for anything, and it is the
timeout of every guest; otherwise there is no guest, and it is to blame unless something else came
first. -/
structure Command.TimedBy (c : Command) (s : Settings) (n : UInt64) (events : List (Event host))
    (reply : Reply) : Prop where
  accepted : InRange s n → ¬ reply.BlamesTimeout ∧
    ∀ launch answer, ⟨.spawn launch, answer⟩ ∈ events → launch.directory ≠ none →
      ∃ r host, c.Hands s events r ∧ launch = r.started host ∧ r.limits.timeoutSeconds = n
  refused : ¬ InRange s n → reply.exit = .failure ∧ (∀ e ∈ events, StartsNoGuest e.1) ∧
    (reply.BlamesTimeout ∨ c.StopsBefore s events reply)

section
variable {s : Settings} {n : UInt64} {events : List (Event host)} {reply : Reply} {r : Request}

theorem blames_stopped_iff {text : String} :
    (Reply.stopped text).BlamesTimeout ↔ NamesTimeout text := by
  constructor
  · intro blames
    generalize same : Reply.stopped text = reply at blames
    cases blames with
    | setting names =>
      have alike : text = _ := Option.some.inj (congrArg Reply.complaint same)
      rwa [alike]
    | request names => cases congrArg Reply.announcement same
  · exact .setting

/-- A reply with a document blames the timeout if it says so. -/
theorem of_blames_failed {version kind message : String}
    (blames : (Reply.failed version kind message).BlamesTimeout) :
    version = compareVersion ∧ kind = "invalid_request" ∧
      ∃ text, message = "invalid request: " ++ text ∧ NamesTimeout text := by
  generalize same : Reply.failed version kind message = reply at blames
  cases blames with
  | setting names => cases congrArg Reply.announcement same
  | @request text names =>
    have announced := Option.some.inj (congrArg Reply.announcement same)
    have document := congrArg Announcement.document announced
    simp only [errorDocument, Document.Value.record.injEq, List.cons.injEq, Prod.mk.injEq,
      Document.Value.text.injEq, true_and, and_true] at document
    obtain ⟨rfl, rfl, rfl⟩ := document
    exact ⟨rfl, rfl, text, rfl, names⟩

theorem not_blames_carriedOut {layout : Layout} {document : Document.Value} {isSuccess : Bool} :
    ¬ (Reply.carriedOut layout document isSuccess).BlamesTimeout := by
  intro blames
  generalize same : Reply.carriedOut layout document isSuccess = reply at blames
  cases blames <;> cases congrArg Reply.complaint same

theorem readInput_error {a : CompareArguments} {message : String}
    (read : Task.Path a.readInput events (.error message)) : ¬ NamesTimeout message := by
  unfold CompareArguments.readInput at read
  cases given : a.input with
  | none =>
    rw [given] at read
    cases (path_done_iff.mp read).2
  | some source =>
    rw [given] at read
    cases source with
    | text input => cases (path_done_iff.mp read).2
    | file path =>
      obtain ⟨front, back, answer, -, -, last⟩ := path_bind_iff.mp read
      cases answer with
      | ok input => cases (path_done_iff.mp last).2
      | error e =>
        have same := Except.error.inj (path_done_iff.mp last).2
        have opens : message = "read stdin file: " ++ (path.text ++ (": " ++ e.message)) := by
          rw [same, ← String.append_assoc, ← String.append_assoc]
          rfl
        rw [opens]
        exact not_namesTimeout_append (by decide) _

/-- The reply of a run whose working copy cannot be made. -/
theorem reply_of_unseeded {a : RunArguments} {looking seeding : List (Event host)} {scratch : Path}
    {e : Chain} (flawless : (a.adjust s).flaw? = none)
    (looked : Task.Path (scratchDirectory (a.adjust s)) looking scratch)
    (seeded : Task.Path (WorkDir.seed scratch a.tree RunArguments.label) seeding (.error e))
    (path : Task.Path (a.carryOut s) (looking ++ seeding) reply) :
    reply = .stopped (e.within s!"prepare working copy of {a.tree.text}").text := by
  have direct : Task.Path (a.carryOut s) (looking ++ seeding)
      (.stopped (e.within s!"prepare working copy of {a.tree.text}").text) := by
    unfold RunArguments.carryOut
    simp only [flawless]
    refine (path_bind_append_iff looked).mpr ?_
    exact path_bind_iff.mpr ⟨seeding, [], _, (List.append_nil _).symm, seeded, .done _⟩
  exact path_unique path direct

theorem not_namesTimeout_of_seeding (e : Chain) (tree : Path) :
    ¬ NamesTimeout (e.within s!"prepare working copy of {tree.text}").text := by
  have opens : (e.within s!"prepare working copy of {tree.text}").text =
      "prepare working copy of " ++
        (tree.text ++ (": " ++ ": ".intercalate (e.outer :: e.causes))) := by
    rw [Chain.text, Chain.within, String.intercalate_cons_cons]
    simp only [← String.append_assoc]
    rfl
  rw [opens]
  exact not_namesTimeout_append (by decide) _

/-- A run is under the timeout of its settings with its options applied. -/
theorem run_timedBy {a : RunArguments} (flag : a.timeoutSeconds = some n)
    (path : Task.Path (a.carryOut s) events reply) : (Command.run a).TimedBy s n events reply := by
  have seconds : (a.adjust s).timeoutSeconds = n := by
    rw [RunArguments.adjust, flag]
    rfl
  constructor
  · intro inside
    have inside : InRange (a.adjust s) (a.adjust s).timeoutSeconds := seconds ▸ inside
    constructor
    · obtain ⟨flaw, flawed, -, rfl⟩ | ⟨flawless, looking, seeding, running, scratch, seeded, rfl,
        looked, copied, ⟨e, message, rfl, rfl, -⟩ | ⟨directory, answer, rfl, ran, rfl⟩⟩ :=
        runReply_cases path
      · rw [blames_stopped_iff]
        exact not_namesTimeout_of_inRange inside flawed
      · rw [List.append_nil] at path
        rw [reply_of_unseeded flawless looked copied path, blames_stopped_iff]
        exact not_namesTimeout_of_seeding e a.tree
      · cases answer with
        | ok record => exact not_blames_carriedOut
        | error e =>
          intro blames
          exact absurd (of_blames_failed blames).1 (by decide)
    · intro launch answer member placed
      obtain none | ⟨r, host, hands, started⟩ := launch_of_runCommand path _ member
      · exact absurd (none launch rfl) placed
      · refine ⟨r, host, hands, Call.spawn.inj started, ?_⟩
        cases hands with
        | run hands =>
          obtain ⟨-, -, -, -, directory, -, -, -, -, rfl, -⟩ := hands
          exact seconds
  · intro out
    have out : ¬ InRange (a.adjust s) (a.adjust s).timeoutSeconds := seconds ▸ out
    obtain ⟨flaw, flawed, names⟩ := flaw_of_not_inRange out
    obtain ⟨flaw', flawed', rfl, rfl⟩ | ⟨flawless, -⟩ := runReply_cases path
    · have same : flaw = flaw' := Option.some.inj (flawed.symm.trans flawed')
      subst same
      exact ⟨rfl, by simp, .inl (.setting names)⟩
    · rw [flawed] at flawless
      cases flawless

theorem blames_outOfRange (s : Settings) (n : UInt64) :
    (Reply.failed compareVersion (outOfRange s n).kind (outOfRange s n).message).BlamesTimeout := by
  have opening : NamesTimeout "timeout_seconds must be between 1 and " :=
    ⟨"timeout_seconds", by decide, by decide⟩
  have message : (outOfRange s n).message = "invalid request: " ++
      ("timeout_seconds must be between 1 and " ++ toString s.maxTimeoutSeconds.toNat ++ ", got " ++
        toString n.toNat) := rfl
  rw [message]
  exact .request (namesTimeout_append (namesTimeout_append (namesTimeout_append opening _) _) _)

theorem not_blames_emptyPath :
    ¬ (Reply.failed compareVersion (Refusal.invalidRequest "file path is empty").kind
      (Refusal.invalidRequest "file path is empty").message).BlamesTimeout := by
  intro blames
  obtain ⟨-, -, text, same, names⟩ := of_blames_failed blames
  have alike : "file path is empty" = text := (String.append_right_inj "invalid request: ").mp same
  rw [← alike] at names
  exact absurd names (by unfold NamesTimeout; decide)

/-- A comparison is under the timeout that it asks for. -/
theorem compare_timedBy {a : CompareArguments} (flag : a.timeoutSeconds = some n)
    (free : InRange s s.timeoutSeconds) (path : Task.Path (a.carryOut s) events reply) :
    (Command.compare a).TimedBy s n events reply := by
  have seconds (input : Option String) : (a.inquiry input).seconds (a.adjust s) = n := by
    rw [Inquiry.seconds, CompareArguments.inquiry, flag]
    rfl
  have free : InRange (a.adjust s) (a.adjust s).timeoutSeconds := free
  constructor
  · intro inside
    constructor
    · obtain ⟨flaw, flawed, -, rfl⟩ | ⟨-, ⟨message, read, rfl⟩ |
        ⟨reading, comparing, input, answer, rfl, read, compared, rfl⟩⟩ := compareReply_cases path
      · rw [blames_stopped_iff]
        exact not_namesTimeout_of_inRange free flawed
      · rw [blames_stopped_iff]
        exact readInput_error read
      · cases answer with
        | ok o => exact not_blames_carriedOut
        | error r =>
          intro blames
          obtain other | rfl := refusal_of_inRange (seconds input ▸ inside) compared
          · exact other (of_blames_failed blames).2.1
          · exact not_blames_emptyPath blames
    · intro launch answer member placed
      obtain none | ⟨r, host, hands, started⟩ := launch_of_compare path _ member
      · exact absurd (none launch rfl) placed
      · refine ⟨r, host, hands, Call.spawn.inj started, ?_⟩
        cases hands with
        | side runtime read checked mixed hands =>
          obtain ⟨-, -, -, -, directory, -, -, -, -, rfl, -⟩ := hands
          exact (seconds_of_check checked).trans (seconds _)
  · intro out
    obtain ⟨flaw, flawed, rfl, rfl⟩ | ⟨-, ⟨message, read, rfl⟩ |
      ⟨reading, comparing, input, answer, rfl, read, compared, rfl⟩⟩ := compareReply_cases path
    · exact ⟨rfl, by simp, .inr (.flawed flawed)⟩
    · exact ⟨rfl, readInput_startsNoGuest a _ _ read, .inr (.unread read)⟩
    · have out : ¬ InRange (a.adjust s) ((a.inquiry input).seconds (a.adjust s)) := by
        rw [seconds]
        exact out
      obtain ⟨rfl, rfl⟩ := compare_of_not_inRange out compared
      refine ⟨rfl, ?_, .inl (blames_outOfRange _ _)⟩
      rw [List.append_nil]
      exact readInput_startsNoGuest a _ _ read

theorem timedBy {c : Command} (flag : c.timeout? = some n) (free : ¬ c.Forestalled s)
    (path : Task.Path (c.carryOut s) events reply) : c.TimedBy s n events reply := by
  cases c with
  | probe interpreter => cases flag
  | run a => exact run_timedBy flag path
  | compare a => exact compare_timedBy flag (not_not.mp free) path

/-- A comparison that is forestalled is turned down whatever timeout it asks for. -/
theorem blames_of_forestalled {c : Command} (forestalled : c.Forestalled s)
    (path : Task.Path (c.carryOut s) events reply) : events = [] ∧ reply.BlamesTimeout := by
  cases c with
  | probe interpreter => cases forestalled
  | run a => cases forestalled
  | compare a =>
    have out : ¬ InRange (a.adjust s) (a.adjust s).timeoutSeconds := forestalled
    obtain ⟨flaw, flawed, names⟩ := flaw_of_not_inRange out
    obtain ⟨flaw', flawed', rfl, rfl⟩ | ⟨flawless, -⟩ := compareReply_cases path
    · have same : flaw = flaw' := Option.some.inj (flawed.symm.trans flawed')
      subst same
      exact ⟨rfl, .setting names⟩
    · rw [flawed] at flawless
      cases flawless

end

/-! ## Layers under a timeout -/

/-- How a command with a timeout `n` of its own goes under two stacks of layers: neither can be
loaded, or it goes the same way under both and is under its own timeout. Only a comparison that is
forestalled is turned down for the timeout below its own. -/
inductive Command.Shadows (c : Command) (n : UInt64) (l l' : Layers) : Prop where
  | unloaded {e e' : ConfigError} (load : Task.Path (Settings.load l.path?) l.events (.error e))
    (load' : Task.Path (Settings.load l'.path?) l'.events (.error e')) : Shadows c n l l'
  | loaded {s s' : Settings} (load : Task.Path (Settings.load l.path?) l.events (.ok s))
    (load' : Task.Path (Settings.load l'.path?) l'.events (.ok s'))
    (maximum : s.maxTimeoutSeconds = s'.maxTimeoutSeconds)
    (same : ¬ c.Forestalled s → ¬ c.Forestalled s' → ∀ rest reply,
      Task.Path (Arguments.mk l.path? c).carryOut (l.events ++ rest) reply ↔
        Task.Path (Arguments.mk l'.path? c).carryOut (l'.events ++ rest) reply)
    (timed : ∀ t ∈ [s, s'], ¬ c.Forestalled t → ∀ rest reply,
      Task.Path (c.carryOut t) rest reply → c.TimedBy t n rest reply)
    (forestalled : ∀ t ∈ [s, s'], c.Forestalled t → ∀ rest reply,
      Task.Path (c.carryOut t) rest reply → rest = [] ∧ reply.BlamesTimeout) :
    Shadows c n l l'

theorem carryOut_of_load {l : Layers} {c : Command} {s : Settings} {rest : List (Event host)}
    {reply : Reply} (load : Task.Path (Settings.load l.path?) l.events (.ok s)) :
    Task.Path (Arguments.mk l.path? c).carryOut (l.events ++ rest) reply ↔
      Task.Path (c.carryOut s) rest reply :=
  path_bind_append_iff load

/-- A timeout on the command line shadows the one that the file and the environment give. Whatever
that one is, the command is under its own timeout alone, by one rule for comparisons and for runs;
except that a comparison is turned down if the timeout below its own is out of range. -/
theorem timeout_shadows {c : Command} {n : UInt64} (flag : c.timeout? = some n) {l l' : Layers}
    (alike : l.Alike l') : c.Shadows n l l' := by
  have load := l.path_load
  have load' := l'.path_load
  obtain ⟨e, e', failed, failed'⟩ | ⟨s, s', loaded, loaded', same⟩ := loaded_alike alike
  · rw [failed] at load
    rw [failed'] at load'
    exact .unloaded load load'
  rw [loaded] at load
  rw [loaded'] at load'
  have differs := eq_of_sameBut_timeout same
  refine .loaded load load' (Content.word.inj (same .maxTimeoutSeconds nofun)) ?_ ?_ ?_
  · intro free free' rest reply
    rw [carryOut_of_load load, carryOut_of_load load', differs]
    rw [differs] at free'
    rw [carryOut_sameBut flag free free']
  · exact fun t _ free rest reply path => timedBy flag free path
  · exact fun t _ forestalled rest reply path => blames_of_forestalled forestalled path

/-- A comparison with a timeout of five seconds. -/
def briefComparison : Command :=
  .compare ⟨"demo", "main.sh", none, some 5, none, none, none⟩

/-- Nothing is configured. -/
def bareLayers : Layers := ⟨none, []⟩

/-- A timeout is configured that is longer than the longest one. -/
def longLayers : Layers :=
  ⟨none, [(Text.Utf8.encode "PARITY_TIMEOUT_SECONDS".toList, Text.Utf8.encode "301".toList)]⟩

theorem bareLayers_alike : bareLayers.Alike longLayers := by
  have timed : Timed [] := ⟨by simp, by simp⟩
  refine Layers.alike_of_others (.inl ⟨rfl, rfl⟩) (.inl ⟨rfl, rfl⟩) timed timed (.refl _) ?_ ?_ ?_
  · intro name other
    have apart : (Text.Utf8.encode name.toList ==
        Text.Utf8.encode "PARITY_TIMEOUT_SECONDS".toList) = false := by
      refine beq_eq_false_iff_ne.mpr fun same => other ?_
      exact String.toList_injective (Text.Utf8.encode_injective same)
    simp only [bareLayers, longLayers, List.lookup_nil, List.lookup_cons, apart]
  · intro core
    exact not_garbled_none
  · intro core
    have text : variableText longLayers.environment "PARITY_TIMEOUT_SECONDS" = some "301" := by
      decide +kernel
    have word : Number.IsWord "301".toList 301 := Number.readWord_eq_ok_iff.mp rfl
    have trimmed : Trimmed "301".toList "301".toList := trimmed_iff.mpr (by decide)
    rw [text]
    exact (Tells.word trimmed word).not_garbled

theorem timeout_shadows_long : briefComparison.timeout? = some 5 ∧ bareLayers.Alike longLayers ∧
    briefComparison.Shadows 5 bareLayers longLayers :=
  ⟨rfl, bareLayers_alike, timeout_shadows rfl bareLayers_alike⟩

end Cli

end Tandem
