import Tandem.Proofs.Project.Identical
import Tandem.Proofs.Sandbox.Survivors

/-!
The shape of results.

* `attend_learns`: how the end of a guest was learnt decides what is recorded of it.
* `exists_shape`: so the record of a side has exactly one of three shapes, whatever happens to it.
* `compare_shaped`: an outcome is concluded from any two such records, and what it says of its sides
  can be read off them.
-/

namespace Tandem.Project

open Tandem.Config Tandem.Host Tandem.Host.Task Tandem.Sandbox Tandem.Text

/-! ## How the end of a guest is learnt -/

/-- A guest was found to have ended so. -/
def Died (events : List (Event host)) (pid : UInt32) (ending : Ending) : Prop :=
  ⟨.poll pid, .ok (some ending)⟩ ∈ events

/-- A record is that of a guest that finished so. In time, that is what the guest was found to have
ended with. -/
structure Learns (events : List (Event host)) (pid : UInt32) (finish : Finish) (record : Record) :
    Prop where
  started : record.fault = none
  code : record.exitCode = finish.code?
  signal : record.exitSignal = finish.signal?
  late : record.timedOut = finish.timedOut
  died : finish.timedOut = false → ∀ ending, Died events pid ending ↔ ending = finish.ending

/-- The calls that neither start a guest nor look for its end. -/
def Passive : Call → Prop
  | .spawn _ => False
  | .poll _ => False
  | _ => True

section
variable {pid : UInt32} {finish : Finish} {record : Record} {events : List (Event host)}

theorem not_died_of_passive {ending : Ending} (passive : ∀ e ∈ events, Passive e.1) :
    ¬ Died events pid ending :=
  fun died => passive _ died

theorem Learns.within (learns : Learns events pid finish record) {front back : List (Event host)}
    (before : ∀ e ∈ front, Passive e.1) (after : ∀ e ∈ back, Passive e.1) :
    Learns (front ++ (events ++ back)) pid finish record := by
  refine { learns with died := fun inTime ending => ?_ }
  have none : ¬ Died front pid ending := not_died_of_passive before
  have none' : ¬ Died back pid ending := not_died_of_passive after
  rw [← learns.died inTime ending, Died, Died, List.mem_append, List.mem_append]
  exact ⟨fun found => found.resolve_left none |>.resolve_right none', fun found => .inr (.inl found)⟩

/-- A guest that has run out of time is late, however it ends. -/
theorem timeOut_late {g : Sandbox.Guest} {grace : Duration}
    (path : Task.Path (timeOut g grace) events (.ok finish)) : finish.timedOut = true := by
  obtain ⟨expired, rest, answer, rfl, -, tail⟩ := path_bind_iff.1 path
  cases answer with
  | error e =>
    obtain ⟨aborted, rest, _, rfl, -, last⟩ := path_bind_iff.1 tail
    cases (path_done_iff.1 last).2
  | ok _ =>
    obtain ⟨answer, rest, rfl, tail'⟩ := path_ask_bind_iff.1 tail
    cases answer with
    | ok ending =>
      cases (path_done_iff.1 tail').2
      rfl
    | error e =>
      obtain ⟨aborted, rest, _, rfl, -, last⟩ := path_bind_iff.1 tail'
      cases (path_done_iff.1 last).2

/-- A guest that is not late was found to have ended once, and not to have ended before. -/
theorem await_found {g : Sandbox.Guest} {grace : Duration} {deadline : Option Duration}
    {polls : Nat} {events : List (Event host)}
    (path : Task.Path (await g grace deadline polls) events (.ok finish))
    (inTime : finish.timedOut = false) (ending : Ending) :
    Died events g.pid ending ↔ ending = finish.ending := by
  have notLate {later : List (Event host)} (late : Task.Path (timeOut g grace) later (.ok finish)) :
      False := by
    rw [timeOut_late late] at inTime
    cases inTime
  unfold await at path
  obtain ⟨answer, rest, rfl, tail⟩ := path_ask_bind_iff.1 path
  cases answer with
  | error e =>
    obtain ⟨aborted, rest, _, rfl, -, last⟩ := path_bind_iff.1 tail
    cases (path_done_iff.1 last).2
  | ok found? =>
    cases found? with
    | some found =>
      obtain ⟨rfl, same⟩ := path_done_iff.1 tail
      cases same
      simp [Died]
    | none =>
      cases polls with
      | zero => exact (notLate tail).elim
      | succ polls =>
        obtain ⟨now, rest, rfl, tail'⟩ := path_ask_bind_iff.1 tail
        split at tail'
        · exact (notLate tail').elim
        · obtain ⟨slept, rest, rfl, again⟩ := path_ask_bind_iff.1 tail'
          rw [← await_found again inTime, Died, Died]
          simp

theorem feed_passive (r : Request) (g : Sandbox.Guest) : Calls Passive (r.feed g) := by
  rw [Request.feed]
  cases r.input with
  | none => exact calls_done _
  | some input => exact calls_ask trivial

theorem collect_passive (r : Request) (g : Sandbox.Guest) (start : Duration) (finish : Finish) :
    Calls Passive (r.collect g start finish) := by
  refine calls_bind (calls_ask trivial) fun stop => ?_
  refine calls_bind (sweep_calls fun _ _ => trivial) fun _ => ?_
  have drained (stream : Stream) : Calls Passive (captured g.pid stream r.limits) :=
    calls_bind (calls_ask trivial) fun _ => calls_done _
  exact calls_bind (drained .out) fun _ => calls_bind (drained .err) fun _ => calls_done _

/-- How the end of a guest was learnt decides what is recorded of it. -/
theorem attend_learns {r : Request} {child : Child} {start : Duration}
    (path : Task.Path (r.attend child start) events (.ok record)) :
    ∃ finish, Learns events child.pid finish record := by
  rw [Request.attend] at path
  split at path
  · rw [follow_eq] at path
    obtain ⟨fed, rest, _, rfl, feed, tail⟩ := path_bind_iff.1 path
    obtain ⟨awaited, rest, answer, rfl, await, tail'⟩ := path_bind_iff.1 tail
    cases answer with
    | error e => cases (path_done_iff.1 tail').2
    | ok finish =>
      obtain ⟨patience, elapsed, out, err, -, -, made⟩ := collect_record tail'
      obtain rfl := Except.ok.inj made
      have learns : Learns awaited child.pid finish (recordOf r.limits.maxOutputBytes.toNat finish
          elapsed (arrived out) (arrived err)) :=
        ⟨rfl, rfl, rfl, rfl, await_found await⟩
      exact ⟨finish, learns.within (feed_passive r _ fed _ feed)
        (collect_passive r _ start finish rest _ tail')⟩
  · obtain ⟨aborted, rest, _, rfl, -, tail⟩ := path_bind_iff.1 path
    cases (path_done_iff.1 tail).2

end

/-! ## Sides -/

/-- The one guest that was started. -/
def Started (events : List (Event host)) (child : Child) : Prop :=
  ∃ launch, ∀ launch' child', ⟨.spawn launch', .ok child'⟩ ∈ events ↔
    launch' = launch ∧ child' = child

section
variable {record : Record} {events front : List (Event host)} {child : Child}

theorem not_started_of_passive (passive : ∀ e ∈ events, Passive e.1) (launch : Launch)
    (child : Child) : ⟨.spawn launch, .ok child⟩ ∉ events :=
  fun member => passive _ member

theorem Started.after (started : Started events child) (before : ∀ e ∈ front, Passive e.1) :
    Started (front ++ events) child := by
  obtain ⟨launch, only⟩ := started
  refine ⟨launch, fun launch' child' => ?_⟩
  rw [List.mem_append, or_iff_right (not_started_of_passive before launch' child')]
  exact only launch' child'

/-- A run that gives a record started one guest, and learnt how that ended. -/
theorem run_learns {r : Request} (path : Task.Path r.run events (.ok record)) :
    ∃ child finish, Started events child ∧ Learns events child.pid finish record := by
  obtain ⟨before, removed, rfl, attempt⟩ := run_cases path
  obtain ⟨-, -, same⟩ | ⟨-, env, start, ⟨e, -, same⟩ | ⟨child, rest, rfl, attend⟩⟩ :=
    attempt_cases attempt
  · cases same
  · cases same
  · obtain ⟨finish, learns⟩ := attend_learns attend
    refine ⟨child, finish, ⟨r.started env, fun launch' child' => ?_⟩, ?_⟩
    · have later : ⟨.spawn launch', .ok child'⟩ ∉ rest := fun member =>
        attend_tends r child start rest _ attend _ member
      simp [later]
    · have inner : Learns (⟨.environment, env⟩ :: ⟨.now, start⟩ ::
          ⟨.spawn (r.started env), .ok child⟩ :: rest) child.pid finish record := by
        refine { learns with died := fun inTime ending => ?_ }
        rw [← learns.died inTime ending]
        simp [Died]
      exact @Learns.within _ _ _ _ inner [] _ (by simp) (by simp [Passive])

theorem copyLevels_passive (levels : Nat) (source target : Host.Path) :
    Calls Passive (copyLevels levels source target) :=
  calls_copyLevels (fun _ => trivial) (fun _ => trivial) (fun _ _ => trivial) levels source target

theorem seed_passive (base tree : Host.Path) (label : String) :
    Calls Passive (WorkDir.seed base tree label) := by
  refine calls_bind (calls_ask trivial) fun found => ?_
  match found with
  | .error e => exact calls_done _
  | .ok .file => exact calls_done _
  | .ok .link => exact calls_done _
  | .ok .special => exact calls_done _
  | .ok .directory =>
    have made : Calls Passive (WorkDir.create base label) :=
      calls_create trivial trivial (fun _ => trivial) (fun _ _ => trivial) base label
    refine calls_bind made fun created => ?_
    cases created with
    | error e => exact calls_done _
    | ok d =>
      refine calls_bind (copyLevels_passive _ tree d.path) fun copied => ?_
      cases copied with
      | ok _ => exact calls_done _
      | error e =>
        exact calls_bind (calls_bind (calls_ask trivial) fun _ => calls_done _) fun _ =>
          calls_done _

theorem scratchDirectory_passive (s : Settings) : Calls Passive (scratchDirectory s) := by
  rw [scratchDirectory]
  cases s.scratchDir with
  | some path => exact calls_done _
  | none => exact calls_bind (calls_ask trivial) fun _ => calls_done _

/-- A side leaves the record of a fault, or that of its one guest. -/
theorem runSide_learns {s : Settings} {plan : Plan} {r : Runtime}
    (path : Task.Path (runSide s plan r) events record) :
    (∃ fault, record = .ofFault fault) ∨
      ∃ child finish, Started events child ∧ Learns events child.pid finish record := by
  obtain ⟨scratching, rest, base, rfl, scratch, tail⟩ := path_bind_iff.1 path
  obtain ⟨seeding, rest, seeded, rfl, seed, tail'⟩ := path_bind_iff.1 tail
  cases seeded with
  | error e => exact .inl ⟨_, (path_done_iff.1 tail').2⟩
  | ok directory =>
    obtain ⟨running, rest, answer, rfl, run, last⟩ := path_bind_iff.1 tail'
    cases answer with
    | error e => exact .inl ⟨_, (path_done_iff.1 last).2⟩
    | ok recorded =>
      obtain ⟨rfl, rfl⟩ := path_done_iff.1 last
      obtain ⟨child, finish, started, learns⟩ := run_learns run
      have before : ∀ e ∈ scratching ++ seeding, Passive e.1 :=
        List.forall_mem_append.2 ⟨scratchDirectory_passive s scratching base scratch,
          seed_passive base _ _ seeding _ seed⟩
      rw [List.append_nil, ← List.append_assoc]
      refine .inr ⟨child, finish, started.after before, ?_⟩
      simpa using @Learns.within _ _ _ _ learns _ [] before (by simp)

end

/-! ## Shapes -/

/-- What a side leaves along these events: its record, or none if it broke down on the way. -/
def Leaves (s : Settings) (plan : Plan) (r : Runtime) (events : List (Event host))
    (record : Option Record) : Prop :=
  ∀ left ∈ record, Task.Path (runSide s plan r) events left

inductive Shape where
  /-- The sandbox could not run the guest. -/
  | faulted
  /-- The guest ran out of time. -/
  | late
  | ended
deriving DecidableEq, Repr

/-- What a record of a shape says of the side that these events belong to. -/
def Shape.Fits (events : List (Event host)) (record : Record) : Shape → Prop
  | faulted => ∃ fault, record.fault = some fault ∧ record.exitCode = none ∧
      record.timedOut = false ∧ record.stdout = "" ∧ record.stderr = fault.message
  | late => record.fault = none ∧ record.timedOut = true ∧ record.exitCode = none
  | ended => record.fault = none ∧ record.timedOut = false ∧
      ∃ child code, Started events child ∧ record.exitCode = some code ∧
        (∀ n, code = 128 + n ∧ record.exitSignal = some n ↔ Died events child.pid (.signal n)) ∧
        ∀ n, code = n ∧ record.exitSignal = none ↔ Died events child.pid (.code n)

section
variable {record : Record} {events : List (Event host)} {shape shape' : Shape}

theorem shape_unique (fits : shape.Fits events record) (fits' : shape'.Fits events record) :
    shape = shape' := by
  cases shape <;> cases shape' <;> simp_all [Shape.Fits]

theorem fits_ofFault (fault : Fault) : Shape.faulted.Fits events (.ofFault fault) :=
  ⟨fault, rfl, rfl, rfl, rfl, rfl⟩

/-- The record of a guest is that of one that was late, or that ended. -/
theorem fits_of_learns {child : Child} {finish : Finish} (started : Started events child)
    (learns : Learns events child.pid finish record) :
    Shape.late.Fits events record ∨ Shape.ended.Fits events record := by
  obtain ⟨ending, timedOut⟩ := finish
  cases timedOut with
  | true => exact .inl ⟨learns.started, learns.late, learns.code⟩
  | false =>
    refine .inr ⟨learns.started, learns.late, child, ?_⟩
    have died := learns.died rfl
    cases ending with
    | code m =>
      refine ⟨m, started, learns.code, fun n => ?_, fun n => ?_⟩
      · simp [died, learns.signal, Finish.signal?]
      · simp [died, learns.signal, Finish.signal?, eq_comm]
    | signal m =>
      refine ⟨128 + m, started, learns.code, fun n => ?_, fun n => ?_⟩
      · rw [died, learns.signal, Finish.signal?, Option.some.injEq, Ending.signal.injEq]
        constructor
        · rintro ⟨-, same⟩
          exact same.symm
        · rintro rfl
          exact ⟨rfl, rfl⟩
      · simp [died, learns.signal, Finish.signal?]

/-- Exactly one shape fits the record of a side, whatever happens to it. -/
theorem exists_shape {s : Settings} {plan : Plan} {r : Runtime} {left : Option Record}
    (leaves : Leaves s plan r events left) :
    ∃ shape : Shape, ∀ other : Shape,
      other.Fits events (left.getD (brokenDown r)) ↔ other = shape := by
  have some : ∃ shape : Shape, shape.Fits events (left.getD (brokenDown r)) := by
    cases left with
    | none => exact ⟨.faulted, fits_ofFault _⟩
    | some record =>
      obtain ⟨fault, rfl⟩ | ⟨child, finish, started, learns⟩ := runSide_learns (leaves record rfl)
      · exact ⟨.faulted, fits_ofFault fault⟩
      · obtain late | ended := fits_of_learns started learns
        · exact ⟨.late, late⟩
        · exact ⟨.ended, ended⟩
  obtain ⟨shape, fits⟩ := some
  exact ⟨shape, fun other => ⟨fun fits' => shape_unique fits' fits, fun same => same ▸ fits⟩⟩

/-- A record has a fault exactly if it is that of a side whose guest could not be run. -/
theorem isSome_fault_iff (one : ∃ shape : Shape, ∀ other : Shape,
    other.Fits events record ↔ other = shape) :
    record.fault.isSome = true ↔ Shape.faulted.Fits events record := by
  obtain ⟨shape, only⟩ := one
  have fits : shape.Fits events record := (only shape).2 rfl
  rw [only]
  cases shape with
  | faulted =>
    obtain ⟨fault, known, -⟩ := fits
    simp [known]
  | late => simp [fits.1]
  | ended => simp [fits.1]

end

/-! ## Outcomes -/

/-- The sides that a status is about. -/
def Status.Names : Status → Runtime → Prop
  | .sourceFailed, .source => True
  | .targetFailed, .target => True
  | .bothFailed, _ => True
  | _, _ => False

def Outcome.side (o : Outcome) : Runtime → Record
  | .source => o.source
  | .target => o.target

/-- An outcome says of each side what its record has the shape of. -/
structure Shaped (plan : Plan) (events : Runtime → List (Event host)) (o : Outcome) : Prop where
  shape : ∀ r, ∃ shape : Shape, ∀ other : Shape, other.Fits (events r) (o.side r) ↔ other = shape
  status : ∀ r, o.status.Names r ↔ Shape.faulted.Fits (events r) (o.side r)
  warnings : o.report.warnings = plan.warnings ++ (Compare.Report.of o.source o.target).warnings ++
    Runtime.all.filterMap fun r => faultWarning? r (o.side r)
  /-- One of the last warnings is about each side that the status names. -/
  warned : ∀ r, (faultWarning? r (o.side r)).isSome = true ↔ o.status.Names r
  verdict : o.isMatch = true → o.status = .completed

theorem names_iff {plan : Plan} {source target : Option Record} (r : Runtime) :
    (conclude plan source target).status.Names r ↔
      ((conclude plan source target).side r).fault.isSome = true := by
  cases r with
  | source =>
    simp only [conclude, Outcome.side, Status.of, Record.started]
    cases (source.getD (brokenDown .source)).fault <;>
      cases (target.getD (brokenDown .target)).fault <;> simp [Status.Names]
  | target =>
    simp only [conclude, Outcome.side, Status.of, Record.started]
    cases (source.getD (brokenDown .source)).fault <;>
      cases (target.getD (brokenDown .target)).fault <;> simp [Status.Names]

theorem conclude_shaped {s : Settings} {plan : Plan} {events : Runtime → List (Event host)}
    (records : Runtime → Option Record) (leaves : ∀ r, Leaves s plan r (events r) (records r)) :
    Shaped plan events (conclude plan (records .source) (records .target)) := by
  have shape (r : Runtime) : ∃ shape : Shape, ∀ other : Shape, other.Fits (events r)
      ((conclude plan (records .source) (records .target)).side r) ↔ other = shape := by
    cases r with
    | source => exact exists_shape (leaves .source)
    | target => exact exists_shape (leaves .target)
  refine ⟨shape, fun r => ?_, ?_, fun r => ?_, fun same => ?_⟩
  · rw [names_iff, isSome_fault_iff (shape r)]
  · simp only [conclude, Runtime.all, Outcome.side, List.filterMap_cons, List.filterMap_nil]
    cases faultWarning? .source ((records .source).getD (brokenDown .source)) <;>
      cases faultWarning? .target ((records .target).getD (brokenDown .target)) <;> simp
  · rw [names_iff, faultWarning?, Option.isSome_map]
  · simp only [Outcome.isMatch, Bool.and_eq_true, decide_eq_true_eq] at same
    exact same.1.1

theorem passed_concat_iff {s : Settings} {store : ProjectStore} {q : Inquiry} {f f' : Found}
    (cs : List Check) (c : Check) {events : List (Event host)} :
    Passed s store q f (cs ++ [c]) events f' ↔
      ∃ front back g, events = front ++ back ∧ Passed s store q f cs front g ∧
        c.Passes s store q g back f' := by
  rw [← path_steps_ok_iff, List.foldlM_append, path_except_ok_iff]
  simp only [path_steps_ok_iff, List.foldlM_cons, List.foldlM_nil, bind_pure, Check.step_ok_iff]

/-- What the source file's text lets expect comes first among the warnings. -/
theorem warnings_of_check {s : Settings} {store : ProjectStore} {q : Inquiry} {plan : Plan}
    {events : List (Event host)} (checked : Task.Path (check s store q).run events (.ok plan)) :
    ∃ entry bytes, ⟨.readFile entry, .ok bytes⟩ ∈ events ∧
      plan.warnings = Compare.hazards (String.ofList (Utf8.decode bytes)) := by
  obtain ⟨f, passed, rfl⟩ := path_check_ok_iff.1 checked
  obtain ⟨front, back, g, rfl, -, bytes, rfl, rfl⟩ :=
    (passed_concat_iff Check.all.dropLast .sourceText).1 passed
  exact ⟨g.sourceEntry, bytes, by simp, rfl⟩

/-- Whatever becomes of both sides, the outcome has this shape. A comparison is only refused by its
checks, and what it comes to otherwise is concluded from what its sides leave. -/
theorem compare_shaped (s : Settings) :
    (∀ (plan : Plan) (events : Runtime → List (Event host)) (records : Runtime → Option Record),
      (∀ r, Leaves s plan r (events r) (records r)) →
        Shaped plan events (conclude plan (records .source) (records .target))) ∧
    ∀ (store : ProjectStore) (q : Inquiry) (events : List (Event host))
      (answer : Except Refusal Outcome), Task.Path (compare s store q) events answer →
      (∃ refusal, answer = .error refusal ∧
        Task.Path (check s store q).run events (.error refusal)) ∨
      ∃ (plan : Plan) (front back : List (Event host)) (sides : Runtime → List (Event host))
        (records : Runtime → Record) (o : Outcome), events = front ++ back ∧ answer = .ok o ∧
        Task.Path (check s store q).run front (.ok plan) ∧
        (∃ entry bytes, ⟨.readFile entry, .ok bytes⟩ ∈ front ∧
          plan.warnings = Compare.hazards (String.ofList (Utf8.decode bytes))) ∧
        Interleaved (I := host) .turn id (sides .source) (sides .target) back ∧
        (∀ r, Task.Path (runSide s plan r) (sides r) (records r)) ∧
        o = conclude plan (some (records .source)) (some (records .target)) ∧
        Shaped plan sides o := by
  refine ⟨fun plan events records leaves => conclude_shaped records leaves, ?_⟩
  intro store q events answer path
  cases answer with
  | error refusal =>
    refine .inl ⟨refusal, rfl, ?_⟩
    exact path_check_error_iff.2 (path_compare_error_iff.1 path)
  | ok o =>
    obtain ⟨plan, front, back, first, second, r, r', rfl, checked, mixed, source, target, rfl⟩ :=
      path_compare_sides_iff.1 path
    let sides : Runtime → List (Event host)
      | .source => first
      | .target => second
    let records : Runtime → Record
      | .source => r
      | .target => r'
    have ran (side : Runtime) : Task.Path (runSide s plan side) (sides side) (records side) := by
      cases side with
      | source => exact source
      | target => exact target
    have leaves (side : Runtime) : Leaves s plan side (sides side) (some (records side)) := by
      rintro _ ⟨⟩
      exact ran side
    exact .inr ⟨plan, front, back, sides, records, _, rfl, rfl, checked, warnings_of_check checked,
      mixed, ran, rfl, conclude_shaped (fun side => some (records side)) leaves⟩

/-- The source side prints nothing and ends, and the target side breaks down. -/
def brokenSides : Runtime → List (Event host)
  | .source => loneSide .source ""
  | .target => []

theorem compare_shaped_broken :
    (∃ r, Task.Path (runSide loneSettings lonePlan .source) (loneSide .source "") r ∧
      Shaped lonePlan brokenSides (conclude lonePlan (some r) none)) ∧
    ∃ o plan sides, Task.Path (compare loneSettings loneStore lonePlan.inquiry)
      (loneChecks ++ loneSides echo) (.ok o) ∧ Shaped plan sides o := by
  constructor
  · obtain ⟨r, source⟩ : ∃ r, Task.Path (runSide loneSettings lonePlan .source)
        (loneSide .source "") r := exists_path_of_replay (by decide +kernel)
    let records : Runtime → Option Record
      | .source => some r
      | .target => none
    have leaves (side : Runtime) :
        Leaves loneSettings lonePlan side (brokenSides side) (records side) := by
      cases side with
      | source =>
        rintro _ ⟨⟩
        exact source
      | target =>
        intro left broken
        cases broken
    exact ⟨r, source, (compare_shaped loneSettings).1 lonePlan brokenSides records leaves⟩
  · have found : (replay (compare loneSettings loneStore lonePlan.inquiry)
        (loneChecks ++ loneSides echo)).map (fun answer => answer.toOption.isSome) =
          some true := by decide +kernel
    obtain ⟨answer, path, same⟩ := exists_path_of_replay_map found
    cases answer with
    | error refusal => cases same
    | ok o =>
      obtain ⟨refusal, wrong, -⟩ | ⟨plan, _, _, sides, _, _, -, same, -, -, -, -, -, shaped⟩ :=
        (compare_shaped loneSettings).2 loneStore lonePlan.inquiry _ _ path
      · cases wrong
      · obtain rfl := Except.ok.inj same
        exact ⟨o, plan, sides, path, shaped⟩

end Tandem.Project
