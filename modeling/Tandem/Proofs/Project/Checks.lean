import Tandem.Project.Comparison
import Tandem.Proofs.Project.Entry

/-!
The checks of a comparison, one by one.

* `check_eq_steps`: all that can refuse a comparison is these checks in this order.
* `Check.Passes` and `Check.Refuses`: the answers on which a check passes and fails.
* `Check.step_ok_iff` and `Check.step_error_iff`: what a check comes to is just that.
-/

namespace Tandem.Project

open Tandem.Config Tandem.Host Tandem.Host.Task Tandem.Sandbox Tandem.Text

/-- What can refuse a comparison, in the order in which it is looked at. -/
inductive Check where
  | timeout
  | projectId
  | somePath
  | safePath
  | sourceTree
  | sourceEntry
  | recorded
  | migratedTree
  | migratedEntry
  | sourceProbe
  | targetProbe
  | sourceText
deriving DecidableEq, Repr

/-- What the checks so far have found. -/
structure Found where
  timeoutSeconds : UInt64
  sourceTree : Path
  sourceEntry : Path
  migratedTree : Path
  warnings : List String

namespace Found

def nothing : Found := ⟨0, ⟨""⟩, ⟨""⟩, ⟨""⟩, []⟩

def plan (q : Inquiry) (f : Found) : Plan :=
  ⟨q, f.timeoutSeconds, f.sourceTree, f.migratedTree, f.warnings⟩

end Found

namespace Check

def all : List Check :=
  [timeout, projectId, somePath, safePath, sourceTree, sourceEntry, recorded, migratedTree,
    migratedEntry, sourceProbe, targetProbe, sourceText]

variable (s : Settings) (store : ProjectStore) (q : Inquiry)

/-- One check. -/
def step (f : Found) : Check → ExceptT Refusal (Task host) Found
  | timeout => do
    let seconds ← (timeoutFor s q : Except Refusal UInt64)
    return { f with timeoutSeconds := seconds }
  | projectId =>
    if !isIdentifier q.projectId then throw (.invalidProjectId q.projectId) else pure f
  | somePath => if q.file.isEmpty then throw (.invalidRequest "file path is empty") else pure f
  | safePath => if !q.file.isSafe then throw (.pathTraversal q.file) else pure f
  | sourceTree => do
    let tree ← orRefuse (.projectNotFound q.projectId)
      (← fromStore (store.sourceTree q.projectId))
    return { f with sourceTree := tree }
  | sourceEntry => do
    let entry ← orRefuse (.fileNotFound q.file) (← resolveEntry f.sourceTree q.file)
    return { f with sourceEntry := entry }
  | recorded => do
    if !(← fromStore (store.isMigrated q.projectId q.file)) then throw (.notMigrated q.file)
    else pure f
  | migratedTree => do
    let tree ← orRefuse (.notMigrated q.file) (← fromStore (store.migratedTree q.projectId))
    return { f with migratedTree := tree }
  | migratedEntry => do
    let _ ← orRefuse (.notMigrated q.file) (← resolveEntry f.migratedTree q.file)
    return f
  | sourceProbe => do
    checkInterpreter s .source
    return f
  | targetProbe => do
    checkInterpreter s .target
    return f
  | sourceText => do
    match ← ask (.readFile f.sourceEntry) with
    | .error e =>
      throw (.store ((Chain.one e.message).within s!"read source file: {f.sourceEntry.text}"))
    | .ok bytes =>
      return { f with warnings := Compare.hazards (String.ofList (Utf8.decode bytes)) }

end Check

theorem throw_bind {α β : Type} (r : Refusal) (f : α → ExceptT Refusal (Task host) β) :
    throw r >>= f = throw r :=
  rfl

theorem ite_bind {α β : Type} {c : Prop} [Decidable c] (t u : ExceptT Refusal (Task host) α)
    (f : α → ExceptT Refusal (Task host) β) :
    (if c then t else u) >>= f = if c then t >>= f else u >>= f := by
  split <;> rfl

/-- The checks of the request alone. -/
theorem checkRequest_bind {α : Type} (s : Settings) (q : Inquiry)
    (f : UInt64 → ExceptT Refusal (Task host) α) :
    (liftM (checkRequest s q) : ExceptT Refusal (Task host) UInt64) >>= f =
      (liftM (timeoutFor s q) : ExceptT Refusal (Task host) UInt64) >>= fun seconds =>
        if !isIdentifier q.projectId then throw (.invalidProjectId q.projectId)
        else if q.file.isEmpty then throw (.invalidRequest "file path is empty")
        else if !q.file.isSafe then throw (.pathTraversal q.file)
        else f seconds := by
  rw [checkRequest]
  cases timeoutFor s q with
  | error r => rfl
  | ok seconds =>
    cases isIdentifier q.projectId
    · rfl
    · cases q.file.isEmpty <;> cases q.file.isSafe <;> rfl

/-- All that can refuse a comparison is the checks in their order. -/
theorem check_eq_steps (s : Settings) (store : ProjectStore) (q : Inquiry) :
    check s store q = do
      let f ← Check.all.foldlM (Check.step s store q) Found.nothing
      return f.plan q := by
  simp only [Check.all, List.foldlM, Check.step, check, checkTrees, checkRequest_bind, bind_assoc,
    pure_bind, throw_bind, ite_bind]
  refine bind_congr fun seconds => ?_
  refine ite_congr rfl (fun _ => rfl) fun _ => ite_congr rfl (fun _ => rfl) fun _ => ?_
  refine ite_congr rfl (fun _ => rfl) fun _ => ?_
  refine bind_congr fun found => bind_congr fun source => ?_
  refine bind_congr fun found => bind_congr fun entry => ?_
  refine bind_congr fun marked => ite_congr rfl (fun _ => rfl) fun _ => ?_
  refine bind_congr fun found => bind_congr fun migrated => ?_
  refine bind_congr fun found => bind_congr fun _ => ?_
  refine bind_congr fun _ => bind_congr fun _ => ?_
  refine bind_congr fun answer => ?_
  cases answer <;> rfl

/-! ## What a check finds -/

/-- The timeout that an inquiry comes to. -/
def Inquiry.seconds (s : Settings) (q : Inquiry) : UInt64 := q.timeoutSeconds.getD s.timeoutSeconds

/-- Whether a timeout is one that may be asked for. -/
def InRange (s : Settings) (seconds : UInt64) : Prop :=
  seconds ≠ 0 ∧ seconds ≤ s.maxTimeoutSeconds

def outOfRange (s : Settings) (seconds : UInt64) : Refusal :=
  .invalidRequest
    s!"timeout_seconds must be between 1 and {s.maxTimeoutSeconds.toNat}, got {seconds.toNat}"

namespace Check

variable (s : Settings) (store : ProjectStore) (q : Inquiry)

/-- A check passes on these answers, and what it adds to what was found. -/
def Passes (f : Found) (events : List (Event host)) (f' : Found) : Check → Prop
  | timeout =>
    events = [] ∧ InRange s (q.seconds s) ∧ f' = { f with timeoutSeconds := q.seconds s }
  | projectId => events = [] ∧ isIdentifier q.projectId = true ∧ f' = f
  | somePath => events = [] ∧ q.file.isEmpty = false ∧ f' = f
  | safePath => events = [] ∧ q.file.isSafe = true ∧ f' = f
  | sourceTree => ∃ tree, Task.Path (store.sourceTree q.projectId) events (.ok (some tree)) ∧
      f' = { f with sourceTree := tree }
  | sourceEntry => ∃ entry, Located f.sourceTree q.file events (.ok (some entry)) ∧
      f' = { f with sourceEntry := entry }
  | recorded => Task.Path (store.isMigrated q.projectId q.file) events (.ok true) ∧ f' = f
  | migratedTree => ∃ tree, Task.Path (store.migratedTree q.projectId) events (.ok (some tree)) ∧
      f' = { f with migratedTree := tree }
  | migratedEntry => ∃ entry, Located f.migratedTree q.file events (.ok (some entry)) ∧ f' = f
  | sourceProbe => Task.Path (Probe.available s.sourceInterpreter) events true ∧ f' = f
  | targetProbe => Task.Path (Probe.available s.targetInterpreter) events true ∧ f' = f
  | sourceText => ∃ bytes, events = [⟨.readFile f.sourceEntry, .ok bytes⟩] ∧
      f' = { f with warnings := Compare.hazards (String.ofList (Utf8.decode bytes)) }

/-- A check fails on these answers, and what it refuses the comparison with. -/
def Refuses (f : Found) (events : List (Event host)) (r : Refusal) : Check → Prop
  | timeout => events = [] ∧ ¬ InRange s (q.seconds s) ∧ r = outOfRange s (q.seconds s)
  | projectId => events = [] ∧ isIdentifier q.projectId = false ∧ r = .invalidProjectId q.projectId
  | somePath => events = [] ∧ q.file.isEmpty = true ∧ r = .invalidRequest "file path is empty"
  | safePath => events = [] ∧ q.file.isSafe = false ∧ r = .pathTraversal q.file
  | sourceTree =>
    (∃ e, Task.Path (store.sourceTree q.projectId) events (.error e) ∧ r = .store e) ∨
      Task.Path (store.sourceTree q.projectId) events (.ok none) ∧ r = .projectNotFound q.projectId
  | sourceEntry => Located f.sourceTree q.file events (.error r) ∨
      Located f.sourceTree q.file events (.ok none) ∧ r = .fileNotFound q.file
  | recorded =>
    (∃ e, Task.Path (store.isMigrated q.projectId q.file) events (.error e) ∧ r = .store e) ∨
      Task.Path (store.isMigrated q.projectId q.file) events (.ok false) ∧ r = .notMigrated q.file
  | migratedTree =>
    (∃ e, Task.Path (store.migratedTree q.projectId) events (.error e) ∧ r = .store e) ∨
      Task.Path (store.migratedTree q.projectId) events (.ok none) ∧ r = .notMigrated q.file
  | migratedEntry => Located f.migratedTree q.file events (.error r) ∨
      Located f.migratedTree q.file events (.ok none) ∧ r = .notMigrated q.file
  | sourceProbe => Task.Path (Probe.available s.sourceInterpreter) events false ∧
      r = .interpreterUnavailable .source s.sourceInterpreter
  | targetProbe => Task.Path (Probe.available s.targetInterpreter) events false ∧
      r = .interpreterUnavailable .target s.targetInterpreter
  | sourceText => ∃ e, events = [⟨.readFile f.sourceEntry, .error e⟩] ∧
      r = .store ((Chain.one e.message).within s!"read source file: {f.sourceEntry.text}")

end Check

/-! ## Steps and their findings -/

section
variable {events : List (Event host)}

theorem path_fromStore_ok_iff {α : Type} {t : Task host (Except Chain α)} {a : α} :
    Task.Path (fromStore t).run events (.ok a) ↔ Task.Path t events (.ok a) := by
  refine path_except_lift_bind_iff.trans
    ⟨?_, fun path => ⟨events, [], .ok a, by simp, path, .done _⟩⟩
  rintro ⟨front, back, answer, rfl, path, last⟩
  cases answer with
  | error e => exact nomatch (path_done_iff.1 last).2
  | ok b =>
    obtain ⟨rfl, same⟩ := path_done_iff.1 last
    cases same
    simpa using path

theorem path_fromStore_error_iff {α : Type} {t : Task host (Except Chain α)} {r : Refusal} :
    Task.Path (fromStore t).run events (.error r) ↔
      ∃ e, Task.Path t events (.error e) ∧ r = .store e := by
  refine path_except_lift_bind_iff.trans ⟨?_, ?_⟩
  · rintro ⟨front, back, answer, rfl, path, last⟩
    cases answer with
    | ok b => exact nomatch (path_done_iff.1 last).2
    | error e =>
      obtain ⟨rfl, same⟩ := path_done_iff.1 last
      cases same
      exact ⟨e, by simpa using path, rfl⟩
  · rintro ⟨e, path, rfl⟩
    exact ⟨events, [], .error e, by simp, path, .done _⟩

section
variable {α β : Type} {t : ExceptT Refusal (Task host) (Option α)} {r : Refusal} {g : α → β}

/-- Something that has to be there is. -/
theorem path_orRefuse_ok_iff {b : β} :
    Task.Path (t >>= fun found => orRefuse r found >>= fun a => pure (g a)).run events (.ok b) ↔
      ∃ a, Task.Path t.run events (.ok (some a)) ∧ b = g a := by
  rw [path_except_ok_iff]
  constructor
  · rintro ⟨front, back, found, rfl, path, last⟩
    cases found with
    | none => exact nomatch (path_done_iff.1 last).2
    | some a =>
      obtain ⟨rfl, same⟩ := path_done_iff.1 last
      cases same
      exact ⟨a, by simpa using path, rfl⟩
  · rintro ⟨a, path, rfl⟩
    exact ⟨events, [], some a, by simp, path, .done _⟩

/-- Something that has to be there cannot be found, or is not there. -/
theorem path_orRefuse_error_iff {r' : Refusal} :
    Task.Path (t >>= fun found => orRefuse r found >>= fun a => pure (g a)).run events (.error r') ↔
      Task.Path t.run events (.error r') ∨ Task.Path t.run events (.ok none) ∧ r' = r := by
  rw [path_except_error_iff]
  refine or_congr_right ⟨?_, ?_⟩
  · rintro ⟨front, back, found, rfl, path, last⟩
    cases found with
    | none =>
      obtain ⟨rfl, same⟩ := path_done_iff.1 last
      cases same
      exact ⟨by simpa using path, rfl⟩
    | some a => exact nomatch (path_done_iff.1 last).2
  · rintro ⟨path, rfl⟩
    exact ⟨events, [], none, by simp, path, .done _⟩

end

/-- Something that has to hold does. -/
theorem path_demand_ok_iff {t : ExceptT Refusal (Task host) Bool} {r : Refusal} {f f' : Found} :
    Task.Path (t >>= fun holds => if !holds then throw r else pure f).run events (.ok f') ↔
      Task.Path t.run events (.ok true) ∧ f' = f := by
  rw [path_except_ok_iff]
  constructor
  · rintro ⟨front, back, holds, rfl, path, last⟩
    cases holds with
    | false => exact nomatch (path_done_iff.1 last).2
    | true =>
      obtain ⟨rfl, same⟩ := path_done_iff.1 last
      cases same
      exact ⟨by simpa using path, rfl⟩
  · rintro ⟨path, rfl⟩
    exact ⟨events, [], true, by simp, path, .done _⟩

/-- Something that has to hold cannot be found out, or does not hold. -/
theorem path_demand_error_iff {t : ExceptT Refusal (Task host) Bool} {r r' : Refusal} {f : Found} :
    Task.Path (t >>= fun holds => if !holds then throw r else pure f).run events (.error r') ↔
      Task.Path t.run events (.error r') ∨ Task.Path t.run events (.ok false) ∧ r' = r := by
  rw [path_except_error_iff]
  refine or_congr_right ⟨?_, ?_⟩
  · rintro ⟨front, back, holds, rfl, path, last⟩
    cases holds with
    | false =>
      obtain ⟨rfl, same⟩ := path_done_iff.1 last
      cases same
      exact ⟨by simpa using path, rfl⟩
    | true => exact nomatch (path_done_iff.1 last).2
  · rintro ⟨path, rfl⟩
    exact ⟨events, [], false, by simp, path, .done _⟩

theorem path_guard_ok_iff {b : Bool} {r : Refusal} {f f' : Found} :
    Task.Path (if b then throw r else pure f : ExceptT Refusal (Task host) Found).run events
        (.ok f') ↔ events = [] ∧ b = false ∧ f' = f := by
  cases b with
  | false => exact path_done_iff.trans (by simp)
  | true => exact path_done_iff.trans (by simp)

theorem path_guard_error_iff {b : Bool} {r r' : Refusal} {f : Found} :
    Task.Path (if b then throw r else pure f : ExceptT Refusal (Task host) Found).run events
        (.error r') ↔ events = [] ∧ b = true ∧ r' = r := by
  cases b with
  | false => exact path_done_iff.trans (by simp)
  | true => exact path_done_iff.trans (by simp)

theorem timeoutFor_eq_ok_iff {s : Settings} {q : Inquiry} {seconds : UInt64} :
    timeoutFor s q = .ok seconds ↔ InRange s (q.seconds s) ∧ seconds = q.seconds s := by
  change (if q.seconds s = 0 ∨ s.maxTimeoutSeconds < q.seconds s then Except.error _ else
    Except.ok (q.seconds s)) = _ ↔ _
  split
  · rename_i out
    simp [InRange]
    grind
  · rename_i inside
    simp [InRange]
    grind

theorem timeoutFor_eq_error_iff {s : Settings} {q : Inquiry} {r : Refusal} :
    timeoutFor s q = .error r ↔ ¬ InRange s (q.seconds s) ∧ r = outOfRange s (q.seconds s) := by
  change (if q.seconds s = 0 ∨ s.maxTimeoutSeconds < q.seconds s then
    Except.error (outOfRange s (q.seconds s)) else Except.ok (q.seconds s)) = _ ↔ _
  split
  · rename_i out
    simp [InRange]
    grind
  · rename_i inside
    simp [InRange]
    grind

/-- What a probe says has to hold does, or does not. -/
theorem path_probe_iff {s : Settings} {runtime : Runtime} {f : Found}
    {result : Except Refusal Found} :
    Task.Path (checkInterpreter s runtime >>= fun _ => pure f).run events result ↔
      Task.Path (Probe.available (interpreterOf s runtime)) events true ∧ result = .ok f ∨
        Task.Path (Probe.available (interpreterOf s runtime)) events false ∧
          result = .error (.interpreterUnavailable runtime (interpreterOf s runtime)) := by
  rw [checkInterpreter, bind_assoc, path_except_lift_bind_iff]
  constructor
  · rintro ⟨front, back, holds, rfl, path, last⟩
    cases holds with
    | false =>
      obtain ⟨rfl, rfl⟩ := path_done_iff.1 last
      exact .inr ⟨by simpa using path, rfl⟩
    | true =>
      obtain ⟨rfl, rfl⟩ := path_done_iff.1 last
      exact .inl ⟨by simpa using path, rfl⟩
  · rintro (⟨path, rfl⟩ | ⟨path, rfl⟩)
    · exact ⟨events, [], true, by simp, path, .done _⟩
    · exact ⟨events, [], false, by simp, path, .done _⟩

namespace Check

variable {s : Settings} {store : ProjectStore} {q : Inquiry} {f f' : Found} {r : Refusal}

theorem step_ok_iff (c : Check) :
    Task.Path (c.step s store q f).run events (.ok f') ↔ c.Passes s store q f events f' := by
  cases c with
  | timeout =>
    refine path_except_ok_iff.trans ⟨?_, ?_⟩
    · rintro ⟨front, back, seconds, rfl, first, last⟩
      obtain ⟨rfl, found⟩ := path_except_of_iff.1 first
      obtain ⟨rfl, same⟩ := path_done_iff.1 last
      obtain ⟨inRange, rfl⟩ := timeoutFor_eq_ok_iff.1 found.symm
      cases same
      exact ⟨rfl, inRange, rfl⟩
    · rintro ⟨rfl, inRange, rfl⟩
      have found := timeoutFor_eq_ok_iff.2 ⟨inRange, rfl⟩
      exact ⟨[], [], _, rfl, path_except_of_iff.2 ⟨rfl, found.symm⟩, .done _⟩
  | projectId => exact path_guard_ok_iff.trans (by rw [Bool.not_eq_false', Passes])
  | somePath => exact path_guard_ok_iff
  | safePath => exact path_guard_ok_iff.trans (by rw [Bool.not_eq_false', Passes])
  | sourceTree => exact path_orRefuse_ok_iff.trans (by simp only [path_fromStore_ok_iff, Passes])
  | sourceEntry => exact path_orRefuse_ok_iff.trans (by simp only [path_resolveEntry_iff, Passes])
  | recorded => exact path_demand_ok_iff.trans (by rw [path_fromStore_ok_iff, Passes])
  | migratedTree => exact path_orRefuse_ok_iff.trans (by simp only [path_fromStore_ok_iff, Passes])
  | migratedEntry =>
    exact path_orRefuse_ok_iff.trans (by simp only [path_resolveEntry_iff, Passes])
  | sourceProbe => exact path_probe_iff.trans (by simp [Passes, interpreterOf])
  | targetProbe => exact path_probe_iff.trans (by simp [Passes, interpreterOf])
  | sourceText =>
    refine path_except_ask_bind_iff.trans ⟨?_, ?_⟩
    · rintro ⟨answer, rest, rfl, last⟩
      cases answer with
      | error e => exact nomatch (path_done_iff.1 last).2
      | ok bytes =>
        obtain ⟨rfl, same⟩ := path_done_iff.1 last
        cases same
        exact ⟨bytes, rfl, rfl⟩
    · rintro ⟨bytes, rfl, rfl⟩
      exact ⟨.ok bytes, [], rfl, .done _⟩

theorem step_error_iff (c : Check) :
    Task.Path (c.step s store q f).run events (.error r) ↔ c.Refuses s store q f events r := by
  cases c with
  | timeout =>
    refine path_except_error_iff.trans ⟨?_, ?_⟩
    · rintro (first | ⟨front, back, seconds, rfl, first, last⟩)
      · obtain ⟨rfl, found⟩ := path_except_of_iff.1 first
        exact ⟨rfl, timeoutFor_eq_error_iff.1 found.symm⟩
      · exact nomatch (path_done_iff.1 last).2
    · rintro ⟨rfl, refused⟩
      exact .inl (path_except_of_iff.2 ⟨rfl, (timeoutFor_eq_error_iff.2 refused).symm⟩)
  | projectId => exact path_guard_error_iff.trans (by rw [Bool.not_eq_true', Refuses])
  | somePath => exact path_guard_error_iff
  | safePath => exact path_guard_error_iff.trans (by rw [Bool.not_eq_true', Refuses])
  | sourceTree =>
    exact path_orRefuse_error_iff.trans
      (by rw [path_fromStore_error_iff, path_fromStore_ok_iff, Refuses])
  | sourceEntry =>
    exact path_orRefuse_error_iff.trans (by simp only [path_resolveEntry_iff, Refuses])
  | recorded =>
    exact path_demand_error_iff.trans
      (by rw [path_fromStore_error_iff, path_fromStore_ok_iff, Refuses])
  | migratedTree =>
    exact path_orRefuse_error_iff.trans
      (by rw [path_fromStore_error_iff, path_fromStore_ok_iff, Refuses])
  | migratedEntry =>
    exact path_orRefuse_error_iff.trans (by simp only [path_resolveEntry_iff, Refuses])
  | sourceProbe => exact path_probe_iff.trans (by simp [Refuses, interpreterOf])
  | targetProbe => exact path_probe_iff.trans (by simp [Refuses, interpreterOf])
  | sourceText =>
    refine path_except_ask_bind_iff.trans ⟨?_, ?_⟩
    · rintro ⟨answer, rest, rfl, last⟩
      cases answer with
      | error e =>
        obtain ⟨rfl, same⟩ := path_done_iff.1 last
        cases same
        exact ⟨e, rfl, rfl⟩
      | ok bytes => exact nomatch (path_done_iff.1 last).2
    · rintro ⟨e, rfl, rfl⟩
      exact ⟨.error e, [], rfl, .done _⟩

end Check

end

end Tandem.Project
