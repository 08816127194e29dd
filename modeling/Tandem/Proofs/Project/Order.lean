import Tandem.Proofs.Project.Checks
import Tandem.Proofs.Sandbox.Teardown

/-!
The order in which a comparison is refused.

* `path_steps_error_iff`: checks in a row fail with the first one that fails.
* `compare_refuses_first`: that is what a comparison is refused with, and what happens before a
  refusal is no more than the checks so far have to look at.
-/

namespace Tandem.Project

open Tandem.Config Tandem.Host Tandem.Host.Task Tandem.Sandbox

section
variable (s : Settings) (store : ProjectStore) (q : Inquiry)

/-- Checks pass one after the other. -/
def Passed (f : Found) : List Check → List (Event host) → Found → Prop
  | [], events, f' => events = [] ∧ f' = f
  | c :: cs, events, f' =>
    ∃ front back g, events = front ++ back ∧ c.Passes s store q f front g ∧ Passed g cs back f'

/-- A check fails and all before it have passed. -/
def Refused (c : Check) (events : List (Event host)) (r : Refusal) : Prop :=
  ∃ before after front back f, Check.all = before ++ c :: after ∧ events = front ++ back ∧
    Passed s store q .nothing before front f ∧ c.Refuses s store q f back r

end

section
variable {s : Settings} {store : ProjectStore} {q : Inquiry} {events : List (Event host)}

theorem path_steps_ok_iff {cs : List Check} {f f' : Found} :
    Task.Path (cs.foldlM (Check.step s store q) f).run events (.ok f') ↔
      Passed s store q f cs events f' := by
  induction cs generalizing f events with
  | nil => exact path_done_iff.trans (by simp [Passed])
  | cons c cs ih => simp only [List.foldlM_cons, path_except_ok_iff, Check.step_ok_iff, ih, Passed]

/-- Checks in a row fail with the first one that fails. -/
theorem path_steps_error_iff {cs : List Check} {f : Found} {r : Refusal} :
    Task.Path (cs.foldlM (Check.step s store q) f).run events (.error r) ↔
      ∃ before c after front back g, cs = before ++ c :: after ∧ events = front ++ back ∧
        Passed s store q f before front g ∧ c.Refuses s store q g back r := by
  induction cs generalizing f events with
  | nil =>
    constructor
    · exact fun path => nomatch (path_done_iff.1 path).2
    · rintro ⟨before, c, after, -, -, -, split, -⟩
      cases before <;> cases split
  | cons c cs ih =>
    rw [List.foldlM_cons, path_except_error_iff, Check.step_error_iff]
    constructor
    · rintro (refuses | ⟨front, back, g, rfl, passes, tail⟩)
      · exact ⟨[], c, cs, [], events, f, rfl, rfl, ⟨rfl, rfl⟩, refuses⟩
      · obtain ⟨before, c', after, front', back', g', rfl, rfl, passed, refuses⟩ := ih.1 tail
        exact ⟨c :: before, c', after, front ++ front', back', g', rfl, by simp,
          ⟨front, front', g, rfl, Check.step_ok_iff c |>.1 passes, passed⟩, refuses⟩
    · rintro ⟨before, c', after, front, back, g, split, rfl, passed, refuses⟩
      cases before with
      | nil =>
        obtain ⟨rfl, rfl⟩ := List.cons.inj split
        obtain ⟨rfl, rfl⟩ := passed
        exact .inl refuses
      | cons first before =>
        obtain ⟨rfl, rfl⟩ := List.cons.inj split
        obtain ⟨front, back', g', rfl, passes, passed⟩ := passed
        refine .inr ⟨front, back' ++ back, g', by simp, Check.step_ok_iff _ |>.2 passes, ?_⟩
        exact ih.2 ⟨before, c', after, back', back, g, rfl, rfl, passed, refuses⟩

theorem path_check_ok_iff {plan : Plan} :
    Task.Path (check s store q).run events (.ok plan) ↔
      ∃ f, Passed s store q .nothing Check.all events f ∧ plan = f.plan q := by
  rw [check_eq_steps, path_except_ok_iff]
  constructor
  · rintro ⟨front, back, f, rfl, steps, last⟩
    obtain ⟨rfl, same⟩ := path_done_iff.1 last
    cases same
    exact ⟨f, by simpa using path_steps_ok_iff.1 steps, rfl⟩
  · rintro ⟨f, passed, rfl⟩
    exact ⟨events, [], f, by simp, path_steps_ok_iff.2 passed, .done _⟩

theorem path_check_error_iff {r : Refusal} :
    Task.Path (check s store q).run events (.error r) ↔ ∃ c, Refused s store q c events r := by
  rw [check_eq_steps, path_except_error_iff, path_steps_error_iff]
  constructor
  · rintro (⟨before, c, refused⟩ | ⟨front, back, f, rfl, steps, last⟩)
    · exact ⟨c, before, refused⟩
    · exact nomatch (path_done_iff.1 last).2
  · rintro ⟨c, before, refused⟩
    exact .inl ⟨before, c, refused⟩

/-- Both sides of a plan. -/
def bothSides (s : Settings) (plan : Plan) : Task host (Record × Record) :=
  both (runSide s plan .source) (runSide s plan .target)

theorem path_compare_error_iff {r : Refusal} :
    Task.Path (compare s store q) events (.error r) ↔ ∃ c, Refused s store q c events r := by
  rw [← path_check_error_iff, compare, path_bind_iff]
  constructor
  · rintro ⟨front, back, result, rfl, checked, last⟩
    cases result with
    | error r' =>
      obtain ⟨rfl, same⟩ := path_done_iff.1 last
      cases same
      simpa using checked
    | ok plan =>
      obtain ⟨_, _, sides, rfl, -, last⟩ := path_bind_iff.1 last
      exact nomatch (path_done_iff.1 last).2
  · intro checked
    exact ⟨events, [], .error r, by simp, checked, .done _⟩

theorem path_compare_ok_iff {o : Outcome} :
    Task.Path (compare s store q) events (.ok o) ↔
      ∃ f front back sides, events = front ++ back ∧ Passed s store q .nothing Check.all front f ∧
        Task.Path (bothSides s (f.plan q)) back sides ∧
        o = conclude (f.plan q) (some sides.1) (some sides.2) := by
  rw [compare, path_bind_iff]
  constructor
  · rintro ⟨front, back, result, rfl, checked, tail⟩
    cases result with
    | error r' => exact nomatch (path_done_iff.1 tail).2
    | ok plan =>
      obtain ⟨f, passed, rfl⟩ := path_check_ok_iff.1 checked
      obtain ⟨back, rest, sides, rfl, ran, last⟩ := path_bind_iff.1 tail
      obtain ⟨rfl, same⟩ := path_done_iff.1 last
      cases same
      exact ⟨f, front, back, sides, by simp, passed, ran, rfl⟩
  · rintro ⟨f, front, back, sides, rfl, passed, ran, rfl⟩
    refine ⟨front, back, .ok (f.plan q), rfl, path_check_ok_iff.2 ⟨f, passed, rfl⟩, ?_⟩
    exact path_bind_iff.2 ⟨back, [], sides, by simp, ran, .done _⟩

end

/-! ## What the checks call -/

/-- The calls that look a file up. -/
def LooksUp : Call → Prop
  | .resolve _ => True
  | .stat _ => True
  | _ => False

/-- The calls that try an interpreter. It is started without a file to run and where it stands. -/
def Tries : Call → Prop
  | .environment => True
  | .now => True
  | .sleep _ => True
  | .spawn launch => launch.arguments = ["--version"] ∧ launch.directory = none
  | .poll _ => True
  | .wait _ => True
  | .killChild _ => True
  | .signalGroup .. => True
  | _ => False

/-- The calls of all checks but those of the store. -/
def Examines (c : Call) : Prop :=
  LooksUp c ∨ Tries c ∨ ∃ file, c = .readFile file

/-- A store makes no calls but these. -/
structure ProjectStore.Calls (p : Call → Prop) (store : ProjectStore) : Prop where
  sourceTree : ∀ id, Task.Calls p (store.sourceTree id)
  migratedTree : ∀ id, Task.Calls p (store.migratedTree id)
  isMigrated : ∀ id file, Task.Calls p (store.isMigrated id file)

theorem located_looksUp {tree file : Path} {events : List (Event host)}
    {result : Except Refusal (Option Path)} (located : Located tree file events result) :
    ∀ e ∈ events, LooksUp e.1 := by
  cases located <;> simp [LooksUp]

theorem abort_tries (g : Guest) : Task.Calls Tries g.abort :=
  abort_calls (fun _ _ => trivial) trivial trivial

theorem await_tries (g : Guest) (deadline : Option Duration) (polls : Nat) :
    Task.Calls Tries (Probe.await g deadline polls) := by
  unfold Probe.await
  refine calls_bind (calls_ask trivial) fun answer => ?_
  match answer, polls with
  | .ok (some ending), _ => exact calls_done _
  | .error e, _ => exact calls_bind (abort_tries g) fun _ => calls_done _
  | .ok none, 0 => exact calls_bind (abort_tries g) fun _ => calls_done _
  | .ok none, polls + 1 =>
    refine calls_bind (calls_ask trivial) fun now => ?_
    split
    · exact calls_bind (abort_tries g) fun _ => calls_done _
    · exact calls_bind (calls_ask trivial) fun _ => await_tries g deadline polls

theorem available_tries (interpreter : Path) : Task.Calls Tries (Probe.available interpreter) := by
  refine calls_bind (calls_ask trivial) fun env => ?_
  refine calls_bind (calls_ask ⟨rfl, rfl⟩) fun answer => ?_
  cases answer with
  | error e => exact calls_done _
  | ok child => exact calls_bind (calls_ask trivial) fun now => await_tries _ _ _

namespace Check

/-- The calls of a check where those of the store are `p`. -/
def MayCall (p : Call → Prop) (c : Call) : Check → Prop
  | timeout => False
  | projectId => False
  | somePath => False
  | safePath => False
  | sourceTree => p c
  | sourceEntry => LooksUp c
  | recorded => p c
  | migratedTree => p c
  | migratedEntry => LooksUp c
  | sourceProbe => Tries c
  | targetProbe => Tries c
  | sourceText => ∃ file, c = .readFile file

/-- Where a check stands in the order. -/
def rank (c : Check) : Nat := all.idxOf c

/-- The words for what a check refuses a comparison with. -/
def kinds : Check → List String
  | timeout => ["invalid_request"]
  | projectId => ["invalid_project_id"]
  | somePath => ["invalid_request"]
  | safePath => ["path_traversal"]
  | sourceTree => ["store", "project_not_found"]
  | sourceEntry => ["store", "path_traversal", "file_not_found"]
  | recorded => ["store", "not_migrated"]
  | migratedTree => ["store", "not_migrated"]
  | migratedEntry => ["store", "path_traversal", "not_migrated"]
  | sourceProbe => ["interpreter_unavailable"]
  | targetProbe => ["interpreter_unavailable"]
  | sourceText => ["store"]

variable {p : Call → Prop} {s : Settings} {store : ProjectStore} {q : Inquiry} {f f' : Found}
  {events : List (Event host)} {r : Refusal}

theorem step_calls (reads : store.Calls p) (c : Check) :
    Task.Calls (c.MayCall p) (c.step s store q f).run := by
  have asked {α : Type} {p : Call → Prop} {t : Task host (Except Chain α)} (h : Task.Calls p t) :
      Task.Calls p (fromStore t).run := by
    refine calls_except_bind (calls_except_lift h) fun answer => ?_
    cases answer <;> exact calls_done _
  have there {α : Type} {p : Call → Prop} {r : Refusal} (found : Option α) :
      Task.Calls p (orRefuse r found).run := by
    cases found <;> exact calls_done _
  have located (tree : Path) : Task.Calls LooksUp (resolveEntry tree q.file).run :=
    fun events result path => located_looksUp (path_resolveEntry_iff.1 path)
  have tried (runtime : Runtime) : Task.Calls Tries (checkInterpreter s runtime).run := by
    refine calls_except_bind (calls_except_lift (available_tries _)) fun holds => ?_
    cases holds <;> exact calls_done _
  cases c with
  | timeout => exact calls_except_bind (calls_done _) fun _ => calls_done _
  | projectId =>
    rw [step]
    split <;> exact calls_done _
  | somePath =>
    rw [step]
    split <;> exact calls_done _
  | safePath =>
    rw [step]
    split <;> exact calls_done _
  | sourceTree =>
    exact calls_except_bind (asked (reads.sourceTree _)) fun found =>
      calls_except_bind (there found) fun _ => calls_done _
  | sourceEntry =>
    exact calls_except_bind (located _) fun found =>
      calls_except_bind (there found) fun _ => calls_done _
  | recorded =>
    refine calls_except_bind (asked (reads.isMigrated _ _)) fun marked => ?_
    cases marked <;> exact calls_done _
  | migratedTree =>
    exact calls_except_bind (asked (reads.migratedTree _)) fun found =>
      calls_except_bind (there found) fun _ => calls_done _
  | migratedEntry =>
    exact calls_except_bind (located _) fun found =>
      calls_except_bind (there found) fun _ => calls_done _
  | sourceProbe => exact calls_except_bind (tried _) fun _ => calls_done _
  | targetProbe => exact calls_except_bind (tried _) fun _ => calls_done _
  | sourceText =>
    refine calls_except_bind (calls_except_lift (calls_ask ⟨_, rfl⟩)) fun answer => ?_
    cases answer <;> exact calls_done _

theorem kind_mem_of_located {tree file : Path} (located : Located tree file events (.error r)) :
    r.kind ∈ ["store", "path_traversal"] := by
  cases located <;> simp [Refusal.kind]

theorem kind_mem (c : Check) (refuses : c.Refuses s store q f events r) : r.kind ∈ c.kinds := by
  cases c with
  | timeout =>
    obtain ⟨-, -, rfl⟩ := refuses
    simp [kinds, outOfRange, Refusal.kind]
  | projectId =>
    obtain ⟨-, -, rfl⟩ := refuses
    simp [kinds, Refusal.kind]
  | somePath =>
    obtain ⟨-, -, rfl⟩ := refuses
    simp [kinds, Refusal.kind]
  | safePath =>
    obtain ⟨-, -, rfl⟩ := refuses
    simp [kinds, Refusal.kind]
  | sourceTree =>
    obtain ⟨e, -, rfl⟩ | ⟨-, rfl⟩ := refuses <;> simp [kinds, Refusal.kind]
  | sourceEntry =>
    obtain located | ⟨-, rfl⟩ := refuses
    · have kind := kind_mem_of_located located
      grind [kinds]
    · simp [kinds, Refusal.kind]
  | recorded =>
    obtain ⟨e, -, rfl⟩ | ⟨-, rfl⟩ := refuses <;> simp [kinds, Refusal.kind]
  | migratedTree =>
    obtain ⟨e, -, rfl⟩ | ⟨-, rfl⟩ := refuses <;> simp [kinds, Refusal.kind]
  | migratedEntry =>
    obtain located | ⟨-, rfl⟩ := refuses
    · have kind := kind_mem_of_located located
      grind [kinds]
    · simp [kinds, Refusal.kind]
  | sourceProbe =>
    obtain ⟨-, rfl⟩ := refuses
    simp [kinds, Refusal.kind]
  | targetProbe =>
    obtain ⟨-, rfl⟩ := refuses
    simp [kinds, Refusal.kind]
  | sourceText =>
    obtain ⟨e, -, rfl⟩ := refuses
    simp [kinds, Refusal.kind]

theorem not_refuses_of_passes (c : Check) (passes : c.Passes s store q f events f') :
    ¬ c.Refuses s store q f events r :=
  fun refuses => nomatch path_unique ((step_ok_iff c).2 passes) ((step_error_iff c).2 refuses)

end Check

/-! ## The order of refusal and of effects -/

section
variable {p : Call → Prop} {s : Settings} {store : ProjectStore} {q : Inquiry}
  {events : List (Event host)} {r : Refusal}

theorem passed_calls (reads : store.Calls p) {cs : List Check} {f f' : Found}
    (passed : Passed s store q f cs events f') :
    ∀ e ∈ events, ∃ c ∈ cs, c.MayCall p e.1 := by
  induction cs generalizing f events with
  | nil =>
    obtain ⟨rfl, -⟩ := passed
    simp
  | cons c cs ih =>
    obtain ⟨front, back, g, rfl, passes, rest⟩ := passed
    refine List.forall_mem_append.2 ⟨fun e he => ?_, fun e he => ?_⟩
    · have may := Check.step_calls reads c _ _ ((Check.step_ok_iff c).2 passes) e he
      exact ⟨c, List.mem_cons_self .., may⟩
    · obtain ⟨c', hc', may⟩ := ih rest e he
      exact ⟨c', List.mem_cons_of_mem _ hc', may⟩

theorem rank_lt_of_split {before after : List Check} {c : Check}
    (split : Check.all = before ++ c :: after) : ∀ c' ∈ before, c'.rank < c.rank := by
  have sorted : Check.all.Pairwise fun a b => a.rank < b.rank := by decide
  rw [split] at sorted
  exact fun c' hc' => (List.pairwise_append.1 sorted).2.2 c' hc' c (List.mem_cons_self ..)

/-- Up to a refusal, the failing check and those before it have made calls, and nothing else has. -/
theorem refused_calls (reads : store.Calls p) {c : Check} (refused : Refused s store q c events r) :
    ∀ e ∈ events, ∃ c' : Check, c'.rank ≤ c.rank ∧ c'.MayCall p e.1 := by
  obtain ⟨before, after, front, back, f, split, rfl, passed, refuses⟩ := refused
  refine List.forall_mem_append.2 ⟨fun e he => ?_, fun e he => ?_⟩
  · obtain ⟨c', hc', may⟩ := passed_calls reads passed e he
    exact ⟨c', Nat.le_of_lt (rank_lt_of_split split c' hc'), may⟩
  · have may := Check.step_calls reads c _ _ ((Check.step_error_iff c).2 refuses) e he
    exact ⟨c, Nat.le_refl _, may⟩

theorem not_mayCall_of_request {c : Check} (h : c.rank < Check.sourceTree.rank) {a : Call} :
    ¬ c.MayCall p a := by
  cases c <;> first | exact id | exact absurd h (by decide)

theorem looksUp_of_mayCall {c : Check} (h : c.rank < Check.sourceProbe.rank) {a : Call}
    (may : c.MayCall p a) : p a ∨ LooksUp a := by
  cases c <;> simp_all [Check.MayCall] <;> exact absurd h (by decide)

theorem examines_of_mayCall {c : Check} {a : Call} (may : c.MayCall p a) : p a ∨ Examines a := by
  cases c <;> simp_all [Check.MayCall, Examines]

/-- A comparison is refused just where a check fails, and with what the first one that fails says.
Before a check of the request nothing is called, before the probes files are looked up at most, and
before all checks have passed nothing is changed and no file is run. -/
theorem compare_refuses_first (s : Settings) (store : ProjectStore) (q : Inquiry) (p : Call → Prop)
    (reads : store.Calls p) :
    (∀ events r, Task.Path (compare s store q) events (.error r) ↔
      ∃ c, Refused s store q c events r) ∧
    (∀ events o, Task.Path (compare s store q) events (.ok o) ↔
      ∃ f front back sides, events = front ++ back ∧
        Passed s store q .nothing Check.all front f ∧
        Task.Path (bothSides s (f.plan q)) back sides ∧
        o = conclude (f.plan q) (some sides.1) (some sides.2)) ∧
    (∀ (c : Check) f events f' r, c.Passes s store q f events f' →
      ¬ c.Refuses s store q f events r) ∧
    (∀ c events r, Refused s store q c events r →
      r.kind ∈ c.kinds ∧
      (c.rank < Check.sourceTree.rank → events = []) ∧
      (c.rank < Check.sourceProbe.rank → ∀ e ∈ events, p e.1 ∨ LooksUp e.1) ∧
      ∀ e ∈ events, p e.1 ∨ Examines e.1) ∧
    ∀ front f, Passed s store q .nothing Check.all front f → ∀ e ∈ front, p e.1 ∨ Examines e.1 := by
  refine ⟨fun _ _ => path_compare_error_iff, fun _ _ => path_compare_ok_iff,
    fun c _ _ _ _ => Check.not_refuses_of_passes c, fun c events r refused => ?_,
    fun front f passed e he => ?_⟩
  · have calls := refused_calls reads refused
    refine ⟨?_, fun early => ?_, fun early e he => ?_, fun e he => ?_⟩
    · obtain ⟨before, after, front, back, f, -, -, -, refuses⟩ := refused
      exact c.kind_mem refuses
    · refine List.eq_nil_iff_forall_not_mem.2 fun e he => ?_
      obtain ⟨c', up, may⟩ := calls e he
      exact not_mayCall_of_request (Nat.lt_of_le_of_lt up early) may
    · obtain ⟨c', up, may⟩ := calls e he
      exact looksUp_of_mayCall (Nat.lt_of_le_of_lt up early) may
    · obtain ⟨c', -, may⟩ := calls e he
      exact examines_of_mayCall may
  · obtain ⟨c', -, may⟩ := passed_calls reads passed e he
    exact examines_of_mayCall may

end

/-! ## Projects on disk -/

/-- The calls of a store on disk. -/
def Reads : Call → Prop
  | .stat _ => True
  | .readFile _ => True
  | _ => False

theorem diskStore_reads (d : DiskStore) : d.store.Calls Reads := by
  have tree (id name : String) : Task.Calls Reads (d.tree id name) := by
    rw [DiskStore.tree]
    cases d.projectDir id with
    | error e => exact calls_done _
    | ok dir =>
      refine calls_bind (calls_ask trivial) fun answer => ?_
      match answer with
      | .ok .directory | .ok .file | .ok .link | .ok .special | .error _ => exact calls_done _
  have state (id : String) : Task.Calls Reads (d.state id) := by
    rw [DiskStore.state]
    cases d.projectDir id with
    | error e => exact calls_done _
    | ok dir =>
      refine calls_bind (calls_bind (calls_ask trivial) fun answer => ?_) fun text => ?_
      · cases answer with
        | error e => exact calls_done _
        | ok bytes =>
          dsimp only
          split <;> exact calls_done _
      · cases text with
        | error e =>
          dsimp only
          split <;> exact calls_done _
        | ok text =>
          dsimp only
          split <;> exact calls_done _
  exact ⟨fun id => tree id _, fun id => tree id _, fun id _ => calls_bind (state id) fun _ =>
    calls_done _⟩

theorem compare_refuses_first_missing : (DiskStore.mk ⟨"/projects"⟩).store.Calls Reads ∧
    ∃ c, Refused (.standard ⟨"/tmp"⟩) (DiskStore.mk ⟨"/projects"⟩).store
      ⟨"demo", ⟨"main.py"⟩, none, none⟩ c
      [⟨.stat ⟨"/projects/demo/source"⟩, .error (.plain .notFound)⟩] (.projectNotFound "demo") := by
  have reads := diskStore_reads ⟨⟨"/projects"⟩⟩
  obtain ⟨refused, -⟩ :=
    compare_refuses_first (.standard ⟨"/tmp"⟩) _ ⟨"demo", ⟨"main.py"⟩, none, none⟩ _ reads
  refine ⟨reads, (refused _ _).1 (path_of_replay ?_)⟩
  rfl

end Tandem.Project
