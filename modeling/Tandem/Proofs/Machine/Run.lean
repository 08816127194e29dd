import Tandem.Machine.Basic
import Tandem.Proofs.Host.Trace
import Tandem.Proofs.Machine.Files

/-!
Ways through a task on a file tree.

* `Serves`: what the answer to a call says about the files before and after it.
* `runs_of_run`: the machine in memory answers like this.
-/

namespace Tandem.Machine

open Tandem.Host Tandem.Host.Task

/-- A listing without a failure. -/
def Whole (listed : List (Except IoError Entry)) : Prop :=
  ∀ e ∈ listed, ∃ name kind, e = .ok ⟨name, .ok kind⟩

/-- A call that failed has changed nothing, one that succeeded has made this tree. -/
def Changes (root : Node) (made : Except IoError Node) (answer : Except IoError Unit)
    (root' : Node) : Prop :=
  match answer with
  | .ok () => made = .ok root'
  | .error _ => root' = root

/-- How a call may be answered, seen from a directory, and the tree after it. Any call may fail. A
listing comes in any order, and what copies or removes files may fail half way. Nothing is said of
calls during which other processes go on. -/
def Serves (cwd : List String) (root : Node) : Event host → Node → Prop
  | ⟨.environment, _⟩, root' | ⟨.processId, _⟩, root' | ⟨.nextNumber, _⟩, root' => root' = root
  | ⟨.stat path, answer⟩, root' =>
    root' = root ∧ ∀ kind, answer = .ok kind → Files.stat ⟨root, cwd⟩ path = .ok kind
  | ⟨.resolve path, answer⟩, root' =>
    root' = root ∧ ∀ place, answer = .ok place → Files.resolve ⟨root, cwd⟩ path = .ok place
  | ⟨.readFile path, answer⟩, root' =>
    root' = root ∧ ∀ bytes, answer = .ok bytes → Files.read ⟨root, cwd⟩ path = .ok bytes
  | ⟨.listDir path, answer⟩, root' =>
    root' = root ∧ ∀ listed, answer = .ok listed → Whole listed →
      ∃ all, Files.listDir ⟨root, cwd⟩ path = .ok all ∧ listed.Perm all
  | ⟨.createDir path, answer⟩, root' =>
    Changes root (Files.createDir ⟨root, cwd⟩ path) answer root'
  | ⟨.setMode path mode, answer⟩, root' =>
    Changes root (Files.setMode ⟨root, cwd⟩ path mode) answer root'
  | ⟨.copyFile source target, answer⟩, root' =>
    answer = .ok () → Files.copy ⟨root, cwd⟩ source target = .ok root'
  | ⟨.removeTree path, answer⟩, root' =>
    answer = .ok () → Files.removeTree ⟨root, cwd⟩ path = .ok root'
  | _, _ => True

/-- The tree after some calls, one after the other. -/
inductive Runs (cwd : List String) : Node → List (Event host) → Node → Prop where
  | done (root : Node) : Runs cwd root [] root
  | call {root next root' : Node} {e : Event host} {rest : List (Event host)}
    (serves : Serves cwd root e next) (more : Runs cwd next rest root') :
    Runs cwd root (e :: rest) root'

section
variable {cwd : List String} {root root' : Node} {e : Event host}
  {rest front back : List (Event host)}

theorem runs_nil_iff : Runs cwd root [] root' ↔ root' = root := by
  constructor
  · intro h
    cases h
    rfl
  · rintro rfl
    exact .done _

theorem runs_cons_iff :
    Runs cwd root (e :: rest) root' ↔
      ∃ next, Serves cwd root e next ∧ Runs cwd next rest root' := by
  constructor
  · intro h
    cases h with
    | call serves more => exact ⟨_, serves, more⟩
  · rintro ⟨next, serves, more⟩
    exact .call serves more

theorem runs_append_iff :
    Runs cwd root (front ++ back) root' ↔
      ∃ next, Runs cwd root front next ∧ Runs cwd next back root' := by
  induction front generalizing root with
  | nil => simp [runs_nil_iff]
  | cons e front ih =>
    simp only [List.cons_append, runs_cons_iff, ih]
    constructor
    · rintro ⟨first, serves, next, runs, more⟩
      exact ⟨next, ⟨first, serves, runs⟩, more⟩
    · rintro ⟨next, ⟨first, serves, runs⟩, more⟩
      exact ⟨first, serves, next, runs, more⟩

/-- A task that asks is answered as the files allow, and goes on from there. -/
theorem runs_ask {α : Type} {c : Call} {f : host.Reply c → Task host α} {a : α}
    {events : List (Event host)} (path : Task.Path (ask c >>= f) events a)
    (runs : Runs cwd root events root') : ∃ answer next rest, Serves cwd root ⟨c, answer⟩ next ∧
      Task.Path (f answer) rest a ∧ Runs cwd next rest root' := by
  obtain ⟨answer, rest, rfl, tail⟩ := path_ask_bind_iff.1 path
  obtain ⟨next, serves, more⟩ := runs_cons_iff.1 runs
  exact ⟨answer, next, rest, serves, tail, more⟩

end

/-! ## The machine -/

section
variable (programs : Programs) (m : Machine)

theorem changes_changing (made : Except IoError Node) :
    Changes m.files made (m.changing made).1 (m.changing made).2.files := by
  cases made <;> rfl

theorem changing_ok {made : Except IoError Node} (h : (m.changing made).1 = .ok ()) :
    made = .ok (m.changing made).2.files := by
  cases made with
  | error e => cases h
  | ok files => rfl

theorem serves_answer (c : Call) :
    Serves m.directory m.files ⟨c, (m.answer programs c).1⟩ (m.answer programs c).2.files := by
  cases c with
  | stat path => exact ⟨rfl, fun kind => id⟩
  | resolve path => exact ⟨rfl, fun place => id⟩
  | readFile path => exact ⟨rfl, fun bytes => id⟩
  | listDir path => exact ⟨rfl, fun listed shown _ => ⟨listed, shown, .refl _⟩⟩
  | createDir path => exact changes_changing m _
  | setMode path mode => exact changes_changing m _
  | copyFile source target => exact changing_ok m
  | removeTree path => exact changing_ok m
  | _ => trivial

theorem runProcess_directory (p : Process) :
    (m.runProcess programs p).directory = m.directory := by
  rw [Machine.runProcess.eq_def]
  split <;> rfl

theorem runReady_directory : (m.runReady programs).directory = m.directory := by
  have all (processes : List Process) (m : Machine) :
      (processes.foldl (Machine.runProcess programs) m).directory = m.directory := by
    induction processes generalizing m with
    | nil => rfl
    | cons p processes ih => rw [List.foldl_cons, ih, runProcess_directory]
  exact all m.processes m

theorem reap_directory (pid : UInt32) : (m.reap pid).2.directory = m.directory := by
  rw [Machine.reap]
  split <;> rfl

theorem changing_directory (made : Except IoError Node) :
    (m.changing made).2.directory = m.directory := by
  cases made <;> rfl

theorem spawn_directory (launch : Launch) : (m.spawn launch).2.directory = m.directory := by
  rw [Machine.spawn]
  split <;> rfl

theorem signalGroup_directory (group : UInt32) (signal : Signal) :
    (m.signalGroup group signal).2.directory = m.directory := by
  rw [Machine.signalGroup]
  split
  · cases signal <;> rfl
  · rfl

/-- The machine stays in its directory. -/
theorem answer_directory (c : Call) : (m.answer programs c).2.directory = m.directory := by
  cases c with
  | sleep wait => exact runReady_directory programs m
  | createDir | setMode | copyFile | removeTree => exact changing_directory m _
  | spawn launch => exact spawn_directory m launch
  | poll pid => exact reap_directory m pid
  | wait pid =>
    have stays := (reap_directory (m.runReady programs) pid).trans (runReady_directory programs m)
    rw [Machine.answer]
    split <;> simp_all
  | signalGroup group signal => exact signalGroup_directory m group signal
  | _ => rfl

/-- The machine answers the calls of a task as a file system may. -/
theorem runs_of_run {α : Type} (t : Task host α) :
    ∃ events, Task.Path t events (m.run programs t).1 ∧
      Runs m.directory m.files events (m.run programs t).2.files := by
  induction t generalizing m with
  | done a => exact ⟨[], .done a, .done _⟩
  | call c next ih =>
    obtain ⟨events, path, runs⟩ := ih (m.answer programs c).1 (m.answer programs c).2
    rw [answer_directory] at runs
    exact ⟨_, .call c _ path, .call (serves_answer programs m c) runs⟩

end

end Tandem.Machine
