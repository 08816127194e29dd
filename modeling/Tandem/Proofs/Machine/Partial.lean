import Tandem.Proofs.Machine.Run

/-!
Ways through a task on a file tree where calls fail half way.

* `Spares`: what a call leaves alone that fails, and what a listing shows that is not whole.
* `spared_of_run`: the machine in memory answers like this.
-/

namespace Tandem.Machine

open Tandem.Host Tandem.Host.Task

/-- What a listing tells of an entry, unless it could not be read. -/
def told? : Except IoError Entry → Option (String × FileKind)
  | .ok ⟨name, .ok kind⟩ => some (name, kind)
  | _ => none

/-- What may be said of a call that does not do all that it was to do. A listing may leave entries
out, and tells of nothing that is not there. A file that is not copied may be there in part. -/
def Spares (cwd : List String) (root : Node) : Event host → Node → Prop
  | ⟨.listDir path, answer⟩, _ =>
    ∀ listed, answer = .ok listed → ∃ all order : List (Except IoError Entry),
      Files.listDir ⟨root, cwd⟩ path = .ok all ∧ order.Perm all ∧
        (listed.filterMap told?).Sublist (order.filterMap told?)
  | ⟨.copyFile _ target, answer⟩, root' =>
    ∀ e, answer = .error e →
      root' = root ∨ ∃ bytes, Files.write ⟨root, cwd⟩ target false bytes = .ok root'
  | _, _ => True

/-- The tree after some calls, any of which may have failed at any point. -/
inductive Spared (cwd : List String) : Node → List (Event host) → Node → Prop where
  | done (root : Node) : Spared cwd root [] root
  | call {root next root' : Node} {e : Event host} {rest : List (Event host)}
    (serves : Serves cwd root e next) (spares : Spares cwd root e next)
    (more : Spared cwd next rest root') : Spared cwd root (e :: rest) root'

section
variable {cwd : List String} {root root' : Node} {e : Event host}
  {rest front back events : List (Event host)}

theorem Spared.runs (h : Spared cwd root events root') : Runs cwd root events root' := by
  induction h with
  | done root => exact .done root
  | call serves _ _ ih => exact .call serves ih

theorem spared_nil_iff : Spared cwd root [] root' ↔ root' = root := by
  constructor
  · intro h
    cases h
    rfl
  · rintro rfl
    exact .done _

theorem spared_cons_iff :
    Spared cwd root (e :: rest) root' ↔
      ∃ next, Serves cwd root e next ∧ Spares cwd root e next ∧ Spared cwd next rest root' := by
  constructor
  · intro h
    cases h with
    | call serves spares more => exact ⟨_, serves, spares, more⟩
  · rintro ⟨next, serves, spares, more⟩
    exact .call serves spares more

theorem spared_append_iff :
    Spared cwd root (front ++ back) root' ↔
      ∃ next, Spared cwd root front next ∧ Spared cwd next back root' := by
  induction front generalizing root with
  | nil => simp [spared_nil_iff]
  | cons e front ih =>
    simp only [List.cons_append, spared_cons_iff, ih]
    constructor
    · rintro ⟨first, serves, spares, next, front, back⟩
      exact ⟨next, ⟨first, serves, spares, front⟩, back⟩
    · rintro ⟨next, ⟨first, serves, spares, front⟩, back⟩
      exact ⟨first, serves, spares, next, front, back⟩

/-- A task that asks is answered as the files allow, and goes on from there. -/
theorem spared_ask {α : Type} {c : Call} {f : host.Reply c → Task host α} {a : α}
    (path : Task.Path (ask c >>= f) events a) (spared : Spared cwd root events root') :
    ∃ answer next rest, Serves cwd root ⟨c, answer⟩ next ∧ Spares cwd root ⟨c, answer⟩ next ∧
      events = ⟨c, answer⟩ :: rest ∧ Task.Path (f answer) rest a ∧ Spared cwd next rest root' := by
  obtain ⟨answer, rest, rfl, tail⟩ := path_ask_bind_iff.1 path
  obtain ⟨next, serves, spares, more⟩ := spared_cons_iff.1 spared
  exact ⟨answer, next, rest, serves, spares, rfl, tail, more⟩

end

/-! ## The machine -/

section
variable (programs : Programs) (m : Machine)

theorem changing_error {made : Except IoError Node} {e : IoError}
    (h : (m.changing made).1 = .error e) : (m.changing made).2.files = m.files := by
  cases made with
  | error e => rfl
  | ok files => cases h

theorem spares_answer (c : Call) :
    Spares m.directory m.files ⟨c, (m.answer programs c).1⟩ (m.answer programs c).2.files := by
  cases c with
  | listDir path => exact fun listed shown => ⟨listed, listed, shown, .refl _, .refl _⟩
  | copyFile source target => exact fun e failed => .inl (changing_error m failed)
  | _ => trivial

/-- The machine answers the calls of a task as a file system may that fails now and then. -/
theorem spared_of_run {α : Type} (t : Task host α) :
    ∃ events, Task.Path t events (m.run programs t).1 ∧
      Spared m.directory m.files events (m.run programs t).2.files := by
  induction t generalizing m with
  | done a => exact ⟨[], .done a, .done _⟩
  | call c next ih =>
    obtain ⟨events, path, spared⟩ := ih (m.answer programs c).1 (m.answer programs c).2
    rw [answer_directory] at spared
    exact ⟨_, .call c _ path,
      .call (serves_answer programs m c) (spares_answer programs m c) spared⟩

end

end Tandem.Machine
