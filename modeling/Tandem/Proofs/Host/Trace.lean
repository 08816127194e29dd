import Tandem.Host.Call

/-!
Ways through a task.

* `path_bind_iff`: a way through two tasks in a row is a way through each.
* `Calls`: a task makes no call but these, whatever is answered.
* `replay`: what a task comes to along given answers.
-/

/-! ## Steps that can fail -/

namespace Tandem

theorem bind_ok_iff {ε α β : Type} {x : Except ε α} {f : α → Except ε β} {b : β} :
    x >>= f = .ok b ↔ ∃ a, x = .ok a ∧ f a = .ok b := by
  cases x with
  | error e => exact ⟨(nomatch ·), fun ⟨_, h, _⟩ => nomatch h⟩
  | ok a => exact ⟨fun h => ⟨a, rfl, h⟩, fun ⟨_, same, h⟩ => Except.ok.inj same ▸ h⟩

theorem map_ok_iff {ε α β : Type} {x : Except ε α} {f : α → β} {b : β} :
    f <$> x = .ok b ↔ ∃ a, x = .ok a ∧ b = f a := by
  cases x with
  | error e => exact ⟨(nomatch ·), fun ⟨_, h, _⟩ => nomatch h⟩
  | ok a =>
    exact ⟨fun h => ⟨a, rfl, (Except.ok.inj h).symm⟩, fun ⟨_, same, h⟩ =>
      congrArg Except.ok (h ▸ congrArg f (Except.ok.inj same))⟩

end Tandem

namespace Tandem.Host.Task

section
variable {I J : Interface} {α β : Type}

theorem path_done_iff {a b : α} {events : List (Event I)} :
    Path (done a) events b ↔ events = [] ∧ b = a := by
  constructor
  · intro h
    cases h
    exact ⟨rfl, rfl⟩
  · rintro ⟨rfl, rfl⟩
    exact .done b

theorem path_call_iff {c : I.Call} {next : I.Reply c → Task I α} {events : List (Event I)} {a : α} :
    Path (call c next) events a ↔ ∃ r rest, events = ⟨c, r⟩ :: rest ∧ Path (next r) rest a := by
  constructor
  · intro h
    cases h with
    | call c r rest => exact ⟨r, _, rfl, rest⟩
  · rintro ⟨r, rest, rfl, h⟩
    exact .call c r h

theorem path_bind_iff {t : Task I α} {f : α → Task I β} {events : List (Event I)} {b : β} :
    Path (t >>= f) events b ↔
      ∃ front back a, events = front ++ back ∧ Path t front a ∧ Path (f a) back b := by
  induction t generalizing events with
  | done a =>
    constructor
    · exact fun h => ⟨[], events, a, rfl, .done a, h⟩
    · rintro ⟨front, back, a', rfl, h, h'⟩
      obtain ⟨rfl, rfl⟩ := path_done_iff.1 h
      exact h'
  | call c next ih =>
    simp only [call_bind, path_call_iff, ih]
    constructor
    · rintro ⟨r, -, rfl, front, back, a, rfl, h, h'⟩
      exact ⟨⟨c, r⟩ :: front, back, a, rfl, ⟨r, front, rfl, h⟩, h'⟩
    · rintro ⟨-, back, a, rfl, ⟨r, front, rfl, h⟩, h'⟩
      exact ⟨r, front ++ back, rfl, front, back, a, rfl, h, h'⟩

/-- What is asked for first is settled by its own part of the way. -/
theorem path_bind_append_iff {t : Task I α} {f : α → Task I β} {front back : List (Event I)} {a : α}
    {b : β} (first : Path t front a) : Path (t >>= f) (front ++ back) b ↔ Path (f a) back b := by
  induction first with
  | done a => rfl
  | call c r rest ih =>
    rw [call_bind, List.cons_append, path_call_iff, ← ih]
    constructor
    · rintro ⟨r', rest', same, path⟩
      cases same
      exact path
    · exact fun path => ⟨r, _, rfl, path⟩

theorem path_ask_iff {c : I.Call} {events : List (Event I)} {r : I.Reply c} :
    Path (ask c) events r ↔ events = [⟨c, r⟩] := by
  simp only [ask, path_call_iff, path_done_iff]
  constructor
  · rintro ⟨_, _, rfl, rfl, rfl⟩
    rfl
  · rintro rfl
    exact ⟨r, [], rfl, rfl, rfl⟩

/-- A call and what follows its answer. -/
theorem path_ask_bind_iff {c : I.Call} {f : I.Reply c → Task I β} {events : List (Event I)}
    {b : β} :
    Path (ask c >>= f) events b ↔ ∃ r rest, events = ⟨c, r⟩ :: rest ∧ Path (f r) rest b :=
  path_call_iff

/-- A task has one result along given answers. -/
theorem path_unique {t : Task I α} {events : List (Event I)} {a b : α} (h : Path t events a)
    (h' : Path t events b) : a = b := by
  induction h with
  | done a => exact (path_done_iff.1 h').2.symm
  | call c r _ ih =>
    obtain ⟨r', rest, same, tail⟩ := path_call_iff.1 h'
    cases same
    exact ih tail

theorem path_map_iff {t : Task I α} {f : α → β} {events : List (Event I)} {b : β} :
    Path (f <$> t) events b ↔ ∃ a, Path t events a ∧ b = f a := by
  change Path (t >>= fun a => done (f a)) events b ↔ _
  rw [path_bind_iff]
  constructor
  · rintro ⟨front, back, a, rfl, first, second⟩
    obtain ⟨rfl, rfl⟩ := path_done_iff.1 second
    exact ⟨a, by simpa using first, rfl⟩
  · rintro ⟨a, path, rfl⟩
    exact ⟨events, [], a, by simp, path, .done _⟩

theorem bind_bind {γ : Type} (t : Task I α) (f : α → Task I β) (g : β → Task I γ) :
    t >>= f >>= g = t >>= fun a => f a >>= g := by
  induction t with
  | done a => rfl
  | call c next ih => exact congrArg (call c) (funext ih)

instance : LawfulMonad (Task I) :=
  .mk' (Task I) bind_done (fun _ _ => rfl) bind_bind

/-! ## Tasks that can fail -/

section
variable {ε : Type} {t : ExceptT ε (Task I) α} {f : α → ExceptT ε (Task I) β}
  {events : List (Event I)}

theorem path_except_pure_iff {a : α} {result : Except ε α} :
    Path (pure a : ExceptT ε (Task I) α).run events result ↔ events = [] ∧ result = .ok a :=
  path_done_iff

theorem path_except_throw_iff {e : ε} {result : Except ε α} :
    Path (throw e : ExceptT ε (Task I) α).run events result ↔ events = [] ∧ result = .error e :=
  path_done_iff

theorem path_except_of_iff {x : Except ε α} {result : Except ε α} :
    Path (liftM x : ExceptT ε (Task I) α).run events result ↔ events = [] ∧ result = x :=
  path_done_iff

/-- A task that cannot fail, and what follows it. -/
theorem path_except_lift_bind_iff {s : Task I α} {result : Except ε β} :
    Path ((liftM s : ExceptT ε (Task I) α) >>= f).run events result ↔
      ∃ front back a, events = front ++ back ∧ Path s front a ∧ Path (f a).run back result := by
  rw [ExceptT.run_bind, path_bind_iff]
  constructor
  · rintro ⟨front, back, lifted, rfl, first, second⟩
    obtain ⟨a, path, rfl⟩ := path_map_iff.1 first
    exact ⟨front, back, a, rfl, path, second⟩
  · rintro ⟨front, back, a, rfl, path, second⟩
    exact ⟨front, back, .ok a, rfl, path_map_iff.2 ⟨a, path, rfl⟩, second⟩

theorem path_except_ask_bind_iff {c : I.Call} {f : I.Reply c → ExceptT ε (Task I) β}
    {result : Except ε β} :
    Path ((liftM (ask c) : ExceptT ε (Task I) (I.Reply c)) >>= f).run events result ↔
      ∃ r rest, events = ⟨c, r⟩ :: rest ∧ Path (f r).run rest result :=
  path_call_iff

theorem path_except_ok_iff {b : β} :
    Path (t >>= f).run events (.ok b) ↔
      ∃ front back a, events = front ++ back ∧ Path t.run front (.ok a) ∧
        Path (f a).run back (.ok b) := by
  rw [ExceptT.run_bind, path_bind_iff]
  constructor
  · rintro ⟨front, back, result, rfl, first, second⟩
    cases result with
    | ok a => exact ⟨front, back, a, rfl, first, second⟩
    | error e => exact nomatch (path_done_iff.1 second).2
  · rintro ⟨front, back, a, rfl, first, second⟩
    exact ⟨front, back, .ok a, rfl, first, second⟩

theorem path_except_error_iff {e : ε} :
    Path (t >>= f).run events (.error e) ↔
      Path t.run events (.error e) ∨
        ∃ front back a, events = front ++ back ∧ Path t.run front (.ok a) ∧
          Path (f a).run back (.error e) := by
  rw [ExceptT.run_bind, path_bind_iff]
  constructor
  · rintro ⟨front, back, result, rfl, first, second⟩
    cases result with
    | ok a => exact .inr ⟨front, back, a, rfl, first, second⟩
    | error e' =>
      obtain ⟨rfl, same⟩ := path_done_iff.1 second
      cases same
      exact .inl (by simpa using first)
  · rintro (first | ⟨front, back, a, rfl, first, second⟩)
    · exact ⟨events, [], .error e, by simp, first, .done _⟩
    · exact ⟨front, back, .ok a, rfl, first, second⟩

end

/-! ## The calls of a task -/

/-- A task makes no call but these, whatever is answered. -/
def Calls (p : I.Call → Prop) (t : Task I α) : Prop :=
  ∀ events a, Path t events a → ∀ e ∈ events, p e.1

variable {p : I.Call → Prop}

theorem calls_done (a : α) : Calls p (done a : Task I α) := by
  intro events b h
  obtain ⟨rfl, -⟩ := path_done_iff.1 h
  simp

theorem calls_call {c : I.Call} {next : I.Reply c → Task I α} (hc : p c)
    (hnext : ∀ r, Calls p (next r)) : Calls p (call c next) := by
  intro events a path
  obtain ⟨r, rest, rfl, tail⟩ := path_call_iff.1 path
  exact List.forall_mem_cons.2 ⟨hc, hnext r rest a tail⟩

/-- A task that is answered from a state takes some way. -/
theorem exists_path_run {σ : Type} (answer : (c : I.Call) → σ → I.Reply c × σ) (t : Task I α)
    (s : σ) : ∃ events, Path t events (t.run answer s).1 := by
  induction t generalizing s with
  | done a => exact ⟨[], .done a⟩
  | call c next ih =>
    obtain ⟨events, path⟩ := ih (answer c s).1 (answer c s).2
    exact ⟨_, .call c _ path⟩

theorem calls_ask {c : I.Call} (hc : p c) : Calls p (ask c) :=
  calls_call hc calls_done

theorem calls_bind {t : Task I α} {f : α → Task I β} (ht : Calls p t) (hf : ∀ a, Calls p (f a)) :
    Calls p (t >>= f) := by
  intro events b path
  obtain ⟨front, back, a, rfl, first, second⟩ := path_bind_iff.1 path
  exact List.forall_mem_append.2 ⟨ht front a first, hf a back b second⟩

theorem calls_except_bind {ε : Type} {t : ExceptT ε (Task I) α} {f : α → ExceptT ε (Task I) β}
    (ht : Calls p t.run) (hf : ∀ a, Calls p (f a).run) : Calls p (t >>= f).run := by
  rw [ExceptT.run_bind]
  refine calls_bind ht fun result => ?_
  cases result with
  | ok a => exact hf a
  | error e => exact calls_done _

theorem calls_except_lift {ε : Type} {t : Task I α} (ht : Calls p t) :
    Calls p (liftM t : ExceptT ε (Task I) α).run :=
  calls_bind ht fun _ => calls_done _

theorem calls_via {q : J.Call → Prop} {handle : (c : I.Call) → Task J (I.Reply c)}
    (hh : ∀ c, Calls q (handle c)) (t : Task I α) : Calls q (t.via handle) := by
  induction t with
  | done a => exact calls_done a
  | call c next ih => exact calls_bind (hh c) ih

/-! ## Given answers -/

/-- The result of a task whose calls are these, with these answers. -/
def replay [DecidableEq I.Call] : Task I α → List (Event I) → Option α
  | done a, [] => some a
  | done _, _ :: _ => none
  | call _ _, [] => none
  | call c next, ⟨d, r⟩ :: rest => if h : d = c then replay (next (h ▸ r)) rest else none

theorem path_of_replay [DecidableEq I.Call] {t : Task I α} {events : List (Event I)} {a : α}
    (h : replay t events = some a) : Path t events a := by
  induction t generalizing events with
  | done b =>
    cases events with
    | nil =>
      obtain rfl := Option.some.inj h
      exact .done b
    | cons e rest => cases h
  | call c next ih =>
    match events, h with
    | ⟨d, r⟩ :: rest, h =>
      rw [replay] at h
      split at h
      · rename_i same
        subst same
        exact .call d r (ih r h)
      · cases h

theorem exists_path_of_replay_map [DecidableEq I.Call] {t : Task I α} {events : List (Event I)}
    {f : α → β} {b : β} (h : (replay t events).map f = some b) :
    ∃ a, Path t events a ∧ f a = b := by
  obtain ⟨a, found, same⟩ := Option.map_eq_some_iff.1 h
  exact ⟨a, path_of_replay found, same⟩

theorem exists_path_of_replay [DecidableEq I.Call] {t : Task I α} {events : List (Event I)}
    (h : (replay t events).isSome = true) : ∃ a, Path t events a := by
  obtain ⟨a, found⟩ := Option.isSome_iff_exists.1 h
  exact ⟨a, path_of_replay found⟩

theorem path_ok_of_replay [DecidableEq I.Call] {ε : Type} {t : Task I (Except ε α)}
    {events : List (Event I)} {a : α}
    (h : (replay t events).map Except.toOption = some (some a)) : Path t events (.ok a) := by
  obtain ⟨answer, path, same⟩ := exists_path_of_replay_map h
  cases answer with
  | error e => cases same
  | ok a =>
    cases same
    exact path

theorem exists_error_of_replay [DecidableEq I.Call] {ε : Type} {t : Task I (Except ε α)}
    {events : List (Event I)} (h : (replay t events).map Except.toOption = some none) :
    ∃ e, Path t events (.error e) := by
  obtain ⟨answer, path, same⟩ := exists_path_of_replay_map h
  cases answer with
  | error e => exact ⟨e, path⟩
  | ok a => cases same

end

end Tandem.Host.Task
