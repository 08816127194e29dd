import Tandem.Host.Together
import Tandem.Proofs.Host.Trace

/-!
Ways through two tasks side by side.

* `Interleaved`: the calls of two tasks in one order, with the answers that say whose turn it is.
* `path_together_iff`: the ways through two tasks side by side are the interleavings of theirs.
-/

namespace Tandem.Host.Task

variable {I : Interface} {α β : Type}

/-- The calls of two tasks in one order. While both have calls to make, every call follows an answer
that says whose it is. -/
inductive Interleaved (turn : I.Call) (isFirst : I.Reply turn → Bool) :
    List (Event I) → List (Event I) → List (Event I) → Prop where
  | second (more : List (Event I)) : Interleaved turn isFirst [] more more
  | first (rest : List (Event I)) : Interleaved turn isFirst rest [] rest
  | firstTurn {t : I.Reply turn} {e e' : Event I} {rest more events : List (Event I)}
      (mine : isFirst t = true) (others : Interleaved turn isFirst rest (e' :: more) events) :
      Interleaved turn isFirst (e :: rest) (e' :: more) (⟨turn, t⟩ :: e :: events)
  | secondTurn {t : I.Reply turn} {e e' : Event I} {rest more events : List (Event I)}
      (mine : isFirst t = false) (others : Interleaved turn isFirst (e :: rest) more events) :
      Interleaved turn isFirst (e :: rest) (e' :: more) (⟨turn, t⟩ :: e' :: events)

section
variable {turn : I.Call} {isFirst : I.Reply turn → Bool}

/-- Apart from turns, what happens in both is what happens in one of them. -/
theorem Interleaved.mem {rest more events : List (Event I)} {e : Event I}
    (h : Interleaved turn isFirst rest more events) (member : e ∈ events) :
    (∃ t, e = ⟨turn, t⟩) ∨ e ∈ rest ∨ e ∈ more := by
  induction h with
  | second more => exact .inr (.inr member)
  | first rest => exact .inr (.inl member)
  | firstTurn mine others ih =>
    obtain rfl | rfl | later := by simpa using member
    · exact .inl ⟨_, rfl⟩
    · exact .inr (.inl (List.mem_cons_self ..))
    · exact (ih later).imp_right (Or.imp_left (List.mem_cons_of_mem _))
  | secondTurn mine others ih =>
    obtain rfl | rfl | later := by simpa using member
    · exact .inl ⟨_, rfl⟩
    · exact .inr (.inr (List.mem_cons_self ..))
    · exact (ih later).imp_right (Or.imp_right (List.mem_cons_of_mem _))

/-- A task that is done leaves the other one its calls. -/
theorem interleaved_nil_iff {rest events : List (Event I)} :
    Interleaved turn isFirst rest [] events ↔ events = rest := by
  constructor
  · intro h
    cases h <;> rfl
  · rintro rfl
    exact .first _

theorem nil_interleaved_iff {more events : List (Event I)} :
    Interleaved turn isFirst [] more events ↔ events = more := by
  constructor
  · intro h
    cases h <;> rfl
  · rintro rfl
    exact .second _

theorem cons_interleaved_cons_iff {e e' : Event I} {rest more events : List (Event I)} :
    Interleaved turn isFirst (e :: rest) (e' :: more) events ↔
      ∃ t events', (isFirst t = true ∧ events = ⟨turn, t⟩ :: e :: events' ∧
          Interleaved turn isFirst rest (e' :: more) events') ∨
        (isFirst t = false ∧ events = ⟨turn, t⟩ :: e' :: events' ∧
          Interleaved turn isFirst (e :: rest) more events') := by
  constructor
  · intro h
    cases h with
    | firstTurn mine others => exact ⟨_, _, .inl ⟨mine, rfl, others⟩⟩
    | secondTurn mine others => exact ⟨_, _, .inr ⟨mine, rfl, others⟩⟩
  · rintro ⟨t, events', ⟨mine, rfl, others⟩ | ⟨mine, rfl, others⟩⟩
    · exact .firstTurn mine others
    · exact .secondTurn mine others

/-- The second task may make all its calls before the first one makes any. -/
theorem interleaved_second_first {t : I.Reply turn} (ht : isFirst t = false) (e : Event I)
    (rest more : List (Event I)) :
    Interleaved turn isFirst (e :: rest) more
      (more.flatMap (fun e' => [⟨turn, t⟩, e']) ++ e :: rest) := by
  induction more with
  | nil => exact .first _
  | cons e' more ih => exact .secondTurn ht ih

section
variable {events : List (Event I)} {a : α} {b : β}

/-- Ways through a task that stands before a call, beside another one, given those after its
answer. -/
theorem path_besides_iff {c : I.Call} {next : I.Reply c → Task I α}
    (later : ∀ r (u : Task I β) {events}, Path (together turn isFirst (next r) u) events (a, b) ↔
      ∃ rest more, Interleaved turn isFirst rest more events ∧ Path (next r) rest a ∧ Path u more b)
    (u : Task I β) :
    Path (together turn isFirst (call c next) u) events (a, b) ↔
      ∃ rest more, Interleaved turn isFirst rest more events ∧ Path (call c next) rest a ∧
        Path u more b := by
  induction u generalizing events with
  | done b' =>
    rw [together_done]
    change Path (call c next >>= fun a => done (a, b')) events (a, b) ↔ _
    rw [path_bind_iff]
    constructor
    · rintro ⟨front, back, a', rfl, path, last⟩
      obtain ⟨rfl, same⟩ := path_done_iff.1 last
      cases same
      exact ⟨front, [], by simpa using .first front, path, .done b⟩
    · rintro ⟨rest, more, mixed, first, second⟩
      obtain ⟨rfl, rfl⟩ := path_done_iff.1 second
      obtain rfl := interleaved_nil_iff.1 mixed
      exact ⟨events, [], a, by simp, first, .done _⟩
  | call d more ih =>
    change Path (call turn fun t => if isFirst t then
      call c fun r => together turn isFirst (next r) (call d more)
      else call d fun r => together turn isFirst (call c next) (more r)) events (a, b) ↔ _
    rw [path_call_iff]
    constructor
    · rintro ⟨t, events, rfl, path⟩
      cases mine : isFirst t with
      | true =>
        simp only [mine, if_true] at path
        obtain ⟨r, events, rfl, path'⟩ := path_call_iff.1 path
        obtain ⟨rest, others, mixed, first, second⟩ := (later r _).1 path'
        obtain ⟨r', others, rfl, second'⟩ := path_call_iff.1 second
        exact ⟨_, _, .firstTurn mine mixed, .call c r first, .call d r' second'⟩
      | false =>
        simp only [mine, Bool.false_eq_true, if_false] at path
        obtain ⟨r, events, rfl, path'⟩ := path_call_iff.1 path
        obtain ⟨rest, others, mixed, first, second⟩ := (ih r).1 path'
        obtain ⟨r', rest, rfl, first'⟩ := path_call_iff.1 first
        exact ⟨_, _, .secondTurn mine mixed, .call c r' first', .call d r second⟩
    · rintro ⟨rest, others, mixed, first, second⟩
      obtain ⟨r, rest, rfl, first'⟩ := path_call_iff.1 first
      obtain ⟨r', others, rfl, second'⟩ := path_call_iff.1 second
      obtain ⟨t, events', ⟨mine, rfl, mixed'⟩ | ⟨mine, rfl, mixed'⟩⟩ :=
        cons_interleaved_cons_iff.1 mixed
      · refine ⟨t, _, rfl, ?_⟩
        simp only [mine, if_true]
        exact .call c r ((later r _).2 ⟨rest, _, mixed', first', second⟩)
      · refine ⟨t, _, rfl, ?_⟩
        simp only [mine, Bool.false_eq_true, if_false]
        exact .call d r' ((ih r').2 ⟨_, others, mixed', first, second'⟩)

theorem path_together_iff {t : Task I α} {u : Task I β} :
    Path (together turn isFirst t u) events (a, b) ↔
      ∃ rest more, Interleaved turn isFirst rest more events ∧ Path t rest a ∧ Path u more b := by
  induction t generalizing u events with
  | done a' =>
    change Path (u >>= fun b => done (a', b)) events (a, b) ↔ _
    rw [path_bind_iff]
    constructor
    · rintro ⟨front, back, b', rfl, path, last⟩
      obtain ⟨rfl, same⟩ := path_done_iff.1 last
      cases same
      exact ⟨[], front, by simpa using .second front, .done a, path⟩
    · rintro ⟨rest, more, mixed, first, second⟩
      obtain ⟨rfl, rfl⟩ := path_done_iff.1 first
      obtain rfl := nil_interleaved_iff.1 mixed
      exact ⟨events, [], b, by simp, second, .done _⟩
  | call c next ih => exact path_besides_iff (fun r u => ih r) u

end

end

end Tandem.Host.Task
