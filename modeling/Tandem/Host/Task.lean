/-!
Tasks: programs that ask for something outside themselves and go on with the answer.

* An `Interface` lists the calls and the type of each answer.
* `Task.run` answers every call from a state, `Task.via` answers it by a task of another interface.
* `Task.Path` relates a task to the calls and answers of one way through it, whatever gave them.
-/

namespace Tandem.Host

structure Interface where
  Call : Type
  Reply : Call → Type

inductive Task (I : Interface) (α : Type) where
  | done (a : α)
  | call (c : I.Call) (next : I.Reply c → Task I α)

namespace Task

variable {I J : Interface} {α β σ : Type}

def bind (t : Task I α) (f : α → Task I β) : Task I β :=
  match t with
  | done a => f a
  | call c next => call c fun r => (next r).bind f

instance : Monad (Task I) where
  pure := done
  bind := bind

@[simp] theorem done_bind (a : α) (f : α → Task I β) : done a >>= f = f a := rfl

@[simp] theorem pure_eq (a : α) : (pure a : Task I α) = done a := rfl

@[simp] theorem call_bind (c : I.Call) (next : I.Reply c → Task I α) (f : α → Task I β) :
    call c next >>= f = call c fun r => next r >>= f := rfl

theorem bind_done (t : Task I α) : t.bind done = t := by
  induction t with
  | done a => rfl
  | call c next ih => exact congrArg (call c) (funext ih)

/-- One call. -/
def ask (c : I.Call) : Task I (I.Reply c) := call c done

/-- Answers every call from a state that it may change. -/
def run (answer : (c : I.Call) → σ → I.Reply c × σ) : Task I α → σ → α × σ
  | done a, s => (a, s)
  | call c next, s => (next (answer c s).1).run answer (answer c s).2

theorem run_bind (answer : (c : I.Call) → σ → I.Reply c × σ) (t : Task I α) (f : α → Task I β)
    (s : σ) :
    (t >>= f).run answer s = (f (t.run answer s).1).run answer (t.run answer s).2 := by
  induction t generalizing s with
  | done a => rfl
  | call c next ih => exact ih _ _

/-- Answers every call by a task of another interface. -/
def via (handle : (c : I.Call) → Task J (I.Reply c)) : Task I α → Task J α
  | done a => done a
  | call c next => (handle c).bind fun r => (next r).via handle

/-- A call and the answer it got. -/
abbrev Event (I : Interface) := (c : I.Call) × I.Reply c

/-- The calls, their answers and the result of one way through a task. -/
inductive Path : Task I α → List (Event I) → α → Prop where
  | done (a : α) : Path (done a) [] a
  | call (c : I.Call) (r : I.Reply c) {next : I.Reply c → Task I α} {events : List (Event I)}
      {a : α} (rest : Path (next r) events a) : Path (call c next) (⟨c, r⟩ :: events) a

end Task

end Tandem.Host
