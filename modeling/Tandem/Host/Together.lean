import Tandem.Host.Task

/-!
Two tasks side by side. Before every call that either could make, the world says whose turn it is;
each answer to that question is one interleaving of the two.
-/

namespace Tandem.Host.Task

variable {I : Interface} {α β : Type}

/-- The first of two tasks stands before a call, `go` is what follows its answer. Steps of the
second task are made until it is the first one's turn or the second is done. -/
def besides (turn : I.Call) (isFirst : I.Reply turn → Bool) (c : I.Call)
    (next : I.Reply c → Task I α) (go : I.Reply c → Task I β → Task I (α × β)) :
    Task I β → Task I (α × β)
  | done b => call c fun r => (next r).bind fun a => done (a, b)
  | call d more => call turn fun t =>
    if isFirst t then call c fun r => go r (call d more)
    else call d fun r => besides turn isFirst c next go (more r)

/-- Both tasks, call by call, as `turn` is answered. -/
def together (turn : I.Call) (isFirst : I.Reply turn → Bool) :
    Task I α → Task I β → Task I (α × β)
  | done a, other => other.bind fun b => done (a, b)
  | call c next, other =>
    besides turn isFirst c next (fun r => together turn isFirst (next r)) other

theorem together_done (turn : I.Call) (isFirst : I.Reply turn → Bool) (t : Task I α) (b : β) :
    together turn isFirst t (done b) = t.bind fun a => done (a, b) := by
  cases t <;> rfl

end Tandem.Host.Task
