/-!
Chains of messages: a failure in the words of every level that it went through, outermost first.
-/

namespace Tandem.Host

structure Chain where
  outer : String
  causes : List String
deriving DecidableEq, Repr

namespace Chain

def one (message : String) : Chain := ⟨message, []⟩

/-- The chain of a list of messages; of none, the empty message. -/
def ofList : List String → Chain
  | [] => one ""
  | outer :: causes => ⟨outer, causes⟩

/-- The chain seen from a level further out. -/
def within (context : String) (c : Chain) : Chain := ⟨context, c.outer :: c.causes⟩

def text (c : Chain) : String := ": ".intercalate (c.outer :: c.causes)

end Chain

end Tandem.Host
