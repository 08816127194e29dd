import Tandem.Cli.Announcement

/-!
What a command answers: at most one document, at most one complaint and an exit code.

A failure that a command can speak about has both; one that comes before has a complaint alone.
-/

namespace Tandem.Cli

open Tandem.Document

/-- How a command ended. -/
inductive Exit where
  | success
  /-- The command was carried out, and its answer is no. -/
  | unsuccessful
  | failure
deriving DecidableEq, Repr

def Exit.code : Exit → UInt32
  | success => 0
  | unsuccessful => 1
  | failure => 2

def Exit.ofBool (isSuccess : Bool) : Exit := if isSuccess then success else unsuccessful

structure Reply where
  exit : Exit
  announcement : Option Announcement
  complaint : Option String

namespace Reply

/-- A line of output. -/
def line (text : String) : String := text ++ "\n"

def out (r : Reply) : String := (r.announcement.map (line ·.text)).getD ""

def err (r : Reply) : String := (r.complaint.map line).getD ""

/-- The reply to a request that was carried out. -/
def carriedOut (layout : Layout) (document : Value) (isSuccess : Bool) : Reply :=
  ⟨.ofBool isSuccess, some ⟨layout, document⟩, none⟩

/-- The reply to a request that failed in a way that has a kind. -/
def failed (version kind message : String) : Reply :=
  ⟨.failure, some ⟨.page, errorDocument version kind message⟩, some s!"parity-runner: {message}"⟩

/-- The reply to a request that was not taken up. -/
def stopped (message : String) : Reply := ⟨.failure, none, some message⟩

end Reply

end Tandem.Cli
