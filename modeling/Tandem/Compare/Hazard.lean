import Tandem.Text.Phrase

/-!
Hazards of a source text, found before anything runs: calls that may wait for input, and calls whose
output differs from run to run.
-/

namespace Tandem.Compare

open Tandem.Text

structure Hazard where
  phrases : List Phrase
  warning : String

namespace Hazard

/-- The call of a name. -/
def call (name : String) : Phrase := [.edge, .word name, .space, .word "("]

def hangs (subject : String) : String :=
  s!"File {subject}; execution may hang without stdin input."

def varies (subject : String) : String :=
  s!"File {subject}; output may be non-deterministic."

def table : List Hazard :=
  [⟨[call "raw_input"], hangs "uses raw_input()"⟩,
   ⟨[call "input"], hangs "uses input()"⟩,
   ⟨[[.edge, .word "sys.stdin.read"]], hangs "reads sys.stdin"⟩,
   ⟨[[.edge, .word "import", .gap, .word "random", .edge],
     [.edge, .word "from", .gap, .word "random", .gap, .word "import", .edge]],
    varies "imports random"⟩,
   ⟨[call "uuid.uuid1", call "uuid.uuid4"], varies "generates UUIDs"⟩,
   ⟨[call "os.urandom"], varies "calls os.urandom()"⟩,
   ⟨[call "datetime.now"], varies "calls datetime.now()"⟩,
   ⟨[call "datetime.utcnow"], varies "calls datetime.utcnow()"⟩,
   ⟨[call "time.time"], varies "calls time.time()"⟩,
   ⟨[call "time.clock"], varies "calls time.clock()"⟩,
   ⟨[call "date.today"], varies "calls date.today()"⟩]

def isIn (h : Hazard) (text : List Char) : Bool :=
  h.phrases.any (·.occursIn text)

end Hazard

/-- The warnings for a source text, one for each hazard in it. -/
def hazards (text : String) : List String :=
  (Hazard.table.filter (·.isIn text.toList)).map Hazard.warning

end Tandem.Compare
