/-!
Durations, and the instants that the clock can name.
-/

namespace Tandem.Host

/-- Nanoseconds. -/
abbrev Duration := Nat

def milliseconds (n : Nat) : Duration := n * 1000000

def seconds (n : Nat) : Duration := n * 1000000000

/-- The last second that the clock can name. -/
def lastSecond : Nat := 9223372036854775807

/-- The instant `wait` after `now`, if the clock can name it. -/
def deadline? (now wait : Duration) : Option Duration :=
  if (now + wait) / seconds 1 ≤ lastSecond then some (now + wait) else none

/-- The time between two polls. -/
def pollInterval : Duration := milliseconds 5

/-- A bound on the polls before a time is over, as each sleep takes at least its interval. -/
def pollsWithin (wait : Duration) : Nat := wait / pollInterval + 1

end Tandem.Host
