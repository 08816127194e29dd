import Tandem.Guest.Raw

/-!
Signals, and what `kill` is asked to send.
-/

namespace Tandem.Guest

/-- Signals by name. -/
def signals : List (String × Nat) :=
  [("EXIT", 0), ("HUP", 1), ("INT", 2), ("QUIT", 3), ("ILL", 4), ("TRAP", 5), ("ABRT", 6),
   ("BUS", 7), ("FPE", 8), ("KILL", 9), ("USR1", 10), ("SEGV", 11), ("USR2", 12), ("PIPE", 13),
   ("ALRM", 14), ("TERM", 15), ("STKFLT", 16), ("CHLD", 17), ("CONT", 18), ("STOP", 19),
   ("TSTP", 20), ("TTIN", 21), ("TTOU", 22), ("URG", 23), ("XCPU", 24), ("XFSZ", 25),
   ("VTALRM", 26), ("PROF", 27), ("WINCH", 28), ("IO", 29), ("PWR", 30), ("SYS", 31)]

def signal? (r : Raw) : Option Nat :=
  match number? r with
  | some n => if n ≤ 64 then some n else none
  | none =>
    let name := r.map Char.toUpper
    signals.lookup (String.ofList (if name.take 3 = raw "SIG" then name.drop 3 else name))

/-- What a shell says of a program that a signal ended. -/
def signalText (n : Nat) : Option Raw :=
  match n with
  | 1 => some (raw "Hangup")
  | 3 => some (raw "Quit")
  | 4 => some (raw "Illegal instruction")
  | 5 => some (raw "Trace/breakpoint trap")
  | 6 => some (raw "Aborted")
  | 7 => some (raw "Bus error")
  | 8 => some (raw "Floating point exception")
  | 9 => some (raw "Killed")
  | 10 => some (raw "User defined signal 1")
  | 11 => some (raw "Segmentation fault")
  | 12 => some (raw "User defined signal 2")
  | 14 => some (raw "Alarm clock")
  | 15 => some (raw "Terminated")
  | 16 => some (raw "Stack fault")
  | 24 => some (raw "CPU time limit exceeded")
  | 25 => some (raw "File size limit exceeded")
  | 26 => some (raw "Virtual timer expired")
  | 27 => some (raw "Profiling timer expired")
  | 29 => some (raw "I/O possible")
  | 30 => some (raw "Power failure")
  | 31 => some (raw "Bad system call")
  | _ => none

/-- Whether a process that does nothing about a signal goes on. -/
def isIgnored (n : Nat) : Bool := [0, 17, 18, 23, 28].contains n

/-- Whether a signal puts a process to sleep. -/
def isStopping (n : Nat) : Bool := [19, 20, 21, 22].contains n

/-- The name of a signal. -/
def signalName (n : Nat) : Raw :=
  match signals.find? (·.2 == n) with
  | some (name, _) => raw name
  | none => digits n

/-- A signal and the processes that get it. -/
structure Sending where
  signal : Nat
  targets : List Raw

def usageOfKill : Raw :=
  raw "kill: Usage: kill [-s sigspec | -signum | -sigspec] [pid | job]... or\nkill -l [exitstatus]"

/-- What arguments ask for, or what is wrong with them. -/
def Sending.of (arguments : List Raw) : Except Raw Sending :=
  let send (signal : Nat) (targets : List Raw) : Except Raw Sending :=
    let targets := if targets.head? = some ['-', '-'] then targets.drop 1 else targets
    if targets.isEmpty then .error usageOfKill
    else
      match targets.find? fun t => (number? (if t.head? = some '-' then t.drop 1 else t)).isNone with
      | some t => .error (raw "kill: Illegal number: " ++ t)
      | none => .ok ⟨signal, targets⟩
  match arguments with
  | ['-', 's'] :: name :: rest =>
    match signal? name with
    | some n => send n rest
    | none => .error (raw "kill: invalid signal number or name: " ++ name)
  | ('-' :: option) :: rest =>
    match signal? option, option with
    | some n, _ => send n rest
    | none, '-' :: _ => send 15 rest
    | none, c :: _ => .error (raw "kill: Illegal option -" ++ [c])
    | none, [] => .error usageOfKill
  | rest => send 15 rest

end Tandem.Guest
