import Tandem.Cli.Command
import Tandem.Cli.Help
import Tandem.Guest.Programs
import Tandem.Machine.Description

/-!
The program: it carries out a command line on the machine that standard input describes, or shows a
help page.
-/

open Tandem

/-- Everything that is left to read. -/
partial def readAll (stream : IO.FS.Stream) (before : String) : IO String := do
  let line ← stream.getLine
  if line.isEmpty then return before else readAll stream (before ++ line)

/-- A complaint, and the exit code that goes with it. -/
def stopWith (message : String) : IO UInt32 := do
  IO.eprintln message
  return Cli.Exit.failure.code

def main (arguments : List String) : IO UInt32 := do
  match Cli.Wish.read arguments with
  | .error misuse => stopWith misuse.message
  | .ok (.help topic) =>
    IO.print topic.page
    return Cli.Exit.success.code
  | .ok (.carryOut a) =>
    let text ← readAll (← IO.getStdin) ""
    match Machine.Description.reader.ofText text.toList with
    | .error flaw => stopWith flaw.message
    | .ok description =>
      match description.machine Guest.standardFiles with
      | .error e => stopWith e.message
      | .ok machine =>
        let (reply, _) := machine.run Guest.programs a.carryOut
        IO.print reply.out
        IO.eprint reply.err
        return reply.exit.code
