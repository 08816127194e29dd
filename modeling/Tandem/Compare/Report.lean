import Tandem.Compare.Cosmetic
import Tandem.Compare.Gap
import Tandem.Diff.Similarity
import Tandem.Sandbox.Record

/-!
The report on two finished runs. Only standard output decides whether the outputs match; the error
output of the target is read for migration gaps alone.
-/

namespace Tandem.Compare

open Tandem.Number Tandem.Sandbox Tandem.Text

structure Report where
  outputsMatch : Bool
  exitCodesMatch : Bool
  diffLines : List String
  similarity : Binary64
  warnings : List String
deriving DecidableEq

/-- An output with its line ends written as line feeds. -/
def normalize (output : String) : String :=
  String.ofList (unifyNewlines output.toList)

/-- Compares the run under the source runtime with the run under the target runtime. -/
def Report.of (source target : Record) : Report :=
  let old := normalize source.stdout
  let new := normalize target.stdout
  let diff := Diff.unified old new
  { outputsMatch := old = new
    exitCodesMatch := source.exitCode = target.exitCode
    diffLines := diff
    similarity := Diff.similarity old new
    warnings := cosmetics old new (.ofUnified diff) ++ migrationGaps target.stderr }

end Tandem.Compare
