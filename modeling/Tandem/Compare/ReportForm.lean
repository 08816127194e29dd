import Tandem.Compare.Report
import Tandem.Document.Reader
import Tandem.Document.Value

/-!
The written form of comparison reports.
-/

namespace Tandem.Compare.Report

open Tandem.Document

def texts (lines : List String) : Value := .list (lines.map .text)

def value (r : Report) : Value :=
  .record
    [("outputs_match", .bool r.outputsMatch), ("exit_codes_match", .bool r.exitCodesMatch),
     ("diff_lines", texts r.diffLines), ("similarity_pct", .real r.similarity),
     ("warnings", texts r.warnings)]

def known : List Reader.Field :=
  [Reader.field "outputs_match" Reader.bool false,
   Reader.field "exit_codes_match" Reader.bool false,
   Reader.field "diff_lines" (Reader.list Reader.string) false,
   Reader.field "similarity_pct" Reader.double false,
   Reader.field "warnings" (Reader.list Reader.string) false]

def reader : Reader Report := fun t => do
  let fs ← Reader.fields "ComparisonReport" false known t
  return {
    outputsMatch := ← Reader.required "outputs_match" Reader.bool fs
    exitCodesMatch := ← Reader.required "exit_codes_match" Reader.bool fs
    diffLines := ← Reader.required "diff_lines" (Reader.list Reader.string) fs
    similarity := ← Reader.required "similarity_pct" Reader.double fs
    warnings := ← Reader.required "warnings" (Reader.list Reader.string) fs }

end Tandem.Compare.Report
