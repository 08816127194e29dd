import Tandem.Compare.Report

/-!
The outcome of a comparison: both runs, which of them started, and the report on them.
-/

namespace Tandem.Project

open Tandem.Compare Tandem.Sandbox

inductive Runtime where
  | source
  | target
deriving DecidableEq, Repr

namespace Runtime

def all : List Runtime := [source, target]

def name : Runtime → String
  | source => "source"
  | target => "target"

/-- What the working directories of a side are called. -/
def directoryName : Runtime → String
  | source => "parity_src"
  | target => "parity_dst"

end Runtime

inductive Status where
  | completed
  | sourceFailed
  | targetFailed
  | bothFailed
deriving DecidableEq, Repr

namespace Status

def all : List Status := [completed, sourceFailed, targetFailed, bothFailed]

def name : Status → String
  | completed => "completed"
  | sourceFailed => "source_failed"
  | targetFailed => "target_failed"
  | bothFailed => "both_failed"

/-- Which of two runs never started. -/
def of (source target : Record) : Status :=
  match source.started, target.started with
  | true, true => completed
  | false, true => sourceFailed
  | true, false => targetFailed
  | false, false => bothFailed

end Status

structure Outcome where
  projectId : String
  filePath : String
  status : Status
  source : Record
  target : Record
  report : Report
deriving DecidableEq

/-- Whether both sides ran and agree on output and exit code. -/
def Outcome.isMatch (o : Outcome) : Bool :=
  o.status = .completed && o.report.outputsMatch && o.report.exitCodesMatch

end Tandem.Project
