import Tandem.Main
import Tandem.Proofs.Text.Digits
import Tandem.Proofs.Text.Utf8
import Tandem.Proofs.Diff.Course
import Tandem.Proofs.Diff.Settling
import Tandem.Proofs.Diff.Grouping
import Tandem.Proofs.Diff.Section
import Tandem.Proofs.Diff.Patch
import Tandem.Proofs.Host.Parts
import Tandem.Proofs.Machine.Node
import Tandem.Proofs.Host.Trace
import Tandem.Proofs.Host.Interleaving
import Tandem.Proofs.Sandbox.Teardown
import Tandem.Proofs.Sandbox.Attendance
import Tandem.Proofs.Sandbox.Seeding
import Tandem.Proofs.Sandbox.Environment
import Tandem.Proofs.Project.Entry
import Tandem.Proofs.Project.Checks
import Tandem.Proofs.Project.Order
import Tandem.Proofs.Project.Side
import Tandem.Proofs.Project.Identical
import Tandem.Proofs.Project.Verdict
import Tandem.Proofs.Machine.Walk
import Tandem.Proofs.Machine.Files
import Tandem.Proofs.Machine.Run
import Tandem.Proofs.Sandbox.Copying
import Tandem.Proofs.Project.Containment
import Tandem.Proofs.Sandbox.Truncation
import Tandem.Proofs.Text.Lines
import Tandem.Proofs.Diff.Changed
import Tandem.Proofs.Compare.Report
import Tandem.Proofs.Compare.MappingOrder
import Tandem.Proofs.Sandbox.Survivors
import Tandem.Proofs.Sandbox.OutputSize
import Tandem.Proofs.Project.Shape
import Tandem.Proofs.Sandbox.Draining
import Tandem.Proofs.Machine.Erase
import Tandem.Proofs.Machine.Meaning
import Tandem.Proofs.Machine.Without
import Tandem.Proofs.Project.Sides
import Tandem.Proofs.Project.Ownership
import Tandem.Proofs.Project.Asking
import Tandem.Proofs.Project.Conduct
import Tandem.Proofs.Project.Independence
import Tandem.Proofs.Number.Shortest
import Tandem.Proofs.Document.Quoted
import Tandem.Proofs.Document.Numeral
import Tandem.Proofs.Document.Parsing
import Tandem.Proofs.Document.Order
import Tandem.Proofs.Document.Reading
import Tandem.Proofs.Project.OutcomeForm
import Tandem.Proofs.Cli.Documents
import Tandem.Proofs.Cli.Replies
import Tandem.Proofs.Cli.Bounds
import Tandem.Proofs.Sandbox.Escalation
import Tandem.Proofs.Machine.Program
import Tandem.Proofs.Sandbox.Interpreter
import Tandem.Proofs.Machine.Partial
import Tandem.Proofs.Sandbox.Confinement
import Tandem.Proofs.Sandbox.Leftovers
import Tandem.Proofs.Sandbox.Nesting
import Tandem.Proofs.Sandbox.Chunking
import Tandem.Proofs.Diff.ReadBack
import Tandem.Proofs.Number.Rounding
import Tandem.Proofs.Diff.Similarity
import Tandem.Proofs.Compare.Likeness
import Tandem.Proofs.Sandbox.Tenancy
import Tandem.Proofs.Sandbox.Exclusive
import Tandem.Proofs.Diff.Runs
import Tandem.Proofs.Diff.Layout
import Tandem.Proofs.Diff.Context
import Tandem.Proofs.Text.Scan
import Tandem.Proofs.Text.Captures
import Tandem.Proofs.Compare.Cosmetic
import Tandem.Proofs.Compare.Fingerprint
import Tandem.Proofs.Compare.Gap
import Tandem.Proofs.Compare.Nested
import Tandem.Proofs.Compare.Coverage
import Tandem.Proofs.Text.Phrase
import Tandem.Proofs.Compare.Hazard
import Tandem.Proofs.Host.Names
import Tandem.Proofs.Project.Trail
import Tandem.Proofs.Machine.Stuck
import Tandem.Proofs.Machine.Canonical
import Tandem.Proofs.Project.Judged
import Tandem.Proofs.Document.Grammar
import Tandem.Proofs.Document.Lexeme
import Tandem.Proofs.Document.Lexing
import Tandem.Proofs.Document.Records
import Tandem.Proofs.Document.Faultless
import Tandem.Proofs.Project.Recorded
import Tandem.Proofs.Project.Revised
import Tandem.Proofs.Project.Marked
import Tandem.Proofs.Config.Overlay
import Tandem.Proofs.Config.Record
import Tandem.Proofs.Config.File
import Tandem.Proofs.Config.Layers
import Tandem.Proofs.Cli.Timeout
import Tandem.Proofs.Host.Child
import Tandem.Proofs.Cli.Ceilings
