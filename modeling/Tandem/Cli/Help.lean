import Tandem.Cli.Arguments

/-!
Help pages. A page says what its topic is for, how it is called, and what it knows: commands and
options, each with its summary in a second column.
-/

namespace Tandem.Cli.Help

/-- A line of two columns. -/
structure Row where
  label : String
  summary : String

/-- Rows under a heading. The first column is as wide as its longest label. -/
structure Table where
  heading : String
  rows : List Row

namespace Table

def width (t : Table) : Nat := (t.rows.map (·.label.length)).foldl max 0

/-- A row with its label filled up to a width, two spaces between the columns. -/
def line (width : Nat) (r : Row) : String :=
  "  " ++ r.label ++ String.ofList (List.replicate (width - r.label.length) ' ') ++ "  " ++ r.summary

def text (t : Table) : String :=
  "\n".intercalate (s!"{t.heading}:" :: t.rows.map (line t.width))

end Table

/-- An option with its value, as a command line has it. -/
def written (o : OptionForm) : String := s!"--{o.name} <{o.label}>"

/-- The options of a level. Those without a letter leave room for one. -/
def optionTable (options : List OptionForm) : Table :=
  ⟨"Options", options.map (fun o => ⟨"    " ++ written o, o.summary⟩) ++
    [⟨"-h, --help", "Print help"⟩]⟩

def helpCommand : Row :=
  ⟨"help", "Print this message or the help of the given subcommand(s)"⟩

def commandTable : Table :=
  ⟨"Commands", commandForms.map (fun c => ⟨c.name, c.summary⟩) ++ [helpCommand]⟩

/-- A page: what it is about, the words of a call, and the tables. -/
def sheet (summary : String) (call : List String) (tables : List Table) : String :=
  "\n\n".intercalate
    (summary :: " ".intercalate ("Usage:" :: "parity-runner" :: call) :: tables.map (·.text)) ++ "\n"

end Help

open Help

/-- The help page on a topic. -/
def Topic.page : Topic → String
  | program =>
    sheet "Run a program under its source and target runtimes and compare behavior."
      ["[OPTIONS]", "<COMMAND>"] [commandTable, optionTable [configOption]]
  | command form =>
    sheet form.summary
      (form.name :: "[OPTIONS]" :: (form.options.filter (·.isNeeded)).map written)
      [optionTable (configOption :: form.options)]
  | help =>
    sheet helpCommand.summary ["help", "[COMMAND]..."]
      [⟨"Arguments", [⟨"[COMMAND]...", "Print help for the subcommand(s)"⟩]⟩]

end Tandem.Cli
