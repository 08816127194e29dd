import Tandem.Config.Overlay
import Tandem.Config.SettingsForm
import Tandem.Host.Call

/-!
Loading settings: standard ones, a file over them if there is one, the environment over both.
-/

namespace Tandem.Config

open Tandem.Document Tandem.Host Tandem.Text

/-- Why settings could not be had. -/
inductive ConfigError where
  | unreadable (path : Path) (cause : IoError)
  | malformed (path : Path) (cause : ReadError)
  | otherVersion (path : Path) (version : String)
  | environment (flaw : VariableFlaw)
  | invalid (flaw : SettingsFlaw)

def ConfigError.message : ConfigError → String
  | unreadable path cause => s!"read config: {path.text}: {cause.message}"
  | malformed path cause => s!"parse config JSON: {path.text}: {cause.message}"
  | otherVersion path version =>
    s!"config schema_version mismatch in {path.text}: expected {Settings.version} got " ++
      quoted version
  | environment flaw => flaw.message
  | invalid flaw => flaw.message

namespace Settings

/-- The settings that a file's text gives over standard ones. -/
def ofText (s : Settings) (path : Path) (text : String) : Except ConfigError Settings :=
  match (reader s).ofText text.toList with
  | .error e => .error (.malformed path e)
  | .ok read =>
    match read.schemaVersion with
    | some v => if v = version then .ok read else .error (.otherVersion path v)
    | none => .ok read

def ofFile (s : Settings) (path : Path) : Task host (Except ConfigError Settings) := do
  match ← readText path with
  | .error e => return .error (.unreadable path e)
  | .ok text => return ofText s path text

/-- The settings of a process, from a file if one is named. -/
def load (file : Option Path) : Task host (Except ConfigError Settings) := do
  let environment ← ask .environment
  let basis := standard (temporaryDirectory environment)
  match ← (match file with
      | some path => ofFile basis path
      | none => return .ok basis) with
  | .error e => return .error e
  | .ok s =>
    match s.overlay (variableText environment) with
    | (s, none) => return .ok s
    | (_, some flaw) => return .error (.environment flaw)

end Settings

end Tandem.Config
