import Tandem.Text.Class
import Tandem.Text.Utf8

/-!
The environment of a guest, built from nothing.

A guest sees the allowed variables of the host, a search path in any case, and the variable that
points at its working directory. All else stays behind, so that a secret added to the host later
cannot reach a guest by omission.
-/

namespace Tandem.Sandbox

open Tandem.Text

/-- The host variables that a guest may see. -/
def allowedVariables : List String := ["PATH", "HOME", "LANG", "LC_ALL", "LC_CTYPE", "TZ"]

def defaultSearchPath : String := "/usr/local/bin:/usr/bin:/bin"

/-- The variable that points at the working directory, unless told otherwise. -/
def defaultModulePathVariable : String := "PYTHONPATH"

/-- ASCII letters, digits and low lines, no digit first. -/
def isVariableName (name : String) : Bool :=
  match name.toList with
  | [] => false
  | c :: rest => isNameStart c && rest.all isNameChar

/-- Variables in order of their names, each once. -/
abbrev Environment := List (String × String)

namespace Environment

def get? (env : Environment) (name : String) : Option String := env.lookup name

/-- Sets a variable, in place of its old value if it has one. -/
def set (name value : String) : Environment → Environment
  | [] => [(name, value)]
  | (other, old) :: rest =>
    if name < other then (name, value) :: (other, old) :: rest
    else if name = other then (name, value) :: rest
    else (other, old) :: set name value rest

/-- A host variable as text, if it is allowed and both its name and its value are UTF-8. -/
def allowed? (entry : Utf8.Bytes × Utf8.Bytes) : Option (String × String) := do
  let name := String.ofList (← Utf8.decode? entry.1)
  let value := String.ofList (← Utf8.decode? entry.2)
  if name ∈ allowedVariables then some (name, value) else none

/-- The allowed variables of a host; of two with one name the later one counts. -/
def ofHost (host : List (Utf8.Bytes × Utf8.Bytes)) : Environment :=
  (host.filterMap allowed?).foldl (fun env (name, value) => env.set name value) []

/-- The environment of a guest. `module` names a variable and the directory to put into it; a name
that is no variable name counts as none. -/
def sanitized (host : List (Utf8.Bytes × Utf8.Bytes)) (module : Option (String × String)) :
    Environment :=
  let env := ofHost host
  let env := if (env.get? "PATH").isSome then env else env.set "PATH" defaultSearchPath
  match module with
  | some (name, dir) => if isVariableName name then env.set name dir else env
  | none => env

end Environment

end Tandem.Sandbox
