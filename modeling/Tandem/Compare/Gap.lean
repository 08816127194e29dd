import Tandem.Text.Class
import Tandem.Text.Scan

/-!
Migration gaps: traces, in the error output of the target runtime, of names that only the source
runtime had.
-/

namespace Tandem.Compare

open Tandem.Text

/-- A name that the target runtime lacks, with what replaces it. -/
structure Legacy where
  name : String
  replacement : Option String
deriving DecidableEq, Repr

namespace Legacy

def builtins : List Legacy :=
  [⟨"raw_input", some "input"⟩, ⟨"xrange", some "range"⟩, ⟨"basestring", some "str"⟩,
   ⟨"unicode", some "str"⟩, ⟨"unichr", some "chr"⟩, ⟨"long", some "int"⟩,
   ⟨"reduce", some "functools.reduce"⟩, ⟨"reload", some "importlib.reload"⟩, ⟨"execfile", none⟩,
   ⟨"cmp", none⟩, ⟨"file", some "open"⟩]

def modules : List Legacy :=
  [⟨"cPickle", some "pickle"⟩, ⟨"cStringIO", some "io"⟩, ⟨"StringIO", some "io"⟩,
   ⟨"ConfigParser", some "configparser"⟩, ⟨"Queue", some "queue"⟩,
   ⟨"HTMLParser", some "html.parser"⟩, ⟨"urllib2", some "urllib.request"⟩,
   ⟨"httplib", some "http.client"⟩, ⟨"Tkinter", some "tkinter"⟩, ⟨"__builtin__", some "builtins"⟩,
   ⟨"commands", some "subprocess"⟩]

def methods : List Legacy :=
  [⟨"has_key", some "the `in` operator"⟩, ⟨"iteritems", some "items()"⟩,
   ⟨"itervalues", some "values()"⟩, ⟨"iterkeys", some "keys()"⟩]

def find? (table : List Legacy) (name : List Char) : Option Legacy :=
  table.find? (·.name.toList == name)

def advice (l : Legacy) : String :=
  match l.replacement with
  | some r => s!"; use {r} instead"
  | none => "; it has no direct replacement"

end Legacy

inductive Gap where
  | builtin (l : Legacy)
  | library (l : Legacy)
  | method (l : Legacy)
deriving DecidableEq, Repr

def Gap.message : Gap → String
  | builtin l =>
    s!"Migration gap: NameError for '{l.name}', a builtin removed from the target runtime{l.advice}."
  | library l =>
    s!"Migration gap: import of '{l.name}' failed; the module was renamed or removed in the target runtime{l.advice}."
  | method l =>
    s!"Migration gap: method '{l.name}' no longer exists in the target runtime{l.advice}."

/-- A name at the start of a text, then further characters of a class, and what follows them. -/
def name? (more : Char → Bool) : List Char → Option (List Char × List Char)
  | [] => none
  | c :: rest =>
    if isNameStart c then some (c :: rest.takeWhile more, rest.dropWhile more) else none

/-- A name that is followed by `close`. -/
def closedName? (close : String) (text : List Char) : Option (List Char × List Char) := do
  let (name, rest) ← name? isNameChar text
  let rest ← after? close.toList rest
  return (name, rest)

/-- The name that a text starts by calling undefined. -/
def undefinedName? (text : List Char) : Option (List Char × List Char) := do
  let rest ← after? "NameError: ".toList text
  let rest ← after? "name '".toList (afterOptional "global ".toList rest)
  closedName? "' is not defined" rest

/-- The dotted module that a text starts by calling missing. -/
def missingModule? (text : List Char) : Option (List Char × List Char) := do
  let rest ← afterAny? ["ModuleNotFoundError".toList, "ImportError".toList] text
  let rest ← after? ": No module named ".toList rest
  name? (fun c => isNameChar c || c == '.') (afterOptional ['\''] rest)

/-- The last capture that starts on the first line of a text. -/
def lastOnLine? {α : Type} (capture? : List Char → Option (α × List Char)) :
    List Char → Option (α × List Char)
  | [] => capture? []
  | c :: rest =>
    if c = '\n' then capture? (c :: rest)
    else (lastOnLine? capture? rest).or (capture? (c :: rest))

/-- The attribute that a line starts by calling missing; of several on the line, the last. -/
def missingAttribute? (text : List Char) : Option (List Char × List Char) := do
  let rest ← after? "AttributeError: ".toList text
  lastOnLine? (fun text => do closedName? "'" (← after? "has no attribute '".toList text)) rest

/-- The gaps that an error output shows, each once: builtins, then modules, then methods. -/
def Gap.all (text : List Char) : List Gap :=
  let builtins := (captures undefinedName? text).filterMap fun name =>
    (Legacy.find? Legacy.builtins name).map Gap.builtin
  let libraries := (captures missingModule? text).filterMap fun name =>
    (Legacy.find? Legacy.modules (name.takeWhile (· != '.'))).map Gap.library
  let methods := (captures missingAttribute? text).filterMap fun name =>
    (Legacy.find? Legacy.methods name).map Gap.method
  (builtins ++ libraries ++ methods).eraseDups

/-- The warnings for the error output of the target runtime. -/
def migrationGaps (errorOutput : String) : List String :=
  (Gap.all errorOutput.toList).map Gap.message

end Tandem.Compare
