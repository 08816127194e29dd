import Tandem.Document.Tree
import Tandem.Number.Shortest
import Tandem.Text.Quoted

/-!
Typed readers of documents.

A reader goes through a tree in the order of its text and reports the first thing that is wrong: a
flaw of the document or a value that does not fit.
-/

namespace Tandem.Document

open Tandem.Number

/-- What a value is, in an error about its type. -/
inductive Found where
  | atom (a : Atom)
  | text (s : String)
  | list
  | record
deriving DecidableEq

def Found.describe : Found → String
  | atom .null => "null"
  | atom (.bool b) => s!"boolean `{b}`"
  | atom (.number (.int n)) => s!"integer `{n}`"
  | atom (.number (.real x)) => s!"floating point `{x.render}`"
  | text s => "string " ++ Text.quoted s
  | list => "sequence"
  | record => "map"

inductive ReadError where
  | flaw (f : Flaw)
  | wrongType (found : Found) (expected : String)
  | wrongValue (found : Found) (expected : String)
  | wrongLength (length : Nat) (title : String) (fields : Nat)
  | unknownField (name : String) (known : List String)
  | missingField (name : String)
  | duplicateField (name : String)
  | unknownVariant (name : String) (known : List String)
deriving DecidableEq

/-- Names to choose from, in words. -/
def choices : List String → String
  | [] => "nothing"
  | [a] => s!"`{a}`"
  | [a, b] => s!"`{a}` or `{b}`"
  | names => "one of " ++ ", ".intercalate (names.map fun n => s!"`{n}`")

namespace ReadError

def message : ReadError → String
  | flaw .malformed => "<syntax>"
  | flaw .unfinished => "<eof>"
  | wrongType found expected => s!"invalid type: {found.describe}, expected {expected}"
  | wrongValue found expected => s!"invalid value: {found.describe}, expected {expected}"
  | wrongLength n title 1 => s!"invalid length {n}, expected struct {title} with 1 element"
  | wrongLength n title k => s!"invalid length {n}, expected struct {title} with {k} elements"
  | unknownField name [] => s!"unknown field `{name}`, there are no fields"
  | unknownField name known => s!"unknown field `{name}`, expected {choices known}"
  | missingField name => s!"missing field `{name}`"
  | duplicateField name => s!"duplicate field `{name}`"
  | unknownVariant name [] => s!"unknown variant `{name}`, there are no variants"
  | unknownVariant name known => s!"unknown variant `{name}`, expected {choices known}"

end ReadError

abbrev Reader (α : Type) := Tree → Except ReadError α

namespace Reader

/-- What a part means, its flaw as an error. -/
def meaning {α : Type} (used : Except Flaw α) : Except ReadError α := used.mapError .flaw

/-- What kind of value a tree is. -/
def found : Tree → Except ReadError Found
  | .missing f => .error (.flaw f)
  | .atom used _ => Found.atom <$> meaning used
  | .text used _ => Found.text <$> meaning used
  | .list _ => .ok .list
  | .record _ => .ok .record

/-- Refuses a value of another type than the expected one. -/
def refuse {α : Type} (expected : String) (t : Tree) : Except ReadError α := do
  throw (.wrongType (← found t) expected)

def bool : Reader Bool
  | .atom (.ok (.bool b)) _ => .ok b
  | t => refuse "a boolean" t

def unit : Reader Unit
  | .atom (.ok .null) _ => .ok ()
  | t => refuse "unit" t

/-- A text, called what `expected` says in errors. -/
def text (expected : String) : Reader String
  | .text (.ok s) _ => .ok s
  | t => refuse expected t

def string : Reader String := text "a string"

/-- An integer in a range. -/
def integer (low high : Int) (expected : String) : Reader Int
  | .atom (.ok (.number (.int n))) _ =>
    if low ≤ n ∧ n ≤ high then .ok n
    else .error (.wrongValue (.atom (.number (.int n))) expected)
  | t => refuse expected t

/-- A word of 64 bits, by the name it has in errors. -/
def word64 (expected : String) : Reader UInt64 := fun t =>
  (fun n => UInt64.ofNat n.toNat) <$> integer 0 18446744073709551615 expected t

/-- A signed integer of 32 bits. -/
def int32 : Reader Int32 := fun t =>
  Int32.ofInt <$> integer (-2147483648) 2147483647 "i32" t

/-- A double. An integer is taken for the nearest one. -/
def double : Reader Binary64
  | .atom (.ok (.number (.real x))) _ => .ok x
  | .atom (.ok (.number (.int n))) _ =>
    .ok ((Binary64.ofFraction? (n < 0) n.natAbs 1).getD default)
  | t => refuse "f64" t

section
variable {α : Type}

/-- A value or null. -/
def optional (r : Reader α) : Reader (Option α)
  | .atom (.ok .null) _ => .ok none
  | t => some <$> r t

/-- The items of a list, up to its end. -/
def items (r : Reader α) : Items → Except ReadError (List α)
  | .closed => .ok []
  | .cut next _ => .error (.flaw next)
  | .cons head tail => do
    let a ← r head
    return a :: (← items r tail)

def list (r : Reader α) : Reader (List α)
  | .list parts => items r parts
  | t => refuse "a sequence" t

/-- The members of a record, whatever their names, up to its end. -/
def members (r : Reader α) : Members → Except ReadError (List (String × α))
  | .closed => .ok []
  | .cut next _ => .error (.flaw next)
  | .nameless _ => .error (.flaw .malformed)
  | .cons name _ value tail => do
    let name ← meaning name
    let a ← r value
    return (name, a) :: (← members r tail)

/-- A record as a table, in order. Of several members with one name the last counts. -/
def table (r : Reader α) : Reader (List (String × α))
  | .record parts => members r parts
  | t => refuse "a map" t

/-- One of several named things: its name, or a record that gives it null. -/
def variant (variants : List (String × α)) : Reader α
  | .missing f => .error (.flaw f)
  | .text used _ => do choose (← meaning used)
  | .record (.cons name _ value tail) => do
    let a ← choose (← meaning name)
    unit value
    match tail with
    | .closed => return a
    | .cut _ last => throw (.flaw last)
    | _ => throw (.flaw .malformed)
  | .record (.cut next _) => .error (.flaw next)
  | .record (.nameless t) => refuse "variant identifier" t
  | _ => .error (.flaw .malformed)
where
  choose (name : String) : Except ReadError α :=
    match variants.lookup name with
    | some a => .ok a
    | none => .error (.unknownVariant name (variants.map Prod.fst))

end

/-- A field of a record as the record is gone through. -/
structure Field where
  name : String
  check : Tree → Except ReadError Unit
  /-- Whether the list form of the record may end before the field. -/
  mayEnd : Bool

/-- A field that is read by `r`. -/
def field {α : Type} (name : String) (r : Reader α) (mayEnd : Bool) : Field :=
  ⟨name, fun t => do let _ ← r t, mayEnd⟩

/-- The values of the fields that a record has. -/
abbrev Fields := List (String × Tree)

/-- Goes through the members of a record. An unknown member is passed over, or refused where the
record is strict. -/
def namedFields (strict : Bool) (known : List Field) (seen : Fields) :
    Members → Except ReadError Fields
  | .closed => .ok seen
  | .cut next _ => .error (.flaw next)
  | .nameless _ => .error (.flaw .malformed)
  | .cons name _ value tail => do
    let name ← meaning name
    match known.find? (·.name == name) with
    | some f =>
      if (seen.lookup name).isSome then throw (.duplicateField name)
      f.check value
      namedFields strict known ((name, value) :: seen) tail
    | none =>
      if strict then throw (.unknownField name (known.map Field.name))
      match value.passing with
      | some flaw => throw (.flaw flaw)
      | none => namedFields strict known seen tail

/-- Goes through the list form of a record: its fields in order. -/
def listedFields (title : String) (count : Nat) :
    List Field → Items → Except ReadError Fields
  | [], .closed => .ok []
  | [], .cut _ last => .error (.flaw last)
  | [], .cons .. => .error (.flaw .malformed)
  | f :: known, .cons head tail => do
    f.check head
    return (f.name, head) :: (← listedFields title count known tail)
  | _ :: _, .cut next _ => .error (.flaw next)
  | f :: known, .closed =>
    if f.mayEnd then listedFields title count known .closed
    else .error (.wrongLength (count - (known.length + 1)) title count)

/-- The fields of a record in either form. -/
def fields (title : String) (strict : Bool) (known : List Field) : Reader Fields
  | .record members => namedFields strict known [] members
  | .list items => listedFields title known.length known items
  | t => refuse ("struct " ++ title) t

section
variable {α : Type}

/-- A field that has to be there. -/
def required (name : String) (r : Reader α) (fs : Fields) : Except ReadError α :=
  match fs.lookup name with
  | some t => r t
  | none => .error (.missingField name)

/-- A field that may be left out. -/
def absent (default : α) (name : String) (r : Reader α) (fs : Fields) : Except ReadError α :=
  match fs.lookup name with
  | some t => r t
  | none => .ok default

/-- Reads a whole text. Anything after the value is malformed. -/
def ofText (r : Reader α) (text : List Char) : Except ReadError α :=
  let (tree, rest) := Tree.ofText text
  match r tree with
  | .error e => .error e
  | .ok a => if rest.isEmpty then .ok a else .error (.flaw .malformed)

end

end Reader

end Tandem.Document
