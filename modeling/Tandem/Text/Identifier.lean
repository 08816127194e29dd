/-!
Identifiers of things that become parts of paths: short, and of letters that no file system and no
shell takes for anything else.
-/

namespace Tandem.Text

def isIdentifierChar (c : Char) : Bool := c.isAlphanum || c == '_' || c == '-'

/-- At least one and at most 64 ASCII letters, digits, low lines and hyphens. -/
def isIdentifier (s : String) : Bool :=
  !s.isEmpty && s.utf8ByteSize ≤ 64 && s.toList.all isIdentifierChar

/-- The form of identifiers, for messages. -/
def identifierForm : String := "[A-Za-z0-9_-]\x7b1,64\x7d"

end Tandem.Text
