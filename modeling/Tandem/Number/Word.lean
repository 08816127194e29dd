/-!
Words of 64 bits, written in decimal digits.
-/

namespace Tandem.Number

inductive WordFlaw where
  | empty
  | notDigit
  | tooLarge
deriving DecidableEq, Repr

def WordFlaw.text : WordFlaw → String
  | empty => "cannot parse integer from empty string"
  | notDigit => "invalid digit found in string"
  | tooLarge => "number too large to fit in target type"

/-- Reads digits on after those of a value. The first character that is no digit or makes the
value too large is the flaw. -/
def readDigits (value : Nat) : List Char → Except WordFlaw Nat
  | [] => .ok value
  | c :: rest =>
    if c.isDigit then
      let next := 10 * value + (c.toNat - '0'.toNat)
      if next < UInt64.size then readDigits next rest else .error .tooLarge
    else .error .notDigit

/-- Reads ASCII digits after at most one plus sign. -/
def readWord : List Char → Except WordFlaw UInt64
  | [] => .error .empty
  | ['+'] => .error .notDigit
  | '+' :: digits => UInt64.ofNat <$> readDigits 0 digits
  | digits => UInt64.ofNat <$> readDigits 0 digits

end Tandem.Number
