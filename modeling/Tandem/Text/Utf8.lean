/-!
UTF-8 text.

`decode` replaces every maximal ill-formed part by one U+FFFD, `decode?` refuses ill-formed input,
`encode` writes a text.
-/

namespace Tandem.Text.Utf8

abbrev Bytes := List UInt8

/-- What a lead byte stands for: its own bits, the range of the byte after it and the number of
bytes that follow in all. -/
structure Lead where
  bits : Nat
  low : UInt8
  high : UInt8
  more : Nat
deriving DecidableEq, Repr

/-- Bytes that begin no character are `0x80` to `0xc1` and those above `0xf4`. The range of the
second byte rules out overlong forms, surrogates and what lies beyond U+10FFFF. -/
def Lead.of? (b : UInt8) : Option Lead :=
  let n := b.toNat
  if n < 0x80 then some ⟨n, 0x80, 0xbf, 0⟩
  else if n < 0xc2 then none
  else if n < 0xe0 then some ⟨n - 0xc0, 0x80, 0xbf, 1⟩
  else if n = 0xe0 then some ⟨0, 0xa0, 0xbf, 2⟩
  else if n = 0xed then some ⟨0xd, 0x80, 0x9f, 2⟩
  else if n < 0xf0 then some ⟨n - 0xe0, 0x80, 0xbf, 2⟩
  else if n = 0xf0 then some ⟨0, 0x90, 0xbf, 3⟩
  else if n < 0xf4 then some ⟨n - 0xf0, 0x80, 0xbf, 3⟩
  else if n = 0xf4 then some ⟨4, 0x80, 0x8f, 3⟩
  else none

/-- Reads `more` bytes, the first of them between `low` and `high`. The result is the code point,
if it is complete, and what follows the bytes that belong to it. -/
def follow (bits : Nat) (low high : UInt8) : Nat → Bytes → Option Nat × Bytes
  | 0, rest => (some bits, rest)
  | _ + 1, [] => (none, [])
  | more + 1, b :: rest =>
    if low ≤ b ∧ b ≤ high then follow (64 * bits + b.toNat % 64) 0x80 0xbf more rest
    else (none, b :: rest)

theorem length_follow_le (bits : Nat) (low high : UInt8) (more : Nat) (bytes : Bytes) :
    (follow bits low high more bytes).2.length ≤ bytes.length := by
  fun_induction follow bits low high more bytes <;> grind

/-- The first character of a text that begins with `b`, if it is well formed, and what follows. -/
def first (b : UInt8) (rest : Bytes) : Option Char × Bytes :=
  match Lead.of? b with
  | none => (none, rest)
  | some lead =>
    let (code, rest) := follow lead.bits lead.low lead.high lead.more rest
    (code.map Char.ofNat, rest)

theorem length_first_le (b : UInt8) (rest : Bytes) : (first b rest).2.length ≤ rest.length := by
  unfold first
  split
  · exact Nat.le_refl _
  · exact length_follow_le ..

/-- What an ill-formed part is replaced by. -/
def replacement : Char := '\ufffd'

/-- The characters of a byte sequence, ill-formed parts replaced. -/
def decode : Bytes → List Char
  | [] => []
  | b :: rest => (first b rest).1.getD replacement :: decode (first b rest).2
termination_by bytes => bytes.length
decreasing_by exact Nat.lt_succ_of_le (length_first_le b rest)

/-- The characters of a well-formed byte sequence. -/
def decode? : Bytes → Option (List Char)
  | [] => some []
  | b :: rest =>
    match (first b rest).1 with
    | some c => (decode? (first b rest).2).map (c :: ·)
    | none => none
termination_by bytes => bytes.length
decreasing_by exact Nat.lt_succ_of_le (length_first_le b rest)

/-- The bytes of a code point. -/
def encodeChar (c : Char) : Bytes :=
  let n := c.toNat
  let tail (unit : Nat) : UInt8 := UInt8.ofNat (0x80 + n / unit % 64)
  if n < 0x80 then [UInt8.ofNat n]
  else if n < 0x800 then [UInt8.ofNat (0xc0 + n / 0x40), tail 1]
  else if n < 0x10000 then [UInt8.ofNat (0xe0 + n / 0x1000), tail 0x40, tail 1]
  else [UInt8.ofNat (0xf0 + n / 0x40000), tail 0x1000, tail 0x40, tail 1]

/-- The bytes of a text. -/
def encode (text : List Char) : Bytes := text.flatMap encodeChar

end Tandem.Text.Utf8
