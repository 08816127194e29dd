import Tandem.Document.Numeral

/-!
The tokens of a document.

A token keeps what it means apart from whether it can be passed over: a text with half a surrogate
pair or a number too large for a double means nothing, but may stand where nothing is read. Tokens
end with the first that cannot even be passed over.
-/

namespace Tandem.Document

/-- What is wrong with a document that is none. -/
inductive Flaw where
  /-- Something stands where it may not. -/
  | malformed
  /-- The document ends too soon. -/
  | unfinished
deriving DecidableEq, Repr

inductive Atom where
  | null
  | bool (b : Bool)
  | number (n : Number)
deriving DecidableEq

inductive Token where
  | listOpen
  | listClose
  | recordOpen
  | recordClose
  | comma
  | colon
  | atom (meaning : Except Flaw Atom) (passing : Option Flaw)
  | text (meaning : Except Flaw String) (passing : Option Flaw)
  /-- A character that begins no token. -/
  | stray

/-- The flaw of a text that goes on with these characters where it should not. -/
def Flaw.at : List Char → Flaw
  | [] => unfinished
  | _ => malformed

/-- The value of a hexadecimal digit of either case. -/
def hexDigit? (c : Char) : Option Nat :=
  if c.isDigit then some (c.toNat - '0'.toNat)
  else if 'a' ≤ c ∧ c ≤ 'f' then some (c.toNat - 'a'.toNat + 10)
  else if 'A' ≤ c ∧ c ≤ 'F' then some (c.toNat - 'A'.toNat + 10)
  else none

/-- The bytes that characters take up. -/
def byteLength (text : List Char) : Nat := text.foldr (fun c n => c.utf8Size + n) 0

/-- Four hexadecimal digits and what follows them. A text of fewer than four bytes ends too soon,
whatever it holds. -/
def unit (text : List Char) : Except Flaw (Nat × List Char) :=
  match text with
  | a :: b :: c :: d :: rest =>
    match hexDigit? a, hexDigit? b, hexDigit? c, hexDigit? d with
    | some a, some b, some c, some d => .ok (((a * 16 + b) * 16 + c) * 16 + d, rest)
    | _, _, _, _ => .error .malformed
  | _ => .error (if byteLength text < 4 then .unfinished else .malformed)

theorem length_unit_lt {text rest : List Char} {n : Nat} (h : unit text = .ok (n, rest)) :
    rest.length < text.length := by
  unfold unit at h
  split at h
  · split at h
    · obtain ⟨-, rfl⟩ := Prod.mk.inj (Except.ok.inj h)
      simp only [List.length_cons]
      omega
    · cases h
  · cases h

/-- What a backslash and a character other than `u` stand for. -/
def shortEscape? : Char → Option Char
  | '"' => some '"'
  | '\\' => some '\\'
  | '/' => some '/'
  | 'b' => some '\x08'
  | 'f' => some '\x0c'
  | 'n' => some '\n'
  | 'r' => some '\r'
  | 't' => some '\t'
  | _ => none

def isHighSurrogate (n : Nat) : Bool := 0xd800 ≤ n && n < 0xdc00

def isLowSurrogate (n : Nat) : Bool := 0xdc00 ≤ n && n < 0xe000

/-- The second half of a surrogate pair and what follows it. -/
def lowHalf (text : List Char) : Except Flaw (Nat × List Char) :=
  match text with
  | '\\' :: 'u' :: rest =>
    match unit rest with
    | .ok (n, rest) => if isLowSurrogate n then .ok (n, rest) else .error .malformed
    | .error flaw => .error flaw
  | '\\' :: rest => .error (.at rest)
  | _ => .error (.at text)

theorem length_lowHalf_lt {text rest : List Char} {n : Nat} (h : lowHalf text = .ok (n, rest)) :
    rest.length < text.length := by
  unfold lowHalf at h
  split at h
  · split at h
    · next hu =>
      split at h
      · obtain ⟨-, rfl⟩ := Prod.mk.inj (Except.ok.inj h)
        have := length_unit_lt hu
        simp only [List.length_cons]
        omega
      · cases h
    · cases h
  all_goals cases h

/-- The character of an escape after its `\u`, and what follows. -/
def unicodeEscape (text : List Char) : Except Flaw (Char × List Char) :=
  match unit text with
  | .error flaw => .error flaw
  | .ok (n, rest) =>
    if isLowSurrogate n then .error .malformed
    else if isHighSurrogate n then
      match lowHalf rest with
      | .ok (m, rest) => .ok (Char.ofNat ((n - 0xd800) * 0x400 + (m - 0xdc00) + 0x10000), rest)
      | .error flaw => .error flaw
    else .ok (Char.ofNat n, rest)

theorem length_unicodeEscape_lt {text rest : List Char} {c : Char}
    (h : unicodeEscape text = .ok (c, rest)) : rest.length < text.length := by
  unfold unicodeEscape at h
  split at h
  · cases h
  · next hu =>
    have := length_unit_lt hu
    split at h
    · cases h
    · split at h
      · split at h
        · next hl =>
          have := length_lowHalf_lt hl
          obtain ⟨-, rfl⟩ := Prod.mk.inj (Except.ok.inj h)
          omega
        · cases h
      · obtain ⟨-, rfl⟩ := Prod.mk.inj (Except.ok.inj h)
        omega

/-- The characters of a quoted text after its opening quote. -/
def quoted (text : List Char) : Except Flaw (List Char) :=
  match text with
  | [] => .error .unfinished
  | '"' :: _ => .ok []
  | '\\' :: 'u' :: rest =>
    match _h : unicodeEscape rest with
    | .ok (c, rest) => (c :: ·) <$> quoted rest
    | .error flaw => .error flaw
  | '\\' :: e :: rest =>
    match shortEscape? e with
    | some c => (c :: ·) <$> quoted rest
    | none => .error .malformed
  | ['\\'] => .error .unfinished
  | c :: rest => if c.toNat < 0x20 then .error .malformed else (c :: ·) <$> quoted rest
termination_by text.length
decreasing_by
  · have := length_unicodeEscape_lt _h
    simp only [List.length_cons]
    omega
  all_goals simp only [List.length_cons]; omega

/-- What follows a quoted text after its opening quote. Halves of surrogate pairs do not matter
here. -/
def pastQuoted (text : List Char) : Except Flaw (List Char) :=
  match text with
  | [] => .error .unfinished
  | '"' :: rest => .ok rest
  | '\\' :: 'u' :: rest =>
    match _h : unit rest with
    | .ok (_, rest) => pastQuoted rest
    | .error flaw => .error flaw
  | '\\' :: e :: rest => if (shortEscape? e).isSome then pastQuoted rest else .error .malformed
  | ['\\'] => .error .unfinished
  | c :: rest => if c.toNat < 0x20 then .error .malformed else pastQuoted rest
termination_by text.length
decreasing_by
  · have := length_unit_lt _h
    simp only [List.length_cons]
    omega
  all_goals simp only [List.length_cons]; omega

/-- What follows the rest of a word, once its first character has told which word it is. -/
def pastWord : (word text : List Char) → Except Flaw (List Char)
  | [], text => .ok text
  | w :: word, c :: text => if w = c then pastWord word text else .error .malformed
  | _ :: _, [] => .error .unfinished

def isSpace (c : Char) : Bool := c == ' ' || c == '\n' || c == '\t' || c == '\r'

/-- A token, and what follows it if it can be passed over. -/
structure Lexeme where
  token : Token
  rest : List Char

/-- The atom of a word. -/
def Lexeme.ofWord (meaning : Atom) (word text : List Char) : Lexeme :=
  match pastWord word text with
  | .ok rest => ⟨.atom (.ok meaning) none, rest⟩
  | .error flaw => ⟨.atom (.error flaw) (some flaw), []⟩

/-- The atom of a numeral. What is no numeral is malformed to pass over, even at the end. -/
def Lexeme.ofNumeral (negative : Bool) (text : List Char) : Lexeme :=
  match numeral negative text with
  | .ok (n, rest) =>
    let meaning := match n.number? with
      | some value => .ok (.number value)
      | none => .error .malformed
    ⟨.atom meaning none, rest⟩
  | .error left => ⟨.atom (.error (.at left)) (some .malformed), []⟩

/-- A quoted text after its opening quote. -/
def Lexeme.ofQuoted (text : List Char) : Lexeme :=
  let meaning := String.ofList <$> quoted text
  match pastQuoted text with
  | .ok rest => ⟨.text meaning none, rest⟩
  | .error flaw => ⟨.text meaning (some flaw), []⟩

/-- The lexeme that begins with `c`. -/
def Lexeme.of (c : Char) (rest : List Char) : Lexeme :=
  match c with
  | '[' => ⟨.listOpen, rest⟩
  | ']' => ⟨.listClose, rest⟩
  | '\x7b' => ⟨.recordOpen, rest⟩
  | '\x7d' => ⟨.recordClose, rest⟩
  | ',' => ⟨.comma, rest⟩
  | ':' => ⟨.colon, rest⟩
  | '"' => .ofQuoted rest
  | 'n' => .ofWord .null "ull".toList rest
  | 't' => .ofWord (.bool true) "rue".toList rest
  | 'f' => .ofWord (.bool false) "alse".toList rest
  | '-' => .ofNumeral true rest
  | c => if c.isDigit then .ofNumeral false (c :: rest) else ⟨.stray, []⟩

theorem length_pastQuoted_lt {text rest : List Char} (h : pastQuoted text = .ok rest) :
    rest.length < text.length := by
  fun_induction pastQuoted text with
  | case3 text n after hu ih =>
    have := length_unit_lt hu
    have := ih h
    simp only [List.length_cons]
    omega
  | case5 _ _ _ _ ih =>
    have := ih h
    simp only [List.length_cons]
    omega
  | case9 _ _ _ _ _ _ _ ih =>
    have := ih h
    simp only [List.length_cons]
    omega
  | _ => simp_all

theorem length_pastWord_le {word text rest : List Char} (h : pastWord word text = .ok rest) :
    rest.length ≤ text.length := by
  fun_induction pastWord word text <;> simp_all
  omega

theorem Lexeme.length_of_le (c : Char) (rest : List Char) :
    (Lexeme.of c rest).rest.length ≤ rest.length := by
  have word (a : Atom) (w : List Char) : (Lexeme.ofWord a w rest).rest.length ≤ rest.length := by
    unfold Lexeme.ofWord
    split
    · next h => exact length_pastWord_le h
    · simp
  have number (b : Bool) (text : List Char) :
      (Lexeme.ofNumeral b text).rest.length ≤ text.length - 1 := by
    unfold Lexeme.ofNumeral
    split
    · next h =>
      have := length_numeral_lt h
      simp only
      omega
    · simp
  unfold Lexeme.of
  split <;> try exact Nat.le_refl _
  · unfold Lexeme.ofQuoted
    simp only
    split
    · next h => exact Nat.le_of_lt (length_pastQuoted_lt h)
    · simp
  · exact word ..
  · exact word ..
  · exact word ..
  · exact Nat.le_trans (number ..) (Nat.sub_le ..)
  · split
    · exact number ..
    · simp

/-- The tokens of a text. -/
def tokens (text : List Char) : List Token :=
  match text with
  | [] => []
  | c :: rest =>
    if isSpace c then tokens rest
    else
      let lexeme := Lexeme.of c rest
      lexeme.token :: tokens lexeme.rest
termination_by text.length
decreasing_by
  · exact Nat.lt_succ_self _
  · exact Nat.lt_succ_of_le (Lexeme.length_of_le c rest)

end Tandem.Document
