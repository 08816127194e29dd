import Tandem.Document.Token
import Tandem.Document.Value

/-!
Quoted texts.

* `escape_cases`: the three ways to write a character.
* `quoted_escape`, `pastQuoted_escape`: what stands for a character is read as this character.
* `tokens_quote`: a quoted text is one token that means the text, whatever follows it.
-/

namespace Tandem.Document

/-- A character is written with a backslash and a letter, with its number, or as itself. -/
theorem escape_cases (c : Char) :
    (∃ e, escape c = ['\\', e] ∧ e ≠ 'u' ∧ shortEscape? e = some c) ∨
      (c.toNat < 0x20 ∧ escape c =
        ['\\', 'u', '0', '0', Nat.digitChar (c.toNat / 16), Nat.digitChar (c.toNat % 16)]) ∨
      (c ≠ '"' ∧ c ≠ '\\' ∧ ¬ c.toNat < 0x20 ∧ escape c = [c]) := by
  unfold escape
  split
  · exact .inl ⟨'"', rfl, by decide, rfl⟩
  · exact .inl ⟨'\\', rfl, by decide, rfl⟩
  · exact .inl ⟨'n', rfl, by decide, rfl⟩
  · exact .inl ⟨'r', rfl, by decide, rfl⟩
  · exact .inl ⟨'t', rfl, by decide, rfl⟩
  · exact .inl ⟨'b', rfl, by decide, rfl⟩
  · exact .inl ⟨'f', rfl, by decide, rfl⟩
  · rename_i mark backslash _ _ _ _ _
    split
    · rename_i control
      exact .inr (.inl ⟨control, rfl⟩)
    · rename_i plain
      exact .inr (.inr ⟨mark, backslash, plain, rfl⟩)

theorem hexDigit?_digitChar {d : Nat} (h : d < 16) : hexDigit? (Nat.digitChar d) = some d := by
  revert d
  decide

section
variable {c e : Char} {rest : List Char}

theorem unit_control (h : c.toNat < 0x20) :
    unit ('0' :: '0' :: Nat.digitChar (c.toNat / 16) :: Nat.digitChar (c.toNat % 16) :: rest) =
      .ok (c.toNat, rest) := by
  have zero : hexDigit? '0' = some 0 := by decide
  have high := hexDigit?_digitChar (d := c.toNat / 16) (by omega)
  have low := hexDigit?_digitChar (d := c.toNat % 16) (by omega)
  have whole : ((0 * 16 + 0) * 16 + c.toNat / 16) * 16 + c.toNat % 16 = c.toNat := by omega
  simp only [unit, zero, high, low, whole]

theorem unicodeEscape_control (h : c.toNat < 0x20) :
    unicodeEscape
        ('0' :: '0' :: Nat.digitChar (c.toNat / 16) :: Nat.digitChar (c.toNat % 16) :: rest) =
      .ok (c, rest) := by
  -- The number is below the surrogates, so no second unit is looked for.
  have notLow : isLowSurrogate c.toNat = false := by simp [isLowSurrogate]; omega
  have notHigh : isHighSurrogate c.toNat = false := by simp [isHighSurrogate]; omega
  simp only [unicodeEscape, unit_control h, notLow, notHigh, Bool.false_eq_true, if_false,
    Char.ofNat_toNat]

/-! ## What a text means -/

theorem quoted_short (other : e ≠ 'u') (known : shortEscape? e = some c) :
    quoted ('\\' :: e :: rest) = (c :: ·) <$> quoted rest := by
  rw [quoted]
  · rw [known]
  · exact other

theorem quoted_control (h : c.toNat < 0x20) :
    quoted ('\\' :: 'u' :: '0' :: '0' :: Nat.digitChar (c.toNat / 16) ::
      Nat.digitChar (c.toNat % 16) :: rest) = (c :: ·) <$> quoted rest := by
  rw [quoted]
  split
  · next read =>
    rw [unicodeEscape_control h] at read
    obtain ⟨rfl, rfl⟩ := Prod.mk.inj (Except.ok.inj read)
    rfl
  · next read =>
    rw [unicodeEscape_control h] at read
    cases read

theorem quoted_plain (mark : c ≠ '"') (backslash : c ≠ '\\') (plain : ¬ c.toNat < 0x20) :
    quoted (c :: rest) = (c :: ·) <$> quoted rest := by
  rw [quoted, if_neg plain]
  · exact mark
  · rintro after rfl
    exact absurd rfl backslash
  · rintro e after rfl
    exact absurd rfl backslash
  · rintro rfl
    exact absurd rfl backslash

/-- What stands for a character is read as this character. -/
theorem quoted_escape (c : Char) (rest : List Char) :
    quoted (escape c ++ rest) = (c :: ·) <$> quoted rest := by
  obtain ⟨e, written, other, known⟩ | ⟨control, written⟩ | ⟨mark, backslash, plain, written⟩ :=
    escape_cases c
  · rw [written]
    exact quoted_short other known
  · rw [written]
    exact quoted_control control
  · rw [written]
    exact quoted_plain mark backslash plain

theorem quoted_flatMap (text rest : List Char) :
    quoted (text.flatMap escape ++ '"' :: rest) = .ok text := by
  induction text with
  | nil => simp [quoted]
  | cons c text ih =>
    rw [List.flatMap_cons, List.append_assoc, quoted_escape, ih]
    rfl

/-! ## Where a text ends -/

theorem pastQuoted_escape (c : Char) (rest : List Char) :
    pastQuoted (escape c ++ rest) = pastQuoted rest := by
  obtain ⟨e, written, other, known⟩ | ⟨control, written⟩ | ⟨mark, backslash, plain, written⟩ :=
    escape_cases c
  · rw [written, List.cons_append, List.cons_append, pastQuoted]
    · simp [known]
    · exact other
  · rw [written]
    simp only [List.cons_append, List.nil_append]
    rw [pastQuoted]
    split
    · next read =>
      rw [unit_control control] at read
      obtain ⟨rfl, rfl⟩ := Prod.mk.inj (Except.ok.inj read)
      rfl
    · next read =>
      rw [unit_control control] at read
      cases read
  · rw [written, List.cons_append, List.nil_append, pastQuoted, if_neg plain]
    · exact mark
    · rintro after rfl
      exact absurd rfl backslash
    · rintro e after rfl
      exact absurd rfl backslash
    · rintro rfl
      exact absurd rfl backslash

theorem pastQuoted_flatMap (text rest : List Char) :
    pastQuoted (text.flatMap escape ++ '"' :: rest) = .ok rest := by
  induction text with
  | nil => simp [pastQuoted]
  | cons c text ih => rw [List.flatMap_cons, List.append_assoc, pastQuoted_escape, ih]

end

/-- A quoted text is one token that means the text. -/
theorem tokens_quote (s : String) (rest : List Char) :
    tokens (quote s ++ rest) = .text (.ok s) none :: tokens rest := by
  have lexeme : Lexeme.of '"' (s.toList.flatMap escape ++ '"' :: rest) =
      ⟨.text (.ok s) none, rest⟩ := by
    simp [Lexeme.of, Lexeme.ofQuoted, quoted_flatMap, pastQuoted_flatMap, Functor.map, Except.map]
  have text : quote s ++ rest = '"' :: (s.toList.flatMap escape ++ '"' :: rest) := by
    simp [quote]
  rw [text, tokens, if_neg (by decide), lexeme]

end Tandem.Document
