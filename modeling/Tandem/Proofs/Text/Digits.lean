import Tandem.Number.Word

/-!
Numbers as text.

* `toString_nat_inj`: what is shown of a number tells which it is.
* `readWord_eq_ok_iff`: a word is read from at most one plus sign before ASCII digits that come to
  less than 2^64.
-/

namespace Tandem.Text

theorem not_mem_digits {c : Char} (h : c.isDigit = false) (n : Nat) : c ∉ (toString n).toList := by
  intro mem
  rw [Nat.toString_eq_ofList_toDigits, String.toList_ofList] at mem
  have digit := Nat.isDigit_of_mem_toDigits (by decide) (by decide) mem
  exact absurd digit (by simp [h])

theorem toString_nat_inj {n n' : Nat} (h : toString n = toString n') : n = n' := by
  rw [Nat.toString_eq_ofList_toDigits, Nat.toString_eq_ofList_toDigits, String.ofList_inj] at h
  rw [← Nat.ofDigitChars_ten_toDigits (n := n), h, Nat.ofDigitChars_ten_toDigits]

end Tandem.Text

namespace Tandem.Number

theorem le_ofDigitChars (digits : List Char) (n : Nat) : n ≤ Nat.ofDigitChars 10 digits n := by
  induction digits generalizing n with
  | nil => simp
  | cons c rest ih =>
    rw [Nat.ofDigitChars_cons]
    have := ih (10 * n + (c.toNat - '0'.toNat))
    omega

theorem readDigits_eq_ok_iff {digits : List Char} {n m : Nat} (fits : n < UInt64.size) :
    readDigits n digits = .ok m ↔
      (∀ c ∈ digits, c.isDigit = true) ∧ Nat.ofDigitChars 10 digits n = m ∧ m < UInt64.size := by
  induction digits generalizing n with
  | nil =>
    simp only [readDigits, Except.ok.injEq, Nat.ofDigitChars_nil]
    constructor
    · rintro rfl
      exact ⟨by simp, rfl, fits⟩
    · exact fun h => h.2.1
  | cons c rest ih =>
    rw [readDigits, Nat.ofDigitChars_cons]
    by_cases digit : c.isDigit = true
    · rw [if_pos digit]
      by_cases below : 10 * n + (c.toNat - '0'.toNat) < UInt64.size
      · simp only [if_pos below, ih below, List.forall_mem_cons, digit, true_and]
      · simp only [if_neg below, reduceCtorEq, false_iff]
        -- The value only grows with the digits that follow.
        rintro ⟨-, rfl, small⟩
        have := le_ofDigitChars rest (10 * n + (c.toNat - '0'.toNat))
        omega
    · simp [digit]

/-- A text writes a word in decimal digits. -/
def IsWord (text : List Char) (n : UInt64) : Prop :=
  ∃ digits, (text = digits ∨ text = '+' :: digits) ∧ digits ≠ [] ∧
    (∀ c ∈ digits, c.isDigit = true) ∧ Nat.ofDigitChars 10 digits 0 = n.toNat

theorem not_isWord_nil (n : UInt64) : ¬ IsWord [] n := by
  rintro ⟨digits, rfl | text, some, -⟩
  · exact some rfl
  · cases text

theorem readDigits_word_iff {digits : List Char} {n : UInt64} :
    UInt64.ofNat <$> readDigits 0 digits = .ok n ↔
      (∀ c ∈ digits, c.isDigit = true) ∧ Nat.ofDigitChars 10 digits 0 = n.toNat := by
  have reads : UInt64.ofNat <$> readDigits 0 digits = .ok n ↔
      ∃ m, readDigits 0 digits = .ok m ∧ UInt64.ofNat m = n := by
    cases readDigits 0 digits with
    | error e => simp [Functor.map, Except.map]
    | ok m => simp [Functor.map, Except.map]
  rw [reads]
  constructor
  · rintro ⟨m, read, rfl⟩
    obtain ⟨all, value, small⟩ := (readDigits_eq_ok_iff (by decide)).mp read
    exact ⟨all, by rw [value, UInt64.toNat_ofNat_of_lt' small]⟩
  · rintro ⟨all, value⟩
    exact ⟨n.toNat, (readDigits_eq_ok_iff (by decide)).mpr ⟨all, value, n.toNat_lt_size⟩, by simp⟩

theorem readWord_eq_ok_iff {text : List Char} {n : UInt64} :
    readWord text = .ok n ↔ IsWord text n := by
  fun_cases readWord text with
  | case1 => simp [not_isWord_nil]
  | case2 =>
    simp only [reduceCtorEq, false_iff]
    rintro ⟨digits, text | text, some, all, -⟩
    · rw [← text] at all
      exact absurd (all '+' (by simp)) (by decide)
    · exact some (List.cons.inj text).2.symm
  | case3 digits some =>
    rw [readDigits_word_iff]
    constructor
    · rintro ⟨all, value⟩
      exact ⟨digits, .inr rfl, some, all, value⟩
    · rintro ⟨ds, text | text, -, all, value⟩
      · rw [← text] at all
        exact absurd (all '+' (by simp)) (by decide)
      · rw [(List.cons.inj text).2]
        exact ⟨all, value⟩
  | case4 _ some alone signed =>
    rw [readDigits_word_iff]
    constructor
    · rintro ⟨all, value⟩
      exact ⟨text, .inl rfl, some, all, value⟩
    · rintro ⟨ds, rfl | signs, -, all, value⟩
      · exact ⟨all, value⟩
      · exact absurd signs (signed ds)

theorem IsWord.unique {text : List Char} {n m : UInt64} (h : IsWord text n) (h' : IsWord text m) :
    n = m :=
  Except.ok.inj ((readWord_eq_ok_iff.mpr h).symm.trans (readWord_eq_ok_iff.mpr h'))

end Tandem.Number
