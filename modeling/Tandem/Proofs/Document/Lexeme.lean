import Tandem.Proofs.Document.Numeral
import Tandem.Proofs.Document.Quoted

/-!
The grammar of numerals and quoted texts.

* `IsUnsigned`, `IsNumeral`: numerals. `IsUnsigned.read` and `numeral_sound` tie them to the scan.
* `Body`: what may stand between two quotes, and what it means. `Body.past` and
  `body_of_pastQuoted` say where it ends, `Body.read` what is read in it.
* `past_of_quoted`: what means something can be gone past.
-/

namespace Tandem.Document

section
variable {text rest : List Char}

/-! ## Numerals -/

/-- The digits after the point, with it. -/
inductive IsFraction : List Char → Option (List Nat) → Prop where
  | absent : IsFraction [] none
  | present {ds : List Char} : AreDigits ds → IsFraction ('.' :: ds) (some (values ds))

/-- The sign of an exponent, and whether it is a minus. -/
inductive IsSign : List Char → Bool → Prop where
  | absent : IsSign [] false
  | plus : IsSign ['+'] false
  | minus : IsSign ['-'] true

inductive IsExponent : List Char → Option (Bool × List Nat) → Prop where
  | absent : IsExponent [] none
  | present {e : Char} {sign ds : List Char} {down : Bool} : e = 'e' ∨ e = 'E' → IsSign sign down →
    AreDigits ds → IsExponent (e :: (sign ++ ds)) (some (down, values ds))

/-- A numeral without its sign. A zero before the point stands alone. -/
inductive IsUnsigned (negative : Bool) : List Char → Numeral → Prop where
  | mk {w f x : List Char} {fraction : Option (List Nat)} {exponent : Option (Bool × List Nat)} :
    AreDigits w → (w.head? = some '0' → w = ['0']) → IsFraction f fraction →
    IsExponent x exponent →
    IsUnsigned negative (w ++ (f ++ x)) ⟨negative, values w, fraction, exponent⟩

inductive IsNumeral : List Char → Numeral → Prop where
  | positive {text : List Char} {n : Numeral} : IsUnsigned false text n → IsNumeral text n
  | negative {text : List Char} {n : Numeral} : IsUnsigned true text n → IsNumeral ('-' :: text) n

section
variable {f x : List Char} {fr : Option (List Nat)} {ex : Option (Bool × List Nat)}

theorem IsFraction.read (h : IsFraction f fr) (stops : NoDigit rest)
    (point : rest.head? ≠ some '.') : fraction (f ++ rest) = .ok (fr, rest) := by
  cases h with
  | absent => exact fraction_append (f := none) (fun _ h => nomatch h) stops point
  | present digits =>
    rw [List.cons_append, fraction, someDigits_append digits stops]
    rfl

theorem IsSign.read {sign ds : List Char} {down : Bool} (h : IsSign sign down)
    (digits : AreDigits ds) : exponent.sign (sign ++ (ds ++ rest)) = (down, ds ++ rest) := by
  cases h with
  | absent =>
    obtain ⟨c, more, rfl⟩ := List.exists_cons_of_ne_nil digits.1
    have digit : c.isDigit = true := digits.2 c (List.mem_cons_self ..)
    rw [List.nil_append, List.cons_append, exponent.sign]
    · rintro after same
      obtain ⟨rfl, -⟩ := List.cons.inj same
      exact absurd digit (by decide)
    · rintro after same
      obtain ⟨rfl, -⟩ := List.cons.inj same
      exact absurd digit (by decide)
  | plus => rfl
  | minus => rfl

theorem IsExponent.read (h : IsExponent x ex) (stops : Stops rest) :
    exponent (x ++ rest) = .ok (ex, rest) := by
  cases h with
  | absent => exact exponent_append (e := none) (fun _ _ h => nomatch h) stops
  | present mark sign digits =>
    rw [List.cons_append, List.append_assoc, exponent, if_pos mark, sign.read digits]
    simp only [someDigits_append digits stops.digit]
    rfl

theorem IsExponent.front (h : IsExponent x ex) (stops : Stops rest) :
    NoDigit (x ++ rest) ∧ (x ++ rest).head? ≠ some '.' := by
  cases h with
  | absent => exact ⟨stops.digit, stops.point⟩
  | present mark =>
    refine ⟨?_, by rcases mark with rfl | rfl <;> simp⟩
    intro c first
    obtain rfl := Option.some.inj first
    rcases mark with rfl | rfl <;> decide

theorem IsFraction.front (h : IsFraction f fr) (stops : NoDigit rest) : NoDigit (f ++ rest) := by
  cases h with
  | absent => exact stops
  | present =>
    intro c first
    obtain rfl := Option.some.inj first
    decide

theorem someDigits_sound {found : List Nat} (h : someDigits text = .ok (found, rest)) :
    ∃ ds, AreDigits ds ∧ text = ds ++ rest ∧ found = values ds ∧ NoDigit rest := by
  unfold someDigits at h
  split at h
  · rename_i first
    obtain ⟨rfl, rfl⟩ := Prod.mk.inj (Except.ok.inj h)
    refine ⟨text.takeWhile Char.isDigit, ⟨?_, ?_⟩, List.takeWhile_append_dropWhile.symm, rfl, ?_⟩
    · cases text with
      | nil => cases first
      | cons c text => simp_all
    · intro c member
      exact List.all_eq_true.1 List.all_takeWhile c member
    · intro c head
      simpa [head] using List.head?_dropWhile_not Char.isDigit text
  · cases h

theorem whole_sound {found : List Nat} (h : whole text = .ok (found, rest)) :
    ∃ ds, AreDigits ds ∧ (ds.head? = some '0' → ds = ['0']) ∧ text = ds ++ rest ∧
      found = values ds ∧ NoDigit rest := by
  unfold whole at h
  split at h
  · rename_i after
    split at h
    · cases h
    · rename_i alone
      obtain ⟨rfl, rfl⟩ := Prod.mk.inj (Except.ok.inj h)
      refine ⟨['0'], areDigits_zero, fun _ => rfl, rfl, rfl, ?_⟩
      intro c head
      simpa [head] using alone
  · rename_i other
    obtain ⟨ds, digits, rfl, rfl, stops⟩ := someDigits_sound h
    refine ⟨ds, digits, ?_, rfl, rfl, stops⟩
    intro zero
    obtain ⟨more, rfl⟩ : ∃ more, ds = '0' :: more := by
      cases ds with
      | nil => cases zero
      | cons c more => exact ⟨more, by rw [Option.some.inj zero]⟩
    exact absurd rfl (other (more ++ rest))

theorem fraction_sound (h : fraction text = .ok (fr, rest)) (stops : NoDigit text) :
    ∃ f, IsFraction f fr ∧ text = f ++ rest ∧ NoDigit rest := by
  unfold fraction at h
  split at h
  · rename_i after
    cases read : someDigits after with
    | error left => simp [read, bind, Except.bind] at h
    | ok found =>
      simp only [read, bind, Except.bind, pure, Except.pure, Except.ok.injEq, Prod.mk.injEq] at h
      obtain ⟨rfl, rfl⟩ := h
      obtain ⟨ds, digits, rfl, same, stops⟩ := someDigits_sound read
      exact ⟨'.' :: ds, same ▸ .present digits, rfl, stops⟩
  · obtain ⟨rfl, rfl⟩ := Prod.mk.inj (Except.ok.inj h)
    exact ⟨[], .absent, rfl, stops⟩

theorem sign_sound (text : List Char) :
    ∃ sign, IsSign sign (exponent.sign text).1 ∧ text = sign ++ (exponent.sign text).2 := by
  unfold exponent.sign
  split
  · exact ⟨['+'], .plus, rfl⟩
  · exact ⟨['-'], .minus, rfl⟩
  · exact ⟨[], .absent, rfl⟩

theorem exponent_sound (h : exponent text = .ok (ex, rest)) (stops : NoDigit text) :
    ∃ x, IsExponent x ex ∧ text = x ++ rest ∧ NoDigit rest := by
  unfold exponent at h
  split at h
  · rename_i c after
    split at h
    · rename_i mark
      obtain ⟨sign, signed, whole⟩ := sign_sound after
      cases read : someDigits (exponent.sign after).2 with
      | error left => simp [read, bind, Except.bind] at h
      | ok found =>
        simp only [read, bind, Except.bind, pure, Except.pure, Except.ok.injEq, Prod.mk.injEq] at h
        obtain ⟨rfl, rfl⟩ := h
        obtain ⟨ds, digits, split, same, stops⟩ := someDigits_sound read
        refine ⟨c :: (sign ++ ds), same ▸ .present mark signed digits, ?_, stops⟩
        rw [List.cons_append, List.append_assoc, ← split, ← whole]
    · obtain ⟨rfl, rfl⟩ := Prod.mk.inj (Except.ok.inj h)
      exact ⟨[], .absent, rfl, stops⟩
  · obtain ⟨rfl, rfl⟩ := Prod.mk.inj (Except.ok.inj h)
    exact ⟨[], .absent, rfl, stops⟩

end

section
variable {negative : Bool} {n : Numeral}

theorem IsUnsigned.read (h : IsUnsigned negative text n) (stops : Stops rest) :
    numeral negative (text ++ rest) = .ok (n, rest) := by
  obtain ⟨digits, alone, fraction, exponent⟩ := h
  have after := exponent.front stops
  rw [List.append_assoc, List.append_assoc, numeral,
    whole_append digits alone (fraction.front after.1)]
  simp only [bind, Except.bind, fraction.read after.1 after.2, exponent.read stops]
  rfl

theorem numeral_sound (h : numeral negative text = .ok (n, rest)) :
    ∃ t, IsUnsigned negative t n ∧ text = t ++ rest ∧ NoDigit rest := by
  simp only [numeral, bind, Except.bind] at h
  cases atWhole : whole text with
  | error left => simp [atWhole] at h
  | ok w =>
    obtain ⟨wholeDigits, afterWhole⟩ := w
    cases atFraction : fraction afterWhole with
    | error left => simp [atWhole, atFraction] at h
    | ok f =>
      obtain ⟨fr, afterFraction⟩ := f
      cases atExponent : exponent afterFraction with
      | error left => simp [atWhole, atFraction, atExponent] at h
      | ok x =>
        obtain ⟨ex, afterExponent⟩ := x
        simp only [atWhole, atFraction, atExponent, pure, Except.pure, Except.ok.injEq,
          Prod.mk.injEq] at h
        obtain ⟨rfl, rfl⟩ := h
        obtain ⟨w, digits, alone, rfl, rfl, stops⟩ := whole_sound atWhole
        obtain ⟨f, fraction, rfl, stopsFraction⟩ := fraction_sound atFraction stops
        obtain ⟨x, exponent, rfl, stopsExponent⟩ := exponent_sound atExponent stopsFraction
        exact ⟨w ++ (f ++ x), .mk digits alone fraction exponent, by simp, stopsExponent⟩

end

/-! ## Quoted texts -/

/-- Four hexadecimal digits and the number that they stand for. -/
inductive IsUnit : List Char → Nat → Prop where
  | mk {a b c d : Char} {i j k l : Nat} : hexDigit? a = some i → hexDigit? b = some j →
    hexDigit? c = some k → hexDigit? d = some l →
    IsUnit [a, b, c, d] (((i * 16 + j) * 16 + k) * 16 + l)

/-- A text goes on with the second half of a surrogate pair. -/
def GoesOnLow (text : List Char) : Prop :=
  ∃ u n rest, IsUnit u n ∧ isLowSurrogate n = true ∧ text = '\\' :: 'u' :: (u ++ rest)

/-- What stands between two quotes, and what it means. One half of a surrogate pair without the
other means nothing. -/
inductive Body : List Char → Except Flaw (List Char) → Prop where
  | nil : Body [] (.ok [])
  | plain {c : Char} {text : List Char} {m : Except Flaw (List Char)} : c ≠ '"' → c ≠ '\\' →
    ¬ c.toNat < 0x20 → Body text m → Body (c :: text) ((c :: ·) <$> m)
  | short {e c : Char} {text : List Char} {m : Except Flaw (List Char)} :
    shortEscape? e = some c → Body text m → Body ('\\' :: e :: text) ((c :: ·) <$> m)
  | unit {u text : List Char} {n : Nat} {m : Except Flaw (List Char)} : IsUnit u n →
    isLowSurrogate n = false → isHighSurrogate n = false → Body text m →
    Body ('\\' :: 'u' :: (u ++ text)) ((Char.ofNat n :: ·) <$> m)
  | pair {u v text : List Char} {n k : Nat} {m : Except Flaw (List Char)} : IsUnit u n →
    isHighSurrogate n = true → IsUnit v k → isLowSurrogate k = true → Body text m →
    Body ('\\' :: 'u' :: (u ++ ('\\' :: 'u' :: (v ++ text))))
      ((Char.ofNat ((n - 0xd800) * 0x400 + (k - 0xdc00) + 0x10000) :: ·) <$> m)
  | half {u text : List Char} {n : Nat} {m : Except Flaw (List Char)} : IsUnit u n →
    isLowSurrogate n = true ∨ isHighSurrogate n = true ∧ ¬ GoesOnLow text → Body text m →
    Body ('\\' :: 'u' :: (u ++ text)) (.error .malformed)

section
variable {u v : List Char} {n k : Nat} {c e : Char} {m : Except Flaw (List Char)}

theorem IsUnit.read (h : IsUnit u n) : unit (u ++ rest) = .ok (n, rest) := by
  obtain ⟨a, b, c, d⟩ := h
  simp only [List.cons_append, List.nil_append, unit, a, b, c, d]

theorem unit_sound (h : unit text = .ok (n, rest)) : ∃ u, IsUnit u n ∧ text = u ++ rest := by
  unfold unit at h
  split at h
  · split at h
    · rename_i i j k l _ _ _ _
      obtain ⟨rfl, rfl⟩ := Prod.mk.inj (Except.ok.inj h)
      exact ⟨_, .mk ‹_› ‹_› ‹_› ‹_›, rfl⟩
    · cases h
  · cases h

theorem low_of_high (h : isHighSurrogate n = true) : isLowSurrogate n = false := by
  simp only [isHighSurrogate, isLowSurrogate, Bool.and_eq_true, decide_eq_true_eq,
    Bool.and_eq_false_iff, decide_eq_false_iff_not] at h ⊢
  omega

theorem pastQuoted_plain (mark : c ≠ '"') (backslash : c ≠ '\\') (plain : ¬ c.toNat < 0x20) :
    pastQuoted (c :: rest) = pastQuoted rest := by
  rw [pastQuoted, if_neg plain]
  · exact mark
  · rintro after rfl
    exact absurd rfl backslash
  · rintro e after rfl
    exact absurd rfl backslash
  · rintro rfl
    exact absurd rfl backslash

theorem pastQuoted_short (known : shortEscape? e = some c) :
    pastQuoted ('\\' :: e :: rest) = pastQuoted rest := by
  rw [pastQuoted]
  · simp [known]
  · rintro rfl
    cases known

theorem pastQuoted_unit (h : IsUnit u n) :
    pastQuoted ('\\' :: 'u' :: (u ++ rest)) = pastQuoted rest := by
  rw [pastQuoted]
  split
  · next read =>
    rw [h.read] at read
    obtain ⟨-, rfl⟩ := Prod.mk.inj (Except.ok.inj read)
    rfl
  · next read =>
    rw [h.read] at read
    cases read

theorem quoted_unicode (h : unicodeEscape text = .ok (c, rest)) :
    quoted ('\\' :: 'u' :: text) = (c :: ·) <$> quoted rest := by
  rw [quoted]
  split
  · next read =>
    rw [h] at read
    obtain ⟨rfl, rfl⟩ := Prod.mk.inj (Except.ok.inj read)
    rfl
  · next read =>
    rw [h] at read
    cases read

theorem quoted_half {flaw : Flaw} (h : unicodeEscape text = .error flaw) :
    quoted ('\\' :: 'u' :: text) = .error flaw := by
  rw [quoted]
  split
  · next read =>
    rw [h] at read
    cases read
  · next read =>
    rw [h] at read
    cases read
    rfl

theorem lowHalf_read (h : IsUnit v k) (low : isLowSurrogate k = true) :
    lowHalf ('\\' :: 'u' :: (v ++ rest)) = .ok (k, rest) := by
  rw [lowHalf, h.read]
  exact if_pos low

/-- A body that does not go on with the second half of a pair shows it by one character or four
digits. -/
theorem Body.lowHalf (h : Body text m) (other : ¬ GoesOnLow text) :
    Document.lowHalf (text ++ '"' :: rest) = .error .malformed := by
  cases h with
  | nil => rfl
  | plain mark backslash =>
    rw [List.cons_append, Document.lowHalf]
    · rfl
    · rintro after same
      exact absurd (List.cons.inj same).1 backslash
    · rintro after same
      exact absurd (List.cons.inj same).1 backslash
  | short known =>
    rw [List.cons_append, List.cons_append, Document.lowHalf]
    · rfl
    · rintro after same
      obtain ⟨rfl, -⟩ := List.cons.inj same
      cases known
  | unit is notLow =>
    rw [List.cons_append, List.cons_append, List.append_assoc, Document.lowHalf, is.read]
    simp [notLow]
  | pair is high =>
    rw [List.cons_append, List.cons_append, List.append_assoc, Document.lowHalf, is.read]
    simp [low_of_high high]
  | half is alone =>
    rw [List.cons_append, List.cons_append, List.append_assoc, Document.lowHalf, is.read]
    rcases alone with low | ⟨high, -⟩
    · exact absurd ⟨_, _, _, is, low, rfl⟩ other
    · simp [low_of_high high]

/-- A body ends where the next quote stands. -/
theorem Body.past (h : Body text m) : pastQuoted (text ++ '"' :: rest) = .ok rest := by
  induction h with
  | nil => simp [pastQuoted]
  | plain mark backslash plain _ ih =>
    rw [List.cons_append, pastQuoted_plain mark backslash plain, ih]
  | short known _ ih => rw [List.cons_append, List.cons_append, pastQuoted_short known, ih]
  | unit is _ _ _ ih =>
    rw [List.cons_append, List.cons_append, List.append_assoc, pastQuoted_unit is, ih]
  | pair is _ next _ _ ih =>
    simp only [List.cons_append, List.append_assoc]
    rw [pastQuoted_unit is, pastQuoted_unit next, ih]
  | half is _ _ ih =>
    rw [List.cons_append, List.cons_append, List.append_assoc, pastQuoted_unit is, ih]

theorem Body.read (h : Body text m) : quoted (text ++ '"' :: rest) = m := by
  induction h with
  | nil => simp [quoted]
  | plain mark backslash plain _ ih =>
    rw [List.cons_append, quoted_plain mark backslash plain, ih]
  | short known _ ih =>
    rw [List.cons_append, List.cons_append, quoted_short _ known, ih]
    rintro rfl
    cases known
  | unit is notLow notHigh _ ih =>
    rw [List.cons_append, List.cons_append, List.append_assoc, quoted_unicode, ih]
    rw [unicodeEscape, is.read]
    simp [notLow, notHigh]
  | pair is high next low _ ih =>
    simp only [List.cons_append, List.append_assoc]
    rw [quoted_unicode, ih]
    rw [unicodeEscape, is.read]
    simp [low_of_high high, high, lowHalf_read next low]
  | half is alone body _ =>
    rw [List.cons_append, List.cons_append, List.append_assoc, quoted_half]
    rw [unicodeEscape, is.read]
    rcases alone with low | ⟨high, other⟩
    · simp [low]
    · simp [low_of_high high, high, body.lowHalf other]

/-- A unit in front of what can be gone past. It makes a pair with what follows where it can. -/
theorem body_of_unit (is : IsUnit u n) (past : pastQuoted text = .ok rest)
    (inside : ∀ tail : List Char, tail.length ≤ text.length → pastQuoted tail = .ok rest →
      ∃ body m, Body body m ∧ tail = body ++ '"' :: rest) :
    ∃ body m, Body body m ∧ '\\' :: 'u' :: (u ++ text) = body ++ '"' :: rest := by
  obtain ⟨body, m, inner, rfl⟩ := inside text (Nat.le_refl _) past
  by_cases low : isLowSurrogate n = true
  · exact ⟨_, _, .half is (.inl low) inner, by simp⟩
  by_cases high : isHighSurrogate n = true
  · by_cases goesOn : GoesOnLow (body ++ '"' :: rest)
    · obtain ⟨v, k, tail, next, lowNext, split⟩ := goesOn
      rw [split, pastQuoted_unit next] at past
      have short : tail.length ≤ (body ++ '"' :: rest).length := by
        simp only [split, List.length_cons, List.length_append]
        omega
      obtain ⟨body', m', inner', rfl⟩ := inside tail short past
      exact ⟨_, _, .pair is high next lowNext inner', by simp [split]⟩
    · refine ⟨_, _, .half is (.inr ⟨high, ?_⟩) inner, by simp⟩
      rintro ⟨v, k, tail, next, lowNext, rfl⟩
      exact goesOn ⟨v, k, tail ++ '"' :: rest, next, lowNext, by simp⟩
  · exact ⟨_, _, .unit is (by simpa using low) (by simpa using high) inner, by simp⟩

/-- What can be gone past is a body up to a quote. -/
theorem body_of_pastQuoted (h : pastQuoted text = .ok rest) :
    ∃ body m, Body body m ∧ text = body ++ '"' :: rest := by
  -- A pair takes two steps of the scan at once, so the induction is on the length.
  induction size : text.length using Nat.strongRecOn generalizing text with
  | ind size ih =>
    subst size
    unfold pastQuoted at h
    split at h
    · cases h
    · obtain rfl := Except.ok.inj h
      exact ⟨[], _, .nil, rfl⟩
    · split at h
      · rename_i n after read
        obtain ⟨u, is, rfl⟩ := unit_sound read
        refine body_of_unit is h ?_
        intro tail short past
        refine ih tail.length ?_ past rfl
        simp only [List.length_cons, List.length_append]
        omega
      · cases h
    · rename_i e after other
      split at h
      · rename_i known
        obtain ⟨c, known⟩ := Option.isSome_iff_exists.1 known
        have short : after.length < ('\\' :: e :: after).length := by
          simp only [List.length_cons]
          omega
        obtain ⟨body, m, inner, rfl⟩ := ih _ short h rfl
        exact ⟨_, _, .short known inner, rfl⟩
      · cases h
    · cases h
    · rename_i c after mark _ backslash _
      split at h
      · cases h
      · rename_i plain
        obtain ⟨body, m, inner, rfl⟩ := ih _ (Nat.lt_succ_self _) h rfl
        refine ⟨_, _, .plain mark ?_ plain inner, rfl⟩
        rintro rfl
        cases body with
        | nil => exact backslash _ _ rfl rfl
        | cons e body => exact backslash _ _ rfl rfl

theorem pastQuoted_unicode (h : unicodeEscape text = .ok (c, rest)) :
    pastQuoted ('\\' :: 'u' :: text) = pastQuoted rest := by
  unfold unicodeEscape at h
  split at h
  · cases h
  · rename_i n afterUnit read
    obtain ⟨u, is, rfl⟩ := unit_sound read
    rw [pastQuoted_unit is]
    split at h
    · cases h
    · split at h
      · split at h
        · rename_i k afterPair low
          obtain ⟨-, rfl⟩ := Prod.mk.inj (Except.ok.inj h)
          unfold lowHalf at low
          split at low
          · split at low
            · rename_i next
              obtain ⟨v, isNext, rfl⟩ := unit_sound next
              split at low
              · obtain ⟨-, rfl⟩ := Prod.mk.inj (Except.ok.inj low)
                exact pastQuoted_unit isNext
              · cases low
            · cases low
          · cases low
          · cases low
        · cases h
      · obtain ⟨-, rfl⟩ := Prod.mk.inj (Except.ok.inj h)
        rfl

/-- A text that means something can be gone past. -/
theorem past_of_quoted {s : List Char} (h : quoted text = .ok s) :
    ∃ rest, pastQuoted text = .ok rest := by
  have inner {c : Char} {r : Except Flaw (List Char)} {s : List Char}
      (h : (c :: ·) <$> r = .ok s) : ∃ s', r = .ok s' := by
    cases r with
    | error flaw => cases h
    | ok s' => exact ⟨s', rfl⟩
  fun_induction quoted text generalizing s with
  | case1 => cases h
  | case2 after => exact ⟨after, by rw [pastQuoted]⟩
  | case3 after c tail read ih =>
    obtain ⟨s', h⟩ := inner h
    rw [pastQuoted_unicode read]
    exact ih h
  | case4 => cases h
  | case5 e after _ c known ih =>
    obtain ⟨s', h⟩ := inner h
    rw [pastQuoted_short known]
    exact ih h
  | case6 => cases h
  | case7 => cases h
  | case8 => cases h
  | case9 c after mark _ backslash _ plain ih =>
    obtain ⟨s', h⟩ := inner h
    obtain ⟨rest, past⟩ := ih h
    refine ⟨rest, ?_⟩
    rw [pastQuoted_plain mark ?_ plain, past]
    rintro rfl
    cases after with
    | nil => simp at *
    | cons e after => exact backslash _ _ rfl rfl

end

end

end Tandem.Document
