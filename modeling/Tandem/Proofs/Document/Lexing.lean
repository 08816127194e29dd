import Tandem.Proofs.Document.Lexeme
import Tandem.Proofs.Document.Parsing

/-!
How the text of a document divides into tokens.

* `Lexes`: a text as a row of tokens with blanks around them.
* `lexes_iff`: the scan finds such a row wherever there is one.
* `honest_tokens`: a token that means something can be gone past.
* `Written`: a text that is a document, with its tree. `written_iff` says that it is read as one.
-/

namespace Tandem.Document

open Tandem.Document.Value

section
variable {text rest : List Char}

inductive Word : List Char → Atom → Prop where
  | null : Word "null".toList .null
  | true : Word "true".toList (.bool true)
  | false : Word "false".toList (.bool false)

/-- A text as a row of tokens with blanks around them. A numeral goes as far as it can. -/
inductive Lexes : List Char → List Token → Prop where
  | done : Lexes [] []
  | space {c : Char} {rest : List Char} {ts : List Token} : isSpace c = true → Lexes rest ts →
    Lexes (c :: rest) ts
  | sign {c : Char} {t : Token} {rest : List Char} {ts : List Token} : Sign c t → Lexes rest ts →
    Lexes (c :: rest) (t :: ts)
  | word {w rest : List Char} {a : Atom} {ts : List Token} : Word w a → Lexes rest ts →
    Lexes (w ++ rest) (.atom (.ok a) none :: ts)
  | numeral {t rest : List Char} {n : Numeral} {ts : List Token} : IsNumeral t n → Stops rest →
    Lexes rest ts → Lexes (t ++ rest) (.atom n.meaning none :: ts)
  | text {body rest : List Char} {m : Except Flaw (List Char)} {ts : List Token} : Body body m →
    Lexes rest ts → Lexes ('"' :: (body ++ '"' :: rest)) (.text (String.ofList <$> m) none :: ts)

section
variable {ts : List Token} {c : Char} {n : Numeral} {negative : Bool}

theorem lexeme_of_isDigit (digit : c.isDigit = true) :
    Lexeme.of c rest = Lexeme.ofNumeral false (c :: rest) := by
  unfold Lexeme.of
  split <;> first | exact absurd digit (by decide) | rw [if_pos digit]

theorem isSpace_of_isDigit (digit : c.isDigit = true) : isSpace c = false := by
  rw [Bool.eq_false_iff]
  intro space
  simp only [isSpace, Bool.or_eq_true, beq_iff_eq] at space
  obtain ((rfl | rfl) | rfl) | rfl := space <;> exact absurd digit (by decide)

theorem IsUnsigned.begin (h : IsUnsigned negative text n) :
    ∃ c more, text = c :: more ∧ c.isDigit = true := by
  obtain ⟨digits, -, -, -⟩ := h
  obtain ⟨c, more, rfl⟩ := List.exists_cons_of_ne_nil digits.1
  exact ⟨c, _, rfl, digits.2 c (List.mem_cons_self ..)⟩

theorem ofNumeral_read (h : IsUnsigned negative text n) (stops : Stops rest) :
    Lexeme.ofNumeral negative (text ++ rest) = ⟨.atom n.meaning none, rest⟩ := by
  rw [Lexeme.ofNumeral, h.read stops]
  rfl

theorem IsNumeral.tokens (h : IsNumeral text n) (stops : Stops rest) :
    tokens (text ++ rest) = .atom n.meaning none :: Document.tokens rest := by
  cases h with
  | positive h =>
    have read := ofNumeral_read h stops
    obtain ⟨c, more, rfl, digit⟩ := h.begin
    rw [List.cons_append, Document.tokens, if_neg (by simp [isSpace_of_isDigit digit]),
      lexeme_of_isDigit digit]
    rw [List.cons_append] at read
    rw [read]
  | negative h =>
    rw [List.cons_append, Document.tokens, if_neg (by decide)]
    have lexeme : Lexeme.of '-' (_ ++ rest) = _ := ofNumeral_read h stops
    rw [lexeme]

theorem pastWord_append (w rest : List Char) : pastWord w (w ++ rest) = .ok rest := by
  induction w with
  | nil => rfl
  | cons c w ih => rw [List.cons_append, pastWord, if_pos rfl, ih]

theorem pastWord_sound {w : List Char} (h : pastWord w text = .ok rest) : text = w ++ rest := by
  induction w generalizing text with
  | nil => exact Except.ok.inj h
  | cons c w ih =>
    cases text with
    | nil => cases h
    | cons d text =>
      rw [pastWord] at h
      split at h
      · rename_i same
        rw [same, ih h]
        rfl
      · cases h

theorem Word.tokens {w : List Char} {a : Atom} (h : Word w a) :
    tokens (w ++ rest) = .atom (.ok a) none :: Document.tokens rest := by
  cases h with
  | null =>
    change Document.tokens ('n' :: ("ull".toList ++ rest)) = _
    rw [Document.tokens, if_neg (by decide)]
    simp only [Lexeme.of, Lexeme.ofWord, pastWord_append]
  | true =>
    change Document.tokens ('t' :: ("rue".toList ++ rest)) = _
    rw [Document.tokens, if_neg (by decide)]
    simp only [Lexeme.of, Lexeme.ofWord, pastWord_append]
  | false =>
    change Document.tokens ('f' :: ("alse".toList ++ rest)) = _
    rw [Document.tokens, if_neg (by decide)]
    simp only [Lexeme.of, Lexeme.ofWord, pastWord_append]

theorem Body.tokens {body : List Char} {m : Except Flaw (List Char)} (h : Body body m) :
    tokens ('"' :: (body ++ '"' :: rest)) =
      .text (String.ofList <$> m) none :: Document.tokens rest := by
  rw [Document.tokens, if_neg (by decide)]
  simp only [Lexeme.of, Lexeme.ofQuoted, h.read, h.past]

theorem Lexes.tokens (h : Lexes text ts) : tokens text = ts := by
  induction h with
  | done => rw [Document.tokens]
  | space blank _ ih => rw [tokens_space blank, ih]
  | sign is _ ih => rw [tokens_sign is, ih]
  | word is _ ih => rw [is.tokens, ih]
  | numeral is stops _ ih => rw [is.tokens stops, ih]
  | text is _ ih => rw [is.tokens, ih]

theorem Lexes.passes (h : Lexes text ts) : ∀ t ∈ ts, t.Passes := by
  induction h with
  | done => simp
  | space _ _ ih => exact ih
  | sign is _ ih =>
    refine List.forall_mem_cons.2 ⟨?_, ih⟩
    cases is <;> trivial
  | word _ _ ih => exact List.forall_mem_cons.2 ⟨rfl, ih⟩
  | numeral _ _ _ ih => exact List.forall_mem_cons.2 ⟨rfl, ih⟩
  | text _ _ ih => exact List.forall_mem_cons.2 ⟨rfl, ih⟩

/-- No token begins with a point or with the mark of an exponent. -/
theorem Lexes.stops (h : Lexes rest ts) (noDigit : NoDigit rest) : Stops rest := by
  cases h with
  | done => exact stops_nil
  | space blank =>
    simp only [isSpace, Bool.or_eq_true, beq_iff_eq] at blank
    obtain ((rfl | rfl) | rfl) | rfl := blank <;>
      exact stops_cons (by decide) (by decide) (by decide)
  | sign is => exact stops_sign is
  | word is => cases is <;> exact stops_cons (by decide) (by decide) (by decide)
  | numeral is =>
    cases is with
    | positive is =>
      obtain ⟨c, more, rfl, digit⟩ := is.begin
      exact absurd (noDigit c rfl) (by simp [digit])
    | negative => exact stops_cons (by decide) (by decide) (by decide)
  | text => exact stops_cons (by decide) (by decide) (by decide)

theorem lexes_ofWord {a : Atom} {c : Char} {w : List Char} (is : Word (c :: w) a)
    (passes : (Lexeme.ofWord a w rest).token.Passes)
    (h : Lexes (Lexeme.ofWord a w rest).rest ts) :
    Lexes (c :: rest) ((Lexeme.ofWord a w rest).token :: ts) := by
  revert passes h
  unfold Lexeme.ofWord
  split
  · rename_i past
    intro _ h
    rw [pastWord_sound past]
    exact .word is h
  · intro passes
    cases passes

theorem lexes_ofNumeral (sign : List Char)
    (is : ∀ t n, IsUnsigned negative t n → IsNumeral (sign ++ t) n)
    (passes : (Lexeme.ofNumeral negative text).token.Passes)
    (h : Lexes (Lexeme.ofNumeral negative text).rest ts) :
    Lexes (sign ++ text) ((Lexeme.ofNumeral negative text).token :: ts) := by
  revert passes h
  unfold Lexeme.ofNumeral
  split
  · rename_i read
    intro _ h
    obtain ⟨t, numeral, rfl, noDigit⟩ := numeral_sound read
    rw [← List.append_assoc]
    exact .numeral (is _ _ numeral) (h.stops noDigit) h
  · intro passes
    cases passes

theorem lexes_ofQuoted (passes : (Lexeme.ofQuoted rest).token.Passes)
    (h : Lexes (Lexeme.ofQuoted rest).rest ts) :
    Lexes ('"' :: rest) ((Lexeme.ofQuoted rest).token :: ts) := by
  revert passes h
  unfold Lexeme.ofQuoted
  dsimp only
  split
  · rename_i past
    intro _ h
    obtain ⟨body, m, is, rfl⟩ := body_of_pastQuoted past
    rw [is.read]
    exact .text is h
  · intro passes
    cases passes

/-- A token that can be gone past is one of the row. -/
theorem lexes_lexeme (passes : (Lexeme.of c rest).token.Passes)
    (h : Lexes (Lexeme.of c rest).rest ts) :
    Lexes (c :: rest) ((Lexeme.of c rest).token :: ts) := by
  revert passes h
  unfold Lexeme.of
  split <;> intro passes h
  · exact .sign .listOpen h
  · exact .sign .listClose h
  · exact .sign .recordOpen h
  · exact .sign .recordClose h
  · exact .sign .comma h
  · exact .sign .colon h
  · exact lexes_ofQuoted passes h
  · exact lexes_ofWord .null passes h
  · exact lexes_ofWord .true passes h
  · exact lexes_ofWord .false passes h
  · exact lexes_ofNumeral ['-'] (fun _ _ => .negative) passes h
  · revert passes h
    split <;> intro passes h
    · exact lexes_ofNumeral [] (fun _ _ => .positive) passes h
    · cases passes

theorem lexes_tokens (passes : ∀ t ∈ tokens text, t.Passes) : Lexes text (tokens text) := by
  fun_induction tokens text with
  | case1 => exact .done
  | case2 c rest blank ih => exact .space blank (ih passes)
  | case3 c rest _ lexeme ih =>
    obtain ⟨first, others⟩ := List.forall_mem_cons.1 passes
    exact lexes_lexeme first (ih others)

/-- The scan divides a text into a row of tokens wherever there is one. -/
theorem lexes_iff : Lexes text ts ↔ tokens text = ts ∧ ∀ t ∈ ts, t.Passes := by
  constructor
  · intro h
    exact ⟨h.tokens, h.passes⟩
  · rintro ⟨rfl, passes⟩
    exact lexes_tokens passes

theorem honest_lexeme (c : Char) (rest : List Char) : (Lexeme.of c rest).token.Honest := by
  have word (a : Atom) (w : List Char) : (Lexeme.ofWord a w rest).token.Honest := by
    unfold Lexeme.ofWord
    split
    · exact fun _ _ => rfl
    · exact fun _ h => nomatch h
  have number (negative : Bool) (text : List Char) :
      (Lexeme.ofNumeral negative text).token.Honest := by
    unfold Lexeme.ofNumeral
    split
    · exact fun _ _ => rfl
    · exact fun _ h => nomatch h
  unfold Lexeme.of
  split <;> try trivial
  · unfold Lexeme.ofQuoted
    simp only
    split
    · exact fun _ _ => rfl
    · rename_i past
      intro s meaning
      cases read : quoted rest with
      | error flaw =>
        rw [read] at meaning
        cases meaning
      | ok s =>
        obtain ⟨after, found⟩ := past_of_quoted read
        rw [past] at found
        cases found
  · exact word ..
  · exact word ..
  · exact word ..
  · exact number ..
  · split
    · exact number ..
    · trivial

/-- Whatever means something can be gone past. -/
theorem honest_tokens (text : List Char) : ∀ t ∈ tokens text, t.Honest := by
  fun_induction tokens text with
  | case1 => simp
  | case2 c rest blank ih => exact ih
  | case3 c rest _ lexeme ih => exact List.forall_mem_cons.2 ⟨honest_lexeme c rest, ih⟩

end

end

/-! ## Documents -/

/-- A text that is a document, and the tree of this document. -/
structure Written (text : List Char) (t : Tree) : Prop where
  lexes : Lexes text t.symbols
  whole : t.passing = none

section
variable {text : List Char} {t t' : Tree}

/-- A text is a document if it is read as a tree without a flaw and nothing is left over. -/
theorem written_iff : Written text t ↔ Tree.ofText text = (t, []) ∧ t.passing = none := by
  constructor
  · rintro ⟨lexes, whole⟩
    exact ⟨Tree.ofText_of_tokens whole lexes.tokens, whole⟩
  · rintro ⟨read, whole⟩
    have same : tokens text = t.symbols := by
      rw [parseTree_sound _ read whole, List.append_nil]
    refine ⟨lexes_iff.2 ⟨same, ?_⟩, whole⟩
    exact t.symbols_pass whole

/-- A value on one line is a document. -/
theorem Value.written_line (v : Value) : Written v.line.toList v.tree :=
  written_iff.2 ⟨v.ofText_line, v.passing_tree⟩

theorem Written.unique (h : Written text t) (h' : Written text t') : t = t' := by
  have same := (written_iff.1 h).1.symm.trans (written_iff.1 h').1
  exact congrArg Prod.fst same

theorem honest_ofText (text : List Char) : (Tree.ofText text).1.Honest :=
  (parseTree_honest _ (honest_tokens text)).1

theorem Written.honest (h : Written text t) : t.Honest := by
  have honest := honest_ofText text
  rwa [(written_iff.1 h).1] at honest

end

end Tandem.Document
