import Tandem.Document.Token
import Tandem.Proofs.Number.Shortest

/-!
Numbers as text.

* `Spelling`: the parts of a numeral as they are written.
* `Spelling.tokens_text`: a numeral is one token, whatever follows that does not go on with it.
* `Spelling.text_ofInt`, `Spelling.text_ofReal`: integers and doubles are written as numerals.
* `Spelling.meaning_ofInt`: the numeral of an integer means this integer.
-/

namespace Tandem.Document

open Tandem.Number

/-- The parts of a numeral as they are written. -/
structure Spelling where
  negative : Bool
  whole : List Char
  fraction : Option (List Char)
  /-- Whether the exponent has a minus, and its digits. -/
  exponent : Option (Bool × List Char)

/-- Digits of which there is at least one. -/
def AreDigits (text : List Char) : Prop := text ≠ [] ∧ ∀ c ∈ text, c.isDigit = true

/-- The value of every digit. -/
def values (text : List Char) : List Nat := text.filterMap digit?

namespace Spelling

def fractionText : Option (List Char) → List Char
  | some digits => '.' :: digits
  | none => []

def exponentText : Option (Bool × List Char) → List Char
  | some (down, digits) => 'e' :: (if down then '-' else '+') :: digits
  | none => []

/-- The text without its sign. -/
def body (s : Spelling) : List Char :=
  s.whole ++ (fractionText s.fraction ++ exponentText s.exponent)

def text (s : Spelling) : List Char := if s.negative then '-' :: s.body else s.body

/-- No part is empty, and a zero that comes first stands alone. -/
structure Proper (s : Spelling) : Prop where
  whole : AreDigits s.whole
  alone : s.whole.head? = some '0' → s.whole = ['0']
  fraction : ∀ digits, s.fraction = some digits → AreDigits digits
  exponent : ∀ down digits, s.exponent = some (down, digits) → AreDigits digits

/-- The numeral that is written so. -/
def numeral (s : Spelling) : Numeral :=
  ⟨s.negative, values s.whole, s.fraction.map values, s.exponent.map fun e => (e.1, values e.2)⟩

end Spelling

/-- What a numeral means to a reader. -/
def Numeral.meaning (n : Numeral) : Except Flaw Atom :=
  match n.number? with
  | some value => .ok (.number value)
  | none => .error .malformed

/-- A text that goes on with no digits. -/
def NoDigit (rest : List Char) : Prop := ∀ c, rest.head? = some c → c.isDigit = false

/-- A text that does not go on with a numeral. -/
structure Stops (rest : List Char) : Prop where
  digit : NoDigit rest
  point : rest.head? ≠ some '.'
  exponent : rest.head? ≠ some 'e' ∧ rest.head? ≠ some 'E'

theorem stops_nil : Stops [] := by
  constructor
  · intro c none
    cases none
  · simp
  · simp

theorem stops_cons {c : Char} {rest : List Char} (h : c.isDigit = false) (point : c ≠ '.')
    (exponent : c ≠ 'e' ∧ c ≠ 'E') : Stops (c :: rest) := by
  constructor
  · intro d first
    obtain rfl := Option.some.inj first
    exact h
  · simpa using point
  · simpa using exponent

/-! ## Reading the parts of a numeral -/

section
variable {ds rest : List Char}

theorem digits_append (all : ∀ c ∈ ds, c.isDigit = true) (stops : NoDigit rest) :
    digits (ds ++ rest) = (values ds, rest) := by
  have head : rest.takeWhile Char.isDigit = [] ∧ rest.dropWhile Char.isDigit = rest := by
    cases rest with
    | nil => exact ⟨rfl, rfl⟩
    | cons c rest =>
      have none := stops c rfl
      simp [none]
  rw [digits, List.takeWhile_append_of_pos all, List.dropWhile_append_of_pos all, head.1, head.2,
    List.append_nil]
  rfl

theorem someDigits_append (some : AreDigits ds) (stops : NoDigit rest) :
    someDigits (ds ++ rest) = .ok (values ds, rest) := by
  obtain ⟨filled, all⟩ := some
  have first : (ds ++ rest).head?.any Char.isDigit = true := by
    cases ds with
    | nil => exact absurd rfl filled
    | cons c ds => simpa using all c (List.mem_cons_self ..)
  rw [someDigits, if_pos first, digits_append all stops]

/-- A zero that comes first is not followed by a digit. -/
theorem whole_append (some : AreDigits ds) (alone : ds.head? = Option.some '0' → ds = ['0'])
    (stops : NoDigit rest) : whole (ds ++ rest) = .ok (values ds, rest) := by
  by_cases zero : ds.head? = Option.some '0'
  · rw [alone zero]
    have next : rest.head?.any Char.isDigit = false := by
      cases rest with
      | nil => rfl
      | cons c rest => simpa using stops c rfl
    rw [List.singleton_append, whole, if_neg (by simp [next])]
    rfl
  · rw [whole, someDigits_append some stops]
    intro after same
    cases ds with
    | nil => exact some.1 rfl
    | cons c ds =>
      obtain ⟨rfl, -⟩ := List.cons.inj same
      exact zero rfl

theorem fraction_append {f : Option (List Char)} (some : ∀ ds, f = Option.some ds → AreDigits ds)
    (stops : NoDigit rest) (point : rest.head? ≠ Option.some '.') :
    fraction (Spelling.fractionText f ++ rest) = .ok (f.map values, rest) := by
  cases f with
  | none =>
    rw [Spelling.fractionText, List.nil_append, fraction]
    · rfl
    · rintro after rfl
      exact point rfl
  | some ds =>
    rw [Spelling.fractionText, List.cons_append, fraction, someDigits_append (some ds rfl) stops]
    rfl

theorem sign_append (down : Bool) (ds : List Char) :
    exponent.sign ((if down then '-' else '+') :: ds) = (down, ds) := by
  cases down <;> rfl

theorem exponent_append {e : Option (Bool × List Char)}
    (some : ∀ down ds, e = Option.some (down, ds) → AreDigits ds) (stops : Stops rest) :
    exponent (Spelling.exponentText e ++ rest) =
      .ok (e.map fun e => (e.1, values e.2), rest) := by
  match e, some with
  | none, _ =>
    rw [Spelling.exponentText, List.nil_append]
    cases rest with
    | nil => rfl
    | cons c rest =>
      have other : ¬ (c = 'e' ∨ c = 'E') := by
        have neither := stops.exponent
        simpa [not_or] using neither
      rw [exponent, if_neg other]
      rfl
  | Option.some (down, ds), some =>
    rw [Spelling.exponentText, List.cons_append, exponent, if_pos (.inl rfl), List.cons_append,
      sign_append]
    simp only [someDigits_append (some down ds rfl) stops.digit]
    rfl

theorem noDigit_exponent {e : Option (Bool × List Char)} (stops : Stops rest) :
    NoDigit (Spelling.exponentText e ++ rest) ∧
      (Spelling.exponentText e ++ rest).head? ≠ some '.' := by
  cases e with
  | none => exact ⟨stops.digit, stops.point⟩
  | some e =>
    refine ⟨?_, by simp [Spelling.exponentText]⟩
    intro c first
    obtain rfl : 'e' = c := by simpa [Spelling.exponentText] using first
    decide

theorem noDigit_fraction {f : Option (List Char)} (stops : NoDigit rest) :
    NoDigit (Spelling.fractionText f ++ rest) := by
  cases f with
  | none => exact stops
  | some ds =>
    intro c first
    obtain rfl : '.' = c := by simpa [Spelling.fractionText] using first
    decide

end

namespace Spelling

variable {s : Spelling} {rest : List Char}

theorem numeral_body (proper : s.Proper) (stops : Stops rest) :
    Document.numeral s.negative (s.body ++ rest) = .ok (s.numeral, rest) := by
  have after := noDigit_exponent (e := s.exponent) stops
  have parts : s.body ++ rest =
      s.whole ++ (fractionText s.fraction ++ (exponentText s.exponent ++ rest)) := by
    simp [body]
  rw [parts, Document.numeral, whole_append proper.whole proper.alone (noDigit_fraction after.1)]
  simp only [bind, Except.bind, fraction_append proper.fraction after.1 after.2,
    exponent_append proper.exponent stops]
  rfl

/-- A numeral is one token, whatever follows that does not go on with it. -/
theorem tokens_text (proper : s.Proper) (stops : Stops rest) :
    tokens (s.text ++ rest) = .atom s.numeral.meaning none :: tokens rest := by
  have read (negative : Bool) (same : s.negative = negative) :
      Lexeme.ofNumeral negative (s.body ++ rest) = ⟨.atom s.numeral.meaning none, rest⟩ := by
    rw [Lexeme.ofNumeral, ← same, numeral_body proper stops]
    rfl
  unfold text
  split
  · rename_i negative
    rw [List.cons_append, tokens, if_neg (by decide)]
    have lexeme : Lexeme.of '-' (s.body ++ rest) = ⟨.atom s.numeral.meaning none, rest⟩ :=
      read true negative
    rw [lexeme]
  · rename_i positive
    obtain ⟨c, more, first⟩ := List.exists_cons_of_ne_nil proper.whole.1
    have digit : c.isDigit = true := proper.whole.2 c (by simp [first])
    obtain ⟨after, split⟩ : ∃ after, s.body ++ rest = c :: after := by
      exact ⟨_, by simp [body, first]; rfl⟩
    have lexeme : Lexeme.of c after = ⟨.atom s.numeral.meaning none, rest⟩ := by
      have chosen : Lexeme.of c after = Lexeme.ofNumeral false (c :: after) := by
        unfold Lexeme.of
        split <;> first | exact absurd digit (by decide) | rw [if_pos digit]
      rw [chosen, ← split]
      exact read false (by simpa using positive)
    have space : ¬ isSpace c = true := by
      intro space
      simp only [isSpace, Bool.or_eq_true, beq_iff_eq] at space
      obtain ((rfl | rfl) | rfl) | rfl := space <;> exact absurd digit (by decide)
    rw [split, tokens, if_neg space, lexeme]

end Spelling

/-! ## Integers -/

theorem areDigits_toDigits (n : Nat) : AreDigits (Nat.toDigits 10 n) := by
  constructor
  · exact Nat.toDigits_ne_nil
  · intro c member
    exact Nat.isDigit_of_mem_toDigits (by decide) (by decide) member

/-- Only the number zero is written with a zero that comes first. -/
theorem eq_zero_of_head_toDigits {n : Nat} (h : (Nat.toDigits 10 n).head? = some '0') : n = 0 := by
  have digit : ∀ d < 10, Nat.digitChar d = '0' → d = 0 := by decide
  -- The last digit goes at each step, so the first one stays the same.
  induction n using Nat.strongRecOn with
  | ind n ih =>
    by_cases short : n < 10
    · rw [Nat.toDigits_of_lt_base short] at h
      exact digit n short (Option.some.inj h)
    · rw [Nat.toDigits_of_base_le (by decide) (by omega), List.head?_append,
        List.head?_eq_some_head Nat.toDigits_ne_nil, Option.some_or] at h
      have zero := ih (n / 10) (by omega)
        (by rw [List.head?_eq_some_head Nat.toDigits_ne_nil]; exact h)
      omega

theorem alone_toDigits {n : Nat} (h : (Nat.toDigits 10 n).head? = some '0') :
    Nat.toDigits 10 n = ['0'] := by
  rw [eq_zero_of_head_toDigits h]
  rfl

theorem ofDigits_values {ds : List Char} (all : ∀ c ∈ ds, c.isDigit = true) :
    ofDigits (values ds) = Nat.ofDigitChars 10 ds 0 := by
  have from_ (n : Nat) : (values ds).foldl (fun n d => 10 * n + d) n =
      Nat.ofDigitChars 10 ds n := by
    induction ds generalizing n with
    | nil => rfl
    | cons c ds ih =>
      have first := all c (List.mem_cons_self ..)
      have later := ih fun c' member => all c' (List.mem_cons_of_mem _ member)
      have value : values (c :: ds) = (c.toNat - '0'.toNat) :: values ds := by
        simp [values, digit?, first]
      rw [value, List.foldl_cons, later]
      rfl
  exact from_ 0

namespace Spelling

def ofInt (n : Int) : Spelling := ⟨n < 0, Nat.toDigits 10 n.natAbs, none, none⟩

theorem proper_ofInt (n : Int) : (ofInt n).Proper := by
  constructor
  · exact areDigits_toDigits _
  · exact alone_toDigits
  · intro digits none
    cases none
  · intro down digits none
    cases none

theorem text_ofInt (n : Int) : (ofInt n).text = (toString n).toList := by
  have shown : toString n = if 0 ≤ n then n.toNat.repr else "-" ++ (-n).toNat.repr :=
    Int.repr_eq_if
  rw [shown]
  by_cases negative : n < 0
  · have size : n.natAbs = (-n).toNat := by omega
    simp [text, body, ofInt, fractionText, exponentText, negative, Int.not_le.2 negative, size,
      Nat.repr_eq_ofList_toDigits]
  · have size : n.natAbs = n.toNat := by omega
    simp [text, body, ofInt, fractionText, exponentText, negative, Int.not_lt.1 negative, size,
      Nat.repr_eq_ofList_toDigits]

/-- The integers that are written as such. -/
def Fits (n : Int) : Prop := -9223372036854775808 ≤ n ∧ n < 18446744073709551616

theorem meaning_ofInt {n : Int} (fits : Fits n) :
    (ofInt n).numeral.meaning = .ok (.number (.int n)) := by
  have value : ofDigits (values (Nat.toDigits 10 n.natAbs)) = n.natAbs := by
    rw [ofDigits_values (areDigits_toDigits _).2, Nat.ofDigitChars_ten_toDigits]
  obtain ⟨least, most⟩ := fits
  have size : UInt64.size = 18446744073709551616 := rfl
  have found : (ofInt n).numeral.int? = some n := by
    by_cases negative : n < 0
    · have inside : 0 < n.natAbs ∧ n.natAbs ≤ 9223372036854775808 := by omega
      have back : -(n.natAbs : Int) = n := by omega
      simp only [Numeral.int?, numeral, ofInt, value, negative, decide_true, Option.map_none,
        if_true]
      rw [if_pos inside, back]
    · have inside : n.natAbs < UInt64.size := by omega
      have back : (n.natAbs : Int) = n := by omega
      simp only [Numeral.int?, numeral, ofInt, value, negative, decide_false, Option.map_none,
        Bool.false_eq_true, if_false]
      rw [if_pos inside, back]
  simp [Numeral.meaning, Numeral.number?, found]

end Spelling

/-! ## Doubles -/

theorem areDigits_zero : AreDigits ['0'] := by
  constructor
  · simp
  · simp

theorem AreDigits.zeros {ds : List Char} (h : AreDigits ds) (n : Nat) :
    AreDigits (ds ++ List.replicate n '0') ∧ AreDigits (List.replicate n '0' ++ ds) := by
  have digit : ∀ c ∈ List.replicate n '0', c.isDigit = true := by
    intro c member
    rw [List.eq_of_mem_replicate member]
    rfl
  constructor
  · exact ⟨by simp [h.1], List.forall_mem_append.2 ⟨h.2, digit⟩⟩
  · exact ⟨by simp [h.1], List.forall_mem_append.2 ⟨digit, h.2⟩⟩

theorem AreDigits.take {ds : List Char} (h : AreDigits ds) {n : Nat} (some : 0 < n) :
    AreDigits (ds.take n) := by
  constructor
  · have filled := h.1
    cases ds <;> cases n <;> simp_all
  · intro c member
    exact h.2 c (List.mem_of_mem_take member)

theorem AreDigits.drop {ds : List Char} (h : AreDigits ds) {n : Nat} (some : n < ds.length) :
    AreDigits (ds.drop n) := by
  constructor
  · simpa using some
  · intro c member
    exact h.2 c (List.mem_of_mem_drop member)

namespace Spelling

/-- The spelling of digits that a power of ten scales. -/
def scaled (negative : Bool) (ds : List Char) (e : Int) : Spelling :=
  let point : Int := ds.length + e
  if 0 ≤ e ∧ point ≤ 16 then
    ⟨negative, ds ++ List.replicate e.toNat '0', some ['0'], none⟩
  else if 0 < point ∧ point ≤ 16 then
    ⟨negative, ds.take point.toNat, some (ds.drop point.toNat), none⟩
  else if -5 < point ∧ point ≤ 0 then
    ⟨negative, ['0'], some (List.replicate (-point).toNat '0' ++ ds), none⟩
  else
    ⟨negative, ds.take 1, if ds.length = 1 then none else some (ds.drop 1),
      some (point - 1 < 0, Nat.toDigits 10 (point - 1).natAbs)⟩

def ofReal (x : Binary64) : Spelling :=
  if x.isZero then ⟨x.negative, ['0'], some ['0'], none⟩
  else scaled x.negative (Nat.toDigits 10 x.shortest.digits) x.shortest.exponent

section
variable {negative : Bool} {ds : List Char} {e : Int}

theorem proper_scaled (digits : AreDigits ds) (first : ds.head? ≠ some '0') :
    (scaled negative ds e).Proper := by
  have filled : 0 < ds.length := List.length_pos_iff.2 digits.1
  have taken {n : Nat} (some : 0 < n) : (ds.take n).head? ≠ Option.some '0' := by
    rwa [List.head?_take, if_neg (by omega)]
  -- Four places for the point: behind the digits, within them, before them, behind the first one.
  unfold scaled
  dsimp only
  split
  · have head : (ds ++ List.replicate e.toNat '0').head? ≠ some '0' := by
      rw [List.head?_append, List.head?_eq_some_head digits.1] at *
      exact first
    constructor
    · exact (digits.zeros _).1
    · exact fun zero => absurd zero head
    · rintro _ ⟨⟩
      exact areDigits_zero
    · rintro _ _ ⟨⟩
  split
  · rename_i mixed point
    constructor
    · exact digits.take (by omega)
    · exact fun zero => absurd zero (taken (by omega))
    · rintro _ ⟨⟩
      exact digits.drop (by omega)
    · rintro _ _ ⟨⟩
  split
  · constructor
    · exact areDigits_zero
    · exact fun _ => rfl
    · rintro _ ⟨⟩
      exact (digits.zeros _).2
    · rintro _ _ ⟨⟩
  · constructor
    · exact digits.take Nat.one_pos
    · exact fun zero => absurd zero (taken Nat.one_pos)
    · intro fraction more
      dsimp only at more
      split at more
      · cases more
      · rename_i several
        obtain rfl := Option.some.inj more
        exact digits.drop (by omega)
    · rintro _ _ ⟨⟩
      exact areDigits_toDigits _

theorem negative_scaled : (scaled negative ds e).negative = negative := by
  unfold scaled
  dsimp only
  split
  · rfl
  split
  · rfl
  split <;> rfl

end

theorem proper_ofReal (x : Binary64) : (ofReal x).Proper := by
  unfold ofReal
  split
  · constructor
    · exact areDigits_zero
    · exact fun _ => rfl
    · rintro _ ⟨⟩
      exact areDigits_zero
    · rintro _ _ ⟨⟩
  · rename_i other
    have some : x.mantissa ≠ 0 := by simpa [Binary64.isZero] using other
    apply proper_scaled (areDigits_toDigits _)
    intro head
    exact Binary64.digits_shortest_ne_zero some (eq_zero_of_head_toDigits head)

theorem text_eq (s : Spelling) :
    s.text = ((if s.negative then "-" else "") ++ String.ofList s.body).toList := by
  unfold text
  split <;> simp

theorem body_exponential {negative down : Bool} {ds power : List Char} (filled : ds ≠ []) :
    body ⟨negative, ds.take 1, if ds.length = 1 then none else some (ds.drop 1),
        some (down, power)⟩ =
      ds.take 1 ++ (match ds.drop 1 with
        | [] => []
        | rest => '.' :: rest) ++ 'e' :: (if down then '-' else '+') :: power := by
  match ds, filled with
  | [d], _ => rfl
  | d :: d' :: ds, _ => simp [body, fractionText, exponentText]

theorem text_ofReal (x : Binary64) : (ofReal x).text = x.render.toList := by
  unfold ofReal Binary64.render
  split
  · rw [text_eq]
    rfl
  · rw [text_eq, negative_scaled]
    dsimp only
    congr 3
    unfold scaled
    dsimp only
    split
    · simp [body, fractionText, exponentText]
    split
    · simp [body, fractionText, exponentText]
    split
    · simp [body, fractionText, exponentText]
    · rw [body_exponential Nat.toDigits_ne_nil]
      congr 3
      split <;> split <;> simp_all
      omega

end Spelling

end Tandem.Document
