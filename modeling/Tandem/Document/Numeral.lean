import Tandem.Number.Binary64

/-!
Numerals and the numbers they stand for.

A numeral without fraction and exponent is an integer if it fits in 64 bits. Any other is a double,
reached from the digits that fit in 64 bits: see `Numeral.number?`.
-/

namespace Tandem.Document

open Tandem.Number

inductive Number where
  | int (n : Int)
  | real (x : Binary64)
deriving DecidableEq

/-- The parts of a numeral: digits before the point, digits after it and an exponent. -/
structure Numeral where
  negative : Bool
  whole : List Nat
  fraction : Option (List Nat)
  exponent : Option (Bool × List Nat)
deriving DecidableEq, Repr

/-- The value of decimal digits. -/
def ofDigits (digits : List Nat) : Nat := digits.foldl (fun n d => 10 * n + d) 0

/-- Appends digits to a number as long as it fits in 64 bits, and counts them. -/
def gather (n : Nat) : List Nat → Nat × Nat
  | [] => (n, 0)
  | d :: rest =>
    if 10 * n + d < UInt64.size then
      let (m, count) := gather (10 * n + d) rest
      (m, count + 1)
    else (n, 0)

/-- The largest exponent that is looked at. -/
def maxExponent : Nat := 2147483647

namespace Numeral

/-- The integer of a numeral, if it is one of 64 bits. The negative zero is none. -/
def int? (n : Numeral) : Option Int :=
  match n.fraction, n.exponent with
  | none, none =>
    let value := ofDigits n.whole
    if n.negative then if 0 < value ∧ value ≤ 9223372036854775808 then some (-value) else none
    else if value < UInt64.size then some value else none
  | _, _ => none

/-- The digits that count, as one integer, and the power of ten that scales it. A digit before the
point that no longer fits scales by ten, one after it is dropped. -/
def scaled (n : Numeral) : Nat × Int :=
  let (head, taken) := gather 0 n.whole
  match n.fraction with
  | none => (head, (n.whole.length - taken : Nat))
  | some fraction =>
    let (all, more) := gather head fraction
    (all, (n.whole.length - taken : Nat) - (more : Int))

/-- The number that a numeral stands for. None where it is too large for a double. -/
def number? (n : Numeral) : Option Number :=
  match n.int? with
  | some value => some (.int value)
  | none =>
    let (significand, power) := n.scaled
    let real := (Binary64.ofDecimal? n.negative significand ·)
    match n.exponent with
    | none => (real power).map .real
    | some (down, digits) =>
      let e := ofDigits digits
      if e ≤ maxExponent then (real (if down then power - e else power + e)).map .real
      else if significand = 0 ∨ down then some (.real (.zero n.negative))
      else none

end Numeral

/-- The value of a decimal digit. -/
def digit? (c : Char) : Option Nat :=
  if c.isDigit then some (c.toNat - '0'.toNat) else none

/-- The digits that a text starts with, and what follows them. -/
def digits (text : List Char) : List Nat × List Char :=
  ((text.takeWhile Char.isDigit).filterMap digit?, text.dropWhile Char.isDigit)

/-- Digits of which there is at least one. A text without any gives itself back. -/
def someDigits (text : List Char) : Except (List Char) (List Nat × List Char) :=
  if text.head?.any Char.isDigit then .ok (digits text) else .error text

theorem length_someDigits_lt {text rest : List Char} {found : List Nat}
    (h : someDigits text = .ok (found, rest)) : rest.length < text.length := by
  unfold someDigits at h
  split at h
  · obtain ⟨-, rfl⟩ := Prod.mk.inj (Except.ok.inj h)
    cases text with
    | nil => simp_all
    | cons c text =>
      simp only [List.head?_cons, Option.any_some] at *
      have := (List.dropWhile_sublist (l := text) Char.isDigit).length_le
      simp_all only [digits, List.dropWhile_cons_of_pos, List.length_cons]
      omega
  · cases h

/-- The fraction of a numeral, if it has one. -/
def fraction (text : List Char) : Except (List Char) (Option (List Nat) × List Char) :=
  match text with
  | '.' :: rest => do
    let (found, rest) ← someDigits rest
    return (some found, rest)
  | _ => return (none, text)

theorem length_fraction_le {text rest : List Char} {found : Option (List Nat)}
    (h : fraction text = .ok (found, rest)) : rest.length ≤ text.length := by
  unfold fraction at h
  split at h
  · next text =>
    cases hd : someDigits text with
    | error e => simp [hd, bind, Except.bind] at h
    | ok r =>
      have := length_someDigits_lt hd
      simp only [hd, bind, Except.bind, pure, Except.pure, Except.ok.injEq, Prod.mk.injEq] at h
      obtain ⟨-, rfl⟩ := h
      simp only [List.length_cons]
      omega
  · simp_all [pure, Except.pure]

/-- The exponent of a numeral, if it has one. -/
def exponent (text : List Char) : Except (List Char) (Option (Bool × List Nat) × List Char) :=
  match text with
  | c :: rest =>
    if c = 'e' ∨ c = 'E' then do
      let (down, rest) := sign rest
      let (found, rest) ← someDigits rest
      return (some (down, found), rest)
    else return (none, text)
  | [] => return (none, [])
where
  /-- Whether a text starts with a minus, and what follows its sign. -/
  sign : List Char → Bool × List Char
    | '+' :: rest => (false, rest)
    | '-' :: rest => (true, rest)
    | rest => (false, rest)

theorem length_sign_le (text : List Char) : (exponent.sign text).2.length ≤ text.length := by
  unfold exponent.sign
  split <;> simp

theorem length_exponent_le {text rest : List Char} {found : Option (Bool × List Nat)}
    (h : exponent text = .ok (found, rest)) : rest.length ≤ text.length := by
  unfold exponent at h
  split at h
  · next c text =>
    split at h
    · cases hd : someDigits (exponent.sign text).2 with
      | error e => simp [hd, bind, Except.bind] at h
      | ok r =>
        have := length_someDigits_lt hd
        have := length_sign_le text
        simp only [hd, bind, Except.bind, pure, Except.pure, Except.ok.injEq, Prod.mk.injEq] at h
        obtain ⟨-, rfl⟩ := h
        simp only [List.length_cons]
        omega
    · simp_all [pure, Except.pure]
  · simp_all [pure, Except.pure]

/-- The digits before the point: a zero stands alone. -/
def whole (text : List Char) : Except (List Char) (List Nat × List Char) :=
  match text with
  | '0' :: rest => if rest.head?.any Char.isDigit then .error rest else .ok ([0], rest)
  | _ => someDigits text

theorem length_whole_lt {text rest : List Char} {found : List Nat}
    (h : whole text = .ok (found, rest)) : rest.length < text.length := by
  unfold whole at h
  split at h
  · split at h
    · cases h
    · obtain ⟨-, rfl⟩ := Prod.mk.inj (Except.ok.inj h)
      simp
  · exact length_someDigits_lt h

/-- The numeral that a text starts with and what follows it. Where there is none, the text from the
first character that does not fit. -/
def numeral (negative : Bool) (text : List Char) : Except (List Char) (Numeral × List Char) := do
  let (whole, text) ← whole text
  let (fraction, text) ← fraction text
  let (exponent, text) ← exponent text
  return (⟨negative, whole, fraction, exponent⟩, text)

theorem length_numeral_lt {negative : Bool} {text rest : List Char} {n : Numeral}
    (h : numeral negative text = .ok (n, rest)) : rest.length < text.length := by
  simp only [numeral, bind, Except.bind] at h
  cases hw : whole text with
  | error e => simp [hw] at h
  | ok w =>
    cases hf : fraction w.2 with
    | error e => simp [hw, hf] at h
    | ok f =>
      cases he : exponent f.2 with
      | error e => simp [hw, hf, he] at h
      | ok e =>
        have := length_whole_lt hw
        have := length_fraction_le hf
        have := length_exponent_le he
        simp only [hw, hf, he, pure, Except.pure, Except.ok.injEq, Prod.mk.injEq] at h
        obtain ⟨-, rfl⟩ := h
        omega

end Tandem.Document
