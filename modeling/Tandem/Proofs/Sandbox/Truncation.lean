import Tandem.Proofs.Text.Utf8
import Tandem.Sandbox.Capture

/-!
The text of an output that was cut.

* `decode_append`: two parts are decoded apart unless a character begins in the first and may go on
  in the second.
* `trimCut_cases`: what is trimmed is such a beginning, and after trimming there is none.
* `decodeOutput_take`: so the text of the first bytes is where the text of all of them begins.
-/

namespace Tandem.Sandbox

open Tandem.Text Tandem.Text.Utf8

section
variable {b low high : UInt8} {bits more : Nat} {front back rest bytes : Bytes}

theorem isContinuation_iff : isContinuation b ↔ 0x80 ≤ b ∧ b ≤ 0xbf := by
  simp only [isContinuation, Bool.and_eq_true, decide_eq_true_eq, UInt8.lt_iff_toNat_lt,
    UInt8.le_iff_toNat_le, UInt8.reduceToNat]
  omega

/-- Bytes that all continue a character. -/
def Continues (bytes : Bytes) : Prop := ∀ b ∈ bytes, isContinuation b

theorem continues_cons : Continues (b :: rest) ↔ isContinuation b ∧ Continues rest :=
  List.forall_mem_cons

/-! ## Where decoding may be split -/

/-- What follows is no more of a character that is short of bytes. -/
def Stops (back : Bytes) : Prop := ∀ b ∈ back.head?, ¬ isContinuation b

theorem follow_append (least : 0x80 ≤ low) (most : high ≤ 0xbf)
    (split : Continues rest → rest.length < more → Stops back) :
    follow bits low high more (rest ++ back) =
      ((follow bits low high more rest).1, (follow bits low high more rest).2 ++ back) := by
  induction more generalizing bits low high rest with
  | zero => rfl
  | succ more ih =>
    cases rest with
    | nil =>
      have stops : Stops back := split (by simp [Continues]) (Nat.succ_pos more)
      cases back with
      | nil => rfl
      | cons c back =>
        have outside : ¬ (low ≤ c ∧ c ≤ high) := by
          intro inside
          apply stops c rfl
          exact isContinuation_iff.2 ⟨UInt8.le_trans least inside.1, UInt8.le_trans inside.2 most⟩
        simp only [List.nil_append, follow, outside, if_false]
    | cons c rest =>
      by_cases inside : low ≤ c ∧ c ≤ high
      · have continuing : isContinuation c :=
          isContinuation_iff.2 ⟨UInt8.le_trans least inside.1, UInt8.le_trans inside.2 most⟩
        simp only [List.cons_append, follow, inside, and_self, if_true]
        apply ih (UInt8.le_refl _) (UInt8.le_refl _)
        intro tail short
        exact split (continues_cons.2 ⟨continuing, tail⟩) (Nat.succ_lt_succ short)
      · simp only [List.cons_append, follow, inside, if_false]

theorem follow_suffix : (follow bits low high more bytes).2 <:+ bytes := by
  fun_induction follow bits low high more bytes with
  | case1 => exact List.suffix_refl _
  | case2 => exact List.suffix_refl _
  | case3 _ _ _ _ b rest _ ih => exact ih.trans (List.suffix_cons b rest)
  | case4 => exact List.suffix_refl _

theorem first_suffix : (first b rest).2 <:+ rest := by
  unfold first
  split
  · exact List.suffix_refl _
  · exact follow_suffix

/-- The second byte of a character always continues it. -/
theorem lead_range {lead : Lead} (begins : Begins b lead) : 0x80 ≤ lead.low ∧ lead.high ≤ 0xbf := by
  cases begins with
  | one => exact ⟨UInt8.le_refl _, UInt8.le_refl _⟩
  | two => exact ⟨UInt8.le_refl _, UInt8.le_refl _⟩
  | three => constructor <;> (dsimp only; split <;> decide)
  | four => constructor <;> (dsimp only; split <;> decide)

/-- No character that begins in the first part is short of bytes, or the second part is no more of
it. -/
def Splits (front back : Bytes) : Prop :=
  ∀ before b tail lead, front = before ++ b :: tail → Begins b lead → Continues tail →
    tail.length < lead.more → Stops back

theorem splits_of_suffix (suffix : rest <:+ front) (h : Splits front back) : Splits rest back := by
  obtain ⟨earlier, rfl⟩ := suffix
  intro before b tail lead parts
  exact h (earlier ++ before) b tail lead (by rw [parts, List.append_assoc])

theorem first_append (split : Splits (b :: rest) back) :
    first b (rest ++ back) = ((first b rest).1, (first b rest).2 ++ back) := by
  obtain ⟨lead, begins⟩ | none := begins_or_none b
  · have range := lead_range begins
    have later : Continues rest → rest.length < lead.more → Stops back :=
      split [] b rest lead rfl begins
    simp only [first, lead_of_begins begins, follow_append range.1 range.2 later]
  · simp only [first, none]

theorem decode_append (split : Splits front back) :
    decode (front ++ back) = decode front ++ decode back := by
  fun_induction decode front with
  | case1 => rfl
  | case2 b rest ih =>
    have later : Splits (first b rest).2 back :=
      splits_of_suffix (first_suffix.trans (List.suffix_cons b rest)) split
    rw [List.cons_append, decode, first_append split, ih later, List.cons_append]

theorem splits_of_stops (stops : Stops back) : Splits front back :=
  fun _ _ _ _ _ _ _ _ => stops

/-! ## What is trimmed -/

/-- A character by its first byte, and fewer of its other bytes than it has. -/
structure Unfinished (b : UInt8) (tail : Bytes) : Prop where
  short : ∃ n, charLength? b = some n ∧ tail.length + 1 < n
  continues : Continues tail

theorem charLength?_spec {n : Nat} (h : charLength? b = some n) :
    ¬ isContinuation b ∧ n ≤ 4 := by
  simp only [charLength?, Bool.and_eq_true, decide_eq_true_eq, UInt8.lt_iff_toNat_lt,
    UInt8.le_iff_toNat_le, UInt8.reduceToNat] at h
  simp only [isContinuation_iff, UInt8.le_iff_toNat_le, UInt8.reduceToNat]
  grind

theorem begins_alone {lead : Lead} (begins : Begins b lead) : ¬ isContinuation b := by
  simp only [isContinuation_iff, UInt8.le_iff_toNat_le, UInt8.reduceToNat]
  cases begins <;> omega

/-- More bytes have a length than there are characters to begin with them, but where there is a
character the length is right. -/
theorem charLength?_of_begins {lead : Lead} (begins : Begins b lead) :
    charLength? b = if lead.more = 0 then none else some (lead.more + 1) := by
  simp only [charLength?, Bool.and_eq_true, decide_eq_true_eq, UInt8.lt_iff_toNat_lt,
    UInt8.le_iff_toNat_le, UInt8.reduceToNat]
  cases begins <;> grind

theorem unfinished_of_begins {lead : Lead} {tail : Bytes} (begins : Begins b lead)
    (continues : Continues tail) (short : tail.length < lead.more) : Unfinished b tail := by
  refine ⟨⟨lead.more + 1, ?_, Nat.succ_lt_succ short⟩, continues⟩
  rw [charLength?_of_begins begins, if_neg (by omega)]

theorem Unfinished.stops {tail : Bytes} (h : Unfinished b tail) : Stops (b :: tail) := by
  obtain ⟨n, length, -⟩ := h.short
  intro c head
  cases head
  exact (charLength?_spec length).1

theorem Unfinished.length_lt {tail : Bytes} (h : Unfinished b tail) : tail.length < 3 := by
  obtain ⟨n, length, short⟩ := h.short
  have most := (charLength?_spec length).2
  omega

theorem unfinished_continues {tail : Bytes} (h : Continues tail) (passed : Nat) :
    unfinished passed (tail ++ rest) = unfinished (passed + tail.length) rest := by
  induction tail generalizing passed with
  | nil => rfl
  | cons c tail ih =>
    obtain ⟨continuing, later⟩ := continues_cons.1 h
    rw [List.cons_append, unfinished, if_pos continuing, ih later, List.length_cons]
    congr 1
    omega

theorem unfinished_found {passed : Nat} (h : unfinished passed bytes ≠ 0) :
    ∃ tail b rest n, bytes = tail ++ b :: rest ∧ Continues tail ∧ charLength? b = some n ∧
      passed + tail.length + 1 < n := by
  fun_induction unfinished passed bytes with
  | case1 => exact absurd rfl h
  | case2 passed b before continuing ih =>
    obtain ⟨tail, c, rest, n, rfl, continues, length, short⟩ := ih h
    refine ⟨b :: tail, c, rest, n, rfl, continues_cons.2 ⟨continuing, continues⟩, length, ?_⟩
    rw [List.length_cons]
    omega
  | case3 passed b before _ n length short =>
    exact ⟨[], b, before, n, rfl, by simp [Continues], length, short⟩
  | case4 => exact absurd rfl h
  | case5 => exact absurd rfl h

theorem trimCut_of_unfinished {before tail : Bytes} (h : Unfinished b tail) :
    trimCut (before ++ b :: tail) = before := by
  obtain ⟨n, length, short⟩ := h.short
  obtain ⟨alone, -⟩ := charLength?_spec length
  have few := h.length_lt
  obtain ⟨later, ends⟩ : ∃ later, (before ++ b :: tail).reverse.take 3 =
      tail.reverse ++ b :: later := by
    obtain ⟨room, size⟩ : ∃ room, 3 - tail.reverse.length = room + 1 :=
      ⟨2 - tail.length, by rw [List.length_reverse]; omega⟩
    refine ⟨before.reverse.take room, ?_⟩
    rw [List.reverse_append, List.reverse_cons, List.append_assoc, List.singleton_append,
      List.take_append, size, List.take_succ_cons, List.take_of_length_le]
    rw [List.length_reverse]
    omega
  have reversed : Continues tail.reverse := by
    intro c member
    exact h.continues c (List.mem_reverse.1 member)
  have count : unfinished 0 (tail.reverse ++ b :: later) = tail.length + 1 := by
    rw [unfinished_continues reversed, unfinished, if_neg alone, length, List.length_reverse]
    simp only [Nat.zero_add, short, if_true]
  rw [trimCut, ends, count, List.length_append, List.length_cons, Nat.add_sub_cancel,
    List.take_left]

theorem trimCut_cases (bytes : Bytes) :
    (trimCut bytes = bytes ∧ ∀ before b tail, bytes = before ++ b :: tail → ¬ Unfinished b tail) ∨
      ∃ b tail, bytes = trimCut bytes ++ b :: tail ∧ Unfinished b tail := by
  by_cases some : ∃ before b tail, bytes = before ++ b :: tail ∧ Unfinished b tail
  · obtain ⟨before, b, tail, rfl, partly⟩ := some
    exact .inr ⟨b, tail, by rw [trimCut_of_unfinished partly], partly⟩
  · have none (before : Bytes) (b : UInt8) (tail : Bytes) (parts : bytes = before ++ b :: tail) :
        ¬ Unfinished b tail := fun partly => some ⟨before, b, tail, parts, partly⟩
    refine .inl ⟨?_, none⟩
    by_cases zero : unfinished 0 (bytes.reverse.take 3) = 0
    · rw [trimCut, zero, Nat.sub_zero, List.take_length]
    · obtain ⟨tail, b, rest, n, ends, continues, length, short⟩ := unfinished_found zero
      have whole : bytes.reverse = tail ++ b :: rest ++ bytes.reverse.drop 3 := by
        rw [← ends, List.take_append_drop]
      have parts : bytes = (rest ++ bytes.reverse.drop 3).reverse ++ b :: tail.reverse := by
        calc bytes = bytes.reverse.reverse := (List.reverse_reverse bytes).symm
          _ = (tail ++ b :: rest ++ bytes.reverse.drop 3).reverse := congrArg List.reverse whole
          _ = (rest ++ bytes.reverse.drop 3).reverse ++ b :: tail.reverse := by
            simp only [List.reverse_append, List.reverse_cons, List.append_assoc,
              List.singleton_append]
      refine absurd ?_ (none _ b tail.reverse parts)
      refine ⟨⟨n, length, ?_⟩, fun c member => continues c (List.mem_reverse.1 member)⟩
      rw [List.length_reverse]
      omega

/-- Trimmed bytes are some of the first, all but at most three, and what follows them in any longer
sequence is decoded apart from them. -/
theorem trimCut_splits (kept later : Bytes) :
    ∃ cut, kept = trimCut kept ++ cut ∧ cut.length ≤ 3 ∧ Splits (trimCut kept) (cut ++ later) := by
  obtain ⟨same, none⟩ | ⟨b, tail, parts, partly⟩ := trimCut_cases kept
  · refine ⟨[], by rw [same, List.append_nil], Nat.zero_le 3, ?_⟩
    intro before b tail lead parts begins continues short
    refine absurd ?_ (none before b tail (by rw [← parts, same]))
    exact unfinished_of_begins begins continues short
  · exact ⟨b :: tail, parts, partly.length_lt, splits_of_stops partly.stops⟩

theorem decode_trimCut_prefix (kept later : Bytes) :
    decode (trimCut kept) <+: decode (kept ++ later) := by
  obtain ⟨cut, parts, -, splits⟩ := trimCut_splits kept later
  have whole : decode (kept ++ later) = decode (trimCut kept) ++ decode (cut ++ later) := by
    rw [← decode_append splits, ← List.append_assoc, ← parts]
  rw [whole]
  exact List.prefix_append _ _

/-! ## Text that was cut -/

theorem follow_complete {code : Nat} (least : 0x80 ≤ low) (most : high ≤ 0xbf)
    (read : follow bits low high more bytes = (some code, [])) :
    bytes.length = more ∧ Continues bytes := by
  induction more generalizing bits low high bytes with
  | zero =>
    obtain ⟨-, rfl⟩ := follow_zero_iff.1 read
    exact ⟨rfl, by simp [Continues]⟩
  | succ more ih =>
    obtain ⟨b, before, rfl, low, high, later⟩ := follow_succ_iff.1 read
    obtain ⟨length, continues⟩ := ih (UInt8.le_refl _) (UInt8.le_refl _) later
    refine ⟨congrArg Nat.succ length, continues_cons.2 ⟨isContinuation_iff.2 ⟨?_, ?_⟩, continues⟩⟩
    · exact UInt8.le_trans least low
    · exact UInt8.le_trans high most

theorem encodeChar_shape (c : Char) :
    ∃ b tail lead, encodeChar c = b :: tail ∧ Begins b lead ∧ tail.length = lead.more ∧
      Continues tail := by
  obtain ⟨b, tail, bytes⟩ := List.exists_cons_of_ne_nil (encodeChar_ne_nil c)
  have read : first b tail = (some c, []) :=
    first_eq_some_iff.2 (by rw [bytes, List.append_nil])
  obtain ⟨lead, code, begins, later, -⟩ := first_eq_some_iff_code.1 read
  have range := lead_range begins
  exact ⟨b, tail, lead, bytes, begins, follow_complete range.1 range.2 later⟩

theorem decode_encode (text : List Char) : decode (encode text) = text := by
  induction text with
  | nil => rw [encode, List.flatMap_nil, decode]
  | cons c text ih =>
    obtain ⟨b, more, bytes⟩ := List.exists_cons_of_ne_nil (encodeChar_ne_nil c)
    have read : first b (more ++ encode text) = (some c, encode text) :=
      first_eq_some_iff.2 (by rw [bytes, List.cons_append])
    rw [encode_cons, bytes, List.cons_append, decode, read]
    exact congrArg (c :: ·) ih

theorem encode_append (front back : List Char) :
    encode (front ++ back) = encode front ++ encode back := List.flatMap_append

/-- The last byte that continues no character is the same, however it is found. -/
theorem last_unique {before before' tail tail' : Bytes} {b b' : UInt8}
    (same : before ++ b :: tail = before' ++ b' :: tail') (alone : ¬ isContinuation b)
    (alone' : ¬ isContinuation b') (continues : Continues tail) (continues' : Continues tail') :
    before = before' ∧ b = b' ∧ tail = tail' := by
  obtain ⟨between, rfl, parts⟩ | ⟨between, rfl, parts⟩ := List.append_eq_append_iff.1 same
  · cases between with
    | nil => simpa using parts
    | cons c between =>
      obtain ⟨rfl, rfl⟩ := List.cons.inj parts
      exact absurd (continues b' (by simp)) alone'
  · cases between with
    | nil => simpa [eq_comm] using parts
    | cons c between =>
      obtain ⟨rfl, rfl⟩ := List.cons.inj parts
      exact absurd (continues' b (by simp)) alone

theorem trimCut_encode (text : List Char) : trimCut (encode text) = encode text := by
  obtain ⟨same, -⟩ | ⟨b, tail, parts, partly⟩ := trimCut_cases (encode text)
  · exact same
  · exfalso
    obtain rfl | ⟨earlier, c, rfl⟩ := List.eq_nil_or_concat text
    · simp [encode] at parts
    · obtain ⟨b', tail', lead, bytes, begins, length, continues⟩ := encodeChar_shape c
      have whole : encode (earlier ++ [c]) = encode earlier ++ b' :: tail' := by
        rw [encode_append, ← bytes, encode, encode, List.flatMap_singleton]
      obtain ⟨n, known, short⟩ := partly.short
      rw [List.concat_eq_append, whole] at parts
      obtain ⟨-, rfl, rfl⟩ := last_unique parts (begins_alone begins)
        (charLength?_spec known).1 continues partly.continues
      rw [charLength?_of_begins begins] at known
      grind

/-- A character of which a cut left only some bytes is trimmed. -/
theorem trimCut_encode_part (text : List Char) (c : Char) {k : Nat}
    (short : k < (encodeChar c).length) :
    trimCut (encode text ++ (encodeChar c).take k) = encode text := by
  cases k with
  | zero => rw [List.take_zero, List.append_nil, trimCut_encode]
  | succ k =>
    obtain ⟨b, tail, lead, bytes, begins, length, continues⟩ := encodeChar_shape c
    rw [bytes, List.length_cons] at short
    rw [bytes, List.take_succ_cons]
    have kept : Continues (tail.take k) := by
      intro x member
      exact continues x (List.mem_of_mem_take member)
    apply trimCut_of_unfinished
    apply unfinished_of_begins begins kept
    rw [List.length_take]
    omega

/-- The longest beginning of a text that fits in a number of bytes. -/
structure LongestFitting (n : Nat) (text kept : List Char) : Prop where
  begins : kept <+: text
  fits : (encode kept).length ≤ n
  longest : ∀ other, other <+: text → (encode other).length ≤ n → other <+: kept

theorem longestFitting_of_next {n : Nat} {kept later : List Char} {c : Char}
    (fits : (encode kept).length ≤ n) (beyond : n < (encode kept).length + (encodeChar c).length) :
    LongestFitting n (kept ++ c :: later) kept := by
  refine ⟨List.prefix_append _ _, fits, ?_⟩
  intro other begins small
  obtain shorter | ⟨more, rfl⟩ :=
    List.prefix_or_prefix_of_prefix begins (List.prefix_append kept (c :: later))
  · exact shorter
  · cases more with
    | nil => exact ⟨[], by rw [List.append_nil, List.append_nil]⟩
    | cons d more =>
      obtain ⟨rest, parts⟩ := begins
      obtain ⟨rfl, -⟩ : d = c ∧ more ++ rest = later := by simpa using parts
      rw [encode_append, encode_cons, List.length_append, List.length_append] at small
      omega

/-- The first bytes of a text hold some of its characters and a part of the next one. -/
theorem encode_take {text : List Char} {n : Nat} (cut : n < (encode text).length) :
    ∃ kept c later k, text = kept ++ c :: later ∧ k < (encodeChar c).length ∧
      n = (encode kept).length + k ∧
      (encode text).take n = encode kept ++ (encodeChar c).take k := by
  induction text generalizing n with
  | nil => simp [encode] at cut
  | cons c text ih =>
    rw [encode_cons, List.length_append] at cut
    by_cases part : n < (encodeChar c).length
    · refine ⟨[], c, text, n, rfl, part, ?_, ?_⟩
      · simp [encode]
      · rw [encode_cons, List.take_append_of_le_length (Nat.le_of_lt part)]
        rfl
    · obtain ⟨kept, d, later, k, rfl, short, rest, taken⟩ :=
        ih (n := n - (encodeChar c).length) (by omega)
      refine ⟨c :: kept, d, later, k, rfl, short, ?_, ?_⟩
      · rw [encode_cons, List.length_append]
        omega
      · rw [encode_cons, List.take_append, List.take_of_length_le (by omega), taken, encode_cons,
          List.append_assoc]

theorem longestFitting_trimCut {text : List Char} {n : Nat} (cut : n < (encode text).length) :
    LongestFitting n text (decode (trimCut ((encode text).take n))) := by
  obtain ⟨kept, c, later, k, rfl, short, rfl, taken⟩ := encode_take cut
  rw [taken, trimCut_encode_part kept c short, decode_encode]
  exact longestFitting_of_next (Nat.le_add_right _ _) (Nat.add_lt_add_left short _)

/-- The text of the first `n` bytes of a longer output is where the text of all of it begins, and
all of the text of one of the last few cuts before the `n`-th byte. If the output is well formed, it
is the longest beginning that fits. -/
theorem decodeOutput_take {n : Nat} (cut : n < bytes.length) :
    (decodeOutput (bytes.take n) true).toList <+: decode bytes ∧
      (∃ m, n - 3 ≤ m ∧ m ≤ n ∧
        (decodeOutput (bytes.take n) true).toList = decode (bytes.take m)) ∧
      (∀ text, bytes = encode text →
        LongestFitting n text (decodeOutput (bytes.take n) true).toList) ∧
      ∀ output, (decodeOutput output false).toList = decode output := by
  have trimmed : (decodeOutput (bytes.take n) true).toList = decode (trimCut (bytes.take n)) := by
    rw [decodeOutput, if_pos rfl, String.toList_ofList]
  rw [trimmed]
  refine ⟨?_, ?_, ?_, fun output => ?_⟩
  · have front := decode_trimCut_prefix (bytes.take n) (bytes.drop n)
    rwa [List.take_append_drop] at front
  · obtain ⟨lost, parts, few, -⟩ := trimCut_splits (bytes.take n) []
    have length : (trimCut (bytes.take n)).length + lost.length = n := by
      rw [← List.length_append, ← parts, List.length_take]
      omega
    have kept : trimCut (bytes.take n) = bytes.take (n - lost.length) := by
      have size : n - lost.length = (trimCut (bytes.take n)).length := by omega
      calc trimCut (bytes.take n)
          = (trimCut (bytes.take n) ++ lost).take (n - lost.length) := by
            rw [size, List.take_left]
        _ = (bytes.take n).take (n - lost.length) := by rw [← parts]
        _ = bytes.take (n - lost.length) := by
            rw [List.take_take, Nat.min_eq_left (Nat.sub_le _ _)]
    exact ⟨n - lost.length, by omega, by omega, congrArg decode kept⟩
  · rintro text rfl
    exact longestFitting_trimCut cut
  · rw [decodeOutput, if_neg Bool.false_ne_true, String.toList_ofList]

/-- The last character is cut after the second of its three bytes. -/
theorem decodeOutput_take_euro :
    LongestFitting 3 ['1', '€'] (decodeOutput [0x31, 0xe2, 0x82] true).toList :=
  (@decodeOutput_take (encode ['1', '€']) 3 (by decide)).2.2.1 _ rfl

end

end Tandem.Sandbox
