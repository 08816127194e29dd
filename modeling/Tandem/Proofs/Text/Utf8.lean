import Tandem.Text.Utf8

/-!
UTF-8 is canonical.

* `first_eq_some_iff`: a character is read from its own bytes and from no others.
* `decode?_eq_some_iff`: so a text has one written form.
-/

namespace Tandem.Text.Utf8

/-- What a byte that begins a character stands for, by the bits that it carries. -/
inductive Begins : UInt8 → Lead → Prop where
  | one {b : UInt8} (ascii : b.toNat < 0x80) : Begins b ⟨b.toNat, 0x80, 0xbf, 0⟩
  | two {b : UInt8} {bits : Nat} (least : 2 ≤ bits) (most : bits < 0x20)
      (byte : b.toNat = 0xc0 + bits) : Begins b ⟨bits, 0x80, 0xbf, 1⟩
  | three {b : UInt8} {bits : Nat} (most : bits < 0x10) (byte : b.toNat = 0xe0 + bits) :
      Begins b ⟨bits, if bits = 0 then 0xa0 else 0x80, if bits = 0xd then 0x9f else 0xbf, 2⟩
  | four {b : UInt8} {bits : Nat} (most : bits ≤ 4) (byte : b.toNat = 0xf0 + bits) :
      Begins b ⟨bits, if bits = 0 then 0x90 else 0x80, if bits = 4 then 0x8f else 0xbf, 3⟩

theorem lead_of_begins {b : UInt8} {lead : Lead} (h : Begins b lead) : Lead.of? b = some lead := by
  cases h with
  | one ascii => simp [Lead.of?, ascii]
  | two least most byte => grind [Lead.of?]
  | three most byte => grind [Lead.of?]
  | @four bits most byte =>
    obtain rfl | rfl | middle : bits = 0 ∨ bits = 4 ∨ (0 < bits ∧ bits < 4) := by omega
    · grind [Lead.of?]
    · grind [Lead.of?]
    · grind [Lead.of?]

theorem begins_or_none (b : UInt8) : (∃ lead, Begins b lead) ∨ Lead.of? b = none := by
  obtain ascii | alone | pair | triple | quadruple | beyond : b.toNat < 0x80 ∨
      (0x80 ≤ b.toNat ∧ b.toNat < 0xc2) ∨ (0xc2 ≤ b.toNat ∧ b.toNat < 0xe0) ∨
      (0xe0 ≤ b.toNat ∧ b.toNat < 0xf0) ∨ (0xf0 ≤ b.toNat ∧ b.toNat ≤ 0xf4) ∨
      0xf4 < b.toNat := by omega
  · exact .inl ⟨_, .one ascii⟩
  · exact .inr (by grind [Lead.of?])
  · exact .inl ⟨_, @Begins.two b (b.toNat - 0xc0) (by omega) (by omega) (by omega)⟩
  · exact .inl ⟨_, @Begins.three b (b.toNat - 0xe0) (by omega) (by omega)⟩
  · exact .inl ⟨_, @Begins.four b (b.toNat - 0xf0) (by omega) (by omega)⟩
  · exact .inr (by grind [Lead.of?])

theorem lead_eq_some_iff {b : UInt8} {lead : Lead} : Lead.of? b = some lead ↔ Begins b lead := by
  refine ⟨fun h => ?_, lead_of_begins⟩
  obtain ⟨lead', begins⟩ | none := begins_or_none b
  · rw [lead_of_begins begins] at h
    exact Option.some.inj h ▸ begins
  · rw [none] at h
    cases h

section
variable {b low high : UInt8} {bits code more : Nat} {bytes rest later : Bytes} {c : Char}

theorem follow_zero_iff : follow bits low high 0 bytes = (some code, rest) ↔
    code = bits ∧ rest = bytes := by
  simp only [follow, Prod.mk.injEq, Option.some.injEq]
  exact and_congr eq_comm eq_comm

theorem follow_succ_iff : follow bits low high (more + 1) bytes = (some code, rest) ↔
    ∃ b before, bytes = b :: before ∧ low ≤ b ∧ b ≤ high ∧
      follow (64 * bits + b.toNat % 64) 0x80 0xbf more before = (some code, rest) := by
  cases bytes with
  | nil => simp [follow]
  | cons b before =>
    rw [follow]
    split
    · grind
    · simp
      grind

theorem first_eq_some_iff_code : first b rest = (some c, later) ↔
    ∃ lead code, Begins b lead ∧
      follow lead.bits lead.low lead.high lead.more rest = (some code, later) ∧
      c = Char.ofNat code := by
  rw [first]
  obtain ⟨lead, begins⟩ | none := begins_or_none b
  · have unique (lead' : Lead) : Begins b lead' ↔ lead' = lead := by
      rw [← lead_eq_some_iff, lead_eq_some_iff.2 begins, Option.some.injEq, eq_comm]
    rw [lead_eq_some_iff.2 begins]
    simp only [unique, Prod.mk.injEq, Option.map_eq_some_iff, exists_and_left, exists_eq_left]
    grind
  · simp [none, ← lead_eq_some_iff]

theorem byte_eq {b : UInt8} {n : Nat} (h : b.toNat = n) : UInt8.ofNat n = b := by
  rw [← h, UInt8.ofNat_toNat]

theorem toNat_ofNat_of_valid {n : Nat} (h : n.isValidChar) : (Char.ofNat n).toNat = n := by
  rw [Char.ofNat, dif_pos h]
  rfl

theorem encodeChar_of_first (h : first b rest = (some c, later)) :
    b :: rest = encodeChar c ++ later := by
  obtain ⟨lead, code, begins, read, rfl⟩ := first_eq_some_iff_code.1 h
  cases begins with
  | one ascii =>
    obtain ⟨rfl, rfl⟩ := follow_zero_iff.1 read
    have value := toNat_ofNat_of_valid (n := b.toNat) (.inl (by omega))
    simp [encodeChar, value, ascii]
  | @two bits least most byte =>
    obtain ⟨x, _, rfl, low, high, read⟩ := follow_succ_iff.1 read
    obtain ⟨rfl, rfl⟩ := follow_zero_iff.1 read
    have bounds : 0x80 ≤ x.toNat ∧ x.toNat ≤ 0xbf := ⟨low, high⟩
    have value := toNat_ofNat_of_valid (n := 64 * bits + x.toNat % 64) (.inl (by omega))
    simp only [encodeChar, value]
    rw [if_neg (by omega), if_pos (by omega), byte_eq (b := b) (by omega),
      byte_eq (b := x) (by omega)]
    rfl
  | @three bits most byte =>
    obtain ⟨x, _, rfl, low, high, read⟩ := follow_succ_iff.1 read
    obtain ⟨y, _, rfl, low', high', read⟩ := follow_succ_iff.1 read
    obtain ⟨rfl, rfl⟩ := follow_zero_iff.1 read
    have bounds : 0x80 ≤ x.toNat ∧ x.toNat ≤ 0xbf ∧ (bits = 0 → 0xa0 ≤ x.toNat) ∧
        (bits = 0xd → x.toNat ≤ 0x9f) := by
      simp only [UInt8.le_iff_toNat_le, apply_ite UInt8.toNat, UInt8.reduceToNat] at low high
      grind
    have bounds' : 0x80 ≤ y.toNat ∧ y.toNat ≤ 0xbf := ⟨low', high'⟩
    have value := toNat_ofNat_of_valid (n := 64 * (64 * bits + x.toNat % 64) + y.toNat % 64)
      (by simp only [Nat.isValidChar]; omega)
    simp only [encodeChar, value]
    rw [if_neg (by omega), if_neg (by omega), if_pos (by omega), byte_eq (b := b) (by omega),
      byte_eq (b := x) (by omega), byte_eq (b := y) (by omega)]
    rfl
  | @four bits most byte =>
    obtain ⟨x, _, rfl, low, high, read⟩ := follow_succ_iff.1 read
    obtain ⟨y, _, rfl, low', high', read⟩ := follow_succ_iff.1 read
    obtain ⟨z, _, rfl, low'', high'', read⟩ := follow_succ_iff.1 read
    obtain ⟨rfl, rfl⟩ := follow_zero_iff.1 read
    have bounds : 0x80 ≤ x.toNat ∧ x.toNat ≤ 0xbf ∧ (bits = 0 → 0x90 ≤ x.toNat) ∧
        (bits = 4 → x.toNat ≤ 0x8f) := by
      simp only [UInt8.le_iff_toNat_le, apply_ite UInt8.toNat, UInt8.reduceToNat] at low high
      grind
    have bounds' : 0x80 ≤ y.toNat ∧ y.toNat ≤ 0xbf := ⟨low', high'⟩
    have bounds'' : 0x80 ≤ z.toNat ∧ z.toNat ≤ 0xbf := ⟨low'', high''⟩
    have value := toNat_ofNat_of_valid
      (n := 64 * (64 * (64 * bits + x.toNat % 64) + y.toNat % 64) + z.toNat % 64)
      (by simp only [Nat.isValidChar]; omega)
    simp only [encodeChar, value]
    rw [if_neg (by omega), if_neg (by omega), if_neg (by omega), byte_eq (b := b) (by omega),
      byte_eq (b := x) (by omega), byte_eq (b := y) (by omega), byte_eq (b := z) (by omega)]
    rfl

theorem follow_tail {unit : Nat} (above : low.toNat ≤ 0x80 + unit % 64)
    (below : 0x80 + unit % 64 ≤ high.toNat) :
    follow bits low high (more + 1) (UInt8.ofNat (0x80 + unit % 64) :: rest) =
      follow (64 * bits + unit % 64) 0x80 0xbf more rest := by
  have byte : (UInt8.ofNat (0x80 + unit % 64)).toNat = 0x80 + unit % 64 := by
    rw [UInt8.toNat_ofNat']
    omega
  have kept : (0x80 + unit % 64) % 64 = unit % 64 := by omega
  have inside : low ≤ UInt8.ofNat (0x80 + unit % 64) ∧ UInt8.ofNat (0x80 + unit % 64) ≤ high := by
    rw [UInt8.le_iff_toNat_le, UInt8.le_iff_toNat_le, byte]
    exact ⟨above, below⟩
  rw [follow, if_pos inside, byte, kept]

theorem follow_plain {unit : Nat} :
    follow bits 0x80 0xbf (more + 1) (UInt8.ofNat (0x80 + unit % 64) :: rest) =
      follow (64 * bits + unit % 64) 0x80 0xbf more rest :=
  follow_tail (Nat.le_add_right _ _) (by simp only [UInt8.reduceToNat]; omega)

theorem first_of_encodeChar (h : b :: rest = encodeChar c ++ later) :
    first b rest = (some c, later) := by
  have valid : c.toNat < 0xd800 ∨ (0xdfff < c.toNat ∧ c.toNat < 0x110000) := c.valid
  rw [first_eq_some_iff_code]
  simp only [encodeChar] at h
  split at h
  · obtain ⟨rfl, rfl⟩ := List.cons.inj h
    have byte : (UInt8.ofNat c.toNat).toNat = c.toNat := by
      rw [UInt8.toNat_ofNat']
      omega
    refine ⟨_, c.toNat, .one (by omega), ?_, (Char.ofNat_toNat c).symm⟩
    simp [follow, byte]
  split at h
  · obtain ⟨rfl, rfl⟩ := List.cons.inj h
    refine ⟨_, c.toNat, @Begins.two _ (c.toNat / 0x40) (by omega) (by omega) ?_, ?_,
      (Char.ofNat_toNat c).symm⟩
    · rw [UInt8.toNat_ofNat']
      omega
    · have code : 64 * (c.toNat / 0x40) + c.toNat / 1 % 64 = c.toNat := by omega
      exact follow_plain.trans (congrArg (some ·, later) code)
  split at h
  · obtain ⟨rfl, rfl⟩ := List.cons.inj h
    refine ⟨_, c.toNat, @Begins.three _ (c.toNat / 0x1000) (by omega) ?_, ?_,
      (Char.ofNat_toNat c).symm⟩
    · rw [UInt8.toNat_ofNat']
      omega
    · have code : 64 * (64 * (c.toNat / 0x1000) + c.toNat / 0x40 % 64) + c.toNat / 1 % 64 =
          c.toNat := by omega
      refine (follow_tail ?_ ?_).trans (follow_plain.trans (congrArg (some ·, later) code))
      · dsimp only
        split <;> simp only [UInt8.reduceToNat] <;> omega
      · dsimp only
        split <;> simp only [UInt8.reduceToNat] <;> omega
  · obtain ⟨rfl, rfl⟩ := List.cons.inj h
    refine ⟨_, c.toNat, @Begins.four _ (c.toNat / 0x40000) (by omega) ?_, ?_,
      (Char.ofNat_toNat c).symm⟩
    · rw [UInt8.toNat_ofNat']
      omega
    · have code : 64 * (64 * (64 * (c.toNat / 0x40000) + c.toNat / 0x1000 % 64) +
          c.toNat / 0x40 % 64) + c.toNat / 1 % 64 = c.toNat := by omega
      refine (follow_tail ?_ ?_).trans
        (follow_plain.trans (follow_plain.trans (congrArg (some ·, later) code)))
      · dsimp only
        split <;> simp only [UInt8.reduceToNat] <;> omega
      · dsimp only
        split <;> simp only [UInt8.reduceToNat] <;> omega

/-- A character is read from its own bytes and from no others. -/
theorem first_eq_some_iff : first b rest = (some c, later) ↔ b :: rest = encodeChar c ++ later :=
  ⟨encodeChar_of_first, first_of_encodeChar⟩

theorem encodeChar_ne_nil (c : Char) : encodeChar c ≠ [] := by
  rw [encodeChar]
  split
  · simp
  split
  · simp
  split <;> simp

theorem encode_cons (c : Char) (text : List Char) :
    encode (c :: text) = encodeChar c ++ encode text := List.flatMap_cons

theorem decode?_encode (text : List Char) : decode? (encode text) = some text := by
  induction text with
  | nil => rw [encode, List.flatMap_nil, decode?]
  | cons c text ih =>
    obtain ⟨b, more, bytes⟩ := List.exists_cons_of_ne_nil (encodeChar_ne_nil c)
    have read : first b (more ++ encode text) = (some c, encode text) :=
      first_eq_some_iff.2 (by rw [bytes, List.cons_append])
    rw [encode_cons, bytes, List.cons_append, decode?, read]
    simp only [ih, Option.map_some]

theorem encode_of_decode? {text : List Char} (h : decode? bytes = some text) :
    encode text = bytes := by
  fun_induction decode? bytes generalizing text with
  | case1 =>
    cases h
    rfl
  | case2 b rest c read ih =>
    obtain ⟨text, tail, rfl⟩ := Option.map_eq_some_iff.1 h
    have whole : b :: rest = encodeChar c ++ (first b rest).2 :=
      first_eq_some_iff.1 (Prod.ext read rfl)
    rw [encode_cons, ih tail, whole]
  | case3 => cases h

/-- A text has one written form. -/
theorem decode?_eq_some_iff {text : List Char} : decode? bytes = some text ↔ bytes = encode text :=
  ⟨fun h => (encode_of_decode? h).symm, fun h => h ▸ decode?_encode text⟩

theorem encode_injective {text text' : List Char} (h : encode text = encode text') :
    text = text' := by
  have same := congrArg decode? h
  rw [decode?_encode, decode?_encode] at same
  exact Option.some.inj same

end

end Tandem.Text.Utf8
