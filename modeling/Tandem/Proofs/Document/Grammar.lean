import Tandem.Document.Tree

/-!
Trees and the tokens that they are read from.

* `Tree.symbols`: the tokens of a tree, in order.
* `parse_symbols`: the tokens of a tree without a flaw are read as this tree.
* `parseTree_sound`: a tree without a flaw has been read from its tokens.
* `parseTree_honest`: no tree means anything that its tokens do not mean.
-/

namespace Tandem.Document

/-- What stands in front of a part. -/
def Place.lead : Place → List Token
  | .opening => []
  | .following => [.comma]

mutual

/-- The tokens of a tree, as far as there are any. -/
def Tree.symbols : Tree → List Token
  | .missing _ => []
  | .atom meaning passing => [.atom meaning passing]
  | .text meaning passing => [.text meaning passing]
  | .list items => .listOpen :: items.symbols .opening
  | .record members => .recordOpen :: members.symbols .opening

def Items.symbols (place : Place) : Items → List Token
  | .closed => [.listClose]
  | .cons head tail => place.lead ++ (head.symbols ++ tail.symbols .following)
  | .cut .. => []

def Members.symbols (place : Place) : Members → List Token
  | .closed => [.recordClose]
  | .cons name passing value tail =>
    place.lead ++ (.text name passing :: .colon :: (value.symbols ++ tail.symbols .following))
  | .cut .. => []
  | .nameless value => value.symbols

end

section
variable {fuel : Nat} {place : Place} {ts rest after : List Token} {t : Tree} {items : Items}
  {members : Members}

theorem passing_cons_item {head : Tree} {tail : Items} :
    (Items.cons head tail).passing = none ↔ head.passing = none ∧ tail.passing = none := by
  rw [Items.passing, Option.or_eq_none_iff]

theorem passing_cons_member {name : Except Flaw String} {passing : Option Flaw} {value : Tree}
    {tail : Members} : (Members.cons name passing value tail).passing = none ↔
      passing = none ∧ value.passing = none ∧ tail.passing = none := by
  rw [Members.passing, Option.or_eq_none_iff, Option.or_eq_none_iff, and_assoc]

/-! ## From tokens to trees -/

/-- A value begins with a token that does not end a list. -/
theorem Tree.symbols_begin (whole : t.passing = none) :
    ∃ first more, t.symbols = first :: more ∧ first ≠ .listClose := by
  cases t with
  | missing flaw => cases whole
  | atom meaning passing => exact ⟨.atom meaning passing, [], by rw [symbols], nofun⟩
  | text meaning passing => exact ⟨.text meaning passing, [], by rw [symbols], nofun⟩
  | list items => exact ⟨.listOpen, _, by rw [symbols], nofun⟩
  | record members => exact ⟨.recordOpen, _, by rw [symbols], nofun⟩

theorem parseItems_closed (enough : 0 < fuel) :
    parseItems place fuel (.listClose :: rest) = (.closed, rest) := by
  rw [parseItems]
  omega

theorem parseMembers_closed (enough : 0 < fuel) :
    parseMembers place fuel (.recordClose :: rest) = (.closed, rest) := by
  rw [parseMembers]
  omega

/-- An item, the first of its list or not, and those behind it. -/
theorem parseItems_cons (whole : t.passing = none)
    (first : parseTree fuel (t.symbols ++ after) = (t, after))
    (others : parseItems .following fuel after = (items, rest)) :
    parseItems place (fuel + 1) (place.lead ++ (t.symbols ++ after)) = (.cons t items, rest) := by
  obtain ⟨token, more, begins, other⟩ := t.symbols_begin whole
  have filled : t.symbols ++ after ≠ [] := by simp [begins]
  have goesOn (tail : List Token) : t.symbols ++ after ≠ .listClose :: tail := by
    intro same
    rw [begins] at same
    exact other (List.cons.inj same).1
  cases place with
  | opening =>
    rw [Place.lead, List.nil_append, parseItems, first]
    · dsimp only
      rw [others]
    · exact filled
    · exact goesOn
  | following =>
    rw [Place.lead, List.singleton_append, parseItems, first]
    · dsimp only
      rw [others]
    · exact filled
    · exact goesOn

/-- A field, the first of its record or not, and those behind it. -/
theorem parseMembers_cons {name : Except Flaw String} {passing : Option Flaw}
    (first : parseTree fuel (t.symbols ++ after) = (t, after))
    (others : parseMembers .following (fuel + 1) after = (members, rest)) :
    parseMembers place (fuel + 2)
        (place.lead ++ (.text name passing :: .colon :: (t.symbols ++ after))) =
      (.cons name passing t members, rest) := by
  cases place with
  | opening =>
    rw [Place.lead, List.nil_append, parseMembers, parseField, first]
    dsimp only
    rw [others]
  | following =>
    rw [Place.lead, List.singleton_append, parseMembers, parseField, first]
    dsimp only
    rw [others]

mutual

/-- The tokens of a tree without a flaw are read as this tree. -/
theorem parse_symbols (t : Tree) (fuel : Nat) (rest : List Token) (whole : t.passing = none)
    (enough : 2 * (t.symbols ++ rest).length ≤ fuel) :
    parseTree fuel (t.symbols ++ rest) = (t, rest) := by
  -- An item takes one unit of fuel and a field takes two, with two tokens or more for either.
  match t, fuel with
  | .missing _, _ => cases whole
  | .atom .., fuel + 1 => rfl
  | .text .., fuel + 1 => rfl
  | .list items, fuel + 1 =>
    simp only [Tree.symbols, List.cons_append, List.length_cons] at enough ⊢
    rw [parseTree, parse_itemSymbols items .opening fuel rest whole (by omega)]
  | .record members, fuel + 1 =>
    simp only [Tree.symbols, List.cons_append, List.length_cons] at enough ⊢
    rw [parseTree, parse_memberSymbols members .opening fuel rest whole (by omega)]

theorem parse_itemSymbols (items : Items) (place : Place) (fuel : Nat) (rest : List Token)
    (whole : items.passing = none) (enough : 2 * (items.symbols place ++ rest).length < fuel) :
    parseItems place fuel (items.symbols place ++ rest) = (items, rest) := by
  match items, fuel with
  | .closed, fuel => exact parseItems_closed (by omega)
  | .cut .., _ => cases whole
  | .cons head tail, fuel + 1 =>
    obtain ⟨wholeHead, wholeTail⟩ := passing_cons_item.1 whole
    obtain ⟨token, more, begins, -⟩ := head.symbols_begin wholeHead
    have filled : 0 < head.symbols.length := by simp [begins]
    simp only [Items.symbols, List.append_assoc, List.length_append] at enough ⊢
    refine parseItems_cons wholeHead ?_ ?_
    · exact parse_symbols head fuel _ wholeHead (by simp only [List.length_append]; omega)
    · exact parse_itemSymbols tail .following fuel rest wholeTail
        (by simp only [List.length_append]; omega)

theorem parse_memberSymbols (members : Members) (place : Place) (fuel : Nat) (rest : List Token)
    (whole : members.passing = none) (enough : 2 * (members.symbols place ++ rest).length < fuel) :
    parseMembers place fuel (members.symbols place ++ rest) = (members, rest) := by
  match members, fuel with
  | .closed, fuel => exact parseMembers_closed (by omega)
  | .cut .., _ => cases whole
  | .nameless _, _ => cases whole
  | .cons name passing value tail, fuel + 2 =>
    obtain ⟨-, wholeValue, wholeTail⟩ := passing_cons_member.1 whole
    simp only [Members.symbols, List.append_assoc, List.cons_append, List.length_append,
      List.length_cons] at enough ⊢
    refine parseMembers_cons ?_ ?_
    · exact parse_symbols value fuel _ wholeValue (by simp only [List.length_append]; omega)
    · exact parse_memberSymbols tail .following (fuel + 1) rest wholeTail
        (by simp only [List.length_append]; omega)
  | .cons .., 1 =>
    simp only [Members.symbols, List.length_append, List.length_cons] at enough
    omega

end

theorem Tree.ofText_of_tokens {text : List Char} (whole : t.passing = none)
    (h : tokens text = t.symbols) : Tree.ofText text = (t, []) := by
  have read := parse_symbols t (2 * t.symbols.length + 1) [] whole (by simp)
  rw [List.append_nil] at read
  rw [ofText, h, read]

/-! ## From trees to tokens -/

theorem items_read (place : Place) (head : ts = t.symbols ++ after)
    (tail : after = items.symbols .following ++ rest) :
    place.lead ++ ts = (Items.cons t items).symbols place ++ rest := by
  rw [head, tail, Items.symbols, List.append_assoc, List.append_assoc]

theorem members_read (place : Place) {name : Except Flaw String} {passing : Option Flaw}
    (value : ts = .colon :: (t.symbols ++ after))
    (tail : after = members.symbols .following ++ rest) :
    place.lead ++ (.text name passing :: ts) =
      (Members.cons name passing t members).symbols place ++ rest := by
  rw [value, tail, Members.symbols, List.append_assoc, List.cons_append, List.cons_append,
    List.append_assoc]

mutual

/-- A tree without a flaw has been read from its tokens. -/
theorem parseTree_sound (fuel : Nat) {ts rest : List Token} {t : Tree}
    (h : parseTree fuel ts = (t, rest)) (whole : t.passing = none) : ts = t.symbols ++ rest := by
  unfold parseTree at h
  split at h
  · obtain ⟨rfl, rfl⟩ := Prod.mk.inj h
    cases whole
  · obtain ⟨rfl, rfl⟩ := Prod.mk.inj h
    cases whole
  · split at h
    · obtain ⟨rfl, rfl⟩ := Prod.mk.inj h
      rfl
    · obtain ⟨rfl, rfl⟩ := Prod.mk.inj h
      rfl
    · obtain ⟨rfl, rfl⟩ := Prod.mk.inj h
      exact congrArg _ (parseItems_sound _ _ rfl whole)
    · obtain ⟨rfl, rfl⟩ := Prod.mk.inj h
      exact congrArg _ (parseMembers_sound _ _ rfl whole)
    · obtain ⟨rfl, rfl⟩ := Prod.mk.inj h
      cases whole

theorem parseItems_sound (place : Place) (fuel : Nat) {ts rest : List Token} {items : Items}
    (h : parseItems place fuel ts = (items, rest)) (whole : items.passing = none) :
    ts = items.symbols place ++ rest := by
  unfold parseItems at h
  split at h
  · obtain ⟨rfl, rfl⟩ := Prod.mk.inj h
    cases whole
  · obtain ⟨rfl, rfl⟩ := Prod.mk.inj h
    cases whole
  · obtain ⟨rfl, rfl⟩ := Prod.mk.inj h
    rfl
  · rename_i fuel _ _
    split at h
    · obtain ⟨rfl, rfl⟩ := Prod.mk.inj h
      obtain ⟨head, tail⟩ := passing_cons_item.1 whole
      exact items_read .opening (parseTree_sound fuel rfl head)
        (parseItems_sound .following fuel rfl tail)
    · obtain ⟨rfl, rfl⟩ := Prod.mk.inj h
      cases whole
    · obtain ⟨rfl, rfl⟩ := Prod.mk.inj h
      cases whole
    · obtain ⟨rfl, rfl⟩ := Prod.mk.inj h
      obtain ⟨head, tail⟩ := passing_cons_item.1 whole
      exact items_read .following (parseTree_sound fuel rfl head)
        (parseItems_sound .following fuel rfl tail)
    · obtain ⟨rfl, rfl⟩ := Prod.mk.inj h
      cases whole

theorem parseMembers_sound (place : Place) (fuel : Nat) {ts rest : List Token} {members : Members}
    (h : parseMembers place fuel ts = (members, rest)) (whole : members.passing = none) :
    ts = members.symbols place ++ rest := by
  unfold parseMembers at h
  split at h
  · obtain ⟨rfl, rfl⟩ := Prod.mk.inj h
    cases whole
  · obtain ⟨rfl, rfl⟩ := Prod.mk.inj h
    cases whole
  · obtain ⟨rfl, rfl⟩ := Prod.mk.inj h
    rfl
  · rename_i fuel _ _
    split at h
    · obtain ⟨rfl, rfl⟩ := Prod.mk.inj h
      obtain ⟨-, value, tail⟩ := passing_cons_member.1 whole
      exact members_read .opening (parseField_sound fuel rfl value)
        (parseMembers_sound .following fuel rfl tail)
    · obtain ⟨rfl, rfl⟩ := Prod.mk.inj h
      cases whole
    · obtain ⟨rfl, rfl⟩ := Prod.mk.inj h
      cases whole
    · obtain ⟨rfl, rfl⟩ := Prod.mk.inj h
      obtain ⟨-, value, tail⟩ := passing_cons_member.1 whole
      exact members_read .following (parseField_sound fuel rfl value)
        (parseMembers_sound .following fuel rfl tail)
    · obtain ⟨rfl, rfl⟩ := Prod.mk.inj h
      cases whole

theorem parseField_sound (fuel : Nat) {ts rest : List Token} {t : Tree}
    (h : parseField fuel ts = (t, rest)) (whole : t.passing = none) :
    ts = .colon :: (t.symbols ++ rest) := by
  unfold parseField at h
  split at h
  · rw [parseTree_sound _ h whole]
  · obtain ⟨rfl, rfl⟩ := Prod.mk.inj h
    cases whole
  · obtain ⟨rfl, rfl⟩ := Prod.mk.inj h
    cases whole

end

/-! ## Trees of any tokens -/

/-- A token that can be gone past. -/
def Token.Passes : Token → Prop
  | .atom _ passing => passing = none
  | .text _ passing => passing = none
  | .stray => False
  | _ => True

theorem Place.lead_pass (place : Place) : ∀ token ∈ place.lead, token.Passes := by
  cases place <;> simp [lead, Token.Passes]

mutual

theorem Tree.symbols_pass (t : Tree) (whole : t.passing = none) :
    ∀ token ∈ t.symbols, token.Passes := by
  match t with
  | .missing _ => cases whole
  | .atom meaning passing => exact List.forall_mem_singleton.2 whole
  | .text meaning passing => exact List.forall_mem_singleton.2 whole
  | .list items => exact List.forall_mem_cons.2 ⟨trivial, items.symbols_pass .opening whole⟩
  | .record members => exact List.forall_mem_cons.2 ⟨trivial, members.symbols_pass .opening whole⟩

theorem Items.symbols_pass (items : Items) (place : Place) (whole : items.passing = none) :
    ∀ token ∈ items.symbols place, token.Passes := by
  match items with
  | .closed => exact List.forall_mem_singleton.2 trivial
  | .cut .. => cases whole
  | .cons head tail =>
    obtain ⟨wholeHead, wholeTail⟩ := passing_cons_item.1 whole
    refine List.forall_mem_append.2 ⟨place.lead_pass, List.forall_mem_append.2 ⟨?_, ?_⟩⟩
    · exact head.symbols_pass wholeHead
    · exact tail.symbols_pass .following wholeTail

theorem Members.symbols_pass (members : Members) (place : Place) (whole : members.passing = none) :
    ∀ token ∈ members.symbols place, token.Passes := by
  match members with
  | .closed => exact List.forall_mem_singleton.2 trivial
  | .cut .. => cases whole
  | .nameless _ => cases whole
  | .cons name passing value tail =>
    obtain ⟨wholeName, wholeValue, wholeTail⟩ := passing_cons_member.1 whole
    refine List.forall_mem_append.2 ⟨place.lead_pass, List.forall_mem_cons.2 ⟨wholeName,
      List.forall_mem_cons.2 ⟨trivial, List.forall_mem_append.2 ⟨?_, ?_⟩⟩⟩⟩
    · exact value.symbols_pass wholeValue
    · exact tail.symbols_pass .following wholeTail

end

/-- A token that can be gone past wherever it means something. -/
def Token.Honest : Token → Prop
  | .atom meaning passing => ∀ a, meaning = .ok a → passing = none
  | .text meaning passing => ∀ s, meaning = .ok s → passing = none
  | _ => True

/-- A tree of tokens that can be gone past wherever they mean something. -/
def Tree.Honest (t : Tree) : Prop := ∀ token ∈ t.symbols, token.Honest

def Items.Honest (items : Items) : Prop := ∀ token ∈ items.symbols .following, token.Honest

def Members.Honest (members : Members) : Prop :=
  ∀ token ∈ members.symbols .following, token.Honest

theorem honest_lead (place : Place) : ∀ token ∈ place.lead, token.Honest := by
  cases place <;> simp [Place.lead, Token.Honest]

theorem honest_items (place : Place) :
    (∀ token ∈ items.symbols place, token.Honest) ↔ items.Honest := by
  cases place with
  | following => rfl
  | opening =>
    rw [Items.Honest]
    cases items <;> simp [Items.symbols, Place.lead, Token.Honest]

theorem honest_members (place : Place) :
    (∀ token ∈ members.symbols place, token.Honest) ↔ members.Honest := by
  cases place with
  | following => rfl
  | opening =>
    rw [Members.Honest]
    cases members <;> simp [Members.symbols, Place.lead, Token.Honest]

@[simp] theorem honest_missing {flaw : Flaw} : (Tree.missing flaw).Honest := by
  simp [Tree.Honest, Tree.symbols]

@[simp] theorem honest_list : (Tree.list items).Honest ↔ items.Honest := by
  rw [Tree.Honest, Tree.symbols, List.forall_mem_cons, honest_items]
  exact and_iff_right trivial

@[simp] theorem honest_record : (Tree.record members).Honest ↔ members.Honest := by
  rw [Tree.Honest, Tree.symbols, List.forall_mem_cons, honest_members]
  exact and_iff_right trivial

@[simp] theorem honest_cons_item {head : Tree} {tail : Items} :
    (Items.cons head tail).Honest ↔ head.Honest ∧ tail.Honest := by
  rw [Items.Honest, Items.symbols, List.forall_mem_append, List.forall_mem_append,
    and_iff_right (honest_lead _)]
  rfl

@[simp] theorem honest_cons_member {name : Except Flaw String} {passing : Option Flaw}
    {value : Tree} {tail : Members} : (Members.cons name passing value tail).Honest ↔
      (Token.text name passing).Honest ∧ value.Honest ∧ tail.Honest := by
  rw [Members.Honest, Members.symbols, List.forall_mem_append, List.forall_mem_cons,
    List.forall_mem_cons, List.forall_mem_append, and_iff_right (honest_lead _)]
  exact and_congr_right fun _ => and_iff_right trivial

mutual

/-- No tree means anything that its tokens do not mean. -/
theorem parseTree_honest (fuel : Nat) {ts : List Token} (h : ∀ token ∈ ts, token.Honest) :
    (parseTree fuel ts).1.Honest ∧ ∀ token ∈ (parseTree fuel ts).2, token.Honest := by
  unfold parseTree
  split
  · simp
  · simp
  · rename_i fuel token rest
    obtain ⟨first, others⟩ := List.forall_mem_cons.1 h
    split
    · exact ⟨by simpa [Tree.Honest, Tree.symbols] using first, others⟩
    · exact ⟨by simpa [Tree.Honest, Tree.symbols] using first, others⟩
    · obtain ⟨inside, after⟩ := parseItems_honest .opening fuel others
      exact ⟨honest_list.2 inside, after⟩
    · obtain ⟨inside, after⟩ := parseMembers_honest .opening fuel others
      exact ⟨honest_record.2 inside, after⟩
    · simp

theorem parseItems_honest (place : Place) (fuel : Nat) {ts : List Token}
    (h : ∀ token ∈ ts, token.Honest) :
    (parseItems place fuel ts).1.Honest ∧ ∀ token ∈ (parseItems place fuel ts).2, token.Honest := by
  unfold parseItems
  split
  · simp [Items.Honest, Items.symbols]
  · simp [Items.Honest, Items.symbols]
  · exact ⟨by simp [Items.Honest, Items.symbols, Token.Honest], (List.forall_mem_cons.1 h).2⟩
  · rename_i fuel _ _
    split
    · obtain ⟨head, after⟩ := parseTree_honest fuel h
      obtain ⟨tail, rest⟩ := parseItems_honest .following fuel after
      exact ⟨honest_cons_item.2 ⟨head, tail⟩, rest⟩
    · simp [Items.Honest, Items.symbols]
    · simp [Items.Honest, Items.symbols]
    · obtain ⟨head, after⟩ := parseTree_honest fuel (List.forall_mem_cons.1 h).2
      obtain ⟨tail, rest⟩ := parseItems_honest .following fuel after
      exact ⟨honest_cons_item.2 ⟨head, tail⟩, rest⟩
    · simp [Items.Honest, Items.symbols]

theorem parseMembers_honest (place : Place) (fuel : Nat) {ts : List Token}
    (h : ∀ token ∈ ts, token.Honest) :
    (parseMembers place fuel ts).1.Honest ∧
      ∀ token ∈ (parseMembers place fuel ts).2, token.Honest := by
  unfold parseMembers
  split
  · simp [Members.Honest, Members.symbols]
  · simp [Members.Honest, Members.symbols]
  · exact ⟨by simp [Members.Honest, Members.symbols, Token.Honest], (List.forall_mem_cons.1 h).2⟩
  · rename_i fuel _ _
    split
    · obtain ⟨name, others⟩ := List.forall_mem_cons.1 h
      obtain ⟨value, after⟩ := parseField_honest fuel others
      obtain ⟨tail, rest⟩ := parseMembers_honest .following fuel after
      exact ⟨honest_cons_member.2 ⟨name, value, tail⟩, rest⟩
    · exact ⟨(parseTree_honest fuel h).1, by simp⟩
    · simp [Members.Honest, Members.symbols]
    · obtain ⟨name, others⟩ := List.forall_mem_cons.1 (List.forall_mem_cons.1 h).2
      obtain ⟨value, after⟩ := parseField_honest fuel others
      obtain ⟨tail, rest⟩ := parseMembers_honest .following fuel after
      exact ⟨honest_cons_member.2 ⟨name, value, tail⟩, rest⟩
    · simp [Members.Honest, Members.symbols]

theorem parseField_honest (fuel : Nat) {ts : List Token} (h : ∀ token ∈ ts, token.Honest) :
    (parseField fuel ts).1.Honest ∧ ∀ token ∈ (parseField fuel ts).2, token.Honest := by
  unfold parseField
  split
  · exact parseTree_honest _ (List.forall_mem_cons.1 h).2
  · simp
  · simp

end

end

end Tandem.Document
