import Tandem.Diff.Compaction

/-!
The course of a script along two sequences.

* `Leads old new i j es i' j'`: the edits `es` lead from the places `i` and `j` to `i'` and `j'`.
  Each takes the next items of the sides that it touches, and kept items are equal. The place that an
  edit records on the side that it leaves alone does not count.
* `leads_append`: courses join and part.
* `script_leads`: the script between two sequences leads along all of both.
-/

namespace Tandem.Diff

section
variable {α : Type}

/-- The `n` items from `i` on the one side are the `n` items from `j` on the other. -/
def Agree (old new : List α) (i j n : Nat) : Prop :=
  ∀ k < n, old[i + k]? = new[j + k]?

/-- A sequence is part of another one, from `i` on. -/
def Sits (whole : List α) (i : Nat) (part : List α) : Prop :=
  ∀ k < part.length, whole[i + k]? = part[k]?

/-- An edit takes items, and from no other place than the next one. -/
def Edit.Stands (old new : List α) (i j : Nat) : Edit → Prop
  | .keep o m n => o = i ∧ m = j ∧ 0 < n ∧ Agree old new i j n
  | .delete o n _ => o = i ∧ 0 < n
  | .insert _ m n => m = j ∧ 0 < n
  | .replace o n m n' => o = i ∧ m = j ∧ 0 < n ∧ 0 < n'

/-- The edits lead from the places `i` and `j` to `i'` and `j'`. -/
def Leads (old new : List α) (i j : Nat) : List Edit → Nat → Nat → Prop
  | [], i', j' => i = i' ∧ j = j'
  | e :: es, i', j' =>
    e.Stands old new i j ∧ Leads old new (i + e.oldSpan.length) (j + e.newSpan.length) es i' j'

@[simp] theorem length_oldSpan_keep (o m n : Nat) : (Edit.keep o m n).oldSpan.length = n := by
  simp [Edit.oldSpan, Span.length]

@[simp] theorem length_newSpan_keep (o m n : Nat) : (Edit.keep o m n).newSpan.length = n := by
  simp [Edit.newSpan, Span.length]

@[simp] theorem length_oldSpan_delete (o n m : Nat) : (Edit.delete o n m).oldSpan.length = n := by
  simp [Edit.oldSpan, Span.length]

@[simp] theorem length_newSpan_delete (o n m : Nat) : (Edit.delete o n m).newSpan.length = 0 := by
  simp [Edit.newSpan, Span.length]

@[simp] theorem length_oldSpan_insert (o m n : Nat) : (Edit.insert o m n).oldSpan.length = 0 := by
  simp [Edit.oldSpan, Span.length]

@[simp] theorem length_newSpan_insert (o m n : Nat) : (Edit.insert o m n).newSpan.length = n := by
  simp [Edit.newSpan, Span.length]

@[simp] theorem length_oldSpan_replace (o n m n' : Nat) :
    (Edit.replace o n m n').oldSpan.length = n := by
  simp [Edit.oldSpan, Span.length]

@[simp] theorem length_newSpan_replace (o n m n' : Nat) :
    (Edit.replace o n m n').newSpan.length = n' := by
  simp [Edit.newSpan, Span.length]

variable {old new : List α}

theorem agree_add {i j n k : Nat} (h : Agree old new i j n) (h' : Agree old new (i + n) (j + n) k) :
    Agree old new i j (n + k) := by
  intro t ht
  by_cases hn : t < n
  · exact h t hn
  · have later := h' (t - n) (by omega)
    rwa [show i + n + (t - n) = i + t by omega, show j + n + (t - n) = j + t by omega] at later

theorem agree_take {i j n k : Nat} (h : Agree old new i j n) (hk : k ≤ n) : Agree old new i j k :=
  fun t ht => h t (by omega)

theorem agree_drop {i j n k : Nat} (h : Agree old new i j n) (hk : k ≤ n) :
    Agree old new (i + k) (j + k) (n - k) := by
  intro t ht
  have later := h (k + t) (by omega)
  rwa [← Nat.add_assoc, ← Nat.add_assoc] at later

theorem sits_append {whole xs ys : List α} {i : Nat} :
    Sits whole i (xs ++ ys) ↔ Sits whole i xs ∧ Sits whole (i + xs.length) ys := by
  constructor
  · intro h
    constructor
    · intro k hk
      rw [h k (by simp; omega), List.getElem?_append_left hk]
    · intro k hk
      rw [Nat.add_assoc, h (xs.length + k) (by simp; omega),
        List.getElem?_append_right (by omega), Nat.add_sub_cancel_left]
  · rintro ⟨hx, hy⟩ k hk
    by_cases inside : k < xs.length
    · rw [hx k inside, List.getElem?_append_left inside]
    · have later := hy (k - xs.length) (by simp at hk; omega)
      rw [show i + xs.length + (k - xs.length) = i + k by omega] at later
      rw [later, List.getElem?_append_right (by omega)]

theorem sits_self (whole : List α) : Sits whole 0 whole := by
  intro k _
  rw [Nat.zero_add]

theorem agree_of_sits {part : List α} {i j : Nat} (h : Sits old i part) (h' : Sits new j part) :
    Agree old new i j part.length :=
  fun k hk => (h k hk).trans (h' k hk).symm

theorem leads_append {i j i' j' : Nat} {es fs : List Edit} :
    Leads old new i j (es ++ fs) i' j' ↔
      ∃ x y, Leads old new i j es x y ∧ Leads old new x y fs i' j' := by
  induction es generalizing i j with
  | nil =>
    constructor
    · exact fun h => ⟨i, j, ⟨rfl, rfl⟩, h⟩
    · rintro ⟨x, y, ⟨rfl, rfl⟩, h⟩
      exact h
  | cons e es ih =>
    simp only [List.cons_append, Leads, ih]
    constructor
    · rintro ⟨stands, x, y, h, h'⟩
      exact ⟨x, y, ⟨stands, h⟩, h'⟩
    · rintro ⟨x, y, ⟨stands, h⟩, h'⟩
      exact ⟨stands, x, y, h, h'⟩

theorem leads_le {i j i' j' : Nat} {es : List Edit} (h : Leads old new i j es i' j') :
    i ≤ i' ∧ j ≤ j' := by
  induction es generalizing i j with
  | nil => exact ⟨Nat.le_of_eq h.1, Nat.le_of_eq h.2⟩
  | cons e es ih =>
    have rest := ih h.2
    omega

theorem keepRun_leads {i j n : Nat} (h : Agree old new i j n) :
    Leads old new i j (keepRun i j n) (i + n) (j + n) := by
  by_cases hn : n = 0
  · simp [keepRun, hn, Leads]
  · simp [keepRun, hn, Leads, Edit.Stands, h, Nat.pos_of_ne_zero hn]

end

section
variable {α : Type} [DecidableEq α] {old new : List α}

/-- Two sequences are their middles between a common front and a common back. -/
theorem Middle.of_eq (as bs : List α) :
    ∃ front back, front.length = (Middle.of as bs).before ∧ back.length = (Middle.of as bs).after ∧
      as = front ++ (Middle.of as bs).old ++ back ∧
      bs = front ++ (Middle.of as bs).new ++ back := by
  let before := commonLength as bs
  let after := commonLength (as.drop before).reverse (bs.drop before).reverse
  have fits := commonLength_le_left (as.drop before).reverse (bs.drop before).reverse
  have front : as.take before = bs.take before := take_commonLength as bs
  have back := take_commonLength (as.drop before).reverse (bs.drop before).reverse
  change List.take after _ = List.take after _ at back
  rw [List.take_reverse, List.take_reverse, List.reverse_inj] at back
  refine ⟨as.take before, (as.drop before).drop ((as.drop before).length - after), ?_, ?_, ?_, ?_⟩
  · exact List.length_take_of_le (commonLength_le_left as bs)
  · have fits' : after ≤ (as.drop before).length := by simpa [after] using fits
    rw [List.length_drop, Nat.sub_sub_self fits']
    rfl
  · rw [List.append_assoc]
    change as = _ ++ ((as.drop before).take ((as.drop before).length - after) ++ _)
    rw [List.take_append_drop, List.take_append_drop]
  · rw [front, back, List.append_assoc]
    change bs = _ ++ ((bs.drop before).take ((bs.drop before).length - after) ++ _)
    rw [List.take_append_drop, List.take_append_drop]

/-- The script between two sequences leads along all of both. -/
theorem script_leads (as bs : List α) (i j : Nat) (hold : Sits old i as) (hnew : Sits new j bs) :
    Leads old new i j (script as bs i j) (i + as.length) (j + bs.length) := by
  fun_induction script as bs i j with
  | case1 as bs i j m i' j' ih₁ ih₂ =>
    obtain ⟨front, back, hfront, hback, has, hbs⟩ := Middle.of_eq as bs
    change as = front ++ m.old ++ back at has
    change bs = front ++ m.new ++ back at hbs
    change front.length = m.before at hfront
    change back.length = m.after at hback
    rw [has, sits_append, sits_append, List.length_append, hfront] at hold
    rw [hbs, sits_append, sits_append, List.length_append, hfront] at hnew
    obtain ⟨⟨oldFront, oldMiddle⟩, oldBack⟩ := hold
    obtain ⟨⟨newFront, newMiddle⟩, newBack⟩ := hnew
    have before : Leads old new i j (keepRun i j m.before) i' j' :=
      keepRun_leads (hfront ▸ agree_of_sits oldFront newFront)
    have after : Leads old new (i' + m.old.length) (j' + m.new.length)
        (keepRun (i' + m.old.length) (j' + m.new.length) m.after)
        (i + as.length) (j + bs.length) := by
      have kept := keepRun_leads (agree_of_sits oldBack newBack)
      have lengths : i + as.length = i + (m.before + m.old.length) + back.length ∧
          j + bs.length = j + (m.before + m.new.length) + back.length := by
        rw [has, hbs]
        simp only [List.length_append]
        omega
      rwa [← lengths.1, ← lengths.2, hback, ← Nat.add_assoc, ← Nat.add_assoc] at kept
    refine leads_append.2 ⟨_, _, leads_append.2 ⟨_, _, before, ?_⟩, after⟩
    split
    · rename_i none
      simp [none, Leads]
    · split
      · rename_i some none
        have pos : 0 < m.old.length := List.length_pos_iff.2 fun h => some ⟨h, none⟩
        simp [none, Leads, Edit.Stands, pos]
      · rename_i someNew
        have posNew : 0 < m.new.length := List.length_pos_iff.2 someNew
        split
        · rename_i none
          simp [none, Leads, Edit.Stands, posNew]
        · rename_i someOld
          have posOld : 0 < m.old.length := List.length_pos_iff.2 someOld
          split
          · rename_i x y met
            have proper := properSplit?_some met
            have oldLength : (m.old.take x).length = x := List.length_take_of_le proper.1
            have newLength : (m.new.take y).length = y := List.length_take_of_le proper.2.1
            rw [← List.take_append_drop x m.old, sits_append, oldLength] at oldMiddle
            rw [← List.take_append_drop y m.new, sits_append, newLength] at newMiddle
            have front := ih₁ x y met oldMiddle.1 newMiddle.1
            have back := ih₂ x y met oldMiddle.2 newMiddle.2
            rw [oldLength, newLength] at front
            have ends : i' + x + (m.old.drop x).length = i' + m.old.length ∧
                j' + y + (m.new.drop y).length = j' + m.new.length := by
              simp only [List.length_drop]
              omega
            rw [ends.1, ends.2] at back
            exact leads_append.2 ⟨_, _, front, back⟩
          · simp [Leads, Edit.Stands, posNew, posOld]

end

end Tandem.Diff
