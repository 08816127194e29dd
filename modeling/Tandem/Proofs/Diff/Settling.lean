import Tandem.Proofs.Diff.Course

/-!
Moving edits does not change where a script leads.

* `slideUp_leads`, `slideDown_leads`: a slide merges, swaps and shifts edits, and each of these leads
  from the same places to the same places as before.
* `join_leads`: so does joining neighbours.
* `edits_leads`: the edits between two sequences in their final form lead along all of both.
-/

namespace Tandem.Diff

section
variable {α : Type} {old new : List α}

/-- The script that a cursor takes apart. -/
def Cursor.script (c : Cursor) : List Edit := c.before.reverse ++ c.edit :: c.after

theorem leads_after {i j i' j' : Nat} {front es fs : List Edit}
    (same : ∀ x y, Leads old new x y es i' j' → Leads old new x y fs i' j')
    (h : Leads old new i j (front ++ es) i' j') : Leads old new i j (front ++ fs) i' j' := by
  obtain ⟨x, y, hfront, hes⟩ := leads_append.1 h
  exact leads_append.2 ⟨x, y, hfront, same x y hes⟩

theorem reverse_keepRun (o m n : Nat) : (keepRun o m n).reverse = keepRun o m n := by
  by_cases h : n = 0 <;> simp [keepRun, h]

theorem merge_inserts_leads {i j i' j' o m k o' m' k' : Nat} {rest : List Edit}
    (h : Leads old new i j (.insert o m k :: .insert o' m' k' :: rest) i' j') :
    Leads old new i j (.insert o m (k + k') :: rest) i' j' := by
  obtain ⟨⟨rfl, pos⟩, ⟨-, -⟩, h⟩ := h
  refine ⟨⟨rfl, by omega⟩, ?_⟩
  simpa [Nat.add_assoc] using h

theorem merge_deletes_leads {i j i' j' o m k o' m' k' : Nat} {rest : List Edit}
    (h : Leads old new i j (.delete o k m :: .delete o' k' m' :: rest) i' j') :
    Leads old new i j (.delete o (k + k') m :: rest) i' j' := by
  obtain ⟨⟨rfl, pos⟩, ⟨-, -⟩, h⟩ := h
  refine ⟨⟨rfl, by omega⟩, ?_⟩
  simpa [Nat.add_assoc] using h

theorem insert_first_leads {i j i' j' o m k o' m' k' : Nat} {rest : List Edit}
    (h : Leads old new i j (.delete o k m :: .insert o' m' k' :: rest) i' j') :
    Leads old new i j (.insert o' m' k' :: .delete o k m :: rest) i' j' := by
  simpa [Leads, Edit.Stands, and_assoc, and_comm, and_left_comm] using h

theorem delete_first_leads {i j i' j' o m k o' m' k' : Nat} {rest : List Edit}
    (h : Leads old new i j (.insert o' m' k' :: .delete o k m :: rest) i' j') :
    Leads old new i j (.delete o k m :: .insert o' m' k' :: rest) i' j' := by
  simpa [Leads, Edit.Stands, and_assoc, and_comm, and_left_comm] using h

theorem regrowAfter_leads {x y s i' j' : Nat} {after : List Edit} (hs : 0 < s) (hx : s ≤ x)
    (hy : s ≤ y) (same : Agree old new (x - s) (y - s) s) (h : Leads old new x y after i' j') :
    Leads old new (x - s) (y - s) (regrowAfter x y s after) i' j' := by
  have grown : Leads old new (x - s) (y - s) (.keep (x - s) (y - s) s :: after) i' j' := by
    refine ⟨⟨rfl, rfl, hs, same⟩, ?_⟩
    rw [length_oldSpan_keep, length_newSpan_keep, Nat.sub_add_cancel hx, Nat.sub_add_cancel hy]
    exact h
  match after, h with
  | .keep o m k :: rest, ⟨⟨ho, hm, pos, kept⟩, h⟩ =>
    subst ho hm
    rw [← Nat.sub_add_cancel hx, ← Nat.sub_add_cancel hy] at kept
    refine ⟨⟨rfl, rfl, by omega, Nat.add_comm k s ▸ agree_add same (by simpa using kept)⟩, ?_⟩
    simp only [length_oldSpan_keep, length_newSpan_keep] at h ⊢
    rwa [show o - s + (k + s) = o + k by omega, show m - s + (k + s) = m + k by omega]
  | [], _ => exact grown
  | .delete .. :: _, _ => exact grown
  | .insert .. :: _, _ => exact grown
  | .replace .. :: _, _ => exact grown

theorem regrowBefore_leads {i j x y s : Nat} {before : List Edit} (hs : 0 < s)
    (same : Agree old new x y s) (h : Leads old new i j before.reverse x y) :
    Leads old new i j (regrowBefore x y s before).reverse (x + s) (y + s) := by
  have grown : Leads old new i j (.keep x y s :: before).reverse (x + s) (y + s) := by
    rw [List.reverse_cons]
    exact leads_append.2 ⟨x, y, h, ⟨rfl, rfl, hs, same⟩, by simp, by simp⟩
  match before, h with
  | .keep o m k :: rest, h =>
    rw [List.reverse_cons] at h
    obtain ⟨a, b, front, ⟨ho, hm, pos, kept⟩, hx, hy⟩ := leads_append.1 h
    simp only [length_oldSpan_keep, length_newSpan_keep] at hx hy
    subst ho hm hx hy
    rw [regrowBefore, List.reverse_cons]
    refine leads_append.2 ⟨o, m, front, ⟨rfl, rfl, by omega, agree_add kept same⟩, ?_⟩
    simp [Leads, Nat.add_assoc]
  | [], _ => exact grown
  | .delete .. :: _, _ => exact grown
  | .insert .. :: _, _ => exact grown
  | .replace .. :: _, _ => exact grown

/-- A span inside a sequence names as many items as it is long. -/
theorem slice_toArray (s : Span) (items : List α) :
    s.slice items.toArray = (items.drop s.start).take s.length := by
  simp [Span.slice, Span.length, List.extract_eq_take_drop]

end

section
variable {α : Type} [DecidableEq α] {old new : List α}

theorem commonLength_agrees (as bs : List α) {k : Nat} (hk : k < commonLength as bs) :
    as[k]? = bs[k]? := by
  have same := congrArg (·[k]?) (take_commonLength as bs)
  simpa [List.getElem?_take, hk] using same

/-- What an insertion shares with the kept items before it. -/
theorem shareBack_spec {stop n m k : Nat} (o : Nat) (hn : n ≤ stop) (hstop : stop ≤ old.length)
    (hm : m + k ≤ new.length) :
    let s := shareBack old.toArray new.toArray stop n (.insert o m k)
    s ≤ n ∧ s ≤ k ∧ Agree old new (stop - s) (m + k - s) s := by
  intro s
  let as := (old.drop (stop - n)).take n
  let bs := (new.drop m).take k
  have lengths : as.length = n ∧ bs.length = k := by
    simp only [as, bs, List.length_take, List.length_drop]
    omega
  have hs : s = min n (commonLength as.reverse bs.reverse) := by
    simp only [s, shareBack, slice_toArray, Edit.newSpan, Span.length, as, bs]
    rw [Nat.sub_sub_self hn, Nat.add_sub_cancel_left]
  have within := commonLength_le_right as.reverse bs.reverse
  rw [List.length_reverse, lengths.2] at within
  refine ⟨by omega, by omega, ?_⟩
  intro t ht
  have same := commonLength_agrees as.reverse bs.reverse (k := s - 1 - t) (by omega)
  rw [List.getElem?_reverse (by omega), List.getElem?_reverse (by omega), lengths.1, lengths.2,
    List.getElem?_take_of_lt (by omega), List.getElem?_take_of_lt (by omega),
    List.getElem?_drop, List.getElem?_drop] at same
  rwa [show stop - n + (n - 1 - (s - 1 - t)) = stop - s + t by omega,
    show m + (k - 1 - (s - 1 - t)) = m + k - s + t by omega] at same

/-- What an insertion shares with the kept items after it. -/
theorem shareAhead_spec (old : List α) (start n o : Nat) {m k : Nat} (hm : m + k ≤ new.length) :
    let s := shareAhead old.toArray new.toArray start n (.insert o m k)
    s ≤ n ∧ s ≤ k ∧ Agree old new start m s := by
  intro s
  let as := (old.drop start).take n
  let bs := (new.drop m).take k
  have hs : s = min n (commonLength as bs) := by
    simp only [s, shareAhead, slice_toArray, Edit.newSpan, Span.length, as, bs]
    rw [Nat.add_sub_cancel_left, Nat.add_sub_cancel_left]
  have within := commonLength_le_right as bs
  rw [List.length_take, List.length_drop, Nat.min_eq_left (by omega)] at within
  refine ⟨by omega, by omega, ?_⟩
  intro t ht
  have same := commonLength_agrees as bs (k := t) (by omega)
  rwa [List.getElem?_take_of_lt (by omega), List.getElem?_take_of_lt (by omega),
    List.getElem?_drop, List.getElem?_drop] at same

/-- An insertion that slides up past kept items that it shares. -/
theorem shift_up_leads {i j i' j' o m n o' m' k : Nat} {after : List Edit}
    (hold : i' ≤ old.length) (hnew : j' ≤ new.length)
    (h : Leads old new i j (.keep o m n :: .insert o' m' k :: after) i' j') :
    let s := shareBack old.toArray new.toArray (o + n) n (.insert o' m' k)
    s ≠ 0 → Leads old new i j
      (keepRun o m (n - s) ++ .insert (o' - s) (m' - s) k :: regrowAfter (o + n) (m' + k) s after)
      i' j' := by
  intro s stuck
  obtain ⟨⟨rfl, rfl, pos, kept⟩, ⟨hm', hk⟩, h⟩ := h
  simp only [length_oldSpan_keep, length_newSpan_keep, length_oldSpan_insert,
    length_newSpan_insert] at hm' h
  subst hm'
  have within := leads_le h
  have oldRoom : o + n ≤ old.length := by omega
  have newRoom : m + n + k ≤ new.length := by omega
  obtain ⟨hsn, hsk, shared⟩ := shareBack_spec o' (Nat.le_add_left n o) oldRoom newRoom
  refine leads_append.2 ⟨_, _, keepRun_leads (agree_take kept (Nat.sub_le n s)), ?_⟩
  refine ⟨⟨by omega, hk⟩, ?_⟩
  have regrown := regrowAfter_leads (Nat.pos_of_ne_zero stuck) (by omega) (by omega) shared h
  simp only [length_oldSpan_insert, length_newSpan_insert]
  rwa [show o + (n - s) + 0 = o + n - s by omega, show m + (n - s) + k = m + n + k - s by omega]

/-- An insertion that slides down past kept items that it shares. -/
theorem shift_down_leads {i j i' j' o m n o' m' k : Nat} {before after : List Edit}
    (hnew : j' ≤ new.length)
    (h : Leads old new i j (before.reverse ++ .insert o' m' k :: .keep o m n :: after) i' j') :
    let s := shareAhead old.toArray new.toArray o n (.insert o' m' k)
    s ≠ 0 → Leads old new i j
      ((regrowBefore o m' s before).reverse ++ .insert (o' + s) (m' + s) k ::
        (keepRun (o + s) (m + s) (n - s) ++ after))
      i' j' := by
  intro s stuck
  obtain ⟨x, y, front, ⟨hm', hk⟩, ⟨ho, hm, pos, kept⟩, tail⟩ := leads_append.1 h
  simp only [length_oldSpan_keep, length_newSpan_keep, length_oldSpan_insert,
    length_newSpan_insert, Nat.add_zero] at ho hm kept tail
  subst ho hm hm'
  have within := leads_le tail
  have room : m' + k ≤ new.length := by omega
  obtain ⟨hsn, hsk, shared⟩ := shareAhead_spec old o n o' room
  have grown := regrowBefore_leads (Nat.pos_of_ne_zero stuck) shared front
  refine leads_append.2 ⟨_, _, grown, ⟨rfl, hk⟩, ?_⟩
  simp only [length_oldSpan_insert, length_newSpan_insert, Nat.add_zero]
  have rest := keepRun_leads (agree_drop kept hsn)
  rw [show m' + s + k = m' + k + s by omega]
  refine leads_append.2 ⟨_, _, rest, ?_⟩
  rwa [show o + s + (n - s) = o + n by omega, show m' + k + s + (n - s) = m' + k + n by omega]

theorem slideUp_leads {i j i' j' : Nat} (hold : i' ≤ old.length) (hnew : j' ≤ new.length)
    (c : Cursor) (h : Leads old new i j c.script i' j') :
    Leads old new i j (slideUp old.toArray new.toArray c).script i' j' := by
  fun_induction slideUp old.toArray new.toArray c with
  | case1 o m k before o' m' k' after ih =>
    apply ih
    simp only [Cursor.script, List.reverse_cons, List.append_assoc, List.singleton_append] at h ⊢
    exact leads_after (fun _ _ => merge_inserts_leads) h
  | case2 o k m before o' k' m' after ih =>
    apply ih
    simp only [Cursor.script, List.reverse_cons, List.append_assoc, List.singleton_append] at h ⊢
    exact leads_after (fun _ _ => merge_deletes_leads) h
  | case3 o k m before o' m' k' after ih =>
    apply ih
    simp only [Cursor.script, List.reverse_cons, List.append_assoc, List.singleton_append] at h ⊢
    exact leads_after (fun _ _ => insert_first_leads) h
  | case4 o m k before o' k' m' after ih =>
    apply ih
    simp only [Cursor.script, List.reverse_cons, List.append_assoc, List.singleton_append] at h ⊢
    exact leads_after (fun _ _ => delete_first_leads) h
  | case5 => exact h
  | case6 o m n before o' m' k after s stuck ih =>
    apply ih
    simp only [Cursor.script, List.reverse_cons, List.append_assoc, List.singleton_append] at h ⊢
    rw [List.reverse_append, reverse_keepRun, List.append_assoc]
    exact leads_after (fun _ _ h => shift_up_leads hold hnew h stuck) h
  | case7 => exact h

theorem slideDown_leads {i j i' j' : Nat} (hnew : j' ≤ new.length)
    (c : Cursor) (h : Leads old new i j c.script i' j') :
    Leads old new i j (slideDown old.toArray new.toArray c).script i' j' := by
  fun_induction slideDown old.toArray new.toArray c with
  | case1 before o m k o' m' k' after ih =>
    exact ih (leads_after (fun _ _ => merge_inserts_leads) h)
  | case2 before o k m o' k' m' after ih =>
    exact ih (leads_after (fun _ _ => merge_deletes_leads) h)
  | case3 before o' m' k' o k m after ih =>
    apply ih
    simp only [Cursor.script, List.reverse_cons, List.append_assoc, List.singleton_append] at h ⊢
    exact leads_after (fun _ _ => delete_first_leads) h
  | case4 before o' k' m' o m k after ih =>
    apply ih
    simp only [Cursor.script, List.reverse_cons, List.append_assoc, List.singleton_append] at h ⊢
    exact leads_after (fun _ _ => insert_first_leads) h
  | case5 => exact h
  | case6 before o' m' k o m n after s stuck ih =>
    exact ih (shift_down_leads hnew h stuck)
  | case7 => exact h

theorem slide_leads {i j i' j' : Nat} (hold : i' ≤ old.length) (hnew : j' ≤ new.length)
    (moves : Edit → Bool) (c : Cursor) (h : Leads old new i j c.script i' j') :
    Leads old new i j (slide old.toArray new.toArray moves c).script i' j' := by
  unfold slide
  split
  · exact slideDown_leads hnew _ (slideUp_leads hold hnew c h)
  · exact h

theorem settle_leads {i j i' j' : Nat} (hold : i' ≤ old.length) (hnew : j' ≤ new.length)
    (moves : Edit → Bool) (before edits : List Edit)
    (h : Leads old new i j (before.reverse ++ edits) i' j') :
    Leads old new i j (settle old.toArray new.toArray moves before edits) i' j' := by
  fun_induction settle old.toArray new.toArray moves before edits with
  | case1 before => simpa using h
  | case2 before e after c moving moving' _ ih =>
    have slid := slide_leads hold hnew moves ⟨before, e, after⟩ h
    apply ih
    simpa [Cursor.script] using slid
  | case3 before e after c moving moving' _ =>
    exact slide_leads hold hnew moves ⟨before, e, after⟩ h

omit [DecidableEq α] in
theorem absorb_leads {i j i' j' : Nat} (e : Edit) (es : List Edit)
    (h : Leads old new i j (e :: es) i' j') : Leads old new i j (absorb e es) i' j' := by
  fun_cases absorb e es with
  | case1 o m n o' m' n' rest =>
    obtain ⟨⟨rfl, rfl, pos, kept⟩, ⟨-, -, -, kept'⟩, tail⟩ := h
    simp only [length_oldSpan_keep, length_newSpan_keep] at kept' tail
    refine ⟨⟨rfl, rfl, by omega, agree_add kept kept'⟩, ?_⟩
    simpa [Nat.add_assoc] using tail
  | case2 => exact merge_deletes_leads h
  | case3 o k m o' m' n' rest =>
    obtain ⟨⟨rfl, posOld⟩, ⟨hm, posNew⟩, tail⟩ := h
    simp only [length_newSpan_delete, Nat.add_zero] at hm
    exact ⟨⟨rfl, hm, posOld, posNew⟩, by simpa using tail⟩
  | case4 o k m o' k' m' n' rest =>
    obtain ⟨⟨rfl, posOld⟩, ⟨-, hm, -, posNew⟩, tail⟩ := h
    simp only [length_newSpan_delete, Nat.add_zero] at hm
    exact ⟨⟨rfl, hm, by omega, posNew⟩, by simpa [Nat.add_assoc] using tail⟩
  | case5 => exact merge_inserts_leads h
  | case6 o m n o' k' m' rest =>
    obtain ⟨⟨rfl, posNew⟩, ⟨ho, posOld⟩, tail⟩ := h
    simp only [length_oldSpan_insert, Nat.add_zero] at ho
    exact ⟨⟨ho, rfl, posOld, posNew⟩, by simpa using tail⟩
  | case7 o m n o' k' m' n' rest =>
    obtain ⟨⟨rfl, posNew⟩, ⟨ho, -, posOld, -⟩, tail⟩ := h
    simp only [length_oldSpan_insert, Nat.add_zero] at ho
    exact ⟨⟨ho, rfl, posOld, by omega⟩, by simpa [Nat.add_assoc] using tail⟩
  | case8 => exact h

omit [DecidableEq α] in
theorem join_leads {i j i' j' : Nat} (es : List Edit) (h : Leads old new i j es i' j') :
    Leads old new i j (join es) i' j' := by
  induction es generalizing i j with
  | nil => exact h
  | cons e es ih => exact absorb_leads e (join es) ⟨h.1, ih h.2⟩

/-- The edits between two sequences lead along all of both. -/
theorem edits_leads (old new : List α) :
    Leads old new 0 0 (edits old new) old.length new.length := by
  have found := script_leads old new 0 0 (sits_self old) (sits_self new)
  rw [Nat.zero_add, Nat.zero_add] at found
  apply join_leads
  apply settle_leads (Nat.le_refl _) (Nat.le_refl _)
  exact settle_leads (Nat.le_refl _) (Nat.le_refl _) _ [] _ found

end

end Tandem.Diff
