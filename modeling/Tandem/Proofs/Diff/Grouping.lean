import Tandem.Diff.Hunk
import Tandem.Proofs.Diff.Settling

/-!
Groups cover what changed.

* `Covers`: groups of edits stand one after the other, and what lies before, between and after them
  is equal on both sides.
* `groups_cover`: the groups of a script cover it. Where the script stands at both starts with its
  first edit and at both ends with its last, so does every group.
-/

namespace Tandem.Diff

/-- The first edit stands at these places on both sides. -/
def Opens (i j : Nat) : List Edit → Prop
  | [] => True
  | e :: _ => e.oldSpan.start = i ∧ e.newSpan.start = j

/-- The last edit stops at these places on both sides. -/
def Closes (i j : Nat) : List Edit → Prop
  | [] => True
  | [e] => e.oldSpan.stop = i ∧ e.newSpan.stop = j
  | _ :: e :: es => Closes i j (e :: es)

section
variable {α : Type}

/-- Groups that stand one after the other between two pairs of places, with nothing but equal items
around them. Under `settled` each also begins and ends where its edits say. -/
def Covers (settled : Prop) (old new : List α) (i j : Nat) : List (List Edit) → Nat → Nat → Prop
  | [], i', j' => ∃ g, Agree old new i j g ∧ i + g = i' ∧ j + g = j'
  | es :: more, i', j' =>
    ∃ g x y, Agree old new i j g ∧ Leads old new (i + g) (j + g) es x y ∧
      (settled → Opens (i + g) (j + g) es ∧ Closes x y es) ∧ Covers settled old new x y more i' j'

variable {old new : List α} {settled : Prop}

theorem agree_nothing (i j : Nat) : Agree old new i j 0 :=
  fun _ h => absurd h (Nat.not_lt_zero _)

theorem closes_cons_iff {e : Edit} {es : List Edit} {i j : Nat} :
    Closes i j (e :: es) ↔
      (es = [] → e.oldSpan.stop = i ∧ e.newSpan.stop = j) ∧ Closes i j es := by
  cases es <;> simp [Closes]

theorem closes_concat {front : List Edit} {e : Edit} {i j : Nat}
    (h : e.oldSpan.stop = i ∧ e.newSpan.stop = j) : Closes i j (front ++ [e]) := by
  induction front with
  | nil => exact h
  | cons a front ih => exact closes_cons_iff.2 ⟨fun none => absurd none (by simp), ih⟩

theorem closes_keep {o m n x y : Nat} {es : List Edit} (h : Leads old new (o + n) (m + n) es x y)
    (closes : Closes x y es) : Closes x y (.keep o m n :: es) := by
  refine closes_cons_iff.2 ⟨?_, closes⟩
  rintro rfl
  exact h

theorem trimLast_eq_nil {n : Nat} {es : List Edit} (h : trimLast n es = []) : es = [] := by
  fun_cases trimLast n es <;> simp_all [trimLast]

theorem covers_after_gap {i j g i' j' : Nat} {gs : List (List Edit)} (h : Agree old new i j g)
    (hgs : Covers settled old new (i + g) (j + g) gs i' j') :
    Covers settled old new i j gs i' j' := by
  cases gs with
  | nil =>
    obtain ⟨g', h', hi, hj⟩ := hgs
    exact ⟨g + g', agree_add h h', by omega, by omega⟩
  | cons es more =>
    obtain ⟨g', x, y, h', rest⟩ := hgs
    rw [Nat.add_assoc, Nat.add_assoc] at rest
    exact ⟨g + g', x, y, agree_add h h', rest⟩

theorem covers_before_gap {i j x y g : Nat} {gs : List (List Edit)}
    (hgs : Covers settled old new i j gs x y) (h : Agree old new x y g) :
    Covers settled old new i j gs (x + g) (y + g) := by
  induction gs generalizing i j with
  | nil =>
    obtain ⟨g', h', rfl, rfl⟩ := hgs
    exact ⟨g' + g, agree_add h' h, by omega, by omega⟩
  | cons es more ih =>
    obtain ⟨g', a, b, h', hes, framed, hmore⟩ := hgs
    exact ⟨g', a, b, h', hes, framed, ih hmore⟩

theorem covers_le {i j i' j' : Nat} {gs : List (List Edit)}
    (h : Covers settled old new i j gs i' j') : i ≤ i' ∧ j ≤ j' := by
  induction gs generalizing i j with
  | nil =>
    obtain ⟨g, -, hi, hj⟩ := h
    omega
  | cons es more ih =>
    obtain ⟨g, x, y, -, hes, -, hmore⟩ := h
    have first := leads_le hes
    have rest := ih hmore
    omega

theorem trimFirst_leads {n i j i' j' : Nat} {es : List Edit} (hn : 0 < n)
    (h : Leads old new i j es i' j') :
    ∃ g, Agree old new i j g ∧ Leads old new (i + g) (j + g) (trimFirst n es) i' j' ∧
      (Opens i j es → Opens (i + g) (j + g) (trimFirst n es)) ∧
      (Closes i' j' es → Closes i' j' (trimFirst n es)) := by
  match es, h with
  | .keep o m k :: rest, h =>
    obtain ⟨⟨rfl, rfl, pos, kept⟩, tail⟩ := h
    simp only [length_oldSpan_keep, length_newSpan_keep] at tail
    have cut : Leads old new (o + (k - n)) (m + (k - n))
        (.keep (o + (k - n)) (m + (k - n)) (min k n) :: rest) i' j' := by
      refine ⟨⟨rfl, rfl, by omega, ?_⟩, ?_⟩
      · exact agree_take (agree_drop kept (Nat.sub_le k n)) (by omega)
      · simp only [length_oldSpan_keep, length_newSpan_keep]
        rwa [show o + (k - n) + min k n = o + k by omega,
          show m + (k - n) + min k n = m + k by omega]
    refine ⟨k - n, agree_take kept (Nat.sub_le k n), cut, fun _ => ⟨rfl, rfl⟩, fun closed => ?_⟩
    have stop : Leads old new (o + (k - n) + min k n) (m + (k - n) + min k n) rest i' j' := by
      simpa using cut.2
    exact closes_keep stop (closes_cons_iff.1 closed).2
  | [], h => exact ⟨0, agree_nothing i j, h, id, id⟩
  | .delete .. :: _, h => exact ⟨0, agree_nothing i j, h, id, id⟩
  | .insert .. :: _, h => exact ⟨0, agree_nothing i j, h, id, id⟩
  | .replace .. :: _, h => exact ⟨0, agree_nothing i j, h, id, id⟩

theorem trimLast_leads {n i j i' j' : Nat} {es : List Edit} (hn : 0 < n)
    (h : Leads old new i j es i' j') :
    ∃ x y g, Leads old new i j (trimLast n es) x y ∧ Agree old new x y g ∧ x + g = i' ∧
      y + g = j' ∧ (Opens i j es → Opens i j (trimLast n es)) ∧
      (Closes i' j' es → Closes x y (trimLast n es)) := by
  fun_induction trimLast n es generalizing i j with
  | case1 => exact ⟨i', j', 0, h, agree_nothing _ _, rfl, rfl, id, id⟩
  | case2 o m k =>
    obtain ⟨⟨rfl, rfl, pos, kept⟩, hi, hj⟩ := h
    simp only [length_oldSpan_keep, length_newSpan_keep] at hi hj
    refine ⟨o + min k n, m + min k n, k - min k n, ?_, agree_drop kept (Nat.min_le_left k n),
      by omega, by omega, id, fun _ => ⟨rfl, rfl⟩⟩
    exact ⟨⟨rfl, rfl, by omega, agree_take kept (Nat.min_le_left k n)⟩, by simp, by simp⟩
  | case3 e rest last ih =>
    obtain ⟨x, y, g, tail, gap, hi, hj, -, closed⟩ := ih h.2
    refine ⟨x, y, g, ⟨h.1, tail⟩, gap, hi, hj, id, fun closes => ?_⟩
    obtain ⟨stops, closes⟩ := closes_cons_iff.1 closes
    refine closes_cons_iff.2 ⟨fun nothing => ?_, closed closes⟩
    obtain rfl := trimLast_eq_nil nothing
    rw [← tail.1, ← tail.2, h.2.1, h.2.2]
    exact stops rfl

theorem splitGroups_eq_nil (n : Nat) (es : List Edit) (h : (splitGroups n es).1 = []) :
    es = [] := by
  fun_cases splitGroups n es <;> simp_all [splitGroups]
  split at h <;> simp_all

theorem splitGroups_opens {n i j : Nat} {es : List Edit} (h : Opens i j es) :
    Opens i j (splitGroups n es).1 := by
  fun_cases splitGroups n es with
  | case1 => trivial
  | case2 o m k rest group more split long => exact h
  | case3 o m k rest group more split short => exact h
  | case4 e rest other group more split => exact h

theorem splitGroups_cover {n i j i' j' : Nat} {es : List Edit} (hn : 0 < n)
    (h : Leads old new i j es i' j') (hc : settled → Closes i' j' es) :
    ∃ x y, Leads old new i j (splitGroups n es).1 x y ∧
      (settled → Closes x y (splitGroups n es).1) ∧
      Covers settled old new x y (splitGroups n es).2 i' j' := by
  fun_induction splitGroups n es generalizing i j with
  | case1 => exact ⟨i', j', h, fun _ => trivial, 0, agree_nothing _ _, rfl, rfl⟩
  | case2 o m k rest group more split long ih =>
    obtain ⟨⟨rfl, rfl, pos, kept⟩, tail⟩ := h
    simp only [length_oldSpan_keep, length_newSpan_keep] at tail
    obtain ⟨x, y, hgroup, closed, hmore⟩ := ih tail fun c => (closes_cons_iff.1 (hc c)).2
    rw [split] at hgroup closed hmore
    have rest : Leads old new (o + (k - n)) (m + (k - n))
        (.keep (o + (k - n)) (m + (k - n)) n :: group) x y := by
      refine ⟨⟨rfl, rfl, hn, ?_⟩, ?_⟩
      · exact agree_take (agree_drop kept (Nat.sub_le k n)) (by omega)
      · simp only [length_oldSpan_keep, length_newSpan_keep]
        rwa [show o + (k - n) + n = o + k by omega, show m + (k - n) + n = m + k by omega]
    refine ⟨o + n, m + n, ⟨⟨rfl, rfl, hn, agree_take kept (by omega)⟩, by simp [Leads]⟩,
      fun _ => ⟨rfl, rfl⟩, k - 2 * n, x, y, ?_, ?_, ?_, hmore⟩
    · exact agree_take (agree_drop kept (by omega : n ≤ k)) (by omega)
    · rwa [show o + n + (k - 2 * n) = o + (k - n) by omega,
        show m + n + (k - 2 * n) = m + (k - n) by omega]
    · intro c
      refine ⟨⟨?_, ?_⟩, closes_keep (by simpa using rest.2) (closed c)⟩
      · simp only [Edit.oldSpan]
        omega
      · simp only [Edit.newSpan]
        omega
  | case3 o m k rest group more split short ih =>
    obtain ⟨⟨rfl, rfl, pos, kept⟩, tail⟩ := h
    simp only [length_oldSpan_keep, length_newSpan_keep] at tail
    obtain ⟨x, y, hgroup, closed, hmore⟩ := ih tail fun c => (closes_cons_iff.1 (hc c)).2
    rw [split] at hgroup closed hmore
    refine ⟨x, y, ⟨⟨rfl, rfl, pos, kept⟩, ?_⟩, fun c => closes_keep hgroup (closed c), hmore⟩
    simpa using hgroup
  | case4 e rest other group more split ih =>
    obtain ⟨x, y, hgroup, closed, hmore⟩ := ih h.2 fun c => (closes_cons_iff.1 (hc c)).2
    rw [split] at hgroup closed hmore
    refine ⟨x, y, ⟨h.1, hgroup⟩, fun c => ?_, hmore⟩
    obtain ⟨stops, closes⟩ := closes_cons_iff.1 (hc c)
    refine closes_cons_iff.2 ⟨?_, closed c⟩
    rintro rfl
    have nothing := splitGroups_eq_nil n rest (by rw [split])
    subst nothing
    rw [← hgroup.1, ← hgroup.2, h.2.1, h.2.2]
    exact stops rfl

theorem dropQuietLast_cover {i j i' j' : Nat} {gs : List (List Edit)}
    (h : Covers settled old new i j gs i' j') :
    Covers settled old new i j (dropQuietLast gs) i' j' := by
  fun_induction dropQuietLast gs generalizing i j with
  | case1 => exact h
  | case2 group quiet =>
    obtain ⟨g, x, y, gap, hgroup, -, g', gap', hi, hj⟩ := h
    match group, quiet with
    | [], _ =>
      obtain ⟨rfl, rfl⟩ := hgroup
      exact ⟨g + g', agree_add gap gap', by omega, by omega⟩
    | [.keep o m k], _ =>
      obtain ⟨⟨rfl, rfl, -, kept⟩, hx, hy⟩ := hgroup
      simp only [length_oldSpan_keep, length_newSpan_keep] at hx hy
      subst hx hy
      exact ⟨g + (k + g'), agree_add gap (agree_add kept gap'), by omega, by omega⟩
  | case3 => exact h
  | case4 group more other ih =>
    obtain ⟨g, x, y, gap, hgroup, framed, hmore⟩ := h
    exact ⟨g, x, y, gap, hgroup, framed, ih hmore⟩

/-- The groups of a script cover it. -/
theorem groups_cover {n i j i' j' : Nat} {es : List Edit} (hn : 0 < n)
    (h : Leads old new i j es i' j') (framed : settled → Opens i j es ∧ Closes i' j' es) :
    Covers settled old new i j (groups n es) i' j' := by
  obtain ⟨g, gap, hfirst, opens, closes⟩ := trimFirst_leads hn h
  obtain ⟨x, y, g', hlast, gap', rfl, rfl, opens', closes'⟩ := trimLast_leads hn hfirst
  obtain ⟨a, b, hgroup, closed, hmore⟩ :=
    splitGroups_cover hn hlast fun c => closes' (closes (framed c).2)
  apply dropQuietLast_cover
  refine covers_after_gap gap
    (covers_before_gap ⟨0, a, b, agree_nothing _ _, hgroup, ?_, hmore⟩ gap')
  exact fun c => ⟨splitGroups_opens (opens' (opens (framed c).1)), closed c⟩

end

/-! ## Where groups begin and end -/

theorem groups_cons (n : Nat) {e : Edit} (he : e.isKeep = false) (rest : List Edit) :
    ∃ group more, groups n (e :: rest) = (e :: group) :: more := by
  have first : trimFirst n (e :: rest) = e :: rest := by
    cases e <;> simp_all [trimFirst, Edit.isKeep]
  have last : trimLast n (e :: rest) = e :: trimLast n rest := by
    cases e <;> cases rest <;> simp_all [trimLast, Edit.isKeep]
  have split : splitGroups n (e :: trimLast n rest) =
      (e :: (splitGroups n (trimLast n rest)).1, (splitGroups n (trimLast n rest)).2) := by
    cases e <;> simp_all [splitGroups, Edit.isKeep]
  have loud (group : List Edit) : isQuiet (e :: group) = false := by
    cases e <;> simp_all [isQuiet, Edit.isKeep]
  simp only [groups, first, last, split]
  cases h : (splitGroups n (trimLast n rest)).2 with
  | nil => exact ⟨(splitGroups n (trimLast n rest)).1, [], by simp [dropQuietLast, loud]⟩
  | cons group more => exact ⟨_, _, rfl⟩

theorem trimLast_snoc {n : Nat} {e : Edit} (he : e.isKeep = false) (front : List Edit) :
    trimLast n (front ++ [e]) = front ++ [e] := by
  induction front with
  | nil => cases e <;> simp_all [trimLast, Edit.isKeep]
  | cons a front ih =>
    have tail : front ++ [e] ≠ [] := by simp
    cases h : front ++ [e] with
    | nil => exact absurd h tail
    | cons b rest =>
      rw [h] at ih
      simp [h, trimLast, ih]

/-- The last group ends with this edit. -/
def EndsWith (e : Edit) (gs : List (List Edit)) : Prop :=
  ∃ front group, gs = front ++ [group ++ [e]]

theorem endsWith_cons {e : Edit} {gs : List (List Edit)} (group : List Edit)
    (h : EndsWith e gs) : EndsWith e (group :: gs) := by
  obtain ⟨front, last, rfl⟩ := h
  exact ⟨group :: front, last, rfl⟩

theorem endsWith_cons_cons {e : Edit} {group : List Edit} {gs : List (List Edit)} (a : Edit)
    (h : EndsWith e (group :: gs)) : EndsWith e ((a :: group) :: gs) := by
  obtain ⟨front, last, h⟩ := h
  cases front with
  | nil =>
    obtain ⟨rfl, rfl⟩ := List.cons.inj h
    exact ⟨[], a :: last, rfl⟩
  | cons first front =>
    obtain ⟨rfl, rfl⟩ := List.cons.inj h
    exact ⟨(a :: group) :: front, last, rfl⟩

theorem splitGroups_snoc (n : Nat) {e : Edit} (he : e.isKeep = false) (front : List Edit) :
    EndsWith e ((splitGroups n (front ++ [e])).1 :: (splitGroups n (front ++ [e])).2) := by
  induction front with
  | nil => exact ⟨[], [], by cases e <;> simp_all [splitGroups, Edit.isKeep]⟩
  | cons a front ih =>
    cases a with
    | keep o m k =>
      simp only [List.cons_append, splitGroups]
      split
      · exact endsWith_cons _ (endsWith_cons_cons _ ih)
      · exact endsWith_cons_cons _ ih
    | delete o k m => exact endsWith_cons_cons _ ih
    | insert o m k => exact endsWith_cons_cons _ ih
    | replace o k m k' => exact endsWith_cons_cons _ ih

theorem dropQuietLast_snoc {e : Edit} (he : e.isKeep = false) {gs : List (List Edit)}
    (h : EndsWith e gs) : EndsWith e (dropQuietLast gs) := by
  obtain ⟨front, last, rfl⟩ := h
  have loud : isQuiet (last ++ [e]) = false := by
    cases e <;> cases last <;> simp_all [isQuiet, Edit.isKeep]
  refine ⟨front, last, ?_⟩
  induction front with
  | nil => simp [dropQuietLast, loud]
  | cons group front ih =>
    cases h : front ++ [last ++ [e]] with
    | nil => simp at h
    | cons next rest =>
      rw [h] at ih
      simp [h, dropQuietLast, ih]

theorem groups_snoc {n : Nat} {e : Edit} (he : e.isKeep = false) (front : List Edit) :
    EndsWith e (groups n (front ++ [e])) := by
  have first : ∃ front', trimFirst n (front ++ [e]) = front' ++ [e] := by
    cases front with
    | nil => exact ⟨[], by cases e <;> simp_all [trimFirst, Edit.isKeep]⟩
    | cons a front => cases a <;> exact ⟨_ :: front, rfl⟩
  obtain ⟨front', first⟩ := first
  simp only [groups, first, trimLast_snoc he]
  exact dropQuietLast_snoc he (splitGroups_snoc n he front')

/-- Kept items stand first. -/
def BeginsKept (es : List Edit) : Prop := ∃ o m k rest, es = .keep o m k :: rest

theorem splitGroups_begin (n : Nat) (es : List Edit) :
    (BeginsKept (splitGroups n es).1 ∨ (splitGroups n es).1.head? = es.head?) ∧
      ∀ group ∈ (splitGroups n es).2, BeginsKept group := by
  fun_induction splitGroups n es with
  | case1 => simp
  | case2 o m k rest group more split long ih =>
    rw [split] at ih
    refine ⟨.inl ⟨o, m, n, [], rfl⟩, ?_⟩
    simp only [List.mem_cons, forall_eq_or_imp]
    exact ⟨⟨_, _, _, _, rfl⟩, ih.2⟩
  | case3 o m k rest group more split short ih =>
    rw [split] at ih
    exact ⟨.inr rfl, ih.2⟩
  | case4 e rest other group more split ih =>
    rw [split] at ih
    exact ⟨.inr rfl, ih.2⟩

theorem trimFirst_begin (n : Nat) (es : List Edit) :
    BeginsKept (trimFirst n es) ∨ (trimFirst n es).head? = es.head? := by
  fun_cases trimFirst n es with
  | case1 => exact .inl ⟨_, _, _, _, rfl⟩
  | case2 => exact .inr rfl

theorem trimLast_begin (n : Nat) (es : List Edit) :
    BeginsKept (trimLast n es) ∨ (trimLast n es).head? = es.head? := by
  fun_cases trimLast n es with
  | case1 => exact .inr rfl
  | case2 => exact .inl ⟨_, _, _, _, rfl⟩
  | case3 => exact .inr rfl

theorem mem_of_mem_dropQuietLast {gs : List (List Edit)} {group : List Edit}
    (h : group ∈ dropQuietLast gs) : group ∈ gs := by
  fun_induction dropQuietLast gs <;> grind

/-- A group begins with kept items or with the first edit of the script. -/
theorem groups_begin (n : Nat) (es : List Edit) :
    ∀ group ∈ groups n es, BeginsKept group ∨ group.head? = es.head? := by
  intro group h
  have kept {fs gs : List Edit} (h : BeginsKept fs) (same : gs.head? = fs.head?)  :
      BeginsKept gs := by
    obtain ⟨o, m, k, rest, rfl⟩ := h
    obtain ⟨tail, rfl⟩ := List.head?_eq_some_iff.1 same
    exact ⟨o, m, k, tail, rfl⟩
  have trimmed : BeginsKept (trimLast n (trimFirst n es)) ∨
      (trimLast n (trimFirst n es)).head? = es.head? := by
    rcases trimLast_begin n (trimFirst n es) with h | h
    · exact .inl h
    · rcases trimFirst_begin n es with h' | h'
      · exact .inl (kept h' h)
      · exact .inr (h.trans h')
  obtain ⟨first, more⟩ := splitGroups_begin n (trimLast n (trimFirst n es))
  rcases List.mem_cons.1 (mem_of_mem_dropQuietLast h) with rfl | h
  · rcases first with h | h
    · exact .inl h
    · rcases trimmed with h' | h'
      · exact .inl (kept h' h)
      · exact .inr (h.trans h')
  · exact .inl (more group h)

end Tandem.Diff
