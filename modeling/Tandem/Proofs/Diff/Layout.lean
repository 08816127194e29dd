import Tandem.Proofs.Diff.Changed
import Tandem.Proofs.Diff.Runs

/-!
How the groups of a script lie along an alignment.

* `Laid`: bodies that stand one after the other in an alignment, with kept items left out between
  them; `splitGroups_laid`: what a script splits into does.
* `join_parted`: in a settled script no kept run stands next to another one.
* `groups_laid`: so do the groups of a script, after what is left out before the first of them.
-/

namespace Tandem.Diff

open Tandem.Text

/-! ## Bodies in an alignment -/

section
variable {α : Type}

/-- Bodies stand one after the other in an alignment, the first of them at its start. Kept items are
left out between them, where both bodies show `n` kept items, and may be after the last one. -/
inductive Laid (n : Nat) : List (Mark α) → List (Mark α) → List (List (Mark α)) → Prop where
  | last {shown hidden : List (Mark α)} (few : longRuns (2 * n) shown = 0)
      (near : Changing shown → leading shown ≤ 2 * n) (ends : trailing shown ≤ n)
      (whole : trailing shown < n → hidden = []) (quiet : Quiet hidden) :
      Laid n (shown ++ hidden) shown []
  | next {shown hidden marks second : List (Mark α)} {more : List (List (Mark α))}
      (few : longRuns (2 * n) shown = 0) (near : Changing shown → leading shown ≤ 2 * n)
      (ends : trailing shown = n) (quiet : Quiet hidden) (some : hidden ≠ [])
      (change : Changing second) (begins : leading second = n) (rest : Laid n marks second more) :
      Laid n (shown ++ (hidden ++ marks)) shown (second :: more)

variable {n : Nat} {marks first front run : List (Mark α)} {more : List (List (Mark α))}

/-- The first body may begin earlier, as long as it ends as before. -/
theorem laid_extend (h : Laid n marks first more) (few : longRuns (2 * n) (front ++ first) = 0)
    (near : leading (front ++ first) ≤ 2 * n) (ends : trailing (front ++ first) = trailing first) :
    Laid n (front ++ marks) (front ++ first) more := by
  cases h with
  | last _ _ short whole quiet =>
    rw [← List.append_assoc]
    exact .last few (fun _ => near) (by omega) (fun less => whole (by omega)) quiet
  | next _ _ full quiet some change begins rest =>
    rw [← List.append_assoc]
    exact .next few (fun _ => near) (by omega) quiet some change begins rest

theorem laid_first (h : Laid n marks first more) :
    longRuns (2 * n) first = 0 ∧ (Changing first → leading first ≤ 2 * n) := by
  cases h with
  | last few near => exact ⟨few, near⟩
  | next few near => exact ⟨few, near⟩

theorem laid_loud (h : Laid n marks first more) (loud : Loud run) :
    Laid n (run ++ marks) (run ++ first) more := by
  induction run with
  | nil => exact h
  | cons mark run ih =>
    obtain ⟨change, later⟩ := List.forall_mem_cons.1 loud
    have rest := ih later
    obtain ⟨few, near⟩ := laid_first rest
    rw [← List.singleton_append, List.append_assoc, List.append_assoc]
    refine laid_extend rest ?_ ?_ (trailing_change change)
    · rw [List.singleton_append, longRuns, if_neg, few]
      rintro ⟨-, long, changing⟩
      exact absurd (near changing) (Nat.not_le_of_lt long)
    · rw [List.singleton_append, leading_change change]
      exact Nat.zero_le _

theorem laid_quiet (h : Laid n marks first more) (quiet : Quiet run) (short : run.length ≤ 2 * n)
    (change : Changing first) (start : leading first = 0) :
    Laid n (run ++ marks) (run ++ first) more := by
  refine laid_extend h ?_ ?_ (trailing_append change)
  · rw [longRuns_quiet_append quiet, (laid_first h).1]
  · rw [leading_quiet_append quiet, start]
    exact short

/-- The first body stands at the start. -/
theorem laid_begins (h : Laid n marks first more) : ∃ rest, marks = first ++ rest := by
  cases h with
  | last => exact ⟨_, rfl⟩
  | next => exact ⟨_, rfl⟩

/-- There is one body more than there are long runs. A body without changes stands for a long run
that the alignment begins with. -/
theorem length_of_laid (h : Laid n marks first more) : more.length = longRuns (2 * n) marks +
    if Changing marks ∧ 2 * n < leading marks then 1 else 0 := by
  induction h with
  | @last shown hidden few near ends whole quiet =>
    by_cases change : Changing shown
    · have counted := longRuns_append (n := 2 * n) change hidden
      rw [if_neg fun h => not_changing_of_quiet quiet h.1, few, longRuns_quiet quiet] at counted
      rw [counted, leading_append change, if_neg fun h => Nat.not_le_of_lt h.2 (near change)]
      rfl
    · have all : Quiet shown := by simpa [changing_iff] using change
      rw [longRuns_quiet_append all, longRuns_quiet quiet, if_neg]
      · rfl
      · rintro ⟨changing, -⟩
        exact (changing_append.1 changing).elim change (not_changing_of_quiet quiet)
  | @next shown hidden marks second more few near ends quiet some change begins rest ih =>
    obtain ⟨later, rfl⟩ := laid_begins rest
    have changing : Changing (second ++ later) := changing_append.2 (.inl change)
    have start : leading (second ++ later) = n := by rw [leading_append change, begins]
    have gap : leading (hidden ++ (second ++ later)) = hidden.length + n := by
      rw [leading_quiet_append quiet, start]
    have wide : 0 < hidden.length := List.length_pos_iff.2 some
    rw [if_neg (by omega), Nat.add_zero] at ih
    rw [List.length_cons, ih]
    by_cases before : Changing shown
    · have counted := longRuns_append (n := 2 * n) before (hidden ++ (second ++ later))
      rw [few, longRuns_quiet_append quiet, if_pos ⟨changing_append.2 (.inr changing), by omega⟩]
        at counted
      rw [counted, leading_append before, if_neg fun h => Nat.not_le_of_lt h.2 (near before)]
      omega
    · have all : Quiet shown := by simpa [changing_iff] using before
      have full : shown.length = n := (trailing_quiet all).symm.trans ends
      rw [longRuns_quiet_append all, longRuns_quiet_append quiet, leading_quiet_append all,
        if_pos ⟨changing_append.2 (.inr (changing_append.2 (.inr changing))), by omega⟩]

end

/-! ## Parts of a script -/

/-- No kept run stands next to another one. -/
def Parted : List Edit → Prop
  | e :: f :: es => (e.isKeep = true → f.isKeep = false) ∧ Parted (f :: es)
  | _ => True

theorem parted_tail {e : Edit} {es : List Edit} (h : Parted (e :: es)) : Parted es := by
  cases es with
  | nil => trivial
  | cons f es => exact h.2

/-- Whether kept runs stand next to each other does not depend on how long they are. -/
theorem parted_head {e f : Edit} {es : List Edit} (h : Parted (e :: es))
    (same : f.isKeep = e.isKeep) : Parted (f :: es) := by
  cases es with
  | nil => trivial
  | cons g es => exact ⟨fun kept => h.1 (same ▸ kept), h.2⟩

theorem absorb_parted {es : List Edit} (h : Parted es) (e : Edit) : Parted (absorb e es) := by
  fun_cases absorb e es with
  | case1 o m n o' m' n' rest => exact parted_head h rfl
  | case2 o k m o' k' m' rest => exact parted_head h rfl
  | case3 o k m o' m' n' rest => exact parted_head h rfl
  | case4 o k m o' k' m' n' rest => exact parted_head h rfl
  | case5 o m n o' m' n' rest => exact parted_head h rfl
  | case6 o m n o' k' m' rest => exact parted_head h rfl
  | case7 o m n o' k' m' n' rest => exact parted_head h rfl
  | case8 =>
    rename_i merged _ _ _ _ _ _
    cases es with
    | nil => trivial
    | cons f es =>
      refine ⟨fun kept => ?_, h⟩
      cases e with
      | keep o m n =>
        cases f with
        | keep o' m' n' => exact (merged o m n o' m' n' es rfl rfl).elim
        | delete | insert | replace => rfl
      | delete | insert | replace => cases kept

theorem join_parted (es : List Edit) : Parted (join es) := by
  induction es with
  | nil => trivial
  | cons e es ih => exact absorb_parted ih e

/-- How a script begins, with the kept items that are left out before it. -/
def Opening {α : Type} (n : Nat) (before : List (Mark α)) : List Edit → Prop
  | .keep _ _ k :: _ => k ≤ n ∧ (k < n → before = [])
  | _ => before = []

/-- How a script closes, with the kept items that are left out after it. -/
def Closing {α : Type} (n : Nat) (after : List (Mark α)) : List Edit → Prop
  | [] => after = []
  | [.keep _ _ k] => k ≤ n ∧ (k < n → after = [])
  | [_] => after = []
  | _ :: e :: es => Closing n after (e :: es)

section
variable {α : Type}

/-- The alignment that a script describes. -/
def alignment (old new : List α) (es : List Edit) : List (Mark α) :=
  es.flatMap (Edit.marks old.toArray new.toArray)

/-- An edit takes as many items as it says, and a change takes one at least. -/
def Fits (old new : List α) : Edit → Prop
  | .keep o _ n => o + n ≤ old.length
  | e => e.marks old.toArray new.toArray ≠ []

variable {old new : List α} {n : Nat}

theorem alignment_cons (e : Edit) (es : List Edit) :
    alignment old new (e :: es) = e.marks old.toArray new.toArray ++ alignment old new es :=
  List.flatMap_cons

theorem alignment_singleton (e : Edit) :
    alignment old new [e] = e.marks old.toArray new.toArray :=
  List.flatMap_singleton ..

theorem quiet_keep (old new : List α) (o m k : Nat) :
    Quiet ((Edit.keep o m k).marks old.toArray new.toArray) := by
  intro mark member
  obtain ⟨item, -, rfl⟩ := List.mem_map.1 member
  rfl

theorem length_keep (new : List α) {o : Nat} (m : Nat) {k : Nat} (fits : o + k ≤ old.length) :
    ((Edit.keep o m k).marks old.toArray new.toArray).length = k := by
  rw [Edit.marks, List.length_map, length_slice (by exact fits), length_oldSpan_keep]

/-- A kept run in two parts. -/
theorem marks_split (old new : List α) (o m m' : Nat) {k x : Nat} (within : x ≤ k) :
    (Edit.keep o m k).marks old.toArray new.toArray =
      (Edit.keep o m x).marks old.toArray new.toArray ++
        (Edit.keep (o + x) m' (k - x)).marks old.toArray new.toArray := by
  have parts := slice_append old (Nat.le_add_right o x) (Nat.add_le_add_left within o)
  simp only [Edit.marks, Edit.oldSpan]
  rw [← List.map_append, show o + x + (k - x) = o + k by omega, parts]

theorem loud_change (old new : List α) {e : Edit} (change : e.isKeep = false) :
    Loud (e.marks old.toArray new.toArray) := by
  have changes (gone here : List α) : Loud (gone.map Mark.removed ++ here.map Mark.added) := by
    intro mark member
    obtain removed | added := List.mem_append.1 member
    · obtain ⟨item, -, rfl⟩ := List.mem_map.1 removed
      rfl
    · obtain ⟨item, -, rfl⟩ := List.mem_map.1 added
      rfl
  cases e with
  | keep o m k => cases change
  | delete | insert | replace => exact changes _ _

/-- A script that begins with a change begins with no kept item. -/
theorem begins_of_change {e : Edit} (change : e.isKeep = false) (fits : Fits old new e)
    (es : List Edit) : Changing (alignment old new (e :: es)) ∧
      leading (alignment old new (e :: es)) = 0 := by
  have some : e.marks old.toArray new.toArray ≠ [] := by
    cases e with
    | keep o m k => cases change
    | delete | insert | replace => exact fits
  obtain ⟨mark, marks, parts⟩ := List.exists_cons_of_ne_nil some
  have loud : mark.isKept = false :=
    loud_change old new change mark (parts ▸ List.mem_cons_self ..)
  rw [alignment_cons, parts, List.cons_append]
  exact ⟨changing_cons.2 (.inl loud), leading_change loud⟩

theorem change_or_keep (e : Edit) : e.isKeep = false ∨ ∃ o m k, e = .keep o m k := by
  cases e with
  | keep o m k => exact .inr ⟨o, m, k, rfl⟩
  | delete | insert | replace => exact .inl rfl

theorem splitGroups_change {e : Edit} (change : e.isKeep = false) (es : List Edit) :
    splitGroups n (e :: es) = (e :: (splitGroups n es).1, (splitGroups n es).2) := by
  cases e with
  | keep o m k => cases change
  | delete | insert | replace => rfl

theorem splitGroups_keep (o m k : Nat) (es : List Edit) :
    splitGroups n (.keep o m k :: es) =
      if 2 * n < k then
        ([.keep o m n], (.keep (o + (k - n)) (m + (k - n)) n :: (splitGroups n es).1) ::
          (splitGroups n es).2)
      else (.keep o m k :: (splitGroups n es).1, (splitGroups n es).2) := rfl

theorem closing_tail {after : List (Mark α)} {e : Edit} {es : List Edit}
    (change : e.isKeep = false) (h : Closing n after (e :: es)) : Closing n after es := by
  cases es with
  | nil =>
    cases e with
    | keep o m k => cases change
    | delete | insert | replace => exact h
  | cons f es => cases e <;> exact h

/-- A long kept run ends one body and begins the next one, and is left out but for that. -/
theorem laid_cut {o m k : Nat} {marks first : List (Mark α)} {more : List (List (Mark α))}
    (h : Laid n marks first more) (changing : Changing first) (start : leading first = 0)
    (fits : o + k ≤ old.length) (long : 2 * n < k) :
    Laid n ((Edit.keep o m k).marks old.toArray new.toArray ++ marks)
      ((Edit.keep o m n).marks old.toArray new.toArray)
      (((Edit.keep (o + (k - n)) (m + (k - n)) n).marks old.toArray new.toArray ++ first) ::
        more) := by
  have keptStart := quiet_keep old new o m n
  have keptGap := quiet_keep old new (o + n) (m + n) (k - n - n)
  have keptEnd := quiet_keep old new (o + (k - n)) (m + (k - n)) n
  have lengthStart := length_keep new m (show o + n ≤ old.length by omega)
  have lengthGap := length_keep new (m + n) (show o + n + (k - n - n) ≤ old.length by omega)
  have lengthEnd := length_keep new (m + (k - n)) (show o + (k - n) + n ≤ old.length by omega)
  have next := laid_quiet h keptEnd (by omega) changing start
  have whole : (Edit.keep o m k).marks old.toArray new.toArray =
      (Edit.keep o m n).marks old.toArray new.toArray ++
        ((Edit.keep (o + n) (m + n) (k - n - n)).marks old.toArray new.toArray ++
          (Edit.keep (o + (k - n)) (m + (k - n)) n).marks old.toArray new.toArray) := by
    have last := marks_split old new o m (m + (k - n)) (Nat.sub_le k n)
    have first := marks_split old new o m (m + n) (show n ≤ k - n by omega)
    rw [last, first, List.append_assoc, show k - (k - n) = n by omega]
  rw [whole, List.append_assoc, List.append_assoc]
  refine .next (longRuns_quiet keptStart) (fun changing => ?_) ?_ keptGap ?_ ?_ ?_ next
  · exact absurd changing (not_changing_of_quiet keptStart)
  · rw [trailing_quiet keptStart, lengthStart]
  · rw [ne_eq, ← List.length_eq_zero_iff, lengthGap]
    omega
  · exact changing_append.2 (.inr changing)
  · rw [leading_quiet_append keptEnd, start, lengthEnd, Nat.add_zero]

/-- The groups of a script lie along its alignment. -/
theorem splitGroups_laid {after : List (Mark α)} {es : List Edit} (parted : Parted es)
    (fits : ∀ e ∈ es, Fits old new e) (closing : Closing n after es) (quiet : Quiet after) :
    Laid n (alignment old new es ++ after) (alignment old new (splitGroups n es).1)
      ((splitGroups n es).2.map (alignment old new)) := by
  induction es with
  | nil =>
    obtain rfl : after = [] := closing
    exact .last rfl (fun _ => Nat.zero_le _) (Nat.zero_le _) (fun _ => rfl) quiet
  | cons e es ih =>
    obtain ⟨here, later⟩ := List.forall_mem_cons.1 fits
    obtain change | ⟨o, m, k, rfl⟩ := change_or_keep e
    · have rest := ih (parted_tail parted) later (closing_tail change closing)
      rw [splitGroups_change change, alignment_cons, alignment_cons, List.append_assoc]
      exact laid_loud rest (loud_change old new change)
    · have kept := quiet_keep old new o m k
      have length := length_keep new m here
      cases es with
      | nil =>
        obtain ⟨short, whole⟩ := closing
        have near : ¬ 2 * n < k := by omega
        rw [splitGroups_keep, if_neg near, alignment_cons]
        simp only [alignment, splitGroups, List.flatMap_nil, List.append_nil, List.flatMap_cons,
          List.map_nil]
        refine .last (longRuns_quiet kept) (fun changing => ?_) ?_ ?_ quiet
        · exact absurd changing (not_changing_of_quiet kept)
        · rwa [trailing_quiet kept, length]
        · rwa [trailing_quiet kept, length]
      | cons f es =>
        -- A change follows, so the next group begins with one.
        have change' : f.isKeep = false := parted.1 rfl
        obtain ⟨fits', -⟩ := List.forall_mem_cons.1 later
        have rest := ih parted.2 later closing
        rw [splitGroups_change change'] at rest
        obtain ⟨changing, start⟩ := begins_of_change change' fits' (splitGroups n es).1
        rw [splitGroups_keep, splitGroups_change change', alignment_cons]
        split
        · rename_i long
          rw [List.append_assoc, List.map_cons, alignment_singleton, alignment_cons]
          exact laid_cut rest changing start here long
        · rename_i short
          rw [alignment_cons, List.append_assoc]
          exact laid_quiet rest kept (by omega) changing start

/-! ## Trimmed ends -/

theorem trimFirst_parted {es : List Edit} (h : Parted es) : Parted (trimFirst n es) := by
  fun_cases trimFirst n es with
  | case1 o m k rest => exact parted_head h rfl
  | case2 => exact h

theorem trimLast_parted {es : List Edit} (h : Parted es) : Parted (trimLast n es) := by
  fun_induction trimLast n es with
  | case1 => trivial
  | case2 o m k => trivial
  | case3 e rest last ih =>
    have later := ih (parted_tail h)
    cases rest with
    | nil => trivial
    | cons f rest =>
      cases rest with
      | nil => cases f <;> exact ⟨h.1, trivial⟩
      | cons g rest => cases f <;> exact ⟨h.1, later⟩

theorem trimFirst_fits {es : List Edit} (h : ∀ e ∈ es, Fits old new e) :
    ∀ e ∈ trimFirst n es, Fits old new e := by
  fun_cases trimFirst n es with
  | case1 o m k rest =>
    obtain ⟨here, later⟩ := List.forall_mem_cons.1 h
    refine List.forall_mem_cons.2 ⟨?_, later⟩
    rw [Fits] at here ⊢
    omega
  | case2 => exact h

theorem trimLast_fits {es : List Edit} (h : ∀ e ∈ es, Fits old new e) :
    ∀ e ∈ trimLast n es, Fits old new e := by
  fun_induction trimLast n es with
  | case1 => exact h
  | case2 o m k =>
    have here := h _ (List.mem_singleton_self _)
    intro e member
    obtain rfl := List.mem_singleton.1 member
    rw [Fits] at here ⊢
    omega
  | case3 e rest last ih =>
    obtain ⟨here, later⟩ := List.forall_mem_cons.1 h
    exact List.forall_mem_cons.2 ⟨here, ih later⟩

/-- What is cut from the front is kept, and nothing is cut from a short run. -/
theorem trimFirst_opening (old new : List α) (n : Nat) (es : List Edit) : ∃ before, Quiet before ∧
    alignment old new es = before ++ alignment old new (trimFirst n es) ∧
      Opening n before (trimFirst n es) := by
  fun_cases trimFirst n es with
  | case1 o m k rest =>
    have parts := marks_split old new o m (m + (k - n)) (Nat.sub_le k n)
    refine ⟨_, quiet_keep old new o m (k - n), ?_, Nat.min_le_right k n, fun less => ?_⟩
    · rw [alignment_cons, alignment_cons, parts, List.append_assoc,
        show k - (k - n) = min k n by omega]
    · rw [show k - n = 0 by omega]
      simp [Edit.marks, Edit.oldSpan, slice_nothing]
  | case2 =>
    rename_i other
    refine ⟨[], by simp [Quiet], rfl, ?_⟩
    cases es with
    | nil => rfl
    | cons e rest =>
      cases e with
      | keep o m k => exact (other o m k rest rfl).elim
      | delete | insert | replace => rfl

/-- What is cut from the back is kept, and nothing is cut from a short run. -/
theorem trimLast_closing (old new : List α) (n : Nat) (es : List Edit) : ∃ after, Quiet after ∧
    alignment old new es = alignment old new (trimLast n es) ++ after ∧
      Closing n after (trimLast n es) := by
  fun_induction trimLast n es with
  | case1 => exact ⟨[], by simp [Quiet], rfl, rfl⟩
  | case2 o m k =>
    have parts := marks_split old new o m (m + min k n) (Nat.min_le_left k n)
    refine ⟨_, quiet_keep old new (o + min k n) (m + min k n) (k - min k n), ?_,
      Nat.min_le_right k n, fun less => ?_⟩
    · rw [alignment_singleton, alignment_singleton, parts]
    · rw [show k - min k n = 0 by omega]
      simp [Edit.marks, Edit.oldSpan, slice_nothing]
  | case3 e rest last ih =>
    obtain ⟨after, quiet, parts, closing⟩ := ih
    refine ⟨after, quiet, by rw [alignment_cons, alignment_cons, parts, List.append_assoc], ?_⟩
    cases h : trimLast n rest with
    | nil =>
      rw [h] at closing
      cases e with
      | keep o m k => exact (last o m k rfl (trimLast_eq_nil h)).elim
      | delete | insert | replace => exact closing
    | cons f more =>
      rw [h] at closing
      cases e <;> exact closing

theorem trimLast_opening {before : List (Mark α)} {es : List Edit} (h : Opening n before es) :
    Opening n before (trimLast n es) := by
  fun_cases trimLast n es with
  | case1 => exact h
  | case2 o m k =>
    obtain ⟨short, whole⟩ := h
    exact ⟨Nat.min_le_right k n, fun less => whole (by omega)⟩
  | case3 e rest last => cases e <;> exact h

theorem dropQuietLast_eq {gs : List (List Edit)} (h : ∀ group ∈ gs, isQuiet group = false) :
    dropQuietLast gs = gs := by
  fun_induction dropQuietLast gs with
  | case1 => rfl
  | case2 group quiet =>
    rw [h group (List.mem_singleton_self _)] at quiet
    cases quiet
  | case3 => rfl
  | case4 group more last ih => rw [ih (List.forall_mem_cons.1 h).2]

theorem not_isQuiet {group : List Edit} (change : Changing (alignment old new group)) :
    isQuiet group = false := by
  cases group with
  | nil =>
    obtain ⟨mark, member, -⟩ := change
    cases member
  | cons e es =>
    cases es with
    | nil =>
      cases e with
      | keep o m k =>
        rw [alignment_singleton] at change
        exact absurd change (not_changing_of_quiet (quiet_keep old new o m k))
      | delete | insert | replace => rfl
    | cons f es => cases e <;> rfl

/-! ## Groups -/

theorem changing_of_laid {marks first : List (Mark α)} {more : List (List (Mark α))}
    (h : Laid n marks first more) : ∀ body ∈ more, Changing body := by
  induction h with
  | last => simp
  | next few near ends quiet some change begins rest ih =>
    exact List.forall_mem_cons.2 ⟨change, ih⟩

/-- The first group shows a change, with all of the kept items before it if these are few. -/
theorem splitGroups_first {before : List (Mark α)} {es : List Edit} (parted : Parted es)
    (fits : ∀ e ∈ es, Fits old new e) (opening : Opening n before es)
    (change : Changing (alignment old new es)) :
    Changing (alignment old new (splitGroups n es).1) ∧
      leading (alignment old new (splitGroups n es).1) ≤ n ∧
      (leading (alignment old new (splitGroups n es).1) < n → before = []) := by
  cases es with
  | nil =>
    obtain ⟨mark, member, -⟩ := change
    cases member
  | cons e es =>
    obtain ⟨here, later⟩ := List.forall_mem_cons.1 fits
    obtain first | ⟨o, m, k, rfl⟩ := change_or_keep e
    · obtain ⟨changing, start⟩ := begins_of_change first here (splitGroups n es).1
      rw [splitGroups_change first, start]
      refine ⟨changing, Nat.zero_le n, fun _ => ?_⟩
      cases e with
      | keep o m k => cases first
      | delete | insert | replace => exact opening
    · obtain ⟨short, whole⟩ := opening
      have kept := quiet_keep old new o m k
      cases es with
      | nil =>
        rw [alignment_singleton] at change
        exact absurd change (not_changing_of_quiet kept)
      | cons f es =>
        have next : f.isKeep = false := parted.1 rfl
        obtain ⟨fits', -⟩ := List.forall_mem_cons.1 later
        obtain ⟨changing, start⟩ := begins_of_change next fits' (splitGroups n es).1
        have near : ¬ 2 * n < k := by omega
        rw [splitGroups_keep, if_neg near, splitGroups_change next, alignment_cons,
          leading_quiet_append kept, start, length_keep new m here]
        exact ⟨changing_append.2 (.inr changing), short, whole⟩

/-- The groups of a script with a change lie along its alignment, up to kept items before the first
of them. -/
theorem groups_laid {es : List Edit} (parted : Parted es) (fits : ∀ e ∈ es, Fits old new e)
    (change : Changing (alignment old new es)) : ∃ before marks first more,
      alignment old new es = before ++ marks ∧ Quiet before ∧
      (groups n es).map (alignment old new) = first :: more ∧ Laid n marks first more ∧
      Changing first ∧ leading first ≤ n ∧ (leading first < n → before = []) := by
  obtain ⟨before, quiet, front, opening⟩ := trimFirst_opening old new n es
  obtain ⟨after, quiet', back, closing⟩ :=
    trimLast_closing old new n (trimFirst n es)
  have parted' : Parted (trimLast n (trimFirst n es)) := trimLast_parted (trimFirst_parted parted)
  have fits' : ∀ e ∈ trimLast n (trimFirst n es), Fits old new e :=
    trimLast_fits (trimFirst_fits fits)
  have change' : Changing (alignment old new (trimLast n (trimFirst n es))) := by
    rw [front, back] at change
    have inner := (changing_append.1 change).resolve_left (not_changing_of_quiet quiet)
    exact (changing_append.1 inner).resolve_right (not_changing_of_quiet quiet')
  have laid := splitGroups_laid parted' fits' closing quiet'
  obtain ⟨changing, short, whole⟩ :=
    splitGroups_first parted' fits' (trimLast_opening opening) change'
  refine ⟨before, _, _, _, ?_, quiet, ?_, laid, changing, short, whole⟩
  · rw [front, back]
  · have all : groups n es = (splitGroups n (trimLast n (trimFirst n es))).1 ::
        (splitGroups n (trimLast n (trimFirst n es))).2 := by
      refine dropQuietLast_eq (List.forall_mem_cons.2 ⟨not_isQuiet changing, ?_⟩)
      intro group member
      exact not_isQuiet (changing_of_laid laid _ (List.mem_map_of_mem member))
    rw [all, List.map_cons]

/-- A stretch of a sequence that is not empty names an item. -/
theorem slice_ne_nil {items : List α} {i k : Nat} (some : 0 < k) (within : i + k ≤ items.length) :
    Span.slice ⟨i, i + k⟩ items.toArray ≠ [] := by
  rw [ne_eq, ← List.length_eq_zero_iff, length_slice (by exact within)]
  simp only [Span.length]
  omega

/-- An edit of a script that leads along two sequences takes what it says. -/
theorem fits_of_leads {i j i' j' : Nat} {es : List Edit} (h : Leads old new i j es i' j')
    (hold : i' ≤ old.length) (hnew : j' ≤ new.length) : ∀ e ∈ es, Fits old new e := by
  induction es generalizing i j with
  | nil => simp
  | cons e es ih =>
    obtain ⟨stands, rest⟩ := h
    refine List.forall_mem_cons.2 ⟨?_, ih rest⟩
    have within := leads_le rest
    cases e with
    | keep o m k =>
      obtain ⟨rfl, -⟩ := stands
      rw [length_oldSpan_keep] at within
      exact Nat.le_trans within.1 hold
    | delete o k m =>
      obtain ⟨rfl, some⟩ := stands
      rw [length_oldSpan_delete] at within
      have taken := slice_ne_nil some (Nat.le_trans within.1 hold)
      simp [Fits, Edit.marks, Edit.oldSpan, taken]
    | insert o m k =>
      obtain ⟨rfl, some⟩ := stands
      rw [length_newSpan_insert] at within
      have taken := slice_ne_nil some (Nat.le_trans within.2 hnew)
      simp [Fits, Edit.marks, Edit.newSpan, taken]
    | replace o k m k' =>
      obtain ⟨rfl, -, some, -⟩ := stands
      rw [length_oldSpan_replace] at within
      have taken := slice_ne_nil some (Nat.le_trans within.1 hold)
      simp [Fits, Edit.marks, Edit.oldSpan, taken]

end

end Tandem.Diff
