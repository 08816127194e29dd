import Tandem.Document.Value

/-!
Values with the fields of their records in order.

* `lookup_sortedFields`: each field is still there.
* `sorted_sorted`: order is reached once.

Two values with the same sorted form differ in the order of fields alone.
-/

namespace Tandem.Document.Value

/-- The fields of a record. -/
def fields : Value → List (String × Value)
  | record fields => fields
  | _ => []

@[simp] theorem lookup_cons_if {α : Type} (n m : String) (a : α) (rest : List (String × α)) :
    ((m, a) :: rest).lookup n = if n = m then some a else rest.lookup n := by
  by_cases here : n = m
  · simp [here]
  · rw [if_neg here, List.lookup_cons, beq_false_of_ne here]

theorem name_mem_of_lookup {α : Type} {entries : List (String × α)} {n : String} {a : α}
    (h : entries.lookup n = some a) : n ∈ entries.map Prod.fst := by
  obtain ⟨front, back, rfl, -⟩ := List.lookup_eq_some_iff.1 h
  simp

section
variable {name : String} {v : Value} {fields : List (String × Value)}

/-! ## What is in order -/

theorem lookup_insertField (n : String) :
    (insertField (name, v) fields).lookup n = if n = name then some v else fields.lookup n := by
  induction fields with
  | nil => exact lookup_cons_if n name v []
  | cons other fields ih =>
    obtain ⟨m, u⟩ := other
    unfold insertField
    by_cases before : m < name
    · have apart : m ≠ name := by
        rintro rfl
        exact String.lt_irrefl m before
      rw [if_pos before, lookup_cons_if, lookup_cons_if, ih]
      by_cases here : n = m
      · simp [here, apart]
      · simp [here]
    · rw [if_neg before, lookup_cons_if]

theorem lookup_sortedFields (fields : List (String × Value)) (n : String) :
    (sortedFields fields).lookup n = (fields.lookup n).map sorted := by
  induction fields with
  | nil => rfl
  | cons field fields ih =>
    obtain ⟨m, u⟩ := field
    rw [sortedFields, lookup_insertField, lookup_cons_if, ih]
    split <;> rfl

theorem perm_insertField : (insertField (name, v) fields).Perm ((name, v) :: fields) := by
  induction fields with
  | nil => exact .refl _
  | cons other fields ih =>
    unfold insertField
    split
    · exact (ih.cons other).trans (.swap ..)
    · exact .refl _

theorem perm_sortedFields (fields : List (String × Value)) :
    (sortedFields fields).Perm (fields.map fun field => (field.1, field.2.sorted)) := by
  induction fields with
  | nil => exact .refl _
  | cons field fields ih => exact perm_insertField.trans (ih.cons _)

theorem names_sortedFields (fields : List (String × Value)) :
    ((sortedFields fields).map Prod.fst).Perm (fields.map Prod.fst) := by
  have names := (perm_sortedFields fields).map Prod.fst
  rwa [List.map_map] at names

/-- The names of fields never go down. -/
def Ordered (fields : List (String × Value)) : Prop :=
  fields.Pairwise fun field later => ¬ later.1 < field.1

theorem ordered_insertField (h : Ordered fields) : Ordered (insertField (name, v) fields) := by
  induction fields with
  | nil => exact List.pairwise_singleton ..
  | cons other fields ih =>
    obtain ⟨first, others⟩ := List.pairwise_cons.1 h
    unfold insertField
    split
    · rename_i before
      apply List.pairwise_cons.2 ⟨?_, ih others⟩
      intro field member
      obtain rfl | later := List.mem_cons.1 (perm_insertField.mem_iff.1 member)
      · exact String.lt_asymm before
      · exact first field later
    · rename_i notBefore
      apply List.pairwise_cons.2 ⟨?_, h⟩
      intro field member
      obtain rfl | later := List.mem_cons.1 member
      · exact notBefore
      · have least : name ≤ other.1 := String.not_lt.1 notBefore
        have more : other.1 ≤ field.1 := String.not_lt.1 (first field later)
        exact String.not_lt.2 (String.le_trans least more)

theorem ordered_sortedFields (fields : List (String × Value)) : Ordered (sortedFields fields) := by
  induction fields with
  | nil => exact .nil
  | cons field fields ih => exact ordered_insertField ih

/-! ## Order is reached once -/

theorem insertField_of_ordered (h : Ordered ((name, v) :: fields)) :
    insertField (name, v) fields = (name, v) :: fields := by
  cases fields with
  | nil => rfl
  | cons other fields =>
    have first := (List.pairwise_cons.1 h).1 other (List.mem_cons_self ..)
    rw [insertField, if_neg first]

theorem sortedFields_of_ordered (h : Ordered fields) (settled : ∀ field ∈ fields,
    field.2.sorted = field.2) : sortedFields fields = fields := by
  induction fields with
  | nil => rfl
  | cons field fields ih =>
    obtain ⟨m, u⟩ := field
    obtain ⟨here, later⟩ := List.forall_mem_cons.1 settled
    have value : u.sorted = u := here
    rw [sortedFields, ih (List.pairwise_cons.1 h).2 later, value, insertField_of_ordered h]

end

mutual

theorem sorted_sorted (v : Value) : v.sorted.sorted = v.sorted := by
  match v with
  | null => rfl
  | bool b => rfl
  | int n => rfl
  | real x => rfl
  | text s => rfl
  | list items => exact congrArg list (sortedItems_sortedItems items)
  | record fields =>
    have settled := sorted_of_mem_sortedFields fields
    exact congrArg record (sortedFields_of_ordered (ordered_sortedFields fields) settled)

theorem sortedItems_sortedItems (items : List Value) :
    sortedItems (sortedItems items) = sortedItems items := by
  match items with
  | [] => rfl
  | v :: items =>
    rw [sortedItems, sortedItems, sorted_sorted v, sortedItems_sortedItems items]

theorem sorted_of_mem_sortedFields (fields : List (String × Value)) :
    ∀ field ∈ sortedFields fields, field.2.sorted = field.2 := by
  match fields with
  | [] => simp [sortedFields]
  | (name, v) :: fields =>
    intro field member
    obtain rfl | later := List.mem_cons.1 (perm_insertField.mem_iff.1 member)
    · exact sorted_sorted v
    · exact sorted_of_mem_sortedFields fields field later

end

/-! ## Values that differ in the order of fields alone -/

section
variable {w : Value}

theorem eq_text_of_sorted {s : String} (h : w.sorted = text s) : w = text s := by
  cases w <;> simp_all [sorted]

theorem eq_bool_of_sorted {b : Bool} (h : w.sorted = bool b) : w = bool b := by
  cases w <;> simp_all [sorted]

theorem eq_int_of_sorted {n : Int} (h : w.sorted = int n) : w = int n := by
  cases w <;> simp_all [sorted]

theorem eq_real_of_sorted {x : Number.Binary64} (h : w.sorted = real x) : w = real x := by
  cases w <;> simp_all [sorted]

theorem eq_null_of_sorted (h : w.sorted = null) : w = null := by
  cases w <;> simp_all [sorted]

theorem texts_of_sorted {lines : List String} {items : List Value}
    (h : sortedItems items = lines.map text) : items = lines.map text := by
  induction lines generalizing items with
  | nil => cases items <;> simp_all [sortedItems]
  | cons line lines ih =>
    cases items with
    | nil => simp [sortedItems] at h
    | cons v items =>
      obtain ⟨first, later⟩ := List.cons.inj h
      rw [List.map_cons, ih later, eq_text_of_sorted first]

theorem sorted_texts (lines : List String) : sortedItems (lines.map text) = lines.map text := by
  induction lines with
  | nil => rfl
  | cons line lines ih =>
    rw [List.map_cons, sortedItems, ih]
    rfl

/-- Where one has something, the other has it in some order. -/
theorem exists_of_map_sorted {u? v? : Option Value} {v : Value}
    (same : u?.map sorted = v?.map sorted) (there : v? = some v) :
    ∃ u, u? = some u ∧ u.sorted = v.sorted := by
  rw [there, Option.map_some] at same
  exact Option.map_eq_some_iff.1 same

/-- A record in another order has the same names and, under each, the same value in some order. -/
theorem record_of_sorted {fields : List (String × Value)} (h : w.sorted = (record fields).sorted) :
    ∃ others, w = record others ∧ (others.map Prod.fst).Perm (fields.map Prod.fst) ∧
      ∀ n, (others.lookup n).map sorted = (fields.lookup n).map sorted := by
  cases w with
  | record others =>
    have same : sortedFields others = sortedFields fields := Value.record.inj h
    refine ⟨others, rfl, ?_, ?_⟩
    · have names := names_sortedFields others
      rw [same] at names
      exact names.symm.trans (names_sortedFields fields)
    · intro n
      rw [← lookup_sortedFields, ← lookup_sortedFields, same]
  | _ => simp [sorted] at h

end

end Tandem.Document.Value
