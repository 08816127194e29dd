import Tandem.Proofs.Machine.Node

/-!
A file tree without what stands at one place.

* `erase_fill_apart`: what is done to a place can be done with or without what is apart from it.
* `erase_fill_below`: without a place, nothing shows what is done there.
* `grows_erase`: a tree without a place has nothing that the tree does not have.
-/

namespace Tandem.Machine.Node

open Tandem.Host

variable {root node inner : Node} {mode : Nat} {entries : List (String × Node)}
  {name other : String} {place there names rel : List String} {node? : Option Node}

/-! ## Entries of one directory -/

theorem lookup_filter (entries : List (String × Node)) :
    (entries.filter fun e => e.1 ≠ name).lookup other =
      if other = name then none else entries.lookup other := by
  induction entries with
  | nil => simp
  | cons entry entries ih =>
    obtain ⟨first, old⟩ := entry
    rw [List.filter_cons]
    by_cases gone : first = name
    · rw [if_neg (by simp [gone]), ih]
      by_cases same : other = name
      · simp [same]
      · simp [same, List.lookup_cons, beq_false_of_ne (gone ▸ same)]
    · rw [if_pos (by simp [gone])]
      by_cases same : other = first
      · simp [same, gone]
      · simp only [List.lookup_cons, beq_false_of_ne same, ih]

theorem filter_of_lookup (h : entries.lookup name = none) :
    (entries.filter fun e => e.1 ≠ name) = entries := by
  refine List.filter_eq_self.2 fun e listed => decide_eq_true fun same => ?_
  exact absurd (List.lookup_eq_none_iff.1 h e listed) (by simp [same])

theorem filter_putEntry_self (entries : List (String × Node)) :
    (putEntry name node entries).filter (fun e => e.1 ≠ name) =
      entries.filter fun e => e.1 ≠ name := by
  induction entries with
  | nil => simp [putEntry]
  | cons entry entries ih =>
    obtain ⟨first, old⟩ := entry
    by_cases same : first = name <;> simp_all [putEntry]

theorem filter_putEntry (apart : other ≠ name) (entries : List (String × Node)) :
    (putEntry other node entries).filter (fun e => e.1 ≠ name) =
      putEntry other node (entries.filter fun e => e.1 ≠ name) := by
  induction entries with
  | nil => simp [putEntry, apart]
  | cons entry entries ih =>
    obtain ⟨first, old⟩ := entry
    by_cases gone : first = name
    · have apart' : first ≠ other := fun same => apart (same.symm.trans gone)
      simp_all [putEntry]
    · by_cases same : first = other <;> simp_all [putEntry]

/-- Entries that are there already can be replaced in any order. -/
theorem putEntry_comm (apart : other ≠ name) (there : (entries.lookup name).isSome = true) :
    putEntry name node (putEntry other inner entries) =
      putEntry other inner (putEntry name node entries) := by
  induction entries with
  | nil => cases there
  | cons entry entries ih =>
    obtain ⟨first, old⟩ := entry
    by_cases here : first = name
    · subst here
      simp [putEntry, apart.symm]
    · by_cases same : first = other
      · subst same
        simp [putEntry, here]
      · have there' : (entries.lookup name).isSome = true := by
          simpa [List.lookup_cons, beq_false_of_ne (Ne.symm here)] using there
        simp [putEntry, here, same, ih there']

/-! ## Places -/

/-- A tree with this, or nothing, at a place. -/
def fill (root : Node) (place : List String) : Option Node → Node
  | some node => root.put place node
  | none => root.erase place

/-- What is done to one entry of a directory. -/
def fillEntry (name : String) (entries : List (String × Node)) : Option Node → List (String × Node)
  | some node => putEntry name node entries
  | none => entries.filter fun e => e.1 ≠ name

theorem fill_name (node? : Option Node) :
    (directory mode entries).fill [name] node? =
      directory mode (fillEntry name entries node?) := by
  cases node? <;> rfl

theorem fill_inside (known : entries.lookup name = some inner) (further : rel ≠ [])
    (node? : Option Node) :
    (directory mode entries).fill (name :: rel) node? =
      directory mode (putEntry name (inner.fill rel node?) entries) := by
  cases rel with
  | nil => exact absurd rfl further
  | cons next rel => cases node? <;> simp [fill, put, erase, known]

theorem fill_nowhere (unknown : entries.lookup name = none) (further : rel ≠ [])
    (node? : Option Node) :
    (directory mode entries).fill (name :: rel) node? = directory mode entries := by
  cases rel with
  | nil => exact absurd rfl further
  | cons next rel => cases node? <;> simp [fill, put, erase, unknown]

theorem fill_leaf (leaf : root.isDirectory = false) (further : place ≠ []) (node? : Option Node) :
    root.fill place node? = root := by
  cases place with
  | nil => exact absurd rfl further
  | cons name rel => cases root <;> cases node? <;> first | rfl | cases leaf

theorem filter_fillEntry (apart : other ≠ name) (node? : Option Node) :
    (fillEntry other entries node?).filter (fun e => e.1 ≠ name) =
      fillEntry other (entries.filter fun e => e.1 ≠ name) node? := by
  cases node? with
  | some node => exact filter_putEntry apart entries
  | none => simp only [fillEntry, List.filter_filter, Bool.and_comm]

theorem putEntry_fillEntry (apart : other ≠ name) (there : (entries.lookup name).isSome = true)
    (node? : Option Node) :
    putEntry name node (fillEntry other entries node?) =
      fillEntry other (putEntry name node entries) node? := by
  cases node? with
  | some inner => exact putEntry_comm apart there
  | none => exact (filter_putEntry apart.symm entries).symm

theorem lookup_fillEntry (apart : other ≠ name) (node? : Option Node) :
    (fillEntry other entries node?).lookup name = entries.lookup name := by
  cases node? with
  | some node => exact (lookup_putEntry entries).trans (if_neg apart.symm)
  | none => exact (lookup_filter entries).trans (if_neg apart.symm)

/-- Two entries of different names can be changed in any order, one of them being erased or there
already. -/
theorem fillEntry_comm (apart : other ≠ name)
    (there : node? = none ∨ (entries.lookup name).isSome = true) (other? : Option Node) :
    fillEntry name (fillEntry other entries other?) node? =
      fillEntry other (fillEntry name entries node?) other? := by
  cases node? with
  | none => exact filter_fillEntry apart other?
  | some node => exact putEntry_fillEntry apart (there.resolve_left nofun) other?

/-- What is done below a name of a directory changes its entry of this name, or nothing. -/
theorem exists_fillEntry (name : String) (rel : List String) (node? : Option Node)
    (entries : List (String × Node)) :
    (∃ new?, (new? = node? ∨ (entries.lookup name).isSome = true) ∧
      ∀ mode others, others.lookup name = entries.lookup name →
        (directory mode others).fill (name :: rel) node? =
          directory mode (fillEntry name others new?)) ∨
    ∀ mode others, others.lookup name = entries.lookup name →
      (directory mode others).fill (name :: rel) node? = directory mode others := by
  by_cases last : rel = []
  · subst last
    exact .inl ⟨node?, .inl rfl, fun mode others _ => fill_name node?⟩
  · cases found : entries.lookup name with
    | none => exact .inr fun mode others same => fill_nowhere same last node?
    | some inner =>
      exact .inl ⟨some (inner.fill rel node?), .inr rfl,
        fun mode others same => fill_inside same last node?⟩

theorem Apart.tail (h : Apart (name :: place) (name :: names)) : Apart place names :=
  ⟨fun within => h.1 (List.cons_prefix_cons.2 ⟨rfl, within⟩),
    fun within => h.2 (List.cons_prefix_cons.2 ⟨rfl, within⟩)⟩

theorem Apart.ne_nil (h : Apart place names) : place ≠ [] ∧ names ≠ [] := by
  constructor
  · rintro rfl
    exact h.1 List.nil_prefix
  · rintro rfl
    exact h.2 List.nil_prefix

/-! ## Without a place -/

/-- What is done to a place leaves alone what is apart from it. -/
theorem get?_fill_apart (h : Apart place names) (node? : Option Node) :
    (root.fill place node?).get? names = root.get? names := by
  induction place generalizing root names with
  | nil => exact absurd rfl h.ne_nil.1
  | cons name place ih =>
    cases names with
    | nil => exact absurd rfl h.ne_nil.2
    | cons first names =>
      cases known : root.isDirectory with
      | false => rw [fill_leaf known (List.cons_ne_nil name place)]
      | true =>
        obtain ⟨mode, entries, rfl⟩ := isDirectory_iff.1 known
        rw [get?_cons, get?_cons]
        by_cases further : place = []
        · subst further
          have other : name ≠ first := by
            rintro rfl
            exact h.1 (by simp)
          rw [fill_name, child?, Node.entries, lookup_fillEntry other]
          rfl
        · cases found : entries.lookup name with
          | none => rw [fill_nowhere found further]
          | some inner =>
            rw [fill_inside found further, child?, Node.entries, lookup_putEntry, child?,
              Node.entries]
            split
            · rename_i same
              subst same
              rw [found]
              exact ih h.tail
            · rfl

/-- Nothing stands at a place that was erased, or below it. -/
theorem get?_erase_below (further : place ≠ []) (rel : List String) :
    (root.erase place).get? (place ++ rel) = none := by
  induction place generalizing root with
  | nil => exact absurd rfl further
  | cons name place ih =>
    change (root.fill (name :: place) none).get? _ = none
    rw [List.cons_append, get?_cons]
    cases known : root.isDirectory with
    | false =>
      rw [fill_leaf known further]
      cases root <;> first | rfl | cases known
    | true =>
      obtain ⟨mode, entries, rfl⟩ := isDirectory_iff.1 known
      by_cases last : place = []
      · subst last
        rw [fill_name, child?, Node.entries, fillEntry, lookup_filter, if_pos rfl]
        rfl
      · cases found : entries.lookup name with
        | none =>
          rw [fill_nowhere found last, child?, Node.entries, found]
          rfl
        | some inner =>
          rw [fill_inside found last, child?, Node.entries, lookup_putEntry, if_pos rfl]
          exact ih last

/-- What stands above a place that is erased stands there without it. -/
theorem get?_erase_above (further : rel ≠ []) :
    (root.erase (names ++ rel)).get? names = (root.get? names).map (·.erase rel) := by
  induction names generalizing root with
  | nil => rfl
  | cons name names ih =>
    have last : names ++ rel ≠ [] := by simp [further]
    change (root.fill (name :: (names ++ rel)) none).get? (name :: names) = _
    rw [get?_cons, get?_cons]
    cases known : root.isDirectory with
    | false =>
      rw [fill_leaf known (List.cons_ne_nil _ _)]
      cases root <;> first | rfl | cases known
    | true =>
      obtain ⟨mode, entries, rfl⟩ := isDirectory_iff.1 known
      cases found : entries.lookup name with
      | none =>
        rw [fill_nowhere found last, child?, Node.entries, found]
        rfl
      | some inner =>
        rw [fill_inside found last, child?, Node.entries, lookup_putEntry, if_pos rfl, child?,
          Node.entries, found]
        exact ih

/-- Where nothing is, nothing is erased. -/
theorem erase_of_get? (h : root.get? place = none) : root.erase place = root := by
  induction place generalizing root with
  | nil => cases h
  | cons name place ih =>
    change root.fill (name :: place) none = root
    cases known : root.isDirectory with
    | false => exact fill_leaf known (List.cons_ne_nil _ _) none
    | true =>
      obtain ⟨mode, entries, rfl⟩ := isDirectory_iff.1 known
      rw [get?_cons, child?, Node.entries] at h
      by_cases last : place = []
      · subst last
        rw [fill_name, fillEntry, filter_of_lookup]
        simpa [get?] using h
      · cases found : entries.lookup name with
        | none => exact fill_nowhere found last none
        | some inner =>
          rw [found] at h
          rw [fill_inside found last]
          exact congrArg (directory mode) (by rw [fill, ih h, putEntry_self found])

/-- Without a place, nothing shows what was done there. -/
theorem erase_fill_below (further : place ≠ []) (rel : List String) (node? : Option Node) :
    (root.fill (place ++ rel) node?).erase place = root.erase place := by
  induction place generalizing root with
  | nil => exact absurd rfl further
  | cons name place ih =>
    change (root.fill (name :: (place ++ rel)) node?).fill (name :: place) none =
      root.fill (name :: place) none
    cases known : root.isDirectory with
    | false => rw [fill_leaf known (List.cons_ne_nil _ _)]
    | true =>
      obtain ⟨mode, entries, rfl⟩ := isDirectory_iff.1 known
      by_cases here : place ++ rel = []
      · obtain ⟨rfl, rfl⟩ := List.append_eq_nil_iff.1 here
        rw [List.append_nil, fill_name, fill_name, fill_name]
        cases node? with
        | some node => exact congrArg (directory mode) (filter_putEntry_self entries)
        | none => simp [fillEntry]
      · cases found : entries.lookup name with
        | none => rw [fill_nowhere found here]
        | some inner =>
          rw [fill_inside found here]
          by_cases last : place = []
          · subst last
            rw [fill_name, fill_name]
            exact congrArg (directory mode) (filter_putEntry_self entries)
          · rw [fill_inside ((lookup_putEntry entries).trans (if_pos rfl)) last,
              fill_inside found last, putEntry_putEntry]
            exact congrArg (fun inner => directory mode (putEntry name inner entries)) (ih last)

/-- Without what was put where nothing was, a tree is as it was. -/
theorem erase_put_free (further : place ≠ []) (free : root.get? place = none) :
    (root.put place node).erase place = root := by
  have same : (root.fill (place ++ []) (some node)).erase place = root.erase place :=
    erase_fill_below further [] (some node)
  rw [List.append_nil, erase_of_get? free] at same
  exact same

/-- What is done to a place does not matter to the rest of the tree, and the other way around. -/
theorem erase_fill_apart (h : Apart place names) (node? : Option Node) :
    (root.fill names node?).erase place = (root.erase place).fill names node? := by
  induction place generalizing root names with
  | nil => exact absurd rfl h.ne_nil.1
  | cons name place ih =>
    cases names with
    | nil => exact absurd rfl h.ne_nil.2
    | cons first names =>
      change (root.fill (first :: names) node?).fill (name :: place) none =
        (root.fill (name :: place) none).fill (first :: names) node?
      cases known : root.isDirectory with
      | false => simp [fill_leaf known]
      | true =>
        obtain ⟨mode, entries, rfl⟩ := isDirectory_iff.1 known
        by_cases same : first = name
        · subst same
          obtain ⟨last, last'⟩ := h.tail.ne_nil
          cases found : entries.lookup first with
          | none => rw [fill_nowhere found last', fill_nowhere found last, fill_nowhere found last']
          | some inner =>
            have entry (node : Node) : (putEntry first node entries).lookup first = some node :=
              (lookup_putEntry entries).trans (if_pos rfl)
            rw [fill_inside found last', fill_inside (entry _) last, fill_inside found last,
              fill_inside (entry _) last', putEntry_putEntry, putEntry_putEntry]
            exact congrArg (fun inner => directory mode (putEntry first inner entries)) (ih h.tail)
        · have other : first ≠ name := same
          obtain ⟨new?, there, erased⟩ | erased := exists_fillEntry name place none entries
          · obtain ⟨other?, -, filled⟩ | filled := exists_fillEntry first names node? entries
            · rw [filled _ _ rfl, erased _ _ (lookup_fillEntry other _), erased _ _ rfl,
                filled _ _ (lookup_fillEntry other.symm _)]
              exact congrArg (directory mode) (fillEntry_comm other there other?)
            · rw [filled _ _ rfl, erased _ _ rfl, filled _ _ (lookup_fillEntry other.symm _)]
          · obtain ⟨other?, -, filled⟩ | filled := exists_fillEntry first names node? entries
            · rw [filled _ _ rfl, erased _ _ (lookup_fillEntry other _), erased _ _ rfl,
                filled _ _ rfl]
            · rw [filled _ _ rfl, erased _ _ rfl, filled _ _ rfl]

theorem grows_erase (further : place ≠ []) : Grows (root.erase place) root := by
  intro names inner found
  by_cases below : place <+: names
  · obtain ⟨rel, rfl⟩ := below
    rw [get?_erase_below further] at found
    cases found
  · by_cases above : names <+: place
    · obtain ⟨rel, rfl⟩ := above
      have last : rel ≠ [] := by
        rintro rfl
        exact below (by simp)
      rw [get?_erase_above last] at found
      obtain ⟨inner', found', rfl⟩ := Option.map_eq_some_iff.1 found
      refine ⟨inner', found', ?_⟩
      cases known : inner'.isDirectory with
      | false => exact .inl (fill_leaf known last none).symm
      | true =>
        obtain ⟨mode, entries, rfl⟩ := isDirectory_iff.1 known
        refine .inr ⟨?_, rfl⟩
        cases rel with
        | nil => exact absurd rfl last
        | cons name rel =>
          obtain ⟨new?, -, erased⟩ | erased := exists_fillEntry name rel none entries
          · exact congrArg isDirectory (erased mode entries rfl)
          · exact congrArg isDirectory (erased mode entries rfl)
    · exact ⟨inner, (get?_fill_apart ⟨below, above⟩ none).symm.trans found, .inl rfl⟩

end Tandem.Machine.Node
