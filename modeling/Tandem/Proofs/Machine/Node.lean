import Tandem.Machine.Node
import Tandem.Proofs.Host.Parts

/-!
What stands where in a file tree.

* `get?_put_below`, `get?_put_apart`, `put_put`: a node that is put into a place stands there, and
  what is neither around that place nor below it stays as it was.
* `Sound`: a tree as a file system keeps it, whose directories have one entry to a name.
* `Grows`: a tree may get more entries and keeps those that it had.
* `directories`: where in a tree directories stand.
-/

namespace Tandem.Machine.Node

open Tandem.Host

variable {n root root' node inner : Node} {mode mode' : Nat} {entries : List (String × Node)}
  {name other : String} {names place rel : List String}

theorem lookup_putEntry (entries : List (String × Node)) :
    (putEntry name node entries).lookup other =
      if other = name then some node else entries.lookup other := by
  induction entries with
  | nil =>
    by_cases same : other = name
    · simp [putEntry, same]
    · simp [putEntry, List.lookup_cons, same, beq_false_of_ne same]
  | cons entry entries ih =>
    obtain ⟨first, old⟩ := entry
    by_cases here : first = name
    · subst here
      by_cases same : other = first
      · simp [putEntry, same]
      · simp [putEntry, List.lookup_cons, same, beq_false_of_ne same]
    · by_cases same : other = first
      · subst same
        simp [putEntry, here]
      · simp [putEntry, List.lookup_cons, here, beq_false_of_ne same, ih]

theorem putEntry_putEntry (entries : List (String × Node)) :
    putEntry name node (putEntry name inner entries) = putEntry name node entries := by
  induction entries with
  | nil => simp [putEntry]
  | cons entry entries ih =>
    obtain ⟨first, old⟩ := entry
    by_cases same : first = name <;> simp [putEntry, same, ih]

theorem putEntry_self (h : entries.lookup name = some node) :
    putEntry name node entries = entries := by
  induction entries with
  | nil => cases h
  | cons entry entries ih =>
    obtain ⟨first, old⟩ := entry
    by_cases same : first = name
    · subst same
      obtain rfl : old = node := by simpa using h
      simp [putEntry]
    · rw [List.lookup_cons, beq_false_of_ne (Ne.symm same)] at h
      rw [putEntry, if_neg same, ih h]

/-! ## Looking up -/

theorem isDirectory_iff : n.isDirectory = true ↔ ∃ mode entries, n = directory mode entries := by
  cases n <;> simp [isDirectory, kind]

theorem isDirectory_of_kind (h : n.kind = .directory) : n.isDirectory = true :=
  beq_iff_eq.2 h

theorem isDirectory_eq_false (h : n.kind ≠ .directory) : n.isDirectory = false :=
  beq_eq_false_iff_ne.2 h

/-- A directory is no link. -/
theorem plain_of_isDirectory (h : n.isDirectory = true) : n.kind ≠ .link := by
  rw [eq_of_beq h]
  exact nofun

theorem link_or_plain (n : Node) : (∃ target, n = .link target) ∨ n.kind ≠ .link := by
  cases n with
  | link target => exact .inl ⟨target, rfl⟩
  | _ => exact .inr (by simp [kind])

theorem get?_cons (n : Node) (name : String) (rest : List String) :
    n.get? (name :: rest) = (n.child? name).bind (·.get? rest) := by
  rw [get?]
  cases n.child? name <;> rfl

theorem get?_append (n : Node) (names rest : List String) :
    n.get? (names ++ rest) = (n.get? names).bind (·.get? rest) := by
  induction names generalizing n with
  | nil => rfl
  | cons name names ih =>
    rw [List.cons_append, get?_cons, get?_cons]
    cases n.child? name with
    | none => rfl
    | some inner => exact ih inner

/-- Only directories lead on. -/
theorem isDirectory_of_child? (h : n.child? name = some inner) : n.isDirectory = true := by
  cases n <;> first | rfl | cases h

theorem get?_singleton (n : Node) (name : String) : n.get? [name] = n.child? name := by
  rw [get?_cons]
  exact Option.bind_fun_some _

theorem get?_snoc_eq_some_iff :
    n.get? (names ++ [name]) = some inner ↔
      ∃ around, n.get? names = some around ∧ around.child? name = some inner := by
  simp only [get?_append, get?_singleton, Option.bind_eq_some_iff]

/-- Nothing stands below what is no directory. -/
theorem get?_of_not_isDirectory (h : n.isDirectory = false) :
    n.get? names = if names = [] then some n else none := by
  cases names with
  | nil => rfl
  | cons name names =>
    rw [get?_cons]
    cases found : n.child? name with
    | none => rfl
    | some inner =>
      rw [isDirectory_of_child? found] at h
      cases h

theorem isDirectory_of_ne_nil (h : n.get? names = some inner) (further : names ≠ []) :
    n.isDirectory = true := by
  cases known : n.isDirectory with
  | true => rfl
  | false => simp [get?_of_not_isDirectory known, further] at h

/-- A directory holds what leads to an entry. -/
theorem isDirectory_of_get? (h : n.get? (names ++ rel) = some inner) (further : rel ≠ []) :
    ∃ around, n.get? names = some around ∧ around.isDirectory = true := by
  obtain ⟨around, found, there⟩ := Option.bind_eq_some_iff.1 (get?_append n names rel ▸ h)
  exact ⟨around, found, isDirectory_of_ne_nil there further⟩

/-- What stands at the first name on the way to a place. -/
theorem exists_first (h : n.get? (names ++ name :: rel) = some inner) :
    ∃ next, n.get? (names ++ [name]) = some next ∧ n.get? (names ++ [name] ++ rel) = some inner ∧
      (rel = [] ∧ next = inner ∨ next.isDirectory = true) := by
  rw [List.append_cons] at h
  obtain ⟨next, there, more⟩ := Option.bind_eq_some_iff.1 (get?_append n (names ++ [name]) rel ▸ h)
  refine ⟨next, there, h, ?_⟩
  by_cases last : rel = []
  · subst last
    exact .inl ⟨rfl, Option.some.inj more⟩
  · exact .inr (isDirectory_of_ne_nil more last)

/-! ## Putting -/

theorem put_entry (known : (directory mode entries).child? name = some inner) (rest : List String) :
    (directory mode entries).put (name :: rest) node =
      directory mode (putEntry name (inner.put rest node) entries) := by
  cases rest with
  | nil => rw [put, put]
  | cons next rest =>
    change entries.lookup name = some inner at known
    rw [put, known]

/-- What is put below a place changes what stands at that place. -/
theorem put_append (h : root.get? place = some inner) (rel : List String) :
    root.put (place ++ rel) node = root.put place (inner.put rel node) := by
  induction place generalizing root with
  | nil =>
    obtain rfl := Option.some.inj h
    simp [put]
  | cons name place ih =>
    obtain ⟨child, known, there⟩ := Option.bind_eq_some_iff.1 (get?_cons root name place ▸ h)
    obtain ⟨mode, entries, rfl⟩ := isDirectory_iff.1 (isDirectory_of_child? known)
    rw [List.cons_append, put_entry known, put_entry known, ih there]

theorem get?_put_self (h : root.get? place = some inner) (rel : List String) :
    (root.put place node).get? (place ++ rel) = node.get? rel := by
  induction place generalizing root with
  | nil => simp [put]
  | cons name place ih =>
    obtain ⟨child, known, there⟩ := Option.bind_eq_some_iff.1 (get?_cons root name place ▸ h)
    obtain ⟨mode, entries, rfl⟩ := isDirectory_iff.1 (isDirectory_of_child? known)
    rw [put_entry known, List.cons_append, get?_cons, child?, Node.entries, lookup_putEntry,
      if_pos rfl]
    exact ih there

/-- The directory around a place exists. -/
def Offers (root : Node) (place : List String) : Prop :=
  ∀ there name, place = there ++ [name] →
    ∃ around, root.get? there = some around ∧ around.isDirectory = true

theorem offers_of_get? (h : root.get? place = some inner) : root.Offers place := by
  rintro there name rfl
  exact isDirectory_of_get? h (List.cons_ne_nil name [])

/-- What stands above a place is a directory. -/
theorem Offers.isDirectory_above (h : root.Offers (names ++ rel)) (further : rel ≠ [])
    (found : root.get? names = some inner) : inner.isDirectory = true := by
  obtain ⟨there, name, rfl⟩ : ∃ there name, rel = there ++ [name] :=
    ⟨_, _, (List.dropLast_concat_getLast further).symm⟩
  obtain ⟨around, around_found, isDir⟩ := h (names ++ there) name (by simp)
  cases there with
  | nil =>
    rw [List.append_nil, found] at around_found
    obtain rfl := Option.some.inj around_found
    exact isDir
  | cons next there =>
    obtain ⟨_, same, isDir⟩ := isDirectory_of_get? around_found (List.cons_ne_nil next there)
    obtain rfl := Option.some.inj (found.symm.trans same)
    exact isDir

theorem offers_snoc (found : root.get? names = some inner) (isDir : inner.isDirectory = true)
    (name : String) : root.Offers (names ++ [name]) := by
  intro there name' same
  obtain ⟨rfl, -⟩ := List.append_inj' same rfl
  exact ⟨inner, found, isDir⟩

/-- What is put into a place stands there. -/
theorem get?_put_below (h : root.Offers place) (rel : List String) :
    (root.put place node).get? (place ++ rel) = node.get? rel := by
  by_cases whole : place = []
  · subst whole
    simp [put]
  · rw [← List.dropLast_concat_getLast whole] at h ⊢
    obtain ⟨around, found, isDir⟩ := h _ _ rfl
    obtain ⟨mode, entries, rfl⟩ := isDirectory_iff.1 isDir
    rw [put_append found, List.append_assoc, get?_put_self found, put, List.singleton_append,
      get?_cons, child?, Node.entries, lookup_putEntry, if_pos rfl]
    rfl

theorem get?_put (h : root.Offers place) : (root.put place node).get? place = some node := by
  simpa [get?] using get?_put_below h []

/-- Two places of which neither is the other or below it. -/
def Apart (place names : List String) : Prop := ¬ place <+: names ∧ ¬ names <+: place

theorem Apart.symm (h : Apart place names) : Apart names place := ⟨h.2, h.1⟩

theorem Apart.append (h : Apart place names) (rel rel' : List String) :
    Apart (place ++ rel) (names ++ rel') := by
  constructor
  · intro within
    have both : place <+: names ++ rel' := (List.prefix_append place rel).trans within
    obtain first | second := List.prefix_or_prefix_of_prefix both (List.prefix_append names rel')
    · exact h.1 first
    · exact h.2 second
  · intro within
    have both : names <+: place ++ rel := (List.prefix_append names rel').trans within
    obtain first | second := List.prefix_or_prefix_of_prefix both (List.prefix_append place rel)
    · exact h.2 first
    · exact h.1 second

/-- What is put into a place leaves alone what is apart from it. -/
theorem get?_put_apart (h : Apart place names) :
    (root.put place node).get? names = root.get? names := by
  induction place generalizing root names with
  | nil => exact absurd List.nil_prefix h.1
  | cons name place ih =>
    cases names with
    | nil => exact absurd List.nil_prefix h.2
    | cons first names =>
      cases root with
      | directory mode entries =>
        by_cases same : first = name
        · subst same
          have apart : Apart place names :=
            ⟨fun within => h.1 (List.cons_prefix_cons.2 ⟨rfl, within⟩),
              fun within => h.2 (List.cons_prefix_cons.2 ⟨rfl, within⟩)⟩
          cases known : (directory mode entries).child? first with
          | some inner =>
            rw [put_entry known, get?_cons, get?_cons]
            rw [known, child?, Node.entries, lookup_putEntry, if_pos rfl]
            exact ih apart
          | none =>
            cases place with
            | nil => exact absurd List.nil_prefix apart.1
            | cons next place =>
              change entries.lookup first = none at known
              rw [put, known]
        · have kept (child : Node) :
              (directory mode (putEntry name child entries)).get? (first :: names) =
                (directory mode entries).get? (first :: names) := by
            simp only [get?_cons, child?, Node.entries, lookup_putEntry, if_neg same]
          cases place with
          | nil => exact kept node
          | cons next place =>
            cases known : (directory mode entries).child? name with
            | some inner => rw [put_entry known, kept]
            | none =>
              change entries.lookup name = none at known
              rw [put, known]
      | _ => rfl

/-- What stands in a tree after something was put into a place stood there before, or is in that
place, or is a directory around it. -/
theorem exists_of_get?_put (h : root.Offers place)
    (found : (root.put place node).get? names = some inner) (outside : ¬ place <+: names) :
    inner.isDirectory = true ∨ root.get? names = some inner := by
  by_cases above : names <+: place
  · obtain ⟨rel, rfl⟩ := above
    have further : rel ≠ [] := by
      rintro rfl
      exact outside (by simp)
    have put : (root.put (names ++ rel) node).get? (names ++ rel) = some node := get?_put h
    obtain ⟨around, same, isDir⟩ := isDirectory_of_get? put further
    cases found.symm.trans same
    exact .inl isDir
  · exact .inr ((get?_put_apart ⟨outside, above⟩).symm.trans found)

theorem put_put : (root.put place inner).put place node = root.put place node := by
  induction place generalizing root with
  | nil => simp [put]
  | cons name place ih =>
    cases root with
    | directory mode entries =>
      cases known : (directory mode entries).child? name with
      | some child =>
        have known' : (directory mode (putEntry name (child.put place inner) entries)).child? name =
            some (child.put place inner) := by
          rw [child?, Node.entries, lookup_putEntry, if_pos rfl]
        rw [put_entry known, put_entry known', put_entry known, ih, putEntry_putEntry]
      | none =>
        change entries.lookup name = none at known
        cases place with
        | nil => simp only [put, putEntry_putEntry]
        | cons next place => simp only [put, known]
    | _ => rfl

theorem put_self (h : root.get? place = some node) : root.put place node = root := by
  induction place generalizing root with
  | nil => exact (Option.some.inj h).symm
  | cons name place ih =>
    obtain ⟨child, known, there⟩ := Option.bind_eq_some_iff.1 (get?_cons root name place ▸ h)
    obtain ⟨mode, entries, rfl⟩ := isDirectory_iff.1 (isDirectory_of_child? known)
    have listed : entries.lookup name = some child := known
    rw [put_entry known, ih there, putEntry_self listed]

/-- What is put below what was put before. -/
theorem put_put_below (h : root.Offers place) (rel : List String) :
    (root.put place inner).put (place ++ rel) node = root.put place (inner.put rel node) := by
  rw [put_append (get?_put h), put_put]

/-! ## Trees that grow -/

/-- Whatever stands in the first tree stands in the second one too, though a directory may hold more
there. -/
def Grows (root root' : Node) : Prop :=
  ∀ names inner, root.get? names = some inner → ∃ inner', root'.get? names = some inner' ∧
    (inner' = inner ∨ inner.isDirectory = true ∧ inner'.isDirectory = true)

theorem Grows.trans {root'' : Node} (h : Grows root root') (h' : Grows root' root'') :
    Grows root root'' := by
  intro names inner found
  obtain ⟨inner', found', rfl | ⟨isDir, isDir'⟩⟩ := h names inner found
  · exact h' names inner' found'
  · obtain ⟨inner'', found'', rfl | ⟨-, isDir''⟩⟩ := h' names inner' found'
    · exact ⟨inner'', found'', .inr ⟨isDir, isDir'⟩⟩
    · exact ⟨inner'', found'', .inr ⟨isDir, isDir''⟩⟩

/-- A tree grows by what is put into a place, if that has all that was there. -/
theorem grows_put (h : root.Offers place)
    (kept : ∀ rel inner, root.get? (place ++ rel) = some inner → ∃ inner',
      node.get? rel = some inner' ∧
        (inner' = inner ∨ inner.isDirectory = true ∧ inner'.isDirectory = true)) :
    Grows root (root.put place node) := by
  intro names inner found
  by_cases below : place <+: names
  · obtain ⟨rel, rfl⟩ := below
    rw [get?_put_below h rel]
    exact kept rel inner found
  · by_cases above : names <+: place
    · obtain ⟨rel, rfl⟩ := above
      have further : rel ≠ [] := by
        rintro rfl
        exact below (by simp)
      have filled : (root.put (names ++ rel) node).get? (names ++ rel) = some node := get?_put h
      obtain ⟨inner', found', isDir'⟩ := isDirectory_of_get? filled further
      exact ⟨inner', found', .inr ⟨h.isDirectory_above further found, isDir'⟩⟩
    · exact ⟨inner, (get?_put_apart ⟨below, above⟩).trans found, .inl rfl⟩

theorem grows_put_free (h : root.Offers place) (free : root.get? place = none) :
    Grows root (root.put place node) := by
  refine grows_put h fun rel inner found => ?_
  rw [get?_append, free] at found
  cases found

theorem grows_put_empty (found : root.get? place = some (directory mode []))
    (isDir : node.isDirectory = true) : Grows root (root.put place node) := by
  refine grows_put (offers_of_get? found) fun rel inner found' => ?_
  rw [get?_append, found, Option.bind_some] at found'
  cases rel with
  | nil =>
    cases found'
    exact ⟨node, rfl, .inr ⟨rfl, isDir⟩⟩
  | cons name rel => cases found'

/-- The rights of a directory do not matter to what it holds. -/
theorem grows_withMode (found : root.get? place = some node) (isDir : node.isDirectory = true)
    (mode : Nat) : Grows root (root.put place (node.withMode mode)) := by
  obtain ⟨old, entries, rfl⟩ := isDirectory_iff.1 isDir
  refine grows_put (offers_of_get? found) fun rel inner found' => ?_
  rw [get?_append, found, Option.bind_some] at found'
  cases rel with
  | nil =>
    cases found'
    exact ⟨_, rfl, .inr ⟨rfl, rfl⟩⟩
  | cons name rel => exact ⟨inner, found', .inl rfl⟩

/-! ## Sound trees -/

/-- A tree as a file system keeps it: no directory has two entries of one name. -/
inductive Sound : Node → Prop where
  | directory {mode : Nat} {entries : List (String × Node)}
    (distinct : (entries.map Prod.fst).Nodup) (named : ∀ e ∈ entries, EntryName e.1)
    (inside : ∀ e ∈ entries, Sound e.2) : Sound (.directory mode entries)
  | leaf {n : Node} (h : n.isDirectory = false) : Sound n

@[simp] theorem sound_empty (mode : Nat) : (directory mode []).Sound :=
  .directory (by simp) (by simp) (by simp)

@[simp] theorem sound_file (mode : Nat) (bytes : Text.Utf8.Bytes) : (file mode bytes).Sound :=
  .leaf rfl

@[simp] theorem sound_link (target : String) : (link target).Sound := .leaf rfl

@[simp] theorem sound_device (name : String) : (device name).Sound := .leaf rfl

theorem lookup_of_mem (distinct : (entries.map Prod.fst).Nodup) (h : (name, inner) ∈ entries) :
    entries.lookup name = some inner := by
  obtain ⟨front, back, rfl⟩ := List.append_of_mem h
  refine List.lookup_eq_some_iff.2 ⟨front, back, rfl, fun e listed => ?_⟩
  rw [List.map_append, List.nodup_append] at distinct
  have apart := distinct.2.2 e.1 (List.mem_map_of_mem listed) name (by simp)
  simpa using Ne.symm apart

theorem mem_of_lookup (h : entries.lookup name = some inner) : (name, inner) ∈ entries := by
  obtain ⟨front, back, rfl, -⟩ := List.lookup_eq_some_iff.1 h
  simp

theorem Sound.distinct (h : (Node.directory mode entries).Sound) :
    (entries.map Prod.fst).Nodup := by
  cases h with
  | directory distinct => exact distinct
  | leaf leaf => exact absurd leaf (by simp [isDirectory, kind])

theorem Sound.child (h : n.Sound) (found : n.child? name = some inner) :
    EntryName name ∧ inner.Sound := by
  cases h with
  | directory _ named inside =>
    have listed := mem_of_lookup found
    exact ⟨named _ listed, inside _ listed⟩
  | leaf leaf =>
    rw [isDirectory_of_child? found] at leaf
    cases leaf

theorem Sound.get? (h : n.Sound) (found : n.get? names = some inner) :
    (∀ name ∈ names, EntryName name) ∧ inner.Sound := by
  induction names generalizing n with
  | nil =>
    obtain rfl := Option.some.inj found
    exact ⟨by simp, h⟩
  | cons name names ih =>
    obtain ⟨child, known, there⟩ := Option.bind_eq_some_iff.1 (get?_cons n name names ▸ found)
    obtain ⟨named, sound⟩ := h.child known
    obtain ⟨others, inside⟩ := ih sound there
    exact ⟨List.forall_mem_cons.2 ⟨named, others⟩, inside⟩

theorem map_fst_putEntry (entries : List (String × Node)) :
    (putEntry name node entries).map Prod.fst =
      if name ∈ entries.map Prod.fst then entries.map Prod.fst
      else entries.map Prod.fst ++ [name] := by
  induction entries with
  | nil => simp [putEntry]
  | cons entry entries ih =>
    obtain ⟨first, old⟩ := entry
    by_cases here : first = name
    · simp [putEntry, here]
    · by_cases there : name ∈ entries.map Prod.fst <;>
        simp_all [putEntry, Ne.symm here]

theorem mem_putEntry {e : String × Node} (h : e ∈ putEntry name node entries) :
    e = (name, node) ∨ e ∈ entries := by
  induction entries with
  | nil => exact .inl (List.mem_singleton.1 h)
  | cons entry entries ih =>
    obtain ⟨first, old⟩ := entry
    rw [putEntry] at h
    split at h
    · exact (List.mem_cons.1 h).imp_right (List.mem_cons_of_mem _)
    · obtain rfl | more := List.mem_cons.1 h
      · exact .inr (List.mem_cons_self ..)
      · exact (ih more).imp_right (List.mem_cons_of_mem _)

theorem Sound.putEntry (h : (Node.directory mode entries).Sound) (named : EntryName name)
    (sound : node.Sound) : (Node.directory mode (Node.putEntry name node entries)).Sound := by
  cases h with
  | leaf leaf => cases leaf
  | directory distinct names inside =>
    refine .directory ?_ (fun e listed => ?_) (fun e listed => ?_)
    · rw [map_fst_putEntry]
      split
      · exact distinct
      · rename_i fresh
        refine List.nodup_append.2 ⟨distinct, by simp, fun other there _ same here => fresh ?_⟩
        rwa [← List.mem_singleton.1 same, ← here]
    · obtain rfl | old := mem_putEntry listed
      · exact named
      · exact names e old
    · obtain rfl | old := mem_putEntry listed
      · exact sound
      · exact inside e old

/-- A tree stays sound when something sound is put into it. -/
theorem Sound.put (h : root.Sound) (named : ∀ name ∈ place, EntryName name) (sound : node.Sound) :
    (root.put place node).Sound := by
  induction place generalizing root with
  | nil => exact sound
  | cons name place ih =>
    obtain ⟨first, others⟩ := List.forall_mem_cons.1 named
    cases known : root.child? name with
    | some child =>
      obtain ⟨mode, entries, rfl⟩ := isDirectory_iff.1 (isDirectory_of_child? known)
      rw [put_entry known]
      exact h.putEntry first (ih (h.child known).2 others)
    | none =>
      cases root with
      | directory mode entries =>
        cases place with
        | nil => exact h.putEntry first sound
        | cons next place =>
          change entries.lookup name = none at known
          rw [Node.put, known]
          exact h
      | _ => exact h

/-! ## The directories of a tree -/

mutual

/-- The places of all directories in a tree, with its own. -/
def directories : Node → List (List String)
  | directory _ entries => [] :: directoriesIn entries
  | _ => []

/-- The places of all directories among some entries, and in them. -/
def directoriesIn : List (String × Node) → List (List String)
  | [] => []
  | (name, inner) :: rest => (directories inner).map (name :: ·) ++ directoriesIn rest

end

theorem mem_directoriesIn :
    rel ∈ directoriesIn entries ↔ ∃ name inner more,
      (name, inner) ∈ entries ∧ more ∈ directories inner ∧ rel = name :: more := by
  induction entries with
  | nil => simp [directoriesIn]
  | cons e entries ih =>
    obtain ⟨first, node⟩ := e
    rw [directoriesIn, List.mem_append, List.mem_map, ih]
    constructor
    · rintro (⟨more, there, rfl⟩ | ⟨name, inner, more, listed, there, rfl⟩)
      · exact ⟨first, node, more, by simp, there, rfl⟩
      · exact ⟨name, inner, more, by simp [listed], there, rfl⟩
    · rintro ⟨name, inner, more, listed, there, rfl⟩
      obtain same | listed := List.mem_cons.1 listed
      · cases same
        exact .inl ⟨more, there, rfl⟩
      · exact .inr ⟨name, inner, more, listed, there, rfl⟩

theorem mem_directories_iff (sound : n.Sound) :
    rel ∈ n.directories ↔ ∃ inner, n.get? rel = some inner ∧ inner.isDirectory = true := by
  constructor
  · intro listed
    induction rel generalizing n with
    | nil =>
      cases n with
      | directory mode entries => exact ⟨_, rfl, rfl⟩
      | _ => cases listed
    | cons name rel ih =>
      cases n with
      | directory mode entries =>
        obtain ⟨name', child, more, there, deeper, same⟩ :=
          mem_directoriesIn.1 ((List.mem_cons.1 listed).resolve_left (List.cons_ne_nil _ _))
        cases same
        have known : (directory mode entries).child? name = some child :=
          lookup_of_mem sound.distinct there
        rw [get?_cons, known]
        exact ih (sound.child known).2 deeper
      | _ => cases listed
  · rintro ⟨inner, found, isDir⟩
    induction rel generalizing n with
    | nil =>
      obtain rfl := Option.some.inj found
      obtain ⟨mode, entries, rfl⟩ := isDirectory_iff.1 isDir
      exact List.mem_cons_self ..
    | cons name rel ih =>
      obtain ⟨child, known, there⟩ := Option.bind_eq_some_iff.1 (get?_cons n name rel ▸ found)
      obtain ⟨mode, entries, rfl⟩ := isDirectory_iff.1 (isDirectory_of_child? known)
      exact List.mem_cons_of_mem _ (mem_directoriesIn.2
        ⟨name, child, rel, mem_of_lookup known, ih (sound.child known).2 there, rfl⟩)

end Tandem.Machine.Node
