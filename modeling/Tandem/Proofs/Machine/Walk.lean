import Tandem.Machine.Walk
import Tandem.Proofs.Machine.Node

/-!
Where walks lead.

* `Leads`: steps lead from one directory to another, through links and back up.
* `walk_leads`, `leads_of_walk`: a walk goes on from where its first steps lead.
* `walk_names_iff`: names that lead to a node without links lead a walk there.
-/

namespace Tandem.Machine

open Tandem.Host Tandem.Machine.Node

/-- Steps lead from one place to another, where each step down finds a directory or a link to go on
with. Both numbers are of the links that may still be followed. -/
inductive Leads (root : Node) : Nat → List String → List Step → Nat → List String → Prop where
  | done {links : Nat} {here : List String} : Leads root links here [] links here
  | up {links left : Nat} {here there : List String} {rest : List Step}
    (more : Leads root links here.dropLast rest left there) :
    Leads root links here (.up :: rest) left there
  | down {links left : Nat} {here there : List String} {rest : List Step} {name : String}
    {inner : Node} (found : root.get? (here ++ [name]) = some inner)
    (isDir : inner.isDirectory = true) (short : name.utf8ByteSize ≤ nameLimit)
    (more : Leads root links (here ++ [name]) rest left there) :
    Leads root links here (.down name :: rest) left there
  | link {links left : Nat} {here there : List String} {rest : List Step} {name target : String}
    (found : root.get? (here ++ [name]) = some (.link target))
    (short : name.utf8ByteSize ≤ nameLimit)
    (more : Leads root links (if (Host.Path.mk target).isAbsolute then [] else here)
      (stepsOf ⟨target⟩ ++ rest) left there) :
    Leads root (links + 1) here (.down name :: rest) left there

section
variable {root root' node inner : Node} {follow flag : Bool} {links left left' : Nat}
  {here there names : List String} {steps rest : List Step} {name : String} {place : Place}

theorem Leads.mono (h : Leads root links here steps left there) (grows : Grows root root') :
    Leads root' links here steps left there := by
  induction h with
  | done => exact .done
  | up _ ih => exact .up ih
  | down found isDir short _ ih =>
    obtain ⟨inner', found', same | ⟨-, isDir'⟩⟩ := grows _ _ found
    · exact .down found' (same ▸ isDir) short ih
    · exact .down found' isDir' short ih
  | link found short _ ih =>
    obtain ⟨inner', found', rfl | ⟨isDir, -⟩⟩ := grows _ _ found
    · exact .link found' short ih
    · cases isDir

theorem Leads.trans (h : Leads root links here steps left there)
    (h' : Leads root left there rest left' names) :
    Leads root links here (steps ++ rest) left' names := by
  induction h with
  | done => exact h'
  | up _ ih => exact .up (ih h')
  | down found isDir short _ ih => exact .down found isDir short (ih h')
  | link found short _ ih => exact .link found short (by simpa using ih h')

theorem walk_nil_ok_iff :
    walk root follow links flag here [] = .ok place ↔
      ∃ node, root.get? here = some node ∧ (flag = true → node.isDirectory = true) ∧
        place = ⟨here, some node⟩ := by
  rw [walk]
  constructor
  · intro h
    split at h
    · rename_i node found
      split at h
      · cases h
      · rename_i allowed
        exact ⟨node, found, fun set => by simpa [set] using allowed, (Except.ok.inj h).symm⟩
    · cases h
  · rintro ⟨node, found, allowed, rfl⟩
    have passes : (flag && !node.isDirectory) = false := by
      cases flag <;> simp_all
    simp [found, passes]

/-- What a step down comes to, with what follows it. -/
inductive Descent (root : Node) (follow flag : Bool) (here : List String) (name : String)
    (rest : List Step) (place : Place) : Nat → Prop where
  | vacant {links : Nat} (around : ∃ node, root.get? here = some node ∧ node.isDirectory = true)
    (free : root.get? (here ++ [name]) = none) (last : rest = [])
    (ends : place = ⟨here ++ [name], none⟩) : Descent root follow flag here name rest place links
  | linkItself {links : Nat} {target : String}
    (found : root.get? (here ++ [name]) = some (.link target))
    (last : rest = [] ∧ follow = false ∧ flag = false)
    (ends : place = ⟨here ++ [name], some (.link target)⟩) :
    Descent root follow flag here name rest place links
  | through {links : Nat} {target : String}
    (found : root.get? (here ++ [name]) = some (.link target))
    (further : rest ≠ [] ∨ follow = true ∨ flag = true)
    (more : walk root follow links (flag || (rest.isEmpty && endsAsDirectory ⟨target⟩))
      (if (Host.Path.mk target).isAbsolute then [] else here) (stepsOf ⟨target⟩ ++ rest) =
        .ok place) :
    Descent root follow flag here name rest place (links + 1)
  | onward {links : Nat} {inner : Node} (found : root.get? (here ++ [name]) = some inner)
    (plain : inner.kind ≠ .link) (further : rest = [] ∨ inner.isDirectory = true)
    (more : walk root follow links flag (here ++ [name]) rest = .ok place) :
    Descent root follow flag here name rest place links

theorem walk_down_ok_iff :
    walk root follow links flag here (.down name :: rest) = .ok place ↔
      name.utf8ByteSize ≤ nameLimit ∧ Descent root follow flag here name rest place links := by
  rw [walk]
  constructor
  · intro h
    split at h
    · cases h
    · rename_i node around
      split at h
      · cases h
      · rename_i isDir
        replace isDir : node.isDirectory = true := by simpa using isDir
        split at h
        · cases h
        · rename_i short
          refine ⟨Nat.not_lt.1 short, ?_⟩
          have child : root.get? (here ++ [name]) = node.child? name := by
            rw [get?_append, around, Option.bind_some, get?_singleton]
          split at h
          · rename_i none
            split at h
            · rename_i last
              exact .vacant ⟨node, around, isDir⟩ (child.trans none) (by simpa using last)
                (Except.ok.inj h).symm
            · cases h
          · rename_i target found
            split at h
            · rename_i last
              exact .linkItself (child.trans found) (by simpa [and_assoc] using last)
                (Except.ok.inj h).symm
            · rename_i further
              split at h
              · cases h
              · refine .through (child.trans found) ?_ h
                cases rest <;> cases follow <;> cases flag <;> simp_all
          · rename_i inner plain found
            split at h
            · cases h
            · rename_i further
              refine .onward (child.trans found) ?_ ?_ h
              · rintro same
                cases inner <;> simp_all [kind]
              · cases rest <;> simp_all
  · rintro ⟨short, h⟩
    have fits : ¬ nameLimit < name.utf8ByteSize := Nat.not_lt.2 short
    cases h with
    | vacant around free last ends =>
      obtain ⟨node, found, isDir⟩ := around
      have child : node.child? name = none := by
        rwa [get?_append, found, Option.bind_some, get?_singleton] at free
      simp [found, isDir, fits, child, last, ends]
    | linkItself found last ends =>
      obtain ⟨node, around, child⟩ := get?_snoc_eq_some_iff.1 found
      simp [around, isDirectory_of_child? child, fits, child, last, ends]
    | @through links target found further more =>
      obtain ⟨node, around, child⟩ := get?_snoc_eq_some_iff.1 found
      have onward : (rest.isEmpty && !follow && !flag) = false := by
        cases rest <;> cases follow <;> cases flag <;> simp_all
      simp only [around, isDirectory_of_child? child, fits, child, onward]
      exact more
    | @onward links inner found plain further more =>
      obtain ⟨node, around, child⟩ := get?_snoc_eq_some_iff.1 found
      have onward : (!rest.isEmpty && !inner.isDirectory) = false := by
        cases rest <;> simp_all
      simp only [around, isDirectory_of_child? child, fits, child]
      cases inner with
      | link target => exact absurd rfl plain
      | _ => simpa [onward] using more

/-- A link in the middle of a path asks for nothing. -/
theorem flag_of_ne_nil (more : rest ≠ []) (flag ends : Bool) :
    (flag || ((steps ++ rest).isEmpty && ends)) = flag := by
  simp [more]

/-- A walk goes on from where its first steps lead. The steps that follow keep the same flag. -/
theorem walk_leads (h : Leads root links here steps left there) (flag : Bool)
    (further : rest ≠ [] ∨ follow = true ∨ flag = true) :
    ∃ flag', (rest ≠ [] → flag' = flag) ∧ ∀ place,
      walk root follow links flag here (steps ++ rest) = .ok place ↔
        walk root follow left flag' there rest = .ok place := by
  induction h generalizing flag with
  | done => exact ⟨flag, fun _ => rfl, fun place => Iff.rfl⟩
  | up _ ih =>
    obtain ⟨flag', same, goes⟩ := ih flag further
    refine ⟨flag', same, fun place => ?_⟩
    rw [List.cons_append, walk, goes]
  | down found isDir short _ ih =>
    obtain ⟨flag', same, goes⟩ := ih flag further
    refine ⟨flag', same, fun place => ?_⟩
    rw [List.cons_append, walk_down_ok_iff, ← goes]
    constructor
    · rintro ⟨-, descent⟩
      cases descent with
      | vacant _ free => cases found.symm.trans free
      | linkItself found' => cases found.symm.trans found'; cases isDir
      | through found' => cases found.symm.trans found'; cases isDir
      | onward found' _ _ more => exact more
    · intro more
      exact ⟨short, .onward found (plain_of_isDirectory isDir) (.inr isDir) more⟩
  | @link links left here there steps name target found short _ ih =>
    have further' : rest ≠ [] ∨ follow = true ∨
        (flag || ((steps ++ rest).isEmpty && endsAsDirectory ⟨target⟩)) = true :=
      further.imp_right (Or.imp_right fun set => by simp [set])
    obtain ⟨flag', same, goes⟩ := ih _ further'
    refine ⟨flag', fun some => ?_, fun place => ?_⟩
    · rw [same some, flag_of_ne_nil some]
    · rw [List.cons_append, walk_down_ok_iff, ← goes, List.append_assoc]
      constructor
      · rintro ⟨-, descent⟩
        cases descent with
        | vacant _ free => cases found.symm.trans free
        | linkItself _ last =>
          obtain ⟨ended, unfollowed, unset⟩ := last
          simp_all
        | through found' _ more =>
          cases found.symm.trans found'
          exact more
        | onward found' plain => cases found.symm.trans found'; exact absurd rfl plain
      · intro more
        refine ⟨short, .through found ?_ more⟩
        obtain some | follows | set := further
        · exact .inl (by simp [some])
        · exact .inr (.inl follows)
        · exact .inr (.inr set)

/-- A walk that goes on, or that ends at a directory, has been led there. -/
theorem leads_of_walk (h : walk root follow links flag here (steps ++ rest) = .ok place)
    (further : rest ≠ [] ∨
      follow = true ∧ ∃ node, place.node = some node ∧ node.isDirectory = true) :
    ∃ left there flag', Leads root links here steps left there ∧ (rest ≠ [] → flag' = flag) ∧
      walk root follow left flag' there rest = .ok place := by
  -- Every link that is followed counts down `links`, every other step shortens `steps`.
  induction links using Nat.strongRecOn generalizing flag here steps with
  | ind links deeper =>
    induction steps generalizing here with
    | nil => exact ⟨links, here, flag, .done, fun _ => rfl, h⟩
    | cons step steps ih =>
      cases step with
      | up =>
        rw [List.cons_append, walk] at h
        obtain ⟨left, there, flag', leads, same, last⟩ := ih h
        exact ⟨left, there, flag', .up leads, same, last⟩
      | down name =>
        rw [List.cons_append, walk_down_ok_iff] at h
        obtain ⟨short, descent⟩ := h
        cases descent with
        | vacant _ _ last ends =>
          obtain ⟨rfl, rfl⟩ := List.append_eq_nil_iff.1 last
          simp [ends] at further
        | linkItself _ last =>
          obtain ⟨ended, unfollowed, -⟩ := last
          obtain ⟨rfl, rfl⟩ := List.append_eq_nil_iff.1 ended
          simp [unfollowed] at further
        | @through links target found _ more =>
          rw [← List.append_assoc] at more
          obtain ⟨left, there, flag', leads, same, last⟩ :=
            deeper links (Nat.lt_succ_self links) more
          refine ⟨left, there, flag', .link found short leads, fun some => ?_, last⟩
          rw [same some, flag_of_ne_nil some]
        | @onward _ inner found plain onward more =>
          obtain ⟨left, there, flag', leads, same, last⟩ := ih more
          refine ⟨left, there, flag', .down found ?_ short leads, same, last⟩
          obtain ended | isDir := onward
          · obtain ⟨rfl, rfl⟩ := List.append_eq_nil_iff.1 ended
            obtain some | ⟨-, node, stands, isDir⟩ := further
            · exact absurd rfl some
            · obtain ⟨inner', found', -, rfl⟩ := walk_nil_ok_iff.1 more
              obtain rfl := Option.some.inj (found.symm.trans found')
              obtain rfl := Option.some.inj stands
              exact isDir
          · exact isDir

/-- A walk by one name finds nothing where nothing is. -/
theorem walk_free (h : walk root follow links flag here [.down name] = .ok place)
    (free : root.get? (here ++ [name]) = none) :
    name.utf8ByteSize ≤ nameLimit ∧ place = ⟨here ++ [name], none⟩ := by
  obtain ⟨short, descent⟩ := walk_down_ok_iff.1 h
  cases descent with
  | vacant _ _ _ ends => exact ⟨short, ends⟩
  | linkItself found => cases found.symm.trans free
  | through found => cases found.symm.trans free
  | onward found => cases found.symm.trans free

/-- Where a walk by one name finds nothing and would not look through a link, nothing is. -/
theorem free_of_walk (h : walk root false links false here [.down name] = .ok ⟨names, none⟩) :
    root.get? (here ++ [name]) = none := by
  obtain ⟨-, descent⟩ := walk_down_ok_iff.1 h
  cases descent with
  | vacant _ free => exact free
  | linkItself _ _ ends => cases ends
  | through _ further => simp at further
  | onward _ _ _ more =>
    obtain ⟨node, -, -, same⟩ := walk_nil_ok_iff.1 more
    cases same

/-- A walk ends at what stands there, and where it follows links, not at one. -/
theorem walk_stands (h : walk root follow links flag here steps = .ok ⟨names, some node⟩) :
    root.get? names = some node ∧ (follow = true →
      (∃ around, root.get? here = some around ∧ around.isDirectory = true) →
        node.kind ≠ .link) := by
  induction links using Nat.strongRecOn generalizing flag here steps with
  | ind links deeper =>
    induction steps generalizing here with
    | nil =>
      obtain ⟨node', found, -, same⟩ := walk_nil_ok_iff.1 h
      cases same
      refine ⟨found, fun _ ⟨around, found', isDir⟩ => ?_⟩
      obtain rfl := Option.some.inj (found.symm.trans found')
      exact plain_of_isDirectory isDir
    | cons step steps ih =>
      cases step with
      | up =>
        rw [walk] at h
        refine ⟨(ih h).1, fun follows ⟨around, found, isDir⟩ => (ih h).2 follows ?_⟩
        by_cases top : here = []
        · exact ⟨around, by simpa [top] using found, isDir⟩
        · rw [← List.dropLast_concat_getLast top] at found
          exact isDirectory_of_get? found (List.cons_ne_nil _ _)
      | down name =>
        obtain ⟨short, descent⟩ := walk_down_ok_iff.1 h
        cases descent with
        | vacant _ _ _ ends => cases ends
        | linkItself found last ends =>
          cases ends
          refine ⟨found, fun follows => ?_⟩
          rw [last.2.1] at follows
          cases follows
        | @through links target found _ more =>
          obtain ⟨stands, plain⟩ := deeper links (Nat.lt_succ_self links) more
          refine ⟨stands, fun follows ⟨around, found, isDir⟩ => plain follows ?_⟩
          split
          · by_cases top : here = []
            · exact ⟨around, by simpa [top] using found, isDir⟩
            · exact ⟨root, rfl, isDirectory_of_ne_nil found top⟩
          · exact ⟨around, found, isDir⟩
        | @onward _ inner found plain onward more =>
          refine ⟨(ih more).1, fun follows _ => ?_⟩
          obtain rfl | isDir := onward
          · obtain ⟨inner', found', -, same⟩ := walk_nil_ok_iff.1 more
            cases same
            obtain rfl := Option.some.inj (found.symm.trans found')
            exact plain
          · exact (ih more).2 follows ⟨inner, found, isDir⟩

/-- Names that lead to a node without links lead a walk there, if none of them is too long. -/
theorem walk_names_iff (found : root.get? (here ++ names) = some node) (plain : node.kind ≠ .link) :
    walk root follow links flag here (names.map .down) = .ok place ↔
      (∀ name ∈ names, name.utf8ByteSize ≤ nameLimit) ∧
        (flag = true → node.isDirectory = true) ∧ place = ⟨here ++ names, some node⟩ := by
  induction names generalizing here with
  | nil =>
    rw [List.append_nil] at found ⊢
    simp [walk_nil_ok_iff, found]
  | cons name names ih =>
    obtain ⟨inner, there, found', onward⟩ := exists_first found
    have plain' : inner.kind ≠ .link := by
      obtain ⟨-, rfl⟩ | isDir := onward
      · exact plain
      · exact plain_of_isDirectory isDir
    rw [List.append_cons, List.map_cons, walk_down_ok_iff, List.forall_mem_cons, and_assoc,
      ← ih found']
    refine and_congr_right fun short => ⟨fun descent => ?_, fun walked => ?_⟩
    · cases descent with
      | vacant _ free => cases there.symm.trans free
      | linkItself found' => cases there.symm.trans found'; exact absurd rfl plain'
      | through found' => cases there.symm.trans found'; exact absurd rfl plain'
      | onward found' _ _ walked => exact walked
    · exact .onward there plain' (onward.imp_left (by simp [·.1])) walked

/-- Names lead to a directory. -/
theorem leads_names (found : root.get? (here ++ names) = some node)
    (isDir : node.isDirectory = true) (short : ∀ name ∈ names, name.utf8ByteSize ≤ nameLimit) :
    Leads root links here (names.map .down) links (here ++ names) := by
  induction names generalizing here with
  | nil =>
    rw [List.append_nil]
    exact .done
  | cons name names ih =>
    obtain ⟨first, others⟩ := List.forall_mem_cons.1 short
    obtain ⟨inner, there, found', onward⟩ := exists_first found
    rw [List.append_cons]
    refine .down there ?_ first (ih found' others)
    obtain ⟨-, rfl⟩ | isDir' := onward
    · exact isDir
    · exact isDir'

/-- A walk by one name finds what is there. -/
theorem walk_found (h : walk root follow links flag here [.down name] = .ok place)
    (found : root.get? (here ++ [name]) = some node) (plain : node.kind ≠ .link) :
    name.utf8ByteSize ≤ nameLimit ∧ place = ⟨here ++ [name], some node⟩ := by
  have byName : walk root follow links flag here ([name].map .down) = .ok place := h
  obtain ⟨short, -, same⟩ := (walk_names_iff found plain).1 byName
  exact ⟨short name (List.mem_singleton_self name), same⟩

end

end Tandem.Machine
