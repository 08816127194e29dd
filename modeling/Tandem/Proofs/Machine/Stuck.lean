import Tandem.Proofs.Machine.Program

/-!
What keeps a path from its end.

* `Stuck`: a walk from a directory cannot go on, and the failure that says why.
* `Hindered`: a path from the root names nothing.
* `lookup_error_iff`: that is all that a path can fail for.
-/

namespace Tandem.Machine

open Tandem.Host Tandem.Machine.Node

/-- A walk from a directory comes to an entry that it cannot go on from. The number is of the links
that may still be followed, and `flag` says whether a directory has to stand at the end. -/
inductive Stuck (root : Node) : Nat → Bool → List String → List Step → IoError → Prop where
  | missing {links : Nat} {flag : Bool} {here : List String} {rest : List Step} {name : String}
    (short : name.utf8ByteSize ≤ nameLimit) (free : root.get? (here ++ [name]) = none) :
    Stuck root links flag here (.down name :: rest) .notFound
  | long {links : Nat} {flag : Bool} {here : List String} {rest : List Step} {name : String}
    (long : nameLimit < name.utf8ByteSize) :
    Stuck root links flag here (.down name :: rest) .nameTooLong
  | wall {links : Nat} {flag : Bool} {here : List String} {rest : List Step} {name : String}
    {inner : Node} (short : name.utf8ByteSize ≤ nameLimit)
    (found : root.get? (here ++ [name]) = some inner) (plain : inner.kind ≠ .link)
    (noDir : inner.isDirectory = false) (further : rest ≠ [] ∨ flag = true) :
    Stuck root links flag here (.down name :: rest) .notDirectory
  | loop {flag : Bool} {here : List String} {rest : List Step} {name target : String}
    (short : name.utf8ByteSize ≤ nameLimit)
    (found : root.get? (here ++ [name]) = some (.link target)) :
    Stuck root 0 flag here (.down name :: rest) .linkLoop
  | up {links : Nat} {flag : Bool} {here : List String} {rest : List Step} {e : IoError}
    (more : Stuck root links flag here.dropLast rest e) :
    Stuck root links flag here (.up :: rest) e
  | onward {links : Nat} {flag : Bool} {here : List String} {rest : List Step} {name : String}
    {inner : Node} {e : IoError} (short : name.utf8ByteSize ≤ nameLimit)
    (found : root.get? (here ++ [name]) = some inner) (isDir : inner.isDirectory = true)
    (more : Stuck root links flag (here ++ [name]) rest e) :
    Stuck root links flag here (.down name :: rest) e
  | through {links : Nat} {flag : Bool} {here : List String} {rest : List Step}
    {name target : String} {e : IoError} (short : name.utf8ByteSize ≤ nameLimit)
    (found : root.get? (here ++ [name]) = some (.link target))
    (more : Stuck root links (flag || (rest.isEmpty && endsAsDirectory ⟨target⟩))
      (if (Host.Path.mk target).isAbsolute then [] else here) (stepsOf ⟨target⟩ ++ rest) e) :
    Stuck root (links + 1) flag here (.down name :: rest) e

section
variable {root node inner : Node} {links : Nat} {flag : Bool} {here there : List String}
  {rest steps : List Step} {name target : String} {e : IoError} {cwd : List String} {p : Path}

/-- A directory lies in a directory, or is the root. -/
theorem isDirectory_dropLast
    (around : ∃ node, root.get? here = some node ∧ node.isDirectory = true) :
    ∃ node, root.get? here.dropLast = some node ∧ node.isDirectory = true := by
  obtain ⟨node, found, isDir⟩ := around
  by_cases top : here = []
  · exact ⟨node, by simpa [top] using found, isDir⟩
  · rw [← List.dropLast_concat_getLast top] at found
    exact isDirectory_of_get? found (List.cons_ne_nil _ _)

theorem isDirectory_start (around : ∃ node, root.get? here = some node ∧ node.isDirectory = true)
    (p : Path) : ∃ node, root.get? (if p.isAbsolute then [] else here) = some node ∧
      node.isDirectory = true := by
  obtain ⟨node, found, isDir⟩ := around
  split
  · by_cases top : here = []
    · exact ⟨node, by simpa [top] using found, isDir⟩
    · exact ⟨root, rfl, isDirectory_of_ne_nil found top⟩
  · exact ⟨node, found, isDir⟩

/-- A walk that has come to a node with no steps left fails only if a directory has to be there. -/
theorem found_nil (found : root.get? here = some node) :
    (walk root true links flag here [] >>= Place.found) = .error e ↔
      (flag = true ∧ node.isDirectory = false) ∧ e = .notDirectory := by
  rw [walk]
  simp only [found]
  cases flag <;> cases node.isDirectory <;>
    simp [bind, Except.bind, Place.found, eq_comm]

theorem stuck_plain_iff (short : name.utf8ByteSize ≤ nameLimit)
    (found : root.get? (here ++ [name]) = some inner) (plain : inner.kind ≠ .link) :
    Stuck root links flag here (.down name :: rest) e ↔
      (inner.isDirectory = false ∧ (rest ≠ [] ∨ flag = true) ∧ e = .notDirectory) ∨
        inner.isDirectory = true ∧ Stuck root links flag (here ++ [name]) rest e := by
  constructor
  · intro stuck
    cases stuck with
    | missing _ free => cases found.symm.trans free
    | long long => omega
    | wall _ found' _ noDir further =>
      cases found.symm.trans found'
      exact .inl ⟨noDir, further, rfl⟩
    | loop _ found' => cases found.symm.trans found'; exact absurd rfl plain
    | onward _ found' isDir more => cases found.symm.trans found'; exact .inr ⟨isDir, more⟩
    | through _ found' => cases found.symm.trans found'; exact absurd rfl plain
  · rintro (⟨noDir, further, rfl⟩ | ⟨isDir, more⟩)
    · exact .wall short found plain noDir further
    · exact .onward short found isDir more

theorem stuck_link_iff (short : name.utf8ByteSize ≤ nameLimit)
    (found : root.get? (here ++ [name]) = some (.link target)) :
    Stuck root links flag here (.down name :: rest) e ↔
      (links = 0 ∧ e = .linkLoop) ∨ ∃ fewer, links = fewer + 1 ∧
        Stuck root fewer (flag || (rest.isEmpty && endsAsDirectory ⟨target⟩))
          (if (Host.Path.mk target).isAbsolute then [] else here) (stepsOf ⟨target⟩ ++ rest) e := by
  constructor
  · intro stuck
    cases stuck with
    | missing _ free => cases found.symm.trans free
    | long long => omega
    | wall _ found' plain => cases found.symm.trans found'; exact absurd rfl plain
    | loop => exact .inl ⟨rfl, rfl⟩
    | onward _ found' isDir => cases found.symm.trans found'; cases isDir
    | through _ found' more => cases found.symm.trans found'; exact .inr ⟨_, rfl, more⟩
  · rintro (⟨rfl, rfl⟩ | ⟨fewer, rfl, more⟩)
    · exact .loop short found
    · exact .through short found more

theorem stuck_free_iff (short : name.utf8ByteSize ≤ nameLimit)
    (free : root.get? (here ++ [name]) = none) :
    Stuck root links flag here (.down name :: rest) e ↔ e = .notFound := by
  constructor
  · intro stuck
    cases stuck with
    | missing => rfl
    | long long => omega
    | wall _ found => cases found.symm.trans free
    | loop _ found => cases found.symm.trans free
    | onward _ found => cases found.symm.trans free
    | through _ found => cases found.symm.trans free
  · rintro rfl
    exact .missing short free

theorem stuck_long_iff (long : nameLimit < name.utf8ByteSize) :
    Stuck root links flag here (.down name :: rest) e ↔ e = .nameTooLong := by
  constructor
  · intro stuck
    cases stuck with
    | long => rfl
    | missing short | wall short | loop short | onward short | through short => omega
  · rintro rfl
    exact .long long

theorem found_down_free (around : root.get? here = some node) (isDir : node.isDirectory = true)
    (short : name.utf8ByteSize ≤ nameLimit) (child : node.child? name = none) :
    (walk root true links flag here (.down name :: rest) >>= Place.found) = .error .notFound := by
  rw [walk]
  simp only [around, isDir, Nat.not_lt.2 short, child]
  cases rest <;> rfl

theorem found_down_long (around : root.get? here = some node) (isDir : node.isDirectory = true)
    (long : nameLimit < name.utf8ByteSize) :
    (walk root true links flag here (.down name :: rest) >>= Place.found) =
      .error .nameTooLong := by
  rw [walk]
  simp only [around, isDir, long]
  rfl

/-- A walk from a directory finds nothing just where it gets stuck. -/
theorem stuck_iff (around : ∃ node, root.get? here = some node ∧ node.isDirectory = true) :
    (walk root true links flag here steps >>= Place.found) = .error e ↔
      Stuck root links flag here steps e := by
  -- Every link that is followed counts down `links`, every other step shortens `steps`.
  induction links using Nat.strongRecOn generalizing flag here steps with
  | ind links deeper =>
    induction steps generalizing here with
    | nil =>
      obtain ⟨node, found, isDir⟩ := around
      rw [found_nil found, isDir]
      exact iff_of_false (by simp) nofun
    | cons step steps ih =>
      cases step with
      | up =>
        rw [walk, ih (isDirectory_dropLast around)]
        constructor
        · exact .up
        · rintro ⟨⟩
          assumption
      | down name =>
        obtain ⟨node, stands, isDir⟩ := id around
        by_cases long : nameLimit < name.utf8ByteSize
        · rw [found_down_long stands isDir long, stuck_long_iff long, Except.error.injEq, eq_comm]
        · have short := Nat.not_lt.1 long
          cases child : node.child? name with
          | none =>
            have free : root.get? (here ++ [name]) = none := by
              rw [get?_append, stands, Option.bind_some, get?_singleton, child]
            rw [found_down_free stands isDir short child, stuck_free_iff short free,
              Except.error.injEq, eq_comm]
          | some inner =>
            have found : root.get? (here ++ [name]) = some inner :=
              get?_snoc_eq_some_iff.2 ⟨node, stands, child⟩
            obtain ⟨target, rfl⟩ | plain := inner.link_or_plain
            · rw [walk_link stands short child, stuck_link_iff short found]
              simp only [Bool.not_true, Bool.and_false, Bool.false_and, Bool.false_eq_true,
                if_false]
              cases links with
              | zero =>
                constructor
                · rintro ⟨⟩
                  exact .inl ⟨rfl, rfl⟩
                · rintro (⟨-, rfl⟩ | ⟨_, none, -⟩)
                  · rfl
                  · cases none
              | succ links =>
                rw [deeper links (Nat.lt_succ_self links) (isDirectory_start around ⟨target⟩)]
                simp
            · rw [walk_plain stands short child plain, stuck_plain_iff short found plain]
              cases isDir' : inner.isDirectory with
              | true =>
                simp only [Bool.not_true, Bool.and_false, Bool.false_eq_true, if_false]
                rw [ih ⟨inner, found, isDir'⟩]
                simp
              | false =>
                cases steps with
                | nil =>
                  simp only [List.isEmpty_nil, Bool.not_true, Bool.false_and, Bool.false_eq_true,
                    if_false]
                  rw [found_nil found, isDir']
                  simp
                | cons step steps =>
                  simp [bind, Except.bind, eq_comm]

/-- A link that leads to itself is never got past, however many links may be followed. -/
theorem stuck_cycle (short : name.utf8ByteSize ≤ nameLimit)
    (found : root.get? (here ++ [name]) = some (.link target))
    (relative : (Host.Path.mk target).isAbsolute = false)
    (again : stepsOf ⟨target⟩ = [.down name]) :
    Stuck root links flag here (.down name :: rest) .linkLoop := by
  induction links generalizing flag with
  | zero => exact .loop short found
  | succ links ih =>
    refine .through short found ?_
    rw [relative, again]
    exact ih

/-- A path from the root names nothing: it cannot be asked for, or a walk along it gets stuck. -/
inductive Hindered (root : Node) (p : Path) : IoError → Prop where
  | nul (nul : '\x00' ∈ p.text.toList) : Hindered root p .nulInPath
  | long (noNul : '\x00' ∉ p.text.toList) (long : pathLimit ≤ p.text.utf8ByteSize) :
    Hindered root p .nameTooLong
  | stuck {e : IoError} (sayable : Sayable p)
    (stuck : Stuck root linkLimit (endsAsDirectory p) [] (stepsOf p) e) : Hindered root p e

/-- A walk that comes to nothing is in the way of every path that it is the walk of. -/
theorem Stuck.hindered {flag : Bool} {steps : List Step} {e : IoError}
    (h : Stuck root linkLimit flag [] steps e) (sayable : Sayable p) (walk : stepsOf p = steps)
    (ends : endsAsDirectory p = flag) : Hindered root p e := by
  subst walk ends
  exact .stuck sayable h

theorem lookup_error_iff (absolute : p.isAbsolute = true) (isDir : root.isDirectory = true) :
    lookup root cwd p = .error e ↔ Hindered root p e := by
  have filled : p.isEmpty = false := by
    obtain ⟨rest, text⟩ := Path.isAbsolute_iff.1 absolute
    rw [Path.isEmpty, String.isEmpty_eq_false_iff]
    rintro empty
    simp [empty] at text
  rw [lookup_eq, locate]
  by_cases nul : '\x00' ∈ p.text.toList
  · simp only [String.contains_char_eq, nul, decide_true, if_true]
    constructor
    · rintro ⟨⟩
      exact .nul nul
    · intro hindered
      cases hindered with
      | nul => rfl
      | long noNul => exact absurd nul noNul
      | stuck sayable => exact absurd nul sayable.noNul
  · simp only [String.contains_char_eq, nul, decide_false, Bool.false_eq_true, if_false, filled]
    by_cases long : pathLimit ≤ p.text.utf8ByteSize
    · simp only [long, if_true]
      constructor
      · rintro ⟨⟩
        exact .long nul long
      · intro hindered
        cases hindered with
        | nul nul' => exact absurd nul' nul
        | long => rfl
        | stuck sayable => exact absurd sayable.short (Nat.not_lt.2 long)
    · simp only [long, if_false, absolute, if_true]
      have around : ∃ node, root.get? [] = some node ∧ node.isDirectory = true :=
        ⟨root, rfl, isDir⟩
      rw [stuck_iff around]
      constructor
      · exact .stuck ⟨nul, filled, Nat.not_le.1 long⟩
      · intro hindered
        cases hindered with
        | nul nul' => exact absurd nul' nul
        | long _ long' => exact absurd long' long
        | stuck _ stuck => exact stuck

end

end Tandem.Machine
