import Tandem.Proofs.Sandbox.Tenancy

/-!
Working directories belong to one call each, whatever else goes on.

* `number_of_name`: a name tells the number that it was made with.
* `Ledger`: no two names of one process are tried with the same draw from its counter.
* `directories_exclusive`: what a call has made, what it holds and what it has tried, in every scene.
-/

namespace Tandem.Sandbox.Tenancy

open Tandem.Host Tandem.Machine Tandem.Machine.Node Tandem.Text

/-! ## Names -/

/-- What follows the last separator is the same in lists that are the same. -/
theorem eq_of_append_cons {α : Type} {front front' back back' : List α} {c : α}
    (h : front ++ c :: back = front' ++ c :: back') (last : c ∉ back) (last' : c ∉ back') :
    back = back' := by
  obtain ⟨more, -, same⟩ | ⟨more, -, same⟩ := List.append_eq_append_iff.1 h
  · cases more with
    | nil => exact (List.cons.inj same).2
    | cons first more =>
      rw [(List.cons.inj same).2] at last
      exact absurd (by simp) last
  · cases more with
    | nil => exact (List.cons.inj same).2.symm
    | cons first more =>
      rw [(List.cons.inj same).2] at last'
      exact absurd (by simp) last'

/-- Whatever the labels and processes are, names are told apart by their numbers. -/
theorem number_of_name {label label' : String} {pid pid' : UInt32} {n n' : Nat}
    (h : WorkDir.name label pid n = WorkDir.name label' pid' n') : n = n' := by
  have text (label : String) (pid : UInt32) (n : Nat) : (WorkDir.name label pid n).toList =
      (label ++ "_" ++ toString pid.toNat).toList ++ '_' :: (toString n).toList := by
    have name : WorkDir.name label pid n =
        label ++ "_" ++ toString pid.toNat ++ "_" ++ toString n := rfl
    simp [name, String.toList_append]
  have lists := congrArg String.toList h
  rw [text, text] at lists
  have digits := eq_of_append_cons lists (not_mem_digits (by decide) n)
    (not_mem_digits (by decide) n')
  exact toString_nat_inj (String.toList_inj.1 digits)

/-! ## Numbers -/

section
variable {ι κ : Type} {o : Office ι κ} {s s' : Scene ι κ} {i j : ι}

/-- What is known of the numbers that were drawn: each is tried once at most, by the call that has
drawn it. -/
structure Ledger (o : Office ι κ) (s : Scene ι κ) : Prop where
  named : ∀ a ∈ s.attempts, a.path = o.path a.caller a.drawn
  early : ∀ a ∈ s.attempts, a.drawn < s.drawn (o.process a.caller)
  pending : ∀ i n, (s.tenants i).drawn = some n → n < s.drawn (o.process i) ∧
    ∀ a ∈ s.attempts, o.process a.caller = o.process i → a.drawn ≠ n
  apart : ∀ i j n, (s.tenants i).drawn = some n → (s.tenants j).drawn = some n →
    o.process i = o.process j → i = j
  distinct : s.attempts.Pairwise fun a b =>
    o.process a.caller = o.process b.caller → a.drawn ≠ b.drawn

/-- A step in which no number is drawn or tried. -/
theorem Ledger.same (ledger : Ledger o s) (attempts : s'.attempts = s.attempts)
    (drawn : s'.drawn = s.drawn) (pending : ∀ j, (s'.tenants j).drawn = (s.tenants j).drawn) :
    Ledger o s' := by
  obtain ⟨named, early, pend, apart, distinct⟩ := ledger
  refine ⟨attempts ▸ named, ?_, ?_, ?_, attempts ▸ distinct⟩
  · rw [attempts, drawn]
    exact early
  · intro i n held
    rw [attempts, drawn]
    exact pend i n ((pending i).symm.trans held)
  · intro i j n held held'
    exact apart i j n ((pending i).symm.trans held) ((pending j).symm.trans held')

/-- A number is tried that was drawn before. -/
theorem Ledger.tried (ledger : Ledger o s) {n : Nat} {files : Node}
    (held : (s.tenants i).drawn = some n)
    (attempts : s'.attempts = ⟨i, n, o.path i n, files⟩ :: s.attempts)
    (drawn : s'.drawn = s.drawn) (spent : (s'.tenants i).drawn = none)
    (others : ∀ j, j ≠ i → (s'.tenants j).drawn = (s.tenants j).drawn) : Ledger o s' := by
  obtain ⟨named, early, pend, apart, distinct⟩ := ledger
  obtain ⟨less, new⟩ := pend i n held
  have still {j : ι} {m : Nat} (held' : (s'.tenants j).drawn = some m) :
      j ≠ i ∧ (s.tenants j).drawn = some m := by
    by_cases here : j = i
    · rw [here, spent] at held'
      cases held'
    · exact ⟨here, (others j here).symm.trans held'⟩
  refine ⟨?_, ?_, ?_, ?_, ?_⟩
  · rw [attempts]
    exact List.forall_mem_cons.2 ⟨rfl, named⟩
  · rw [attempts, drawn]
    exact List.forall_mem_cons.2 ⟨less, early⟩
  · intro j m held'
    obtain ⟨other, held'⟩ := still held'
    obtain ⟨less', new'⟩ := pend j m held'
    rw [attempts, drawn]
    refine ⟨less', List.forall_mem_cons.2 ⟨?_, new'⟩⟩
    rintro same rfl
    exact other (apart j i _ held' held same.symm)
  · intro j k m held' held''
    exact apart j k m (still held').2 (still held'').2
  · rw [attempts]
    refine List.pairwise_cons.2 ⟨fun a listed same => ?_, distinct⟩
    exact (new a listed same.symm).symm

variable [DecidableEq ι] [DecidableEq κ]

omit [DecidableEq ι] in
theorem le_draw (s : Scene ι κ) (k other : κ) : s.drawn other ≤ (s.draw k).drawn other := by
  rw [Scene.draw]
  dsimp only
  split
  · rename_i same
    subst same
    exact Nat.le_succ _
  · exact Nat.le_refl _

/-- The next number of a process is drawn. -/
theorem Ledger.draw (ledger : Ledger o s) (i : ι) (task : Task host (Except Chain WorkDir)) :
    Ledger o ((s.draw (o.process i)).settle i
      { s.tenants i with task, drawn := some (s.drawn (o.process i)) }) := by
  obtain ⟨named, early, pend, apart, distinct⟩ := ledger
  have known {j : ι} {n : Nat} (held : (((s.draw (o.process i)).settle i { s.tenants i with
      task, drawn := some (s.drawn (o.process i)) }).tenants j).drawn = some n) :
      j = i ∧ n = s.drawn (o.process i) ∨ j ≠ i ∧ (s.tenants j).drawn = some n := by
    by_cases here : j = i
    · rw [here, settle_self] at held
      exact .inl ⟨here, (Option.some.inj held).symm⟩
    · rw [settle_other _ _ here] at held
      exact .inr ⟨here, held⟩
  refine ⟨named, ?_, ?_, ?_, distinct⟩
  · exact fun a listed => Nat.lt_of_lt_of_le (early a listed) (le_draw s _ _)
  · intro j n held
    obtain ⟨rfl, rfl⟩ | ⟨-, held⟩ := known held
    · refine ⟨?_, fun a listed same => ?_⟩
      · show s.drawn (o.process j) < if _ then _ else _
        rw [if_pos rfl]
        exact Nat.lt_succ_self _
      · have before := early a listed
        rw [same] at before
        exact Nat.ne_of_lt before
    · obtain ⟨less, new⟩ := pend j n held
      exact ⟨Nat.lt_of_lt_of_le less (le_draw s _ _), new⟩
  · intro j k n held held' same
    -- A number that is pending was drawn before, so it is not the one that is drawn now.
    obtain ⟨rfl, rfl⟩ | ⟨-, old⟩ := known held
    · obtain ⟨rfl, -⟩ | ⟨-, old'⟩ := known held'
      · rfl
      · have before := (pend k _ old').1
        rw [← same] at before
        exact absurd before (Nat.lt_irrefl _)
    · obtain ⟨rfl, rfl⟩ | ⟨-, old'⟩ := known held'
      · have before := (pend j _ old).1
        rw [same] at before
        exact absurd before (Nat.lt_irrefl _)
      · exact apart j k n old old' same

theorem step_ledger (valid : Valid o s) (ledger : Ledger o s) (step : Step o s s') :
    Ledger o s' := by
  -- Most steps leave all numbers alone.
  have quiet {i : ι} {t : Tenant} {files : Node} (drawn : t.drawn = (s.tenants i).drawn) :
      Ledger o (({ s with files } : Scene ι κ).settle i t) := by
    refine ledger.same rfl rfl fun j => ?_
    by_cases here : j = i
    · rw [here, settle_self, drawn]
    · rw [settle_other _ _ here]
  -- A call that asks for a directory has a number drawn for it.
  have tries {i : ι} {path : Path} {next : Except IoError Unit → Task host (Except Chain WorkDir)}
      {t : Tenant} {files : Node} (asks : (s.tenants i).task = .call (.createDir path) next)
      (spent : t.drawn = none) :
      Ledger o (({ s.record i path with files } : Scene ι κ).settle i t) := by
    have phase := valid.phase asks
    generalize drawn : (s.tenants i).drawn = drawn?, held : (s.tenants i).held = held? at phase
    cases phase with
    | @making tries n identifier taken count =>
      have recorded : (s.record i (o.path i n)).attempts =
          ⟨i, n, o.path i n, s.files⟩ :: s.attempts := by simp [Scene.record, drawn]
      refine ledger.tried drawn recorded rfl ?_ fun j other => ?_
      · rw [settle_self, spent]
      · rw [settle_other _ _ other]
        rfl
  cases step with
  | @identify i next asks => exact quiet rfl
  | @draw i next asks => exact ledger.draw i _
  | @make i path next place files asks leads made => exact tries asks rfl
  | @miss i path next e asks taken => exact tries asks rfl
  | @restrict i path mode next files asks set => exact quiet rfl
  | @forbid i path mode next e asks => exact quiet rfl
  | @drop i d files done live removed based => exact quiet rfl
  | @outside files based left => exact ledger.same rfl rfl fun j => rfl

theorem reachable_ledger (reachable : Reachable o s) : Ledger o s := by
  induction reachable with
  | start based =>
    refine ⟨fun a listed => ?_, fun a listed => ?_, fun i n held => ?_, fun i j n held => ?_, .nil⟩
    · cases listed
    · cases listed
    · cases held
    · cases held
  | next before step ih => exact step_ledger (reachable_valid before) ih step

end

/-! ## Directories -/

section
variable {ι κ : Type} {o : Office ι κ} {s : Scene ι κ} {i : ι}

/-- A call has made a directory that was not removed since. -/
def Lives (s : Scene ι κ) (i : ι) (d : WorkDir) (place : List String) : Prop :=
  (s.tenants i).task = .done (.ok d) ∧ (s.tenants i).held = some place

/-- What holds of the calls of several processes, whatever they have done so far. -/
structure Exclusive [DecidableEq ι] [DecidableEq κ] (o : Office ι κ) (s : Scene ι κ) : Prop where
  /-- Where a call has made a directory, nothing was when it began to. -/
  fresh : ∀ i d, (s.tenants i).task = .done (.ok d) → ∃ a ∈ s.attempts, a.caller = i ∧
    a.path = d.path ∧ ∃ place, locate a.files (o.cwd i) false d.path = .ok ⟨place, none⟩ ∧
      ((s.tenants i).held = none ∨ (s.tenants i).held = some place)
  /-- As long as a directory lives, its path leads to it. -/
  stands : ∀ i d place, Lives s i d place →
    ∃ node, lookup s.files (o.cwd i) d.path = .ok (place, node) ∧ node.isDirectory = true
  /-- No two calls have one directory, or paths that lead to one. -/
  apart : ∀ i j d d' place place', Lives s i d place → Lives s j d' place' →
    place = place' ∨ lookup s.files (o.cwd i) d.path = lookup s.files (o.cwd j) d'.path → i = j
  /-- To remove it changes nothing but what is in its place. -/
  removes : ∀ i d place, Lives s i d place → ∀ files, Removed s.files (o.cwd i) d.path files →
    ∃ rest, files = s.files.fill place rest
  /-- A call tries names of its own label and of its process, with numbers that it draws. -/
  names : ∀ a ∈ s.attempts, a.path = o.path a.caller a.drawn ∧
    a.drawn < s.drawn (o.process a.caller)
  /-- In one process, no name comes again before its counter has come round. -/
  again : s.attempts.Pairwise fun a b => o.process a.caller = o.process b.caller →
    o.name a.caller a.drawn = o.name b.caller b.drawn →
      a.drawn + UInt64.size ≤ b.drawn ∨ b.drawn + UInt64.size ≤ a.drawn
  /-- So they are all different until then. -/
  distinct : ∀ k, s.drawn k ≤ UInt64.size →
    ((s.attempts.filter fun a => o.process a.caller = k).map fun a =>
      o.name a.caller a.drawn).Nodup
  /-- A call that has found no free name has tried so many, and something was under each. -/
  exhausted : ∀ i, (s.tenants i).task = .done (.error (exhaustion (o.base i))) →
    (s.attemptsOf i).length = WorkDir.attempts ∧
      ∀ a ∈ s.attemptsOf i, Taken a.files (o.cwd i) a.path

theorem Valid.made [DecidableEq ι] (valid : Valid o s) {d : WorkDir} {place : List String}
    (lives : Lives s i d place) : Made o i (s.attemptsOf i) d.path place := by
  have phase := valid.phase lives.1
  generalize drawn : (s.tenants i).drawn = drawn?, held : (s.tenants i).held = held? at phase
  cases phase with
  | owner made holds =>
    obtain none | same := holds
    · cases (held.trans none).symm.trans lives.2
    · cases (held.trans same).symm.trans lives.2
      exact made

theorem Valid.fresh [DecidableEq ι] (valid : Valid o s) {d : WorkDir}
    (done : (s.tenants i).task = .done (.ok d)) :
    ∃ a ∈ s.attempts, a.caller = i ∧ a.path = d.path ∧ ∃ place,
      locate a.files (o.cwd i) false d.path = .ok ⟨place, none⟩ ∧
        ((s.tenants i).held = none ∨ (s.tenants i).held = some place) := by
  have phase := valid.phase done
  generalize drawn : (s.tenants i).drawn = drawn?, held : (s.tenants i).held = held? at phase
  cases phase with
  | @owner path place held made holds =>
    obtain ⟨a, listed, same, leads⟩ := made.fresh
    obtain ⟨listed, caller⟩ := List.mem_filter.1 listed
    exact ⟨a, listed, of_decide_eq_true caller, same, place, leads, holds⟩

/-- Two draws that give the same name are a whole round of the counter apart. -/
theorem Ledger.again (ledger : Ledger o s) : s.attempts.Pairwise fun a b =>
    o.process a.caller = o.process b.caller → o.name a.caller a.drawn = o.name b.caller b.drawn →
      a.drawn + UInt64.size ≤ b.drawn ∨ b.drawn + UInt64.size ≤ a.drawn := by
  refine ledger.distinct.imp fun {a b} differ process same => ?_
  have other := differ process
  have numbers : a.drawn % 18446744073709551616 = b.drawn % 18446744073709551616 :=
    number_of_name same
  show a.drawn + 18446744073709551616 ≤ b.drawn ∨ b.drawn + 18446744073709551616 ≤ a.drawn
  omega

theorem Ledger.nodup [DecidableEq κ] (ledger : Ledger o s) {k : κ} (few : s.drawn k ≤ UInt64.size) :
    ((s.attempts.filter fun a => o.process a.caller = k).map fun a =>
      o.name a.caller a.drawn).Nodup := by
  refine List.pairwise_map.2 ?_
  have pairs := (List.Pairwise.and_mem.1 ledger.again).filter (fun a => o.process a.caller = k)
  refine (List.Pairwise.and_mem.1 pairs).imp fun {a b} both same => ?_
  obtain ⟨here, there, listed, listed', apart⟩ := both
  have process := of_decide_eq_true (List.mem_filter.1 here).2
  have process' := of_decide_eq_true (List.mem_filter.1 there).2
  have early := ledger.early a listed
  have early' := ledger.early b listed'
  rw [process] at early
  rw [process'] at early'
  have far := apart (process.trans process'.symm) same
  omega

/-- In whatever order the calls of any number of processes go on, and whatever others do meanwhile: a
directory is made where nothing was, it is nobody else's as long as it lives, and nothing else is
removed with it. No name is tried twice in a process, until its counter has come round; and a call
only gives up on names after ten thousand that something had. -/
theorem directories_exclusive [DecidableEq ι] [DecidableEq κ] (reachable : Reachable o s) :
    Exclusive o s := by
  have valid := reachable_valid reachable
  have ledger := reachable_ledger reachable
  have leads (i : ι) (d : WorkDir) (place : List String) (lives : Lives s i d place) :
      ∃ node, lookup s.files (o.cwd i) d.path = .ok (place, node) ∧ node.isDirectory = true :=
    ((valid.made lives).leads valid.based (valid.stands i place lives.2)).2
  refine {
    fresh := fun i d done => valid.fresh done
    stands := leads
    apart := fun i j d d' place place' lives lives' shared => ?_
    removes := fun i d place lives files removed => (valid.made lives).removed valid.based removed
    names := fun a listed => ⟨ledger.named a listed, ledger.early a listed⟩
    again := ledger.again
    distinct := fun k few => ledger.nodup few
    exhausted := fun i none => ?_ }
  · have same : place = place' := by
      obtain same | same := shared
      · exact same
      · obtain ⟨node, found, -⟩ := leads i d place lives
        obtain ⟨node', found', -⟩ := leads j d' place' lives'
        rw [found, found'] at same
        exact (Prod.mk.inj (Except.ok.inj same)).1
    subst same
    exact valid.exclusive i j place lives.2 lives'.2
  · have phase := valid.phase none
    generalize (s.tenants i).drawn = drawn?, (s.tenants i).held = held? at phase
    cases phase with
    | failed exhausted => exact exhausted rfl

end

/-! ## Namesakes -/

/-- One call in each of two processes with the same id, with the same base and label. -/
def namesakes : Office Bool Bool where
  process := id
  base _ := ⟨"/scratch"⟩
  label _ := "parity_src"
  site _ := ["scratch"]
  processId _ := 7
  directory _ := []

/-- Both calls try the same name. The second one finds it taken and takes the next number. -/
theorem directories_exclusive_namesakes :
    ∃ s : Scene Bool Bool, Reachable namesakes s ∧
      Lives s false ⟨⟨"/scratch/parity_src_7_0"⟩⟩ ["scratch", "parity_src_7_0"] ∧
      Lives s true ⟨⟨"/scratch/parity_src_7_1"⟩⟩ ["scratch", "parity_src_7_1"] ∧
      Exclusive namesakes s := by
  have base : Spells ⟨"/scratch"⟩ ["scratch"] := by decide
  have based : namesakes.Based tangled := fun i => ⟨_, base.reaches (ite_self _) rfl rfl⟩
  have second : Spells ⟨"/scratch/parity_src_7_1"⟩ ["scratch", "parity_src_7_1"] := by decide
  have r0 := Reachable.start based
  have r1 := r0.next (.identify (i := false) rfl)
  have r2 := r1.next (.draw (i := false) rfl)
  have r3 := r2.next (.make (i := false) rfl
    (tangledCopy_spells.locate_root (by decide) rfl rfl rfl) tangled_makes)
  have r4 := r3.next (.restrict (i := false) rfl tangled_owns)
  have r5 := r4.next (.identify (i := true) rfl)
  have r6 := r5.next (.draw (i := true) rfl)
  have r7 := r6.next (.miss (i := true) (e := .alreadyExists) rfl fun _ =>
    ⟨_, _, tangledCopy_spells.locate_found rfl (by decide)⟩)
  have r8 := r7.next (.draw (i := true) rfl)
  have r9 := r8.next (.make (i := true) rfl (second.locate_root (by decide) rfl rfl rfl)
    (Files.createDir_ok_iff.2 ⟨_, second.locate_root (by decide) rfl rfl rfl, rfl⟩))
  have r10 := r9.next (.restrict (i := true) rfl
    (bind_ok_iff.2 ⟨_, second.lookup_root rfl (by decide), rfl⟩))
  exact ⟨_, r10, ⟨rfl, rfl⟩, ⟨rfl, rfl⟩, directories_exclusive r10⟩

end Tandem.Sandbox.Tenancy
