import Tandem.Proofs.Host.Trace

/-!
What a child has asked for before it becomes a guest, and what it got.

* `path_inTurn_iff`: calls in turn are all granted, or the first refusal ends them.
* `childTask_cases`: a child that cannot leave its parent's session asks for nothing more.
* `became_iff`: the guest runs just where the child reports no failure.
* `prepared_of_became`: it then runs detached and under the ceilings of its launch.
* `Born`: how a launch is answered then.
-/

namespace Tandem.Host

open Tandem.Host.Task

/-- These calls, none of them refused. -/
def grants (calls : List ChildCall) : List (Event childInterface) :=
  calls.map fun call => ⟨call, .ok ()⟩

section
variable {limits : Option ChildLimits} {own front back : List (Event childInterface)}
  {result : Except IoError Unit}

theorem path_inTurn_iff {calls : List ChildCall} : Task.Path (inTurn calls) own result ↔
    (own = grants calls ∧ result = .ok ()) ∨
      ∃ done call later e, calls = done ++ call :: later ∧
        own = grants done ++ [⟨call, .error e⟩] ∧ result = .error e := by
  induction calls generalizing own with
  | nil => simp [inTurn, path_done_iff, grants]
  | cons call calls ih =>
    rw [inTurn, path_ask_bind_iff]
    constructor
    · rintro ⟨answer, rest, rfl, tail⟩
      cases answer with
      | error e =>
        obtain ⟨rfl, rfl⟩ := path_done_iff.1 tail
        exact .inr ⟨[], call, calls, e, rfl, rfl, rfl⟩
      | ok _ =>
        obtain ⟨rfl, rfl⟩ | ⟨done, refused, later, e, rfl, rfl, rfl⟩ := ih.1 tail
        · exact .inl ⟨rfl, rfl⟩
        · exact .inr ⟨call :: done, refused, later, e, rfl, rfl, rfl⟩
    · rintro (⟨rfl, rfl⟩ | ⟨done, refused, later, e, split, rfl, rfl⟩)
      · exact ⟨.ok (), grants calls, rfl, ih.2 (.inl ⟨rfl, rfl⟩)⟩
      · cases done with
        | nil =>
          obtain ⟨rfl, rfl⟩ := List.cons.inj split
          exact ⟨.error e, [], rfl, .done _⟩
        | cons first done =>
          obtain ⟨rfl, rfl⟩ := List.cons.inj split
          exact ⟨.ok (), _, rfl, ih.2 (.inr ⟨done, refused, later, e, rfl, rfl, rfl⟩)⟩

/-! ## The calls of a child -/

/-- A child left the session of its parent, or at least its process group. -/
inductive Detached : List (Event childInterface) → Prop where
  | session : Detached [⟨.newSession, .ok ()⟩]
  | group (e : IoError) : Detached [⟨.newSession, .error e⟩, ⟨.newGroup, .ok ()⟩]

/-- The calls that set the ceilings of a child, if it has any. -/
def settingUp (limits : Option ChildLimits) : List ChildCall :=
  (limits.map ChildLimits.calls).getD []

theorem not_become_of_mem_settingUp : ChildCall.become ∉ settingUp limits := by
  cases limits with
  | none => exact List.not_mem_nil
  | some l => simp [settingUp, ChildLimits.calls]

/-- A child that is left in its parent's group gives up. Otherwise it goes on in turn. -/
theorem childTask_cases (path : Task.Path (childTask limits) own result) :
    (∃ e e', own = [⟨.newSession, .error e⟩, ⟨.newGroup, .error e'⟩] ∧ result = .error e') ∨
      ∃ front back, own = front ++ back ∧ Detached front ∧
        Task.Path (inTurn (settingUp limits ++ [.become])) back result := by
  obtain ⟨front, back, detached, rfl, detach, tail⟩ := path_bind_iff.1 path
  obtain ⟨session, rest, rfl, after⟩ := path_ask_bind_iff.1 detach
  cases session with
  | ok _ =>
    obtain ⟨rfl, rfl⟩ := path_done_iff.1 after
    exact .inr ⟨_, back, rfl, .session, tail⟩
  | error e =>
    obtain rfl := path_ask_iff.1 after
    cases detached with
    | ok _ => exact .inr ⟨_, back, rfl, .group e, tail⟩
    | error e' =>
      obtain ⟨rfl, rfl⟩ := path_done_iff.1 tail
      exact .inl ⟨e, e', rfl, rfl⟩

/-- A child without a failure was refused nothing but, at most, a session of its own. -/
theorem childTask_ok (path : Task.Path (childTask limits) own (.ok ())) :
    ∃ front, Detached front ∧ own = front ++ grants (settingUp limits) ++ grants [.become] := by
  obtain ⟨e, e', -, failed⟩ | ⟨front, back, rfl, detached, tail⟩ := childTask_cases path
  · cases failed
  · obtain ⟨rfl, -⟩ | ⟨done, call, later, e, -, -, failed⟩ := path_inTurn_iff.1 tail
    · refine ⟨front, detached, ?_⟩
      rw [List.append_assoc, grants, List.map_append]
      rfl
    · cases failed

/-- The child became the guest: the program of the guest is executed. -/
def Became (own : List (Event childInterface)) : Prop := ⟨.become, .ok ()⟩ ∈ own

theorem Detached.not_became (h : Detached front) : ¬ Became front := by
  cases h <;> simp [Became]

theorem became_grants_iff {calls : List ChildCall} :
    Became (grants calls) ↔ ChildCall.become ∈ calls := by
  simp [Became, grants]

theorem became_iff (path : Task.Path (childTask limits) own result) :
    Became own ↔ result = .ok () := by
  obtain ⟨e, e', rfl, rfl⟩ | ⟨front, back, rfl, detached, tail⟩ := childTask_cases path
  · simp [Became]
  · have later : Became (front ++ back) ↔ Became back := by
      have early : ⟨.become, .ok ()⟩ ∉ front := detached.not_became
      simp [Became, early]
    rw [later]
    obtain ⟨rfl, rfl⟩ | ⟨done, call, rest, e, split, rfl, rfl⟩ := path_inTurn_iff.1 tail
    · simp [became_grants_iff]
    · -- What was granted before the refusal is a part of what comes before the last call.
      have shorter : done.length ≤ (settingUp limits).length := by
        have lengths := congrArg List.length split
        simp only [List.length_append, List.length_cons, List.length_nil] at lengths
        omega
      have part : done <+: settingUp limits := by
        have whole : done <+: settingUp limits ++ [.become] := ⟨call :: rest, split.symm⟩
        exact List.prefix_of_prefix_length_le whole (List.prefix_append ..) shorter
      have early : ⟨.become, .ok ()⟩ ∉ grants done := fun became =>
        not_become_of_mem_settingUp (part.subset (became_grants_iff.1 became))
      simp [Became, early]

/-! ## Ceilings -/

/-- What a process may have of a resource, and how far it may raise that itself. -/
structure Ceiling where
  soft : UInt64
  hard : UInt64
deriving DecidableEq, Repr

/-- The ceilings of a process after one call of its own. -/
def Ceiling.after (held : Resource → Ceiling) : Event childInterface → Resource → Ceiling
  | ⟨.limit resource soft hard, .ok ()⟩ =>
    fun other => if other = resource then ⟨soft, hard⟩ else held other
  | _ => held

/-- The ceilings of a child after calls of its own, where it inherited some. -/
def ceilings (inherited : Resource → Ceiling) (own : List (Event childInterface)) :
    Resource → Ceiling :=
  own.foldl Ceiling.after inherited

/-- The ceilings that a child asks for. -/
def ChildLimits.ceilings (l : ChildLimits) : Resource → Ceiling
  | .cpu => ⟨l.cpuSoft, l.cpuHard⟩
  | .addressSpace => ⟨l.memoryBytes, l.memoryBytes⟩
  | .core => ⟨0, 0⟩

theorem Detached.ceilings (h : Detached front) (held : Resource → Ceiling) :
    ceilings held front = held := by
  cases h <;> rfl

theorem ceilings_calls (l : ChildLimits) (held : Resource → Ceiling) :
    ceilings held (grants l.calls) = l.ceilings := by
  funext resource
  cases resource <;> rfl

/-- A child has all that it has to have before it becomes a guest. -/
structure Prepared (own : List (Event childInterface)) : Prop where
  detached : ⟨.newSession, .ok ()⟩ ∈ own ∨ ⟨.newGroup, .ok ()⟩ ∈ own
  limited : ∀ resource, ∃ soft hard, ⟨.limit resource soft hard, .ok ()⟩ ∈ own
  granted : ∀ resource soft hard answer, ⟨.limit resource soft hard, answer⟩ ∈ own → answer = .ok ()

theorem Detached.prepared (h : Detached front) (l : ChildLimits) :
    Prepared (front ++ grants l.calls) where
  detached := by
    cases h with
    | session => exact .inl (by simp)
    | group e => exact .inr (by simp)
  limited resource := by
    refine ⟨(l.ceilings resource).soft, (l.ceilings resource).hard, List.mem_append_right _ ?_⟩
    cases resource <;> simp [grants, ChildLimits.calls, ChildLimits.ceilings]
  granted resource soft hard answer asked := by
    obtain early | late := List.mem_append.1 asked
    · cases h <;> simp at early
    · obtain ⟨call, -, same⟩ := List.mem_map.1 late
      cases same
      rfl

/-- A child with ceilings that became a guest was prepared before, and runs under them whatever it
inherited. -/
theorem prepared_of_became {l : ChildLimits}
    (path : Task.Path (childTask (some l)) own (.ok ())) :
    ∃ before, own = before ++ [⟨.become, .ok ()⟩] ∧ Prepared before ∧
      ∀ inherited, ceilings inherited own = l.ceilings := by
  obtain ⟨front, detached, rfl⟩ := childTask_ok path
  refine ⟨front ++ grants l.calls, rfl, detached.prepared l, fun inherited => ?_⟩
  calc ceilings inherited (front ++ grants l.calls ++ grants [.become])
      = ceilings (ceilings inherited front) (grants l.calls ++ grants [.become]) := by
        rw [List.append_assoc]
        exact List.foldl_append
    _ = ceilings inherited (grants l.calls ++ grants [.become]) := by rw [detached.ceilings]
    _ = ceilings (ceilings inherited (grants l.calls)) (grants [.become]) := List.foldl_append
    _ = l.ceilings := ceilings_calls l inherited

/-! ## Launches -/

/-- How a launch may be answered where its child made these calls of its own. A child that fails
tells so and is no guest, and there may be no child at all. -/
inductive Born (launch : Launch) : Except IoError Child → List (Event childInterface) → Prop where
  | guest (child : Child) {own : List (Event childInterface)}
      (path : Task.Path (childTask launch.limits) own (.ok ())) : Born launch (.ok child) own
  | failed {e : IoError} {own : List (Event childInterface)}
      (path : Task.Path (childTask launch.limits) own (.error e)) : Born launch (.error e) own
  | unborn (e : IoError) : Born launch (.error e) []

theorem Born.became_iff {launch : Launch} {answer : Except IoError Child}
    (born : Born launch answer own) : Became own ↔ ∃ child, answer = .ok child := by
  cases born with
  | guest child path => simp [Host.became_iff path]
  | failed path => simp [Host.became_iff path]
  | unborn e => simp [Became]

end

/-! ## Words -/

theorem toNat_saturatingAdd (a b : UInt64) :
    (saturatingAdd a b).toNat = min (a.toNat + b.toNat) unlimited.toNat := by
  rw [saturatingAdd, UInt64.toNat_ofNat_of_lt']
  · rfl
  · exact Nat.lt_of_le_of_lt (Nat.min_le_right ..) (by decide)

theorem toNat_saturatingMul (a b : UInt64) :
    (saturatingMul a b).toNat = min (a.toNat * b.toNat) unlimited.toNat := by
  rw [saturatingMul, UInt64.toNat_ofNat_of_lt']
  · rfl
  · exact Nat.lt_of_le_of_lt (Nat.min_le_right ..) (by decide)

end Tandem.Host
