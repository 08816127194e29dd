import Tandem.Project.State
import Tandem.Proofs.Host.Names

/-!
Where safe paths lead, and the keys that files are recorded under.

* `Ground`, `Ground.trail`: a place to walk in, and the places that a walk comes through.
* `safe_paths_exact`: which paths are safe. A walk along one of them stays below where it starts,
  and its key tells it from the others.
-/

namespace Tandem.Project

open Tandem.Host Tandem.Machine

/-- A place to walk in: where one gets by a name, and where one gets from a place by leaving it. -/
structure Ground (P : Type) where
  enter : P → String → P
  leave : P → P

namespace Ground

variable {P : Type}

def go (g : Ground P) (here : P) : Step → P
  | .up => g.leave here
  | .down name => g.enter here name

/-- The places that a walk comes through, the first and the last one included. -/
def trail (g : Ground P) (here : P) : List Step → List P
  | [] => [here]
  | step :: rest => here :: trail g (g.go here step) rest

/-- The ground on which a place is the names that lead there. -/
def byName : Ground (List String) where
  enter here name := here ++ [name]
  leave here := here.dropLast

theorem getLast?_trail (g : Ground P) (here : P) (steps : List Step) :
    (g.trail here steps).getLast? = some (steps.foldl g.go here) := by
  induction steps generalizing here with
  | nil => rfl
  | cons step steps ih =>
    rw [trail, List.getLast?_cons, ih]
    rfl

variable {here : List String} {names : List String}

theorem foldl_down (here names : List String) :
    (names.map Step.down).foldl byName.go here = here ++ names := by
  induction names generalizing here with
  | nil => simp
  | cons name names ih =>
    rw [List.map_cons, List.foldl_cons, ih]
    simp [go, byName]

/-- Names lead nowhere but below. -/
theorem prefix_of_mem_trail {place : List String}
    (h : place ∈ byName.trail here (names.map .down)) : here <+: place := by
  induction names generalizing here with
  | nil =>
    obtain rfl : place = here := by simpa [trail] using h
    exact List.prefix_refl place
  | cons name names ih =>
    obtain rfl | later := List.mem_cons.1 h
    · exact List.prefix_refl place
    · exact (List.prefix_append here [name]).trans (ih later)

end Ground

open Ground

section
variable {p q : Path}

theorem stepsOf_join_counted (root : Path) (safe : p.isSafe = true) :
    stepsOf (root.join p) = stepsOf root ++ (p.counted.map String.ofList).map .down := by
  rw [stepsOf_join (Path.isSafe_iff.1 safe).2.1, Path.stepsOf_counted safe]

/-- On the ground of names, a walk that ends in the same place has gone by the same names. -/
theorem key_of_trail {cwd : List String} {root : Path} (safe : p.isSafe = true)
    (safe' : q.isSafe = true)
    (same : byName.trail (startOf cwd (root.join p)) (stepsOf (root.join p)) =
      byName.trail (startOf cwd (root.join q)) (stepsOf (root.join q))) : p.key = q.key := by
  have ends := congrArg List.getLast? same
  rw [getLast?_trail, getLast?_trail, startOf_join (Path.isSafe_iff.1 safe).2.1,
    startOf_join (Path.isSafe_iff.1 safe').2.1, stepsOf_join_counted root safe,
    stepsOf_join_counted root safe', List.foldl_append, List.foldl_append, foldl_down,
    foldl_down] at ends
  have names := List.append_cancel_left (Option.some.inj ends)
  rw [Path.key_counted safe, Path.key_counted safe', names]

end

/-- A path is safe if it is neither empty nor absolute, and of its stretches that count none is a
pair of dots and the first is no dot. A walk along it enters these one after the other, so that it
never leaves where it starts and ends below. Joined by separators they are the key that the path is
looked up under. Two safe paths have one key if and only if a walk along them, from any root, comes
through the same places; and then it does so on every ground, whatever is a link there. -/
theorem safe_paths_exact :
    (∀ p : Path, p.hazard? = none ↔ p.text ≠ "" ∧ p.text.toList.head? ≠ some '/' ∧
      ['.', '.'] ∉ p.counted ∧ p.counted.head? ≠ some ['.']) ∧
    (∀ p : Path, p.hazard? = none →
      stepsOf p = p.counted.map (fun piece => .down (String.ofList piece)) ∧
      (∀ here, (∀ place ∈ byName.trail here (stepsOf p), here <+: place) ∧
        ∃ names, names ≠ [] ∧ (byName.trail here (stepsOf p)).getLast? = some (here ++ names)) ∧
      p.key = "/".intercalate (p.counted.map String.ofList) ∧
      ∀ s : ProjectState, s.isMigrated p =
        ((s.files.reverse.lookup p.key).map FileState.migrated).getD false) ∧
    ∀ p q : Path, p.hazard? = none → q.hazard? = none → ∀ root : Path,
      (∀ cwd, p.key = q.key ↔
        byName.trail (startOf cwd (root.join p)) (stepsOf (root.join p)) =
          byName.trail (startOf cwd (root.join q)) (stepsOf (root.join q))) ∧
      ∀ (P : Type) (g : Ground P) (here : P), p.key = q.key →
        g.trail here (stepsOf (root.join p)) = g.trail here (stepsOf (root.join q)) := by
  simp only [Path.hazard?_eq_none_iff]
  refine ⟨fun p => Path.isSafe_iff_counted, fun p safe => ?_, fun p q safe safe' root => ?_⟩
  · have steps := Path.stepsOf_counted safe
    refine ⟨?_, fun here => ⟨?_, ?_⟩, Path.key_counted safe, fun s => ?_⟩
    · rw [steps, List.map_map]
      rfl
    · rw [steps]
      exact fun place => prefix_of_mem_trail
    · refine ⟨p.counted.map String.ofList, ?_, ?_⟩
      · simpa using Path.counted_ne_nil safe
      · rw [getLast?_trail, steps, foldl_down]
    · rw [ProjectState.isMigrated]
      cases s.files.reverse.lookup p.key <;> rfl
  · have alike (same : p.key = q.key) : stepsOf (root.join p) = stepsOf (root.join q) := by
      rw [stepsOf_join_counted root safe, stepsOf_join_counted root safe',
        Path.counted_of_key safe safe' same]
    have start (cwd : List String) : startOf cwd (root.join p) = startOf cwd (root.join q) := by
      rw [startOf_join (Path.isSafe_iff.1 safe).2.1, startOf_join (Path.isSafe_iff.1 safe').2.1]
    refine ⟨fun cwd => ⟨fun same => ?_, key_of_trail safe safe'⟩, fun P g here same => ?_⟩
    · rw [start, alike same]
    · rw [alike same]

/-- A path with repeated, inner and trailing separators and dots. -/
def dotted : Path := ⟨"lib//./a b/.\u00e9/."⟩

theorem safe_paths_exact_dotted :
    dotted.hazard? = none ∧ (Host.Path.mk "lib/a b/.é").hazard? = none ∧
      dotted.key = "lib/a b/.é" ∧
      byName.trail (startOf ["home"] ((Host.Path.mk "../demo/").join dotted))
          (stepsOf ((Host.Path.mk "../demo/").join dotted)) =
        byName.trail (startOf ["home"] ((Host.Path.mk "../demo/").join ⟨"lib/a b/.é"⟩))
          (stepsOf ((Host.Path.mk "../demo/").join ⟨"lib/a b/.é"⟩)) ∧
      (Host.Path.mk "./lib").hazard? ≠ none ∧ (Host.Path.mk "lib/../..").hazard? ≠ none := by
  have safe : dotted.hazard? = none := (safe_paths_exact.1 dotted).2 (by decide)
  have safe' : (Host.Path.mk "lib/a b/.é").hazard? = none :=
    (safe_paths_exact.1 ⟨"lib/a b/.é"⟩).2 (by decide)
  have key : dotted.key = "lib/a b/.é" := by decide
  have same : dotted.key = (Host.Path.mk "lib/a b/.é").key := by decide
  refine ⟨safe, safe', key, ?_, ?_, ?_⟩
  · exact ((safe_paths_exact.2.2 dotted _ safe safe' ⟨"../demo/"⟩).1 ["home"]).1 same
  · rw [Ne, safe_paths_exact.1]
    decide
  · rw [Ne, safe_paths_exact.1]
    decide

end Tandem.Project
