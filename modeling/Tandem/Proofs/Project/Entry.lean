import Tandem.Project.Entry
import Tandem.Proofs.Host.Trace

/-!
How the entry file of a tree is looked up.

* `Located`: what a file is found to be, and by which answers.
* `path_resolveEntry_iff`: that is all a look-up comes to.
-/

namespace Tandem.Project

open Tandem.Host Tandem.Host.Task

/-- What a file below a tree is found to be, and by which answers. -/
inductive Located (tree file : Path) : List (Event host) → Except Refusal (Option Path) → Prop where
  | noTree (e : IoError) :
    Located tree file [⟨.resolve tree, .error e⟩]
      (.error (.store ((Chain.one e.message).within s!"resolve project tree: {tree.text}")))
  | missing (root : Path) (e : IoError) (h : e.kind = .notFound) :
    Located tree file [⟨.resolve tree, .ok root⟩, ⟨.resolve (root.join file), .error e⟩] (.ok none)
  | unresolved (root : Path) (e : IoError) (h : e.kind ≠ .notFound) :
    Located tree file [⟨.resolve tree, .ok root⟩, ⟨.resolve (root.join file), .error e⟩]
      (.error (.store ((Chain.one e.message).within s!"resolve {file.text}")))
  | outside (root place : Path) (h : place.isUnder root = false) :
    Located tree file [⟨.resolve tree, .ok root⟩, ⟨.resolve (root.join file), .ok place⟩]
      (.error (.pathTraversal file))
  | linked (root place : Path) (h : place.isUnder root = true)
      (h' : place.same (root.join file) = false) :
    Located tree file [⟨.resolve tree, .ok root⟩, ⟨.resolve (root.join file), .ok place⟩] (.ok none)
  | irregular (root place : Path) (answer : Except IoError FileKind)
      (h : place.isUnder root = true) (h' : place.same (root.join file) = true)
      (odd : answer ≠ .ok .file) :
    Located tree file [⟨.resolve tree, .ok root⟩, ⟨.resolve (root.join file), .ok place⟩,
      ⟨.stat place, answer⟩] (.ok none)
  | regular (root place : Path) (h : place.isUnder root = true)
      (h' : place.same (root.join file) = true) :
    Located tree file [⟨.resolve tree, .ok root⟩, ⟨.resolve (root.join file), .ok place⟩,
      ⟨.stat place, .ok .file⟩] (.ok (some place))

/-- What is looked at once both paths are resolved. -/
def examine (root place file : Path) : ExceptT Refusal (Task host) (Option Path) :=
  if !place.isUnder root then throw (.pathTraversal file)
  else if !place.same (root.join file) then return none
  else do
    match ← ask (.stat place) with
    | .ok .file => return some place
    | _ => return none

theorem resolveEntry_eq (tree file : Path) :
    resolveEntry tree file = (do
      match ← ask (.resolve tree) with
      | .error e =>
        throw (.store ((Chain.one e.message).within s!"resolve project tree: {tree.text}"))
      | .ok root =>
        match ← ask (.resolve (root.join file)) with
        | .error e =>
          if e.kind = .notFound then return none
          else throw (.store ((Chain.one e.message).within s!"resolve {file.text}"))
        | .ok place => examine root place file) := by
  rw [resolveEntry]
  refine bind_congr fun answer => ?_
  cases answer with
  | error e => rfl
  | ok root =>
    simp only [pure_bind]
    refine bind_congr fun answer => ?_
    cases answer <;> rfl

theorem located_of_examine {tree file root place : Path} {events : List (Event host)}
    {result : Except Refusal (Option Path)}
    (path : Task.Path (examine root place file).run events result) :
    Located tree file
      (⟨.resolve tree, .ok root⟩ :: ⟨.resolve (root.join file), .ok place⟩ :: events) result := by
  rw [examine] at path
  cases under : place.isUnder root with
  | false =>
    rw [under] at path
    obtain ⟨rfl, rfl⟩ := path_except_throw_iff.1 path
    exact .outside root place under
  | true =>
    cases plain : place.same (root.join file) with
    | false =>
      rw [under, plain] at path
      obtain ⟨rfl, rfl⟩ := path_except_pure_iff.1 path
      exact .linked root place under plain
    | true =>
      rw [under, plain] at path
      obtain ⟨answer, rest, rfl, tail⟩ := path_except_ask_bind_iff.1 path
      match answer, tail with
      | .ok .file, tail =>
        obtain ⟨rfl, rfl⟩ := path_done_iff.1 tail
        exact .regular root place under plain
      | .ok .directory, tail | .ok .link, tail | .ok .special, tail | .error e, tail =>
        obtain ⟨rfl, rfl⟩ := path_done_iff.1 tail
        exact .irregular root place _ under plain (by simp)

theorem path_resolveEntry_iff {tree file : Path} {events : List (Event host)}
    {result : Except Refusal (Option Path)} :
    Task.Path (resolveEntry tree file).run events result ↔ Located tree file events result := by
  rw [resolveEntry_eq]
  constructor
  · intro path
    obtain ⟨answer, rest, rfl, tail⟩ := path_except_ask_bind_iff.1 path
    match answer, tail with
    | .error e, tail =>
      obtain ⟨rfl, rfl⟩ := path_done_iff.1 tail
      exact .noTree e
    | .ok root, tail =>
      obtain ⟨answer, rest, rfl, tail'⟩ := path_except_ask_bind_iff.1 tail
      match answer, tail' with
      | .ok place, tail' => exact located_of_examine tail'
      | .error e, tail' =>
        by_cases gone : e.kind = .notFound
        · simp only [if_pos gone] at tail'
          obtain ⟨rfl, rfl⟩ := path_done_iff.1 tail'
          exact .missing root e gone
        · simp only [if_neg gone] at tail'
          obtain ⟨rfl, rfl⟩ := path_done_iff.1 tail'
          exact .unresolved root e gone
  · intro located
    cases located with
    | noTree e => exact .call _ _ (.done _)
    | missing root e h =>
      refine path_except_ask_bind_iff.2 ⟨_, _, rfl, path_except_ask_bind_iff.2 ⟨_, _, rfl, ?_⟩⟩
      simp only [if_pos h]
      exact .done _
    | unresolved root e h =>
      refine path_except_ask_bind_iff.2 ⟨_, _, rfl, path_except_ask_bind_iff.2 ⟨_, _, rfl, ?_⟩⟩
      simp only [if_neg h]
      exact .done _
    | outside root place h =>
      refine path_except_ask_bind_iff.2 ⟨_, _, rfl, path_except_ask_bind_iff.2 ⟨_, _, rfl, ?_⟩⟩
      simp only [examine, h]
      exact .done _
    | linked root place h h' =>
      refine path_except_ask_bind_iff.2 ⟨_, _, rfl, path_except_ask_bind_iff.2 ⟨_, _, rfl, ?_⟩⟩
      simp only [examine, h, h']
      exact .done _
    | irregular root place answer h h' odd =>
      refine path_except_ask_bind_iff.2 ⟨_, _, rfl, path_except_ask_bind_iff.2 ⟨_, _, rfl, ?_⟩⟩
      simp only [examine, h, h']
      refine path_except_ask_bind_iff.2 ⟨_, _, rfl, ?_⟩
      match answer, odd with
      | .ok .directory, _ | .ok .link, _ | .ok .special, _ | .error _, _ => exact .done _
    | regular root place h h' =>
      refine path_except_ask_bind_iff.2 ⟨_, _, rfl, path_except_ask_bind_iff.2 ⟨_, _, rfl, ?_⟩⟩
      simp only [examine, h, h']
      exact .call _ _ (.done _)

end Tandem.Project
