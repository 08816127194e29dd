import Tandem.Proofs.Machine.Files
import Tandem.Proofs.Machine.Meaning

/-!
Calls in a tree without what stands at one place.

* `createDir_without`, `copy_without`: a call whose paths lead elsewhere succeeds or fails there as
  it does in the whole tree, and makes the same.
* `createDir_fills`, `copy_fills`: what a call that succeeds makes, and where.
-/

namespace Tandem.Machine

open Tandem.Host Tandem.Text Tandem.Machine.Node

section
variable {root root' node : Node} {follow append : Bool} {cwd without place from' : List String}
  {mode : Nat} {bytes : Utf8.Bytes} {p source : Path}

/-- A path that leads elsewhere leads there with and without a place. -/
theorem Means.whole (h : Means (root.erase without) cwd follow p place)
    (apart : Apart without place) : Means root cwd follow p place :=
  h.opens (grows_erase apart.ne_nil.1).opens (get?_fill_apart apart none).symm

theorem Means.locate_without (h : Means (root.erase without) cwd follow p place)
    (apart : Apart without place) :
    locate (root.erase without) cwd follow p = locate root cwd follow p :=
  (h.locate_eq (grows_erase apart.ne_nil.1).opens (get?_fill_apart apart none).symm).symm

theorem lookup_without (h : Means (root.erase without) cwd true p place)
    (apart : Apart without place) : lookup (root.erase without) cwd p = lookup root cwd p := by
  rw [lookup, h.locate_without apart, lookup]

/-- What is looked up is found where the path leads. -/
theorem Means.lookup_eq {names : List String} (h : Means root cwd true p place)
    (looked : lookup root cwd p = .ok (names, node)) :
    names = place ∧ root.get? place = some node := by
  obtain ⟨rfl, -⟩ := Place.mk.inj (h.found_eq (lookup_ok_iff.1 looked))
  exact ⟨rfl, get?_of_lookup looked⟩

namespace Files

theorem stat_without (h : Means (root.erase without) cwd true p place)
    (apart : Apart without place) :
    stat ⟨root.erase without, cwd⟩ p = stat ⟨root, cwd⟩ p := by
  rw [stat, lookup_without h apart, stat]

theorem listDir_without (h : Means (root.erase without) cwd true p place)
    (apart : Apart without place) :
    listDir ⟨root.erase without, cwd⟩ p = listDir ⟨root, cwd⟩ p := by
  rw [listDir, lookup_without h apart, listDir]

theorem createDir_without (h : Means (root.erase without) cwd false p place)
    (apart : Apart without place) :
    createDir ⟨root.erase without, cwd⟩ p =
      (·.erase without) <$> createDir ⟨root, cwd⟩ p := by
  rw [createDir, free, h.locate_without apart, createDir, free]
  cases located : locate root cwd false p with
  | error e => rfl
  | ok found =>
    obtain rfl := (h.whole apart).found_eq located
    cases root.get? place with
    | none => exact congrArg Except.ok (erase_fill_apart apart (some .emptyDirectory)).symm
    | some node => rfl

theorem setMode_without (h : Means (root.erase without) cwd true p place)
    (apart : Apart without place) :
    setMode ⟨root.erase without, cwd⟩ p mode =
      (·.erase without) <$> setMode ⟨root, cwd⟩ p mode := by
  rw [setMode, lookup_without h apart, setMode]
  cases looked : lookup root cwd p with
  | error e => rfl
  | ok found =>
    obtain ⟨rfl, -⟩ := (h.whole apart).lookup_eq looked
    exact congrArg Except.ok (erase_fill_apart apart (some (found.2.withMode mode))).symm

theorem removeTree_without (h : Means (root.erase without) cwd false p place)
    (apart : Apart without place) :
    removeTree ⟨root.erase without, cwd⟩ p =
      (·.erase without) <$> removeTree ⟨root, cwd⟩ p := by
  rw [removeTree, h.locate_without apart, removeTree]
  cases located : locate root cwd false p with
  | error e => rfl
  | ok found =>
    obtain rfl := (h.whole apart).found_eq located
    have erased : Except.ok ((root.erase without).erase place) =
        (Except.ok ((root.erase place).erase without) : Except IoError Node) :=
      congrArg Except.ok (erase_fill_apart apart none).symm
    cases root.get? place with
    | none => rfl
    | some node => cases node <;> first | rfl | exact erased

theorem write_without (h : Means (root.erase without) cwd true p place)
    (apart : Apart without place) :
    write ⟨root.erase without, cwd⟩ p append bytes =
      (·.erase without) <$> write ⟨root, cwd⟩ p append bytes := by
  rw [write, h.locate_without apart, write]
  split
  · rfl
  · cases located : locate root cwd true p with
    | error e => rfl
    | ok found =>
      obtain rfl := (h.whole apart).found_eq located
      have filled (node : Node) : Except.ok ((root.erase without).put place node) =
          (Except.ok ((root.put place node).erase without) : Except IoError Node) :=
        congrArg Except.ok (erase_fill_apart apart (some node)).symm
      cases root.get? place with
      | none => exact filled _
      | some node =>
        cases node with
        | file mode old => exact filled _
        | _ => rfl

/-! ## What calls make -/

theorem createDir_fills (h : Means root cwd false p place)
    (created : createDir ⟨root, cwd⟩ p = .ok root') :
    root.get? place = none ∧ root' = root.put place .emptyDirectory := by
  obtain ⟨names, located, rfl⟩ := createDir_ok_iff.1 created
  obtain ⟨rfl, free⟩ := Place.mk.inj (h.found_eq located)
  exact ⟨free.symm, rfl⟩

theorem setMode_fills (h : Means root cwd true p place)
    (moded : setMode ⟨root, cwd⟩ p mode = .ok root') :
    ∃ node, root.get? place = some node ∧ root' = root.put place (node.withMode mode) := by
  obtain ⟨⟨names, node⟩, looked, h'⟩ := bind_ok_iff.1 moded
  obtain ⟨rfl, found⟩ := h.lookup_eq looked
  exact ⟨node, found, (Except.ok.inj h').symm⟩

theorem removeTree_fills (h : Means root cwd false p place)
    (removed : removeTree ⟨root, cwd⟩ p = .ok root') : root' = root.erase place := by
  obtain ⟨found, located, h'⟩ := bind_ok_iff.1 removed
  obtain rfl := h.found_eq located
  split at h'
  · cases h'
  · exact (Except.ok.inj h').symm
  · exact (Except.ok.inj h').symm
  · cases h'

/-- A file is written where nothing or a file is. To a device, nothing is written. -/
theorem write_fills (h : Means root cwd true p place)
    (written : write ⟨root, cwd⟩ p append bytes = .ok root') :
    (∃ mode bytes', root' = root.put place (.file mode bytes') ∧
      ∀ inner, root.get? place = some inner → inner.kind = .file) ∨
    root' = root ∧ ∃ name, root.get? place = some (.device name) := by
  rw [write] at written
  split at written
  · cases written
  · obtain ⟨found, located, h'⟩ := bind_ok_iff.1 written
    obtain rfl := h.found_eq located
    dsimp only at h'
    split at h'
    · rename_i none
      exact .inl ⟨_, _, (Except.ok.inj h').symm, by simp [none]⟩
    · rename_i mode old some
      refine .inl ⟨_, _, (Except.ok.inj h').symm, fun inner found => ?_⟩
      cases some.symm.trans found
      rfl
    · rename_i name some
      exact .inr ⟨(Except.ok.inj h').symm, name, some⟩
    · cases h'
    · cases h'

theorem write_opens (h : Means root cwd true p place)
    (written : write ⟨root, cwd⟩ p append bytes = .ok root') : Opens root root' := by
  obtain ⟨mode, bytes', rfl, leaf⟩ | ⟨rfl, -⟩ := write_fills h written
  · exact opens_put h.offers fun inner found => by simp [leaf inner found]
  · exact .refl root'

/-- A file that was written is found under the same path. -/
theorem means_of_write (h : Means root cwd true p place)
    (written : write ⟨root, cwd⟩ p append bytes = .ok root') : Means root' cwd true p place := by
  refine h.refill (write_opens h written) fun node found => ?_
  obtain ⟨mode, bytes', rfl, -⟩ | ⟨rfl, name, there⟩ := write_fills h written
  · rw [get?_put h.offers] at found
    cases found
    exact nofun
  · cases there.symm.trans found
    exact nofun

/-- What is copied is put into the place of the target. -/
theorem copy_fills (h : Means root cwd true p place)
    (copied : copy ⟨root, cwd⟩ source p = .ok root') :
    (∃ mode bytes, root' = root.put place (.file mode bytes) ∧
      ∀ inner, root.get? place = some inner → inner.kind = .file) ∨
    root' = root ∧ ∃ name, root.get? place = some (.device name) := by
  obtain ⟨⟨names, node⟩, -, h'⟩ := bind_ok_iff.1 copied
  obtain ⟨bytes, -, h'⟩ := bind_ok_iff.1 h'
  obtain ⟨filled, written, moded⟩ := bind_ok_iff.1 h'
  obtain ⟨node', found, rfl⟩ := setMode_fills (means_of_write h written) moded
  obtain ⟨mode, bytes', rfl, leaf⟩ | ⟨rfl, name, there⟩ := write_fills h written
  · rw [get?_put h.offers] at found
    obtain rfl := Option.some.inj found
    exact .inl ⟨_, _, put_put, leaf⟩
  · cases there.symm.trans found
    exact .inr ⟨put_self there, name, there⟩

/-- Calls in a row that do the same with and without a place. -/
theorem bind_without {x y : Except IoError Node} {f g : Node → Except IoError Node}
    (same : x = (·.erase without) <$> y)
    (more : ∀ n, y = .ok n → f (n.erase without) = (·.erase without) <$> g n) :
    x >>= f = (·.erase without) <$> (y >>= g) := by
  subst same
  cases y with
  | error e => rfl
  | ok n => exact more n rfl

theorem copy_without (read : Means (root.erase without) cwd true source from')
    (apart' : Apart without from') (means : Means (root.erase without) cwd true p place)
    (apart : Apart without place) :
    copy ⟨root.erase without, cwd⟩ source p = (·.erase without) <$> copy ⟨root, cwd⟩ source p := by
  rw [copy, lookup_without read apart', copy]
  cases lookup root cwd source with
  | error e => rfl
  | ok found =>
    change (contents found.2 >>= fun bytes => write ⟨root.erase without, cwd⟩ p false bytes >>=
        fun filled => setMode ⟨filled, cwd⟩ p found.2.mode) =
      (·.erase without) <$> (contents found.2 >>= fun bytes => write ⟨root, cwd⟩ p false bytes >>=
        fun filled => setMode ⟨filled, cwd⟩ p found.2.mode)
    cases contents found.2 with
    | error e => rfl
    | ok bytes =>
      have same : write ⟨root.erase without, cwd⟩ p false bytes =
          (·.erase without) <$> write ⟨root, cwd⟩ p false bytes := write_without means apart
      refine bind_without same fun filled written => ?_
      rw [written] at same
      exact setMode_without (means_of_write means same) apart

end Files

end

end Tandem.Machine
