import Tandem.Proofs.Project.Ownership

/-!
What becomes of the calls of a side.

* `Asks.effect`: a call has an effect on nothing but what belongs to the side.
* `Asks.answers_without`: it is answered as if the other side were not there.
* `Acts.effect`, `Acts.without`: the same of the steps of its guest.
-/

namespace Tandem.Project.Sides

open Tandem.Host Tandem.Machine Tandem.Machine.Node Tandem.Sandbox Tandem.Text
open Tandem.Host.Task (Event)

section
variable {σ : Type} {S : Stage σ} {r o : Runtime} {w whole w' whole' : Shared σ}
  {held held' : Option Path} {hidden place : List String} {c : Call} {m : Manner}
  {answer : host.Reply c} {pid : UInt32}

/-- A call is about one guest at most. -/
theorem About.unique {pid' : UInt32} (h : About pid c) (h' : About pid' c) : pid = pid' := by
  cases c <;> first | exact h.symm.trans h' | cases h

/-- A call about a guest is answered as the guest is met. -/
theorem answers_about (about : About pid c) :
    Answers S.ground r w m ⟨c, answer⟩ w' ↔ ∃ guest state, w.guests pid = some guest ∧
      S.ground.guests.meets ⟨c, answer⟩ guest.state state ∧
        w' = w.settle pid { guest with state } := by
  have met : (∃ pid' guest state, About pid' c ∧ w.guests pid' = some guest ∧
      S.ground.guests.meets ⟨c, answer⟩ guest.state state ∧
        w' = w.settle pid' { guest with state }) ↔ ∃ guest state, w.guests pid = some guest ∧
      S.ground.guests.meets ⟨c, answer⟩ guest.state state ∧
        w' = w.settle pid { guest with state } := by
    constructor
    · rintro ⟨pid', guest, state, about', rest⟩
      obtain rfl := about.unique about'
      exact ⟨guest, state, rest⟩
    · rintro ⟨guest, state, rest⟩
      exact ⟨pid, guest, state, about, rest⟩
  cases c <;> first | exact met | cases about

theorem holds_of_about (about : About pid c) : holds held ⟨c, answer⟩ = held := by
  cases c <;> first | rfl | cases about

/-- The path that a side tries leads to the place that it tries. -/
theorem Stage.means (S : Stage σ) {files : Node} (grows : Grows S.files files) (r : Runtime)
    (n : Nat) : Means files S.ground.directory false (S.path r n) (S.place r n) := by
  obtain ⟨left, reaches⟩ := S.reaches
  exact .entry (reaches.mono grows) (Stage.name_entryName r n) nofun

theorem Stage.Own.means {path : Path} (own : S.Own r path place) {files : Node}
    (grows : Grows S.files files) : Means files S.ground.directory false path place := by
  obtain ⟨n, rfl, rfl⟩ := own
  exact S.means grows r n

/-! ## Effects -/

theorem Effect.fill_place {path : Path} (own : S.Own r path place) (node? : Option Node) :
    Effect S r w (some path) (some path) { w with files := w.files.fill place node? } := by
  have filled : Effect S r w (some path) (some path)
      { w with files := w.files.fill (place ++ []) node? } := .fill own [] node?
  rwa [List.append_nil] at filled

/-- A call has an effect on nothing but what belongs to the side. -/
theorem Asks.effect (asks : Asks S r w held c) (grows : Grows S.files w.files)
    (answers : Answers S.ground r w m ⟨c, answer⟩ w') :
    Effect S r w held (holds held ⟨c, answer⟩) w' := by
  cases asks with
  | look looks =>
    cases c with
    | environment | processId =>
      obtain ⟨-, rfl⟩ := answers
      exact .idle held
    | nextNumber =>
      obtain ⟨n, -, fresh, rfl⟩ := answers
      exact .count held fresh
    | now | sleep =>
      obtain rfl := answers
      exact .idle held
    | _ => cases looks
  | stat | list =>
    obtain ⟨-, rfl⟩ := answers
    exact .idle held
  | found n =>
    obtain ⟨files, changed, rfl⟩ := answers
    cases changed with
    | faithful done =>
      obtain ⟨free, rfl⟩ := Files.createDir_fills (S.means grows r n) done
      exact .found free
    | failed | refused => exact .idle none
    | halfway left => cases left
  | own own means mode =>
    obtain ⟨files, changed, rfl⟩ := answers
    cases changed with
    | faithful done =>
      obtain ⟨node, -, rfl⟩ := Files.setMode_fills means done
      exact .fill_place own (some (node.withMode mode))
    | failed | refused => exact .idle _
    | halfway left => cases left
  | make own means =>
    obtain ⟨files, changed, rfl⟩ := answers
    cases changed with
    | faithful done =>
      obtain ⟨-, rfl⟩ := Files.createDir_fills means done
      exact .fill own _ (some .emptyDirectory)
    | failed | refused => exact .idle _
    | halfway left => cases left
  | copy own read means =>
    obtain ⟨files, changed, rfl⟩ := answers
    cases changed with
    | faithful done =>
      obtain ⟨mode, bytes, rfl, -⟩ | ⟨rfl, -⟩ := Files.copy_fills means done
      · exact .fill own _ (some _)
      · exact .idle _
    | failed | refused => exact .idle _
    | halfway left =>
      obtain ⟨bytes, written⟩ := left
      obtain ⟨mode, bytes, rfl, -⟩ | ⟨rfl, -⟩ := Files.write_fills means written
      · exact .fill own _ (some _)
      · exact .idle _
  | remove own =>
    have means := own.means grows
    obtain ⟨files, changed, rfl⟩ := answers
    cases changed with
    | faithful done =>
      obtain rfl := Files.removeTree_fills means done
      exact .fill_place own none
    | failed | refused => exact .idle _
    | halfway left =>
      obtain ⟨found, rest, located, rfl⟩ := left
      obtain rfl := means.found_eq located
      exact .fill_place own (some rest)
  | spawn own means directory =>
    cases answers with
    | nowhere | failed | refused => exact .idle _
    | started directory' found start fresh =>
      cases directory.symm.trans directory'
      obtain ⟨rfl, -⟩ := means.lookup_eq found
      exact .arrive own fresh _
  | tend known owner about =>
    obtain ⟨guest, state, known', -, rfl⟩ := (answers_about about).1 answers
    cases known.symm.trans known'
    rw [holds_of_about about]
    exact .go held known owner state

/-! ## Answers without the other side -/

theorem Changed.without {files files' : Node} {made made' : Except IoError Node}
    {partly partly' : Node → Prop} {answer : Except IoError Unit}
    (h : Changed files made partly m answer files') (same : made' = (·.erase hidden) <$> made)
    (left : ∀ rest, partly rest → partly' (rest.erase hidden)) :
    Changed (files.erase hidden) made' partly' m answer (files'.erase hidden) := by
  subst same
  cases h with
  | faithful done => exact .faithful (by rw [done]; rfl)
  | failed failed => exact .failed (by rw [failed]; rfl)
  | refused e => exact .refused e
  | halfway rest e => exact .halfway (left _ rest) e

namespace Hides

/-- What a path leads to that a side sees is there. -/
theorem whole_means (h : Hides S o held hidden w whole) {follow : Bool} {path : Path}
    (means : Means w.files S.ground.directory follow path place) (apart : Apart hidden place) :
    Means whole.files S.ground.directory follow path place := by
  rw [h.files] at means
  exact means.whole apart

/-- Files that were changed where a side sees them. -/
theorem change {files : Node} (h : Hides S o held hidden w whole)
    (kept : files.get? hidden = whole.files.get? hidden) :
    Hides S o held hidden { w with files := files.erase hidden } { whole with files } :=
  { h with vacant := fun none => kept.trans (h.vacant none), files := rfl }

theorem settle (h : Hides S o held hidden w whole) (pid : UInt32) {guest : Resident σ}
    (other : guest.owner ≠ o) :
    Hides S o held hidden (w.settle pid guest) (whole.settle pid guest) := by
  refine { h with guests := fun pid' => ?_ }
  rw [Shared.guests_settle, Shared.guests_settle, h.guests]
  split
  · simp [other, Option.filter]
  · rfl

end Hides

/-- A side finds its tree as it was. -/
theorem Alone.get?_tree (h : Alone S r held w) (rel : List String) :
    w.files.get? (S.here r ++ rel) = S.files.get? (S.here r ++ rel) := by
  cases h with
  | before files empty => rw [files]
  | within own free rest guests =>
    obtain ⟨n, -, rfl⟩ := own
    rw [← rest]
    exact (get?_fill_apart (Stage.apart_tree free r rel) none).symm

/-- What a side asks for, beside the other side. -/
theorem Asks.beside (asks : Asks S r w held c) {held' : Option Path}
    (hides : Hides S o held' hidden w whole) (other : r ≠ o) : Asks S r whole held c := by
  cases asks with
  | look looks => exact .look looks
  | stat => exact .stat held
  | list reaches => exact .list reaches
  | found n => exact .found n
  | own own means mode =>
    exact .own own (hides.whole_means means (hides.apart_own_place other own)) mode
  | make own means => exact .make own (hides.whole_means means (hides.apart_own other own _))
  | copy own read means =>
    exact .copy own read (hides.whole_means means (hides.apart_own other own _))
  | remove own => exact .remove own
  | spawn own means directory =>
    exact .spawn own (hides.whole_means means (hides.apart_own_place other own)) directory
  | tend known owner about => exact .tend (hides.known known) owner about

/-- What a side asks for is answered as if the other side were not there. -/
theorem Asks.answers_without (asks : Asks S r w held c) (alone : Alone S r held w)
    {held' : Option Path} (hides : Hides S o held' hidden w whole) (other : r ≠ o)
    (answers : Answers S.ground r whole m ⟨c, answer⟩ whole') :
    ∃ w', Answers S.ground r w m ⟨c, answer⟩ w' ∧ Hides S o held' hidden w' whole' := by
  have grows : Grows S.files w.files := alone.grows
  have files : w.files = whole.files.erase hidden := hides.files
  have grows' : Grows S.files whole.files := grows.trans hides.grows
  have kept : whole'.files.get? hidden = whole.files.get? hidden :=
    hides.get?_effect other ((asks.beside hides other).effect grows' answers)
  cases asks with
  | look looks =>
    cases c with
    | environment | processId =>
      obtain ⟨same, rfl⟩ := answers
      exact ⟨w, ⟨same, rfl⟩, hides⟩
    | nextNumber =>
      obtain ⟨n, same, fresh, rfl⟩ := answers
      exact ⟨_, ⟨n, same, Nat.le_trans hides.counter fresh, rfl⟩, { hides with
        counter := Nat.le_refl _ }⟩
    | now | sleep =>
      obtain rfl := answers
      exact ⟨w, rfl, hides⟩
    | _ => cases looks
  | stat =>
    obtain ⟨told, rfl⟩ := answers
    obtain ⟨left, reaches⟩ := S.trees r
    have means : Means w.files S.ground.directory true (S.tree r) (S.here r) :=
      .directory (reaches.mono grows)
    refine ⟨w, ⟨?_, rfl⟩, hides⟩
    rw [files] at means ⊢
    rwa [Files.stat_without means (by simpa using hides.apart_tree r [])]
  | list reaches =>
    obtain ⟨listed, rfl⟩ := answers
    have means := Means.directory (reaches.mono grows)
    refine ⟨w, ⟨?_, rfl⟩, hides⟩
    rw [files] at means ⊢
    rwa [Files.listDir_without means (hides.apart_tree r _)]
  | found n =>
    have means := S.means grows r n
    have apart : Apart hidden (S.place r n) := by simpa using hides.apart_place other n []
    obtain ⟨files', changed, rfl⟩ := answers
    refine ⟨_, ⟨_, ?_, rfl⟩, hides.change kept⟩
    rw [files] at means ⊢
    exact changed.without (Files.createDir_without means apart) fun rest => id
  | own own means mode =>
    obtain ⟨files', changed, rfl⟩ := answers
    refine ⟨_, ⟨_, ?_, rfl⟩, hides.change kept⟩
    rw [files] at means ⊢
    exact changed.without (Files.setMode_without means (hides.apart_own_place other own))
      fun rest => id
  | make own means =>
    obtain ⟨files', changed, rfl⟩ := answers
    refine ⟨_, ⟨_, ?_, rfl⟩, hides.change kept⟩
    rw [files] at means ⊢
    exact changed.without (Files.createDir_without means (hides.apart_own other own _))
      fun rest => id
  | @copy _ _ _ place rel rel' own read means =>
    replace read := read.opens grows.opens (alone.get?_tree _)
    have apart : Apart hidden (place ++ rel') := hides.apart_own other own rel'
    obtain ⟨files', changed, rfl⟩ := answers
    refine ⟨_, ⟨_, ?_, rfl⟩, hides.change kept⟩
    rw [files] at means read ⊢
    refine changed.without (Files.copy_without read (hides.apart_tree r _) means apart) ?_
    rintro rest ⟨bytes, written⟩
    refine ⟨bytes, ?_⟩
    rw [Files.write_without means apart, written]
    rfl
  | @remove _ place own =>
    have means := own.means grows
    have apart : Apart hidden place := hides.apart_own_place other own
    obtain ⟨files', changed, rfl⟩ := answers
    refine ⟨_, ⟨_, ?_, rfl⟩, hides.change kept⟩
    rw [files] at means ⊢
    refine changed.without (Files.removeTree_without means apart) ?_
    rintro - ⟨found, rest, located, rfl⟩
    refine ⟨found, rest, (means.locate_without apart).trans located, ?_⟩
    obtain rfl := (means.whole apart).found_eq located
    exact erase_fill_apart apart (some rest)
  | @spawn _ place launch own means directory =>
    have apart : Apart hidden place := hides.apart_own_place other own
    have same : ∀ path, launch.directory = some path → lookup w.files S.ground.directory path =
        lookup whole.files S.ground.directory path := by
      intro path directory'
      cases directory.symm.trans directory'
      rw [files] at means ⊢
      exact lookup_without means apart
    cases answers with
    | nowhere directory' lost =>
      exact ⟨w, .nowhere directory' ((same _ directory').trans lost), hides⟩
    | failed directory' found start =>
      exact ⟨w, .failed directory' ((same _ directory').trans found) start, hides⟩
    | started directory' found start fresh =>
      refine ⟨_, .started directory' ((same _ directory').trans found) start ?_,
        hides.settle _ other⟩
      rw [hides.guests, fresh]
      rfl
    | refused e => exact ⟨w, .refused e, hides⟩
  | tend known owner about =>
    obtain ⟨guest, state, known', meets, rfl⟩ := (answers_about about).1 answers
    cases (hides.known known).symm.trans known'
    exact ⟨_, (answers_about about).2 ⟨_, state, known, meets, rfl⟩,
      hides.settle _ (owner ▸ other)⟩

/-! ## Guests -/

/-- A guest of a side that runs alone is in the working directory of the side. -/
theorem Alone.resident (h : Alone S r held w) {guest : Resident σ}
    (known : w.guests pid = some guest) : ∃ path, held = some path ∧ S.Own r path guest.place := by
  cases h with
  | before files empty => cases (empty pid).symm.trans known
  | within own free rest guests =>
    obtain ⟨-, rfl⟩ := guests pid guest known
    exact ⟨_, rfl, own⟩

theorem Hides.sees (h : Hides S o held hidden w whole) {guest : Resident σ}
    (known : whole.guests pid = some guest) (other : guest.owner ≠ o) :
    w.guests pid = some guest := by
  rw [h.guests, known]
  simp [Option.filter, other]

/-- A step of a guest has an effect on its place and on itself. -/
theorem Acts.effect (acts : Acts S.ground r w pid w')
    (resident : ∀ guest, w.guests pid = some guest → guest.owner = r →
      ∃ path, held = some path ∧ S.Own r path guest.place) :
    ∃ next, Effect S r w held held next ∧ Effect S r next held held w' := by
  obtain @⟨guest, state, left, known, owner, -⟩ := acts
  obtain ⟨path, rfl, own⟩ := resident guest known owner
  have known' : ({ w with files := w.files.fill guest.place left } : Shared σ).guests pid =
      some guest := known
  exact ⟨_, .fill_place own left, .go _ known' owner state⟩

/-- A guest makes its steps as if the other side were not there. -/
theorem Acts.without (acts : Acts S.ground r whole pid whole') (alone : Alone S r held w)
    {held' : Option Path} (hides : Hides S o held' hidden w whole) (other : r ≠ o) :
    ∃ w', Acts S.ground r w pid w' ∧ Hides S o held' hidden w' whole' := by
  obtain @⟨guest, state, left, known, owner, acts⟩ := acts
  have known' : w.guests pid = some guest := hides.sees known (owner ▸ other)
  obtain ⟨path, -, own⟩ := alone.resident known'
  have apart : Apart hidden guest.place := hides.apart_own_place other own
  have kept : (whole.files.fill guest.place left).get? hidden = whole.files.get? hidden :=
    get?_fill_apart apart.symm left
  have sees : w.files.get? guest.place = whole.files.get? guest.place := by
    rw [hides.files]
    exact get?_fill_apart apart none
  refine ⟨_, .act known' owner (sees ▸ acts), ?_⟩
  rw [hides.files, ← erase_fill_apart apart left]
  exact (hides.change kept).settle pid (owner ▸ other)

end

end Tandem.Project.Sides
