import Tandem.Proofs.Host.Parts
import Tandem.Proofs.Host.Trace
import Tandem.Proofs.Text.Digits
import Tandem.Sandbox.WorkDir

/-!
What a copy of a tree holds.

* `copyLevels_puts`: a tree that can be read is copied place by place, and nothing else is made.
* `seed_puts`: a new working directory holds the tree that it was seeded from.
* `gives_iff`: what it holds does not depend on where it stands.
-/

namespace Tandem.Sandbox

open Tandem.Host Tandem.Host.Task

variable {δ : Type}

/-- What stands in the file system under a name, `δ` being what a file holds. -/
inductive FileTree (δ : Type) where
  | file (data : δ)
  | directory (entries : List (String × FileTree δ))
  | link
  | special

/-- What a copy makes. -/
inductive Item (δ : Type) where
  | file (data : δ)
  | directory
deriving DecidableEq, Repr

namespace FileTree

def kind : FileTree δ → FileKind
  | file _ => .file
  | directory _ => .directory
  | link => .link
  | special => .special

/-- What a copy makes of it. Links and special files are passed over. -/
def item? : FileTree δ → Option (Item δ)
  | file data => some (.file data)
  | directory _ => some .directory
  | link => none
  | special => none

/-- What stands at a place, named from the tree's own. -/
inductive At : FileTree δ → List String → FileTree δ → Prop where
  | here (t : FileTree δ) : At t [] t
  | inside {entries : List (String × FileTree δ)} {name : String} {t sub : FileTree δ}
      {rel : List String} (listed : (name, t) ∈ entries) (more : At t rel sub) :
      At (directory entries) (name :: rel) sub

/-- No directory stands at so many levels. -/
def Shallow (n : Nat) (t : FileTree δ) : Prop :=
  ∀ rel entries, t.At rel (directory entries) → rel.length < n

end FileTree

/-- How a listing shows a name and what stands there. -/
def listing (entries : List (String × FileTree δ)) : List (Except IoError Entry) :=
  entries.map fun e => .ok ⟨e.1, .ok e.2.kind⟩

/-- The calls that make something. -/
def Makes : Call → Prop
  | .createDir _ => True
  | .copyFile .. => True
  | _ => False

/-- Calls that succeeded put an item at a path. `holds` is what files hold that are copied. -/
def Puts (holds : Path → δ) (events : List (Event host)) (p : Path) : Item δ → Prop
  | .file data => ∃ source, ⟨.copyFile source p, .ok ()⟩ ∈ events ∧ holds source = data
  | .directory => ⟨.createDir p, .ok ()⟩ ∈ events

/-- The world lets a tree be copied: it shows the tree, and refuses no call but to make a directory
where something stands already. -/
structure Lends (holds : Path → δ) (taken : Path → Prop) (t : FileTree δ) (source : Path)
    (events : List (Event host)) : Prop where
  listed : ∀ rel entries answer, t.At rel (.directory entries) →
    ⟨.listDir (source.below rel), answer⟩ ∈ events →
      ∃ order, order.Perm entries ∧ answer = .ok (listing order)
  held : ∀ rel data, t.At rel (.file data) → holds (source.below rel) = data
  made : ∀ path answer, ⟨.createDir path, answer⟩ ∈ events →
    (¬ taken path ∧ answer = .ok ()) ∨
      taken path ∧ ∃ e, answer = .error e ∧ e.kind = .alreadyExists
  owned : ∀ path mode answer, ⟨.setMode path mode, answer⟩ ∈ events → answer = .ok ()
  copied : ∀ source path answer, ⟨.copyFile source path, answer⟩ ∈ events → answer = .ok ()

/-- A copy of a tree has an item at a path. -/
def FileTree.Gives (t : FileTree δ) (target p : Path) (item : Item δ) : Prop :=
  ∃ rel sub, t.At rel sub ∧ sub.item? = some item ∧ p = target.below rel

/-- Nothing stands yet where a copy is made. -/
def Free (taken : Path → Prop) (t : FileTree δ) (target : Path) : Prop :=
  ∀ rel sub, t.At rel sub → ¬ taken (target.below rel)

section
variable {entries : List (String × FileTree δ)} {t sub : FileTree δ} {rel : List String}
  {target p : Path} {item : Item δ}

theorem at_directory_iff :
    FileTree.At (.directory entries) rel sub ↔
      (rel = [] ∧ sub = .directory entries) ∨
        ∃ name t more, (name, t) ∈ entries ∧ t.At more sub ∧ rel = name :: more := by
  constructor
  · intro h
    cases h with
    | here => exact .inl ⟨rfl, rfl⟩
    | inside listed more => exact .inr ⟨_, _, _, listed, more, rfl⟩
  · rintro (⟨rfl, rfl⟩ | ⟨name, t, more, listed, there, rfl⟩)
    · exact .here _
    · exact .inside listed there

/-- Nothing stands below what is no directory. -/
theorem at_leaf_iff (leaf : t.kind ≠ .directory) : t.At rel sub ↔ rel = [] ∧ sub = t := by
  constructor
  · intro h
    cases h with
    | here => exact ⟨rfl, rfl⟩
    | inside listed more => exact absurd rfl leaf
  · rintro ⟨rfl, rfl⟩
    exact .here _

theorem gives_directory_iff :
    (FileTree.directory entries).Gives target p item ↔
      (p = target ∧ item = .directory) ∨ ∃ e ∈ entries, e.2.Gives (target / e.1) p item := by
  constructor
  · rintro ⟨rel, sub, there, made, rfl⟩
    obtain ⟨rfl, rfl⟩ | ⟨name, t, more, listed, there', rfl⟩ := at_directory_iff.1 there
    · cases made
      exact .inl ⟨rfl, rfl⟩
    · exact .inr ⟨(name, t), listed, more, sub, there', made, rfl⟩
  · rintro (⟨rfl, rfl⟩ | ⟨e, listed, rel, sub, there, made, rfl⟩)
    · exact ⟨[], _, .here _, rfl, rfl⟩
    · exact ⟨e.1 :: rel, sub, .inside listed there, made, rfl⟩

theorem gives_leaf_iff (leaf : t.kind ≠ .directory) :
    t.Gives target p item ↔ p = target ∧ t.item? = some item := by
  constructor
  · rintro ⟨rel, sub, there, made, rfl⟩
    obtain ⟨rfl, rfl⟩ := (at_leaf_iff leaf).1 there
    exact ⟨rfl, made⟩
  · rintro ⟨rfl, made⟩
    exact ⟨[], t, .here t, made, rfl⟩

end

section
variable {holds : Path → δ} {taken : Path → Prop} {source target : Path} {n : Nat}
  {entries : List (String × FileTree δ)} {name : String} {t : FileTree δ}
  {events : List (Event host)}

theorem puts_append {more : List (Event host)} {p : Path} {item : Item δ} :
    Puts holds (events ++ more) p item ↔ Puts holds events p item ∨ Puts holds more p item := by
  cases item with
  | directory => exact List.mem_append
  | file data =>
    simp only [Puts, List.mem_append, or_and_right, exists_or]

/-- Calls that make nothing put nothing anywhere. -/
theorem not_puts {p : Path} {item : Item δ} (h : ∀ e ∈ events, ¬ Makes e.1) :
    ¬ Puts holds events p item := by
  cases item with
  | directory => exact fun made => h _ made trivial
  | file data => exact fun ⟨path, made, _⟩ => h _ made trivial

theorem FileTree.Shallow.below (h : FileTree.Shallow (n + 1) (.directory entries))
    (listed : (name, t) ∈ entries) : t.Shallow n :=
  fun rel more there => Nat.succ_lt_succ_iff.1 (h (name :: rel) more (.inside listed there))

theorem Free.below (h : Free taken (.directory entries) target) (listed : (name, t) ∈ entries) :
    Free taken t (target / name) :=
  fun rel sub there => h (name :: rel) sub (.inside listed there)

theorem Lends.below (h : Lends holds taken (.directory entries) source events)
    (listed : (name, t) ∈ entries) : Lends holds taken t (source / name) events where
  listed rel more answer there := h.listed (name :: rel) more answer (.inside listed there)
  held rel data there := h.held (name :: rel) data (.inside listed there)
  made := h.made
  owned := h.owned
  copied := h.copied

theorem Lends.mono {more : List (Event host)} (h : Lends holds taken t source more)
    (sub : ∀ e ∈ events, e ∈ more) : Lends holds taken t source events where
  listed rel entries answer there he := h.listed rel entries answer there (sub _ he)
  held := h.held
  made path answer he := h.made path answer (sub _ he)
  owned path mode answer he := h.owned path mode answer (sub _ he)
  copied path path' answer he := h.copied path path' answer (sub _ he)

/-! ## Copying -/

/-- Copies one entry of a directory. -/
def copyEntry (descend : Path → Path → Task host (Except Chain Unit)) (source target : Path) :
    Except IoError FileKind → Task host (Except Chain Unit)
  | .error e => return .error (failed "file_type" e)
  | .ok .directory => do
    match ← ask (.createDir target) with
    | .error e => return .error (failed s!"create_dir: {target.text}" e)
    | .ok () => descend source target
  | .ok .file => do
    match ← ask (.copyFile source target) with
    | .error e => return .error (failed s!"copy file from {source.text} to {target.text}" e)
    | .ok () => return .ok ()
  | .ok _ => return .ok ()

theorem copyEntries_cons (descend : Path → Path → Task host (Except Chain Unit))
    (source target : Path) (name : String) (kind : Except IoError FileKind)
    (rest : List (Except IoError Entry)) :
    copyEntries descend source target (.ok ⟨name, kind⟩ :: rest) = (do
      match ← copyEntry descend (source / name) (target / name) kind with
      | .error e => return .error e
      | .ok () => copyEntries descend source target rest) := by
  match kind with
  | .error e => rfl
  | .ok .directory =>
    refine congrArg (call (I := host) (.createDir (target / name))) (funext ?_)
    intro answer
    cases answer <;> rfl
  | .ok .file =>
    refine congrArg (call (I := host) (.copyFile (source / name) (target / name))) (funext ?_)
    intro answer
    cases answer <;> rfl
  | .ok .link => rfl
  | .ok .special => rfl

/-- Copying the entries of a directory makes directories and copies files. -/
theorem calls_copyEntries {p : Call → Prop}
    {descend : Path → Path → Task host (Except Chain Unit)} (makes : ∀ path, p (.createDir path))
    (copies : ∀ source target, p (.copyFile source target))
    (deeper : ∀ source target, Calls p (descend source target)) (source target : Path)
    (entries : List (Except IoError Entry)) :
    Calls p (copyEntries descend source target entries) := by
  induction entries with
  | nil => exact calls_done _
  | cons entry rest ih =>
    match entry with
    | .error e => exact calls_done _
    | .ok ⟨name, kind⟩ =>
      rw [copyEntries_cons]
      refine calls_bind ?_ fun result => ?_
      · match kind with
        | .error e => exact calls_done _
        | .ok .directory =>
          refine calls_bind (calls_ask (makes _)) fun answer => ?_
          cases answer with
          | error e => exact calls_done _
          | ok _ => exact deeper _ _
        | .ok .file =>
          refine calls_bind (calls_ask (copies _ _)) fun answer => ?_
          cases answer <;> exact calls_done _
        | .ok .link => exact calls_done _
        | .ok .special => exact calls_done _
      · cases result with
        | error e => exact calls_done _
        | ok _ => exact ih

/-- Copying what a directory holds lists directories too, and makes no other call. -/
theorem calls_copyLevels {p : Call → Prop} (lists : ∀ path, p (.listDir path))
    (makes : ∀ path, p (.createDir path)) (copies : ∀ source target, p (.copyFile source target))
    (levels : Nat) (source target : Path) : Calls p (copyLevels levels source target) := by
  induction levels generalizing source target with
  | zero => exact calls_done _
  | succ levels ih =>
    refine calls_bind (calls_ask (lists _)) fun answer => ?_
    cases answer with
    | error e => exact calls_done _
    | ok entries => exact calls_copyEntries makes copies ih source target entries

/-- One entry is copied whole, if what a directory holds is. -/
theorem copyEntry_puts {descend : Path → Path → Task host (Except Chain Unit)}
    {result : Except Chain Unit}
    (path : Task.Path (copyEntry descend source target (.ok t.kind)) events result)
    (lends : Lends holds taken t source events) (free : Free taken t target)
    (deeper : ∀ entries more result, t = .directory entries →
      Task.Path (descend source target) more result → Lends holds taken t source more →
        result = .ok () ∧ ∀ p item, Puts holds more p item ↔
          ∃ e ∈ entries, e.2.Gives (target / e.1) p item) :
    result = .ok () ∧ ∀ p item, Puts holds events p item ↔ t.Gives target p item := by
  cases t with
  | file data =>
    obtain ⟨answer, rest, rfl, tail⟩ := path_ask_bind_iff.1 path
    obtain rfl := lends.copied _ _ answer (by simp)
    obtain ⟨rfl, rfl⟩ := path_done_iff.1 tail
    obtain rfl : holds source = data := lends.held [] data (.here _)
    refine ⟨rfl, fun p item => ?_⟩
    rw [gives_leaf_iff (by simp [FileTree.kind])]
    cases item with
    | directory => simp [Puts, FileTree.item?]
    | file data =>
      simp only [Puts, FileTree.item?, List.mem_singleton, Option.some.injEq, Item.file.injEq]
      constructor
      · rintro ⟨_, same, rfl⟩
        cases same
        exact ⟨rfl, rfl⟩
      · rintro ⟨rfl, rfl⟩
        exact ⟨source, rfl, rfl⟩
  | directory entries =>
    obtain ⟨answer, rest, rfl, tail⟩ := path_ask_bind_iff.1 path
    obtain ⟨-, rfl⟩ | ⟨occupied, -⟩ := lends.made _ answer (by simp)
    · obtain ⟨rfl, puts⟩ :=
        deeper entries rest result rfl tail (lends.mono fun x hx => by simp [hx])
      refine ⟨rfl, fun p item => ?_⟩
      rw [gives_directory_iff, ← puts, ← List.singleton_append, puts_append]
      cases item <;> simp [Puts]
    · exact absurd occupied (free [] _ (.here _))
  | link =>
    obtain ⟨rfl, rfl⟩ := path_done_iff.1 path
    refine ⟨rfl, fun p item => ?_⟩
    rw [gives_leaf_iff (by simp [FileTree.kind])]
    simp [FileTree.item?, not_puts]
  | special =>
    obtain ⟨rfl, rfl⟩ := path_done_iff.1 path
    refine ⟨rfl, fun p item => ?_⟩
    rw [gives_leaf_iff (by simp [FileTree.kind])]
    simp [FileTree.item?, not_puts]

/-- The entries of a directory are copied, if each of them is. -/
theorem copyEntries_puts {descend : Path → Path → Task host (Except Chain Unit)}
    {result : Except Chain Unit}
    (path : Task.Path (copyEntries descend source target (listing entries)) events result)
    (each : ∀ e ∈ entries, ∀ part answer, (∀ x ∈ part, x ∈ events) →
      Task.Path (copyEntry descend (source / e.1) (target / e.1) (.ok e.2.kind)) part answer →
        answer = .ok () ∧ ∀ p item, Puts holds part p item ↔ e.2.Gives (target / e.1) p item) :
    result = .ok () ∧ ∀ p item, Puts holds events p item ↔
      ∃ e ∈ entries, e.2.Gives (target / e.1) p item := by
  induction entries generalizing events with
  | nil =>
    obtain ⟨rfl, rfl⟩ := path_done_iff.1 path
    exact ⟨rfl, fun p item => by simp [not_puts]⟩
  | cons e entries ih =>
    rw [listing, List.map_cons, copyEntries_cons] at path
    obtain ⟨part, rest, answer, rfl, first, tail⟩ := path_bind_iff.1 path
    obtain ⟨rfl, puts⟩ := each e (by simp) part answer (fun x hx => by simp [hx]) first
    obtain ⟨rfl, others⟩ := ih tail fun e' listed more answer sub path =>
      each e' (by simp [listed]) more answer (fun x hx => by simp [sub x hx]) path
    refine ⟨rfl, fun p item => ?_⟩
    rw [puts_append, puts, others]
    simp

/-- What a directory holds is copied place by place, whatever the order of its listings. -/
theorem copyLevels_puts {result : Except Chain Unit}
    (path : Task.Path (copyLevels n source target) events result)
    (shallow : FileTree.Shallow n (.directory entries))
    (lends : Lends holds taken (.directory entries) source events)
    (free : Free taken (.directory entries) target) :
    result = .ok () ∧ ∀ p item, Puts holds events p item ↔
      ∃ e ∈ entries, e.2.Gives (target / e.1) p item := by
  induction n generalizing source target events entries result with
  | zero => exact absurd (shallow [] entries (.here _)) (Nat.not_lt_zero _)
  | succ n ih =>
    obtain ⟨answer, rest, rfl, tail⟩ := path_ask_bind_iff.1 path
    obtain ⟨order, same, rfl⟩ :=
      lends.listed [] entries answer (.here _) (by simp [Host.Path.below])
    have copied : result = .ok () ∧ ∀ p item, Puts holds rest p item ↔
        ∃ e ∈ order, e.2.Gives (target / e.1) p item := by
      refine copyEntries_puts tail fun e listed part answer sub path => ?_
      have listed' : (e.1, e.2) ∈ entries := same.mem_iff.1 listed
      have lends' : Lends holds taken e.2 (source / e.1) part :=
        (lends.below listed').mono fun x hx => by simp [sub x hx]
      refine copyEntry_puts path lends' (free.below listed')
        fun entries more result there path lent => ?_
      have shallow' := shallow.below listed'
      have free' := free.below listed'
      rw [there] at shallow' lent free'
      exact ih path shallow' lent free'
    refine ⟨copied.1, fun p item => ?_⟩
    have nothing : ¬ Puts holds [⟨.listDir source, .ok (listing order)⟩] p item :=
      not_puts (by simp [Makes])
    rw [← List.singleton_append, puts_append, copied.2]
    simp [nothing, same.mem_iff]

/-! ## Working directories -/

section
variable {base tree : Path} {label : String} {pid : UInt32}

theorem name_proper (h : Proper label) (pid : UInt32) (number : Nat) :
    Proper (WorkDir.name label pid number) := by
  have digits (n : Nat) : '/' ∉ (toString n).toList := Text.not_mem_digits (by decide) n
  have text : WorkDir.name label pid number =
      label ++ "_" ++ toString pid.toNat ++ "_" ++ toString number := rfl
  have low : '/' ∉ "_".toList := by decide
  rw [Proper, text]
  simp only [String.toList_append, List.mem_append, not_or]
  refine ⟨by simp [h.1], ⟨⟨⟨h.2, low⟩, digits _⟩, low⟩, digits _⟩

/-- A working directory is made by few kinds of calls. -/
theorem calls_create {p : Call → Prop} (process : p .processId) (number : p .nextNumber)
    (makes : ∀ path, p (.createDir path)) (owns : ∀ path mode, p (.setMode path mode))
    (base : Path) (label : String) : Calls p (WorkDir.create base label) := by
  have tries (pid : UInt32) (n : Nat) : Calls p (WorkDir.createWith base label pid n) := by
    induction n with
    | zero => exact calls_done _
    | succ n ih =>
      refine calls_bind (calls_ask number) fun _ => calls_bind (calls_ask (makes _)) fun made => ?_
      cases made with
      | ok _ =>
        refine calls_bind (calls_ask (owns _ _)) fun owned => ?_
        cases owned <;> exact calls_done _
      | error e =>
        dsimp only
        split
        · exact ih
        · exact calls_done _
  rw [WorkDir.create]
  split
  · exact calls_bind (calls_ask process) fun pid => tries pid _
  · exact calls_done _

/-- A new directory is all that is made, or every name was taken. -/
theorem createWith_puts {tries : Nat} {result : Except Chain WorkDir}
    (path : Task.Path (WorkDir.createWith base label pid tries) events result)
    (lends : Lends holds taken t source events) :
    (∃ number, result = .ok ⟨base / WorkDir.name label pid number⟩ ∧
        ¬ taken (base / WorkDir.name label pid number) ∧
        ∀ p item, Puts holds events p item ↔
          p = base / WorkDir.name label pid number ∧ item = .directory) ∨
      (∃ e, result = .error e) ∧ ∀ p, ⟨.createDir p, .ok ()⟩ ∉ events := by
  induction tries generalizing events with
  | zero =>
    obtain ⟨rfl, rfl⟩ := path_done_iff.1 path
    exact .inr ⟨⟨_, rfl⟩, by simp⟩
  | succ tries ih =>
    obtain ⟨number, rest, rfl, tail⟩ := path_ask_bind_iff.1 path
    obtain ⟨answer, rest, rfl, tail'⟩ := path_ask_bind_iff.1 tail
    obtain ⟨vacant, rfl⟩ | ⟨-, e, rfl, exists'⟩ := lends.made _ answer (by simp)
    · obtain ⟨moded, rest, rfl, last⟩ := path_ask_bind_iff.1 tail'
      obtain rfl := lends.owned _ _ moded (by simp)
      obtain ⟨rfl, rfl⟩ := path_done_iff.1 last
      refine .inl ⟨number, rfl, vacant, fun p item => ?_⟩
      cases item <;> simp [Puts]
    · simp only [exists', if_true] at tail'
      obtain ⟨later, made, vacant, puts⟩ | ⟨failed, none⟩ := 
        ih tail' (lends.mono fun x hx => by simp [hx])
      · refine .inl ⟨later, made, vacant, fun p item => ?_⟩
        rw [← puts]
        cases item <;> simp [Puts]
      · exact .inr ⟨failed, by simpa using none⟩

/-- A working directory holds the tree that it was seeded from, or every name was taken. -/
theorem seed_puts {result : Except Chain WorkDir}
    (path : Task.Path (WorkDir.seed base tree label) events result)
    (identifier : Text.isIdentifier label = true) (proper : Proper label)
    (found : ∀ answer, ⟨.stat tree, answer⟩ ∈ events → answer = .ok .directory)
    (lends : Lends holds taken (.directory entries) tree events)
    (shallow : FileTree.Shallow pathBytes (.directory entries))
    (alone : ∀ p : Host.Path, p.Open → ¬ taken p → Free taken (.directory entries) p) :
    (∃ pid number, result = .ok ⟨base / WorkDir.name label pid number⟩ ∧
      ∀ p item, Puts holds events p item ↔
        (FileTree.directory entries).Gives (base / WorkDir.name label pid number) p item) ∨
      (∃ e, result = .error e) ∧ ∀ p, ⟨.createDir p, .ok ()⟩ ∉ events := by
  obtain ⟨answer, rest, rfl, tail⟩ := path_ask_bind_iff.1 path
  obtain rfl := found answer (by simp)
  rw [WorkDir.create, if_pos identifier] at tail
  obtain ⟨creating, rest, created, rfl, create, tail'⟩ := path_bind_iff.1 tail
  obtain ⟨pid, creating, rfl, createWith⟩ := path_ask_bind_iff.1 create
  obtain ⟨number, rfl, vacant, puts⟩ | ⟨⟨e, rfl⟩, none⟩ :=
    createWith_puts createWith (lends.mono fun x hx => by simp [hx])
  · obtain ⟨copying, rest, copied, rfl, copy, last⟩ := path_bind_iff.1 tail'
    have free := alone _ (Host.Path.open_join (name_proper proper pid number)) vacant
    obtain ⟨rfl, fills⟩ :=
      copyLevels_puts copy shallow (lends.mono fun x hx => by simp [hx]) free
    obtain ⟨rfl, rfl⟩ := path_done_iff.1 last
    refine .inl ⟨pid, number, rfl, fun p item => ?_⟩
    rw [gives_directory_iff, ← puts, ← fills, List.append_nil, ← puts_append]
    cases item <;> simp [Puts]
  · obtain ⟨rfl, rfl⟩ := path_done_iff.1 tail'
    exact .inr ⟨⟨e, rfl⟩, by simpa using none⟩

/-- What a copy holds under a name does not depend on where the copy stands. -/
theorem gives_iff (h : target.Open) (proper : ∀ rel sub, t.At rel sub → ∀ name ∈ rel, Proper name)
    {place : String} {item : Item δ} :
    t.Gives target ⟨target.text ++ place⟩ item ↔
      ∃ rel sub, t.At rel sub ∧ sub.item? = some item ∧ place = suffix rel := by
  constructor
  · rintro ⟨rel, sub, there, made, same⟩
    rw [Host.Path.below_text h (proper rel sub there), Host.Path.mk.injEq,
      String.append_right_inj] at same
    exact ⟨rel, sub, there, made, same⟩
  · rintro ⟨rel, sub, there, made, rfl⟩
    exact ⟨rel, sub, there, made, (Host.Path.below_text h (proper rel sub there)).symm⟩

end

end

end Tandem.Sandbox
