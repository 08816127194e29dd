import Tandem.Proofs.Config.File

/-!
The layers under the options of a command: standard settings, a file, the environment.

* `Layers.path_load`: what is loaded from them.
* `Layers.Alike`: layers that differ in the timeout that they give and in nothing else.
  `Layers.alike_of_others`: so do files whose records have the same other members.
* `loaded_alike`: what is loaded from alike layers differs in the timeout at most.
-/

namespace Tandem.Config

open Tandem.Document Tandem.Document.Reader Tandem.Host Tandem.Text

/-- Settings that differ in one of them at most. -/
def Settings.SameBut (f : Setting) (s t : Settings) : Prop := ∀ g, g ≠ f → s.get g = t.get g

theorem eq_of_sameBut_timeout {s t : Settings} (same : s.SameBut .timeoutSeconds t) :
    t = { s with timeoutSeconds := t.timeoutSeconds } := by
  apply Settings.ext_get
  intro g
  by_cases timeout : g = .timeoutSeconds
  · subst timeout
    rfl
  · rw [← same g timeout]
    cases g <;> first | rfl | exact absurd rfl timeout

/-- What a process is configured by: the file that is named with what the file system answers for
it, and the environment. -/
structure Layers where
  file : Option (Path × Except IoError Utf8.Bytes)
  environment : List (Utf8.Bytes × Utf8.Bytes)

namespace Layers

variable (l : Layers)

def path? : Option Path := l.file.map Prod.fst

/-- The calls that load settings, and their answers. -/
def events : List (Task.Event host) :=
  ⟨.environment, l.environment⟩ ::
    match l.file with
    | none => []
    | some (path, answer) => [⟨.readFile path, answer⟩]

def basis : Settings := .standard (temporaryDirectory l.environment)

/-- The settings with the layer of the file. -/
def filed : Except ConfigError Settings :=
  match l.file with
  | none => .ok l.basis
  | some (path, answer) => l.basis.ofAnswer path answer

/-- The settings with both layers. -/
def loaded : Except ConfigError Settings :=
  match l.filed with
  | .error e => .error e
  | .ok s =>
    match s.overlay (variableText l.environment) with
    | (t, none) => .ok t
    | (_, some flaw) => .error (.environment flaw)

theorem path_load : Task.Path (Settings.load l.path?) l.events l.loaded := by
  refine Task.path_ask_bind_iff.mpr ⟨_, _, rfl, ?_⟩
  refine Task.path_bind_iff.mpr ⟨_, [], l.filed, (List.append_nil _).symm, ?_, ?_⟩
  · unfold path? filed
    cases l.file with
    | none => exact .done _
    | some file => exact path_ofFile l.basis file.1 file.2
  · unfold loaded
    cases l.filed with
    | error e => exact .done _
    | ok s =>
      dsimp only
      cases s.overlay (variableText l.environment) with
      | mk t flaw? => cases flaw? <;> exact .done _

/-- Layers that differ in the timeout that they give. In both it can be read if it is given. -/
structure Alike (l l' : Layers) : Prop where
  files : (∃ e e', l.filed = .error e ∧ l'.filed = .error e') ∨
    ∃ s s', l.filed = .ok s ∧ l'.filed = .ok s' ∧ s.SameBut .timeoutSeconds s'
  others : ∀ name, name ≠ "PARITY_TIMEOUT_SECONDS" →
    l.environment.lookup (Utf8.encode name.toList) = l'.environment.lookup (Utf8.encode name.toList)
  clear : ∀ core, ¬ Garbled .word (variableText l.environment "PARITY_TIMEOUT_SECONDS") core
  clear' : ∀ core, ¬ Garbled .word (variableText l'.environment "PARITY_TIMEOUT_SECONDS") core

end Layers

/-! ## Environments that differ in one variable -/

section
variable {lookup lookup' : String → Option String} {f : Setting} {s s' t t' : Settings}

theorem Legible.of_others (legible : Legible lookup overrides)
    (others : ∀ o ∈ overrides, o.2 ≠ f → lookup o.1 = lookup' o.1)
    (clear : ∀ o ∈ overrides, o.2 = f → ∀ core, ¬ Garbled o.2.kind (lookup' o.1) core) :
    Legible lookup' overrides := by
  intro o member
  by_cases field : o.2 = f
  · exact clear o member field
  · rw [← others o member field]
    exact legible o member

theorem Layered.sameBut (h : Layered lookup overrides s t) (h' : Layered lookup' overrides s' t')
    (legible : Legible lookup overrides)
    (others : ∀ o ∈ overrides, o.2 ≠ f → lookup o.1 = lookup' o.1) (same : s.SameBut f s') :
    t.SameBut f t' := by
  intro g other
  have alike : ∀ o ∈ overrides, o.2 = g → lookup o.1 = lookup' o.1 :=
    fun o member field => others o member (field ▸ other)
  by_cases quiet : ∀ o ∈ overrides, o.2 = g → Tells o.2.kind (lookup o.1) none
  · rw [h.kept g quiet, h'.kept g fun o member field => alike o member field ▸ quiet o member field]
    exact same g other
  · push Not at quiet
    obtain ⟨o, member, rfl, speaks⟩ := quiet
    obtain ⟨u, told⟩ | ⟨core, garbled⟩ := tells_or_garbled o.2.kind (lookup o.1)
    · cases u with
      | none => exact absurd told speaks
      | some c => rw [h.told o member c told, h'.told o member c (alike o member rfl ▸ told)]
    · exact absurd garbled (legible o member core)

end

section
variable {l l' : Layers} {s t : Settings}

theorem Layers.loaded_of_error {e : ConfigError} (filed : l.filed = .error e) :
    l.loaded = .error e := by
  rw [loaded, filed]

theorem Layers.loaded_of_legible (filed : l.filed = .ok s)
    (legible : Legible (variableText l.environment) overrides) :
    ∃ t, l.loaded = .ok t ∧ Layered (variableText l.environment) overrides s t := by
  have ends := (overlay_eq_none_iff s (variableText l.environment)).mpr legible
  have overlaid := settings_overlaid s (variableText l.environment)
  rw [← Prod.eta (s.overlay (variableText l.environment)), ends] at overlaid
  refine ⟨(s.overlay (variableText l.environment)).1, ?_, overlaid.layered⟩
  rw [loaded, filed]
  dsimp only
  rw [← Prod.eta (s.overlay (variableText l.environment)), ends]

theorem Layers.loaded_of_garbled (filed : l.filed = .ok s)
    (garbled : ¬ Legible (variableText l.environment) overrides) :
    ∃ e, l.loaded = .error e := by
  rw [← overlay_eq_none_iff s] at garbled
  obtain ⟨flaw, stops⟩ := Option.ne_none_iff_exists'.mp garbled
  refine ⟨.environment flaw, ?_⟩
  rw [loaded, filed]
  dsimp only
  rw [← Prod.eta (s.overlay (variableText l.environment)), stops]

/-- What is loaded from alike layers differs in the timeout at most. -/
theorem loaded_alike (alike : l.Alike l') :
    (∃ e e', l.loaded = .error e ∧ l'.loaded = .error e') ∨
      ∃ s s', l.loaded = .ok s ∧ l'.loaded = .ok s' ∧ s.SameBut .timeoutSeconds s' := by
  have name : ∀ o ∈ overrides, o.2 = .timeoutSeconds ↔ o.1 = "PARITY_TIMEOUT_SECONDS" := by decide
  have others : ∀ o ∈ overrides, o.2 ≠ .timeoutSeconds →
      variableText l.environment o.1 = variableText l'.environment o.1 := by
    intro o member field
    unfold variableText
    rw [alike.others o.1 (mt (name o member).mpr field)]
  have clear : ∀ o ∈ overrides, o.2 = .timeoutSeconds →
      ∀ core, ¬ Garbled o.2.kind (variableText l.environment o.1) core := by
    intro o member field
    rw [(name o member).mp field, field]
    exact alike.clear
  have clear' : ∀ o ∈ overrides, o.2 = .timeoutSeconds →
      ∀ core, ¬ Garbled o.2.kind (variableText l'.environment o.1) core := by
    intro o member field
    rw [(name o member).mp field, field]
    exact alike.clear'
  obtain ⟨e, e', failed, failed'⟩ | ⟨s, s', filed, filed', same⟩ := alike.files
  · exact .inl ⟨e, e', Layers.loaded_of_error failed, Layers.loaded_of_error failed'⟩
  by_cases legible : Legible (variableText l.environment) overrides
  · have legible' := legible.of_others others clear'
    obtain ⟨t, loaded, layered⟩ := Layers.loaded_of_legible filed legible
    obtain ⟨t', loaded', layered'⟩ := Layers.loaded_of_legible filed' legible'
    exact .inr ⟨t, t', loaded, loaded', layered.sameBut layered' legible others same⟩
  · have garbled' : ¬ Legible (variableText l'.environment) overrides := by
      intro legible'
      exact legible (legible'.of_others (fun o member field => (others o member field).symm) clear)
    obtain ⟨e, loaded⟩ := Layers.loaded_of_garbled filed legible
    obtain ⟨e', loaded'⟩ := Layers.loaded_of_garbled filed' garbled'
    exact .inl ⟨e, e', loaded, loaded'⟩

end

/-! ## Files that differ in one member -/

/-- The members of a record but for the timeout. -/
def othersOf (fs : List (String × Tree)) : List (String × Tree) :=
  fs.filter (·.1 ≠ Setting.timeoutSeconds.key)

/-- A record that gives no timeout, or one that can be read. -/
structure Timed (fs : List (String × Tree)) : Prop where
  once : (valuesOf Setting.timeoutSeconds.key fs).length ≤ 1
  typed : ∀ value, (Setting.timeoutSeconds.key, value) ∈ fs → ∃ c, Means .timeoutSeconds value c

/-- The file of some layers is a record of these members. No file is like an empty record. -/
def Layers.Names (l : Layers) (fs : List (String × Tree)) : Prop :=
  l.file = none ∧ fs = [] ∨ ∃ path text, l.file = some (path, .ok (Utf8.encode text)) ∧
    Written text (.record (membersOf fs))

section
variable {fs fs' : List (String × Tree)} {l l' : Layers} {s t t' : Settings}

theorem mem_othersOf {part : String × Tree} :
    part ∈ othersOf fs ↔ part ∈ fs ∧ part.1 ≠ Setting.timeoutSeconds.key := by
  simp [othersOf]

theorem valuesOf_othersOf {name : String} (other : name ≠ Setting.timeoutSeconds.key) :
    valuesOf name (othersOf fs) = valuesOf name fs := by
  rw [valuesOf, valuesOf, othersOf, List.filter_filter]
  congr 1
  apply List.filter_congr
  intro part _
  by_cases named : part.1 = name
  · simp [named, other]
  · simp [named]

/-- A member that is no timeout stands in both records. -/
theorem mem_of_others (same : (othersOf fs).Perm (othersOf fs')) {part : String × Tree}
    (member : part ∈ fs) (other : part.1 ≠ Setting.timeoutSeconds.key) : part ∈ fs' :=
  (mem_othersOf.mp (same.mem_iff.mp (mem_othersOf.mpr ⟨member, other⟩))).1

theorem Proper.of_others (proper : Proper fs) (same : (othersOf fs').Perm (othersOf fs))
    (timed : Timed fs') : Proper fs' := by
  constructor
  · intro part member
    by_cases timeout : part.1 = Setting.timeoutSeconds.key
    · exact ⟨.timeoutSeconds, timeout.symm⟩
    · exact proper.known part (mem_of_others same member timeout)
  · refine nodup_names_iff.mpr fun name => ?_
    by_cases timeout : name = Setting.timeoutSeconds.key
    · rw [timeout]
      exact timed.once
    · have count := ((same.filter (·.1 = name)).map Prod.snd).length_eq
      change (valuesOf name (othersOf fs')).length = (valuesOf name (othersOf fs)).length at count
      rw [valuesOf_othersOf timeout, valuesOf_othersOf timeout] at count
      exact count ▸ nodup_names_iff.mp proper.once name
  · intro f value member
    by_cases timeout : f = .timeoutSeconds
    · subst timeout
      exact timed.typed value member
    · refine proper.typed f value (mem_of_others same member ?_)
      exact fun key => timeout (Setting.key_injective key)

theorem Current.of_others (current : Current fs) (same : (othersOf fs').Perm (othersOf fs)) :
    Current fs' :=
  fun v member => current v (mem_of_others same member
    (by decide : Setting.schemaVersion.key ≠ Setting.timeoutSeconds.key))

theorem Filed.sameBut (filed : Filed fs s t) (filed' : Filed fs' s t')
    (same : (othersOf fs).Perm (othersOf fs')) : t.SameBut .timeoutSeconds t' := by
  intro g other
  have key : g.key ≠ Setting.timeoutSeconds.key := fun key => other (Setting.key_injective key)
  by_cases named : g.key ∈ fs.map Prod.fst
  · obtain ⟨⟨name, value⟩, member, rfl⟩ := List.mem_map.mp named
    have means := filed.named g value member
    exact means.unique (filed'.named g value (mem_of_others same member key))
  · have named' : g.key ∉ fs'.map Prod.fst := by
      intro named'
      obtain ⟨part, member, same'⟩ := List.mem_map.mp named'
      have there := mem_of_others same.symm member (same' ▸ key)
      exact named (same' ▸ List.mem_map_of_mem there)
    rw [filed.kept g named, filed'.kept g named']

theorem filed_iff (names : l.Names fs) :
    l.filed = .ok t ↔ Proper fs ∧ Current fs ∧ Filed fs l.basis t := by
  unfold Layers.filed
  obtain ⟨none, rfl⟩ | ⟨path, text, some, written⟩ := names
  · rw [none]
    simp only [Except.ok.injEq]
    constructor
    · rintro rfl
      exact ⟨⟨by simp, by simp, by simp⟩, by simp [Current], by simp, by simp⟩
    · rintro ⟨-, -, filed⟩
      exact Settings.ext_get fun f => (filed.kept f (by simp)).symm
  · rw [some]
    dsimp only
    rw [ofAnswer_encode, ofText_written_iff rfl written]
    constructor
    · rintro ⟨fs', same, h⟩
      rw [membersOf_injective same]
      exact h
    · exact fun h => ⟨fs, rfl, h⟩

theorem exists_filed_iff (names : l.Names fs) :
    (∃ t, l.filed = .ok t) ↔ Proper fs ∧ Current fs := by
  simp only [filed_iff names]
  constructor
  · rintro ⟨t, proper, current, -⟩
    exact ⟨proper, current⟩
  · rintro ⟨proper, current⟩
    obtain ⟨none, rfl⟩ | ⟨path, text, some, written⟩ := names
    · exact ⟨l.basis, proper, current, by simp, by simp⟩
    · have whole := (written_iff.mp written).2
      obtain ⟨t, filed⟩ := proper.exists_filed (honest_record.mp written.honest) whole l.basis
      exact ⟨t, proper, current, filed⟩

/-- Records with the same other members make files that differ in the timeout at most. -/
theorem files_of_others (names : l.Names fs) (names' : l'.Names fs') (timed : Timed fs)
    (timed' : Timed fs') (same : (othersOf fs).Perm (othersOf fs')) (basis : l.basis = l'.basis) :
    (∃ e e', l.filed = .error e ∧ l'.filed = .error e') ∨
      ∃ s s', l.filed = .ok s ∧ l'.filed = .ok s' ∧ s.SameBut .timeoutSeconds s' := by
  have good : (∃ s, l.filed = .ok s) ↔ ∃ s, l'.filed = .ok s := by
    rw [exists_filed_iff names, exists_filed_iff names']
    constructor
    · rintro ⟨proper, current⟩
      exact ⟨proper.of_others same.symm timed', current.of_others same.symm⟩
    · rintro ⟨proper, current⟩
      exact ⟨proper.of_others same timed, current.of_others same⟩
  cases filed : l.filed with
  | error e =>
    cases filed' : l'.filed with
    | error e' => exact .inl ⟨e, e', rfl, rfl⟩
    | ok s' => simp [filed, filed'] at good
  | ok s =>
    cases filed' : l'.filed with
    | error e' => simp [filed, filed'] at good
    | ok s' =>
      have read := ((filed_iff names).mp filed).2.2
      have read' := ((filed_iff names').mp filed').2.2
      rw [← basis] at read'
      exact .inr ⟨s, s', rfl, rfl, read.sameBut read' same⟩

theorem Layers.alike_of_others (names : l.Names fs) (names' : l'.Names fs') (timed : Timed fs)
    (timed' : Timed fs') (same : (othersOf fs).Perm (othersOf fs'))
    (others : ∀ name, name ≠ "PARITY_TIMEOUT_SECONDS" →
      l.environment.lookup (Utf8.encode name.toList) =
        l'.environment.lookup (Utf8.encode name.toList))
    (clear : ∀ core, ¬ Garbled .word (variableText l.environment "PARITY_TIMEOUT_SECONDS") core)
    (clear' : ∀ core, ¬ Garbled .word (variableText l'.environment "PARITY_TIMEOUT_SECONDS") core) :
    l.Alike l' := by
  have basis : l.basis = l'.basis := by
    rw [basis, basis, temporaryDirectory, temporaryDirectory, others "TMPDIR" (by decide)]
  exact ⟨files_of_others names names' timed timed' same basis, others, clear, clear'⟩

end

end Tandem.Config
