import Mathlib.Data.List.Nodup
import Tandem.Config.SettingsForm
import Tandem.Proofs.Config.Overlay
import Tandem.Proofs.Document.Faultless
import Tandem.Proofs.Host.Trace

/-!
Records of settings.

* `Means`: what a value says about a setting.
* `Proper`: a record that names settings, each once, with values of their types.
* `Filed`: settings with what a record says, and otherwise as they were.
* `reader_record_iff`: proper records are read, as what they say, and no others.
-/

namespace Tandem.Config

open Tandem.Document Tandem.Document.Reader

/-- The settings in the order of the written form. -/
def Setting.all : List Setting :=
  [schemaVersion, projectsDir, sourceInterpreter, targetInterpreter, timeoutSeconds,
   maxTimeoutSeconds, memoryMb, maxOutputBytes, killGraceMs, moduleVariable, scratchDir]

theorem Setting.mem_all (f : Setting) : f ∈ all := by
  cases f <;> decide

/-- The name of a setting in a file. -/
def Setting.key : Setting → String
  | schemaVersion => "schema_version"
  | projectsDir => "projects_dir"
  | sourceInterpreter => "source_interpreter"
  | targetInterpreter => "target_interpreter"
  | timeoutSeconds => "timeout_seconds"
  | maxTimeoutSeconds => "max_timeout_seconds"
  | memoryMb => "memory_limit_mb"
  | maxOutputBytes => "max_output_bytes"
  | killGraceMs => "kill_grace_ms"
  | moduleVariable => "module_path_var"
  | scratchDir => "scratch_dir"

theorem Setting.key_injective {f g : Setting} (same : f.key = g.key) : f = g := by
  cases f <;> cases g <;> first | rfl | exact absurd same (by decide)

/-! ## What a value says -/

/-- A value that stands for a content of a kind. -/
inductive Typed : Kind → Tree → Content → Prop where
  | text (s : String) : Typed .text (.text (.ok s) none) (.text s)
  | path (s : String) : Typed .path (.text (.ok s) none) (.path ⟨s⟩)
  | word (n : UInt64) : Typed .word (.atom (.ok (.number (.int n.toNat))) none) (.word n)

theorem Typed.unique {k : Kind} {value : Tree} {c c' : Content} (h : Typed k value c)
    (h' : Typed k value c') : c = c' := by
  cases h with
  | text s => cases h'; rfl
  | path s => cases h'; rfl
  | word n =>
    generalize same : Tree.atom (.ok (.number (.int n.toNat))) none = value at h'
    cases h' with
    | word m =>
      simp only [Tree.atom.injEq, Except.ok.injEq, Atom.number.injEq, Number.int.injEq, and_true,
        Int.natCast_inj] at same
      rw [UInt64.toNat_inj.mp same]

/-- What a value in a file says about a setting, if it has its type. -/
inductive Means (f : Setting) : Tree → Content → Prop where
  | typed {value : Tree} {c : Content} (typed : Typed f.kind value c) : Means f value c
  | nothing (optional : f.Optional) : Means f (.atom (.ok .null) none) .nothing

theorem means_iff {f : Setting} {value : Tree} {c : Content} : Means f value c ↔
    f.Optional ∧ value = .atom (.ok .null) none ∧ c = .nothing ∨ Typed f.kind value c := by
  constructor
  · rintro (typed | optional)
    · exact .inr typed
    · exact .inl ⟨optional, rfl, rfl⟩
  · rintro (⟨optional, rfl, rfl⟩ | typed)
    · exact .nothing optional
    · exact .typed typed

theorem Means.unique {f : Setting} {value : Tree} {c c' : Content} (h : Means f value c)
    (h' : Means f value c') : c = c' := by
  rw [means_iff] at h h'
  obtain ⟨-, rfl, rfl⟩ | typed := h
  · obtain ⟨-, -, rfl⟩ | typed' := h'
    · rfl
    · generalize f.kind = k at typed'
      cases typed'
  · obtain ⟨-, rfl, rfl⟩ | typed' := h'
    · generalize f.kind = k at typed
      cases typed
    · exact typed.unique typed'

/-- Reads what a value says about a setting. -/
def Setting.reader : Setting → Reader Content
  | schemaVersion => fun t => Content.maybe .text <$> Reader.optional Reader.string t
  | moduleVariable => fun t => Content.text <$> Reader.string t
  | projectsDir | sourceInterpreter | targetInterpreter => fun t => Content.path <$> Settings.path t
  | scratchDir => fun t => Content.maybe .path <$> Reader.optional Settings.path t
  | timeoutSeconds | maxTimeoutSeconds | memoryMb | killGraceMs =>
    fun t => Content.word <$> Settings.seconds t
  | maxOutputBytes => fun t => Content.word <$> Settings.bytes t

section
variable {s t : Settings} {c : Content} {value : Tree}

theorem clean_path : Reader.Clean Settings.path := (clean_text _).map _

theorem Setting.clean_reader (f : Setting) : f.reader.Clean := by
  cases f with
  | schemaVersion => exact (clean_text _).optional.map _
  | moduleVariable => exact (clean_text _).map _
  | projectsDir | sourceInterpreter | targetInterpreter => exact clean_path.map _
  | scratchDir => exact clean_path.optional.map _
  | timeoutSeconds | maxTimeoutSeconds | memoryMb | killGraceMs | maxOutputBytes =>
    exact (clean_word64 _).map _

theorem typed_text_iff {expected : String} (whole : value.passing = none) :
    Content.text <$> Reader.text expected value = .ok c ↔ Typed .text value c := by
  rw [map_ok_iff]
  constructor
  · rintro ⟨s, read, rfl⟩
    rw [(text_iff whole).mp read]
    exact .text s
  · intro typed
    cases typed with
    | text s => exact ⟨s, (text_iff rfl).mpr rfl, rfl⟩

theorem typed_path_iff (whole : value.passing = none) :
    Content.path <$> Settings.path value = .ok c ↔ Typed .path value c := by
  rw [map_ok_iff]
  constructor
  · rintro ⟨p, read, rfl⟩
    obtain ⟨s, found, rfl⟩ := map_ok_iff.mp read
    rw [(text_iff whole).mp found]
    exact .path s
  · intro typed
    cases typed with
    | path s => exact ⟨⟨s⟩, map_ok_iff.mpr ⟨s, (text_iff rfl).mpr rfl, rfl⟩, rfl⟩

theorem typed_word_iff {expected : String} (whole : value.passing = none) :
    Content.word <$> Reader.word64 expected value = .ok c ↔ Typed .word value c := by
  rw [map_ok_iff]
  constructor
  · rintro ⟨n, read, rfl⟩
    rw [(word64_iff whole).mp read]
    exact .word n
  · intro typed
    cases typed with
    | word n => exact ⟨n, (word64_iff rfl).mpr rfl, rfl⟩

/-- The readings of a setting that can be without a content. -/
theorem maybe_reader_iff {α : Type} {r : Reader α} {wrap : α → Content}
    (refuses : ∀ a passing, r (.atom (.ok .null) passing) ≠ .ok a)
    (whole : value.passing = none) :
    Content.maybe wrap <$> Reader.optional r value = .ok c ↔
      value = .atom (.ok .null) none ∧ c = .nothing ∨ wrap <$> r value = .ok c := by
  rw [map_ok_iff, map_ok_iff]
  constructor
  · rintro ⟨a?, read, rfl⟩
    cases a? with
    | none => exact .inl ⟨(optional_none_iff whole).mp read, rfl⟩
    | some a => exact .inr ⟨a, (optional_some_iff (refuses a)).mp read, rfl⟩
  · rintro (⟨null, rfl⟩ | ⟨a, read, rfl⟩)
    · exact ⟨none, (optional_none_iff whole).mpr null, rfl⟩
    · exact ⟨some a, (optional_some_iff (refuses a)).mpr read, rfl⟩

theorem Setting.reader_iff (f : Setting) (whole : value.passing = none) :
    f.reader value = .ok c ↔ Means f value c := by
  have required (h : ¬ f.Optional) : Means f value c ↔ Typed f.kind value c := by
    simp [means_iff, h]
  have optional (h : f.Optional) : Means f value c ↔
      value = .atom (.ok .null) none ∧ c = .nothing ∨ Typed f.kind value c := by
    simp [means_iff, h]
  cases f with
  | schemaVersion =>
    rw [optional trivial]
    refine (maybe_reader_iff ?_ whole).trans (or_congr_right (typed_text_iff whole))
    exact fun _ _ => refuse_ne_ok
  | scratchDir =>
    rw [optional trivial]
    refine (maybe_reader_iff ?_ whole).trans (or_congr_right (typed_path_iff whole))
    intro p passing read
    obtain ⟨s, found, -⟩ := map_ok_iff.mp read
    exact refuse_ne_ok found
  | moduleVariable =>
    rw [required not_false]
    exact typed_text_iff whole
  | projectsDir | sourceInterpreter | targetInterpreter =>
    rw [required not_false]
    exact typed_path_iff whole
  | timeoutSeconds | maxTimeoutSeconds | memoryMb | killGraceMs | maxOutputBytes =>
    rw [required not_false]
    exact typed_word_iff whole

/-! ## What a reader of settings reads -/

section
variable {found : Fields}

theorem absent_wrap {α : Type} {r : Reader α} {default a : α} {name : String} (wrap : α → Content)
    (read : absent default name r found = .ok a) :
    absent (wrap default) name (fun t => wrap <$> r t) found = .ok (wrap a) := by
  rw [absent_map, read]
  rfl

theorem exists_absent {α : Type} {r : Reader α} {default : α} {name : String} (wrap : α → Content)
    (h : ∃ c, absent (wrap default) name (fun t => wrap <$> r t) found = .ok c) :
    ∃ a, absent default name r found = .ok a := by
  obtain ⟨c, read⟩ := h
  rw [absent_map] at read
  obtain ⟨a, read, -⟩ := map_ok_iff.mp read
  exact ⟨a, read⟩

/-- Settings that are read are read one by one. -/
theorem get_of_read (h : s.reader value = .ok t) :
    ∃ found, fields "RunnerConfig" true Settings.known value = .ok found ∧
      ∀ f : Setting, absent (s.get f) f.key f.reader found = .ok (t.get f) := by
  unfold Settings.reader at h
  simp only [bind_ok_iff, pure, Except.pure, Except.ok.injEq] at h
  obtain ⟨found, read, v, h₁, p, h₂, i, h₃, i', h₄, n, h₅, n', h₆, m, h₇, b, h₈, g, h₉, x, h₁₀,
    d, h₁₁, rfl⟩ := h
  refine ⟨found, read, fun f => ?_⟩
  cases f with
  | schemaVersion => exact absent_wrap (.maybe .text) h₁
  | projectsDir => exact absent_wrap .path h₂
  | sourceInterpreter => exact absent_wrap .path h₃
  | targetInterpreter => exact absent_wrap .path h₄
  | timeoutSeconds => exact absent_wrap .word h₅
  | maxTimeoutSeconds => exact absent_wrap .word h₆
  | memoryMb => exact absent_wrap .word h₇
  | maxOutputBytes => exact absent_wrap .word h₈
  | killGraceMs => exact absent_wrap .word h₉
  | moduleVariable => exact absent_wrap .text h₁₀
  | scratchDir => exact absent_wrap (.maybe .path) h₁₁

/-- Settings that can be read one by one are read. -/
theorem exists_read (read : fields "RunnerConfig" true Settings.known value = .ok found)
    (all : ∀ f : Setting, ∃ c, absent (s.get f) f.key f.reader found = .ok c) :
    ∃ t, s.reader value = .ok t := by
  obtain ⟨v, h₁⟩ := exists_absent (.maybe .text) (all .schemaVersion)
  obtain ⟨p, h₂⟩ := exists_absent .path (all .projectsDir)
  obtain ⟨i, h₃⟩ := exists_absent .path (all .sourceInterpreter)
  obtain ⟨i', h₄⟩ := exists_absent .path (all .targetInterpreter)
  obtain ⟨n, h₅⟩ := exists_absent .word (all .timeoutSeconds)
  obtain ⟨n', h₆⟩ := exists_absent .word (all .maxTimeoutSeconds)
  obtain ⟨m, h₇⟩ := exists_absent .word (all .memoryMb)
  obtain ⟨b, h₈⟩ := exists_absent .word (all .maxOutputBytes)
  obtain ⟨g, h₉⟩ := exists_absent .word (all .killGraceMs)
  obtain ⟨x, h₁₀⟩ := exists_absent .text (all .moduleVariable)
  obtain ⟨d, h₁₁⟩ := exists_absent (.maybe .path) (all .scratchDir)
  refine ⟨⟨v, p, i, i', n, n', m, b, g, x, d⟩, ?_⟩
  unfold Settings.reader
  simp only [bind_ok_iff, pure, Except.pure, Except.ok.injEq]
  exact ⟨found, read, v, h₁, p, h₂, i, h₃, i', h₄, n, h₅, n', h₆, m, h₇, b, h₈, g, h₉, x, h₁₀,
    d, h₁₁, rfl⟩

theorem settings_reader_iff :
    s.reader value = .ok t ↔ ∃ found, fields "RunnerConfig" true Settings.known value = .ok found ∧
      ∀ f : Setting, absent (s.get f) f.key f.reader found = .ok (t.get f) := by
  refine ⟨get_of_read, ?_⟩
  rintro ⟨found, read, all⟩
  obtain ⟨t', read'⟩ := exists_read read fun f => ⟨t.get f, all f⟩
  obtain ⟨found', same, all'⟩ := get_of_read read'
  have alike : found = found' := Except.ok.inj (read.symm.trans same)
  subst alike
  have same : t' = t := Settings.ext_get fun f => Except.ok.inj ((all' f).symm.trans (all f))
  exact same ▸ read'

end

/-! ## Records of settings -/

/-- A known field is checked as the setting is read. -/
structure Covers (g : Reader.Field) (f : Setting) : Prop where
  name : g.name = f.key
  check : ∀ value, g.check value = .ok () ↔ ∃ c, f.reader value = .ok c

theorem covers_field {α : Type} {r : Reader α} {wrap : α → Content} {f : Setting}
    (reader : f.reader = fun t => wrap <$> r t) : Covers (Reader.field f.key r true) f := by
  refine ⟨rfl, fun value => ?_⟩
  rw [check_field_iff, reader]
  simp only [map_ok_iff]
  constructor
  · rintro ⟨a, read⟩
    exact ⟨wrap a, a, read, rfl⟩
  · rintro ⟨c, a, read, -⟩
    exact ⟨a, read⟩

theorem known_names : Settings.known.map Field.name = Setting.all.map Setting.key := rfl

theorem known_distinct : (Settings.known.map Field.name).Nodup := by
  decide

theorem exists_covers (f : Setting) : ∃ g ∈ Settings.known, Covers g f := by
  cases f
  all_goals
    refine ⟨_, ?_, covers_field rfl⟩
    simp [Settings.known, Setting.key]

theorem covers_known {g : Reader.Field} (member : g ∈ Settings.known) : ∃ f, Covers g f := by
  have named : g.name ∈ Setting.all.map Setting.key := known_names ▸ List.mem_map_of_mem member
  obtain ⟨f, -, same⟩ := List.mem_map.mp named
  obtain ⟨g', member', covers⟩ := exists_covers f
  have alike : g = g' :=
    List.inj_on_of_nodup_map known_distinct member member' (same.symm.trans covers.name.symm)
  exact ⟨f, alike ▸ covers⟩

/-- A record that names settings, each once, with values of their types. -/
structure Proper (fs : List (String × Tree)) : Prop where
  known : ∀ part ∈ fs, ∃ f : Setting, f.key = part.1
  once : (fs.map Prod.fst).Nodup
  typed : ∀ (f : Setting) (value : Tree), (f.key, value) ∈ fs → ∃ c, Means f value c

/-- Settings with what a record says about them, and otherwise as they were. -/
structure Filed (fs : List (String × Tree)) (s t : Settings) : Prop where
  named : ∀ (f : Setting) (value : Tree), (f.key, value) ∈ fs → Means f value (t.get f)
  kept : ∀ f : Setting, f.key ∉ fs.map Prod.fst → t.get f = s.get f

section
variable {fs : List (String × Tree)} {members : Members} {found : Fields}

theorem nodup_names_iff :
    (fs.map Prod.fst).Nodup ↔ ∀ name, (valuesOf name fs).length ≤ 1 := by
  have count (name : String) : (fs.map Prod.fst).count name = (valuesOf name fs).length := by
    rw [List.count_eq_countP, List.countP_map, List.countP_eq_length_filter, valuesOf,
      List.length_map]
    rfl
  rw [List.nodup_iff_count_le_one]
  exact forall_congr' fun name => by rw [count]

theorem not_named_iff {name : String} : name ∉ fs.map Prod.fst ↔ valuesOf name fs = [] := by
  rw [List.eq_nil_iff_forall_not_mem]
  simp [mem_valuesOf]

/-- What is asked of a record of known fields. -/
theorem fits_known_iff (whole : ∀ part ∈ fs, part.2.passing = none) :
    Fits true Settings.known fs ↔ Proper fs := by
  constructor
  · rintro ⟨once, checks, others⟩
    have known : ∀ part ∈ fs, ∃ f : Setting, f.key = part.1 := by
      intro part member
      by_contra unknown
      refine absurd (others part member ?_).1 (by decide)
      intro g isKnown same
      obtain ⟨f, covers⟩ := covers_known isKnown
      exact unknown ⟨f, covers.name.symm.trans same⟩
    refine ⟨known, nodup_names_iff.mpr ?_, ?_⟩
    · intro name
      by_cases named : ∃ f : Setting, f.key = name
      · obtain ⟨f, rfl⟩ := named
        obtain ⟨g, isKnown, covers⟩ := exists_covers f
        exact covers.name ▸ once g isKnown
      · have nothing : valuesOf name fs = [] := by
          apply not_named_iff.mp
          intro member
          obtain ⟨part, there, rfl⟩ := List.mem_map.mp member
          exact named (known part there)
        simp [nothing]
    · intro f value member
      obtain ⟨g, isKnown, covers⟩ := exists_covers f
      have passes := checks g isKnown value (mem_valuesOf.mpr (covers.name ▸ member))
      obtain ⟨c, read⟩ := (covers.check value).mp passes
      exact ⟨c, (f.reader_iff (whole _ member)).mp read⟩
  · rintro ⟨known, once, typed⟩
    refine ⟨fun g _ => nodup_names_iff.mp once g.name, ?_, ?_⟩
    · intro g isKnown value there
      obtain ⟨f, covers⟩ := covers_known isKnown
      have member : (f.key, value) ∈ fs := covers.name ▸ mem_valuesOf.mp there
      obtain ⟨c, means⟩ := typed f value member
      exact (covers.check value).mpr ⟨c, (f.reader_iff (whole _ member)).mpr means⟩
    · intro part member unknown
      obtain ⟨f, same⟩ := known part member
      obtain ⟨g, isKnown, covers⟩ := exists_covers f
      exact absurd (covers.name.trans same) (unknown g isKnown)

/-- What one setting comes to, from a record. -/
theorem absent_setting_iff {f : Setting} (proper : Proper fs)
    (whole : ∀ part ∈ fs, part.2.passing = none) :
    absent (s.get f) f.key f.reader (kept Settings.known fs).reverse = .ok c ↔
      (∀ value, (f.key, value) ∈ fs → Means f value c) ∧
        (f.key ∉ fs.map Prod.fst → c = s.get f) := by
  obtain ⟨g, isKnown, covers⟩ := exists_covers f
  have fits := (fits_known_iff whole).mpr proper
  rw [← covers.name, absent_kept_iff isKnown fits, covers.name, not_named_iff]
  simp only [← mem_valuesOf]
  match values : valuesOf f.key fs, nodup_names_iff.mp proper.once f.key with
  | [], _ => simp
  | [value], _ =>
    have member : (f.key, value) ∈ fs := mem_valuesOf.mp (values ▸ List.mem_singleton.mpr rfl)
    simp [f.reader_iff (whole _ member)]

/-- Settings are read from proper records and no others, and are what these say. -/
theorem reader_record_iff (honest : members.Honest) (whole : members.passing = none) :
    s.reader (.record members) = .ok t ↔
      ∃ fs, members = membersOf fs ∧ Proper fs ∧ Filed fs s t := by
  rw [settings_reader_iff]
  constructor
  · rintro ⟨found, read, all⟩
    obtain ⟨fs, rfl, fits, rfl⟩ := (fields_record_iff known_distinct honest).mp read
    have wholes := passing_membersOf.mp whole
    have proper := (fits_known_iff wholes).mp fits
    refine ⟨fs, rfl, proper, ⟨fun f => ?_, fun f => ?_⟩⟩
    · exact ((absent_setting_iff proper wholes).mp (all f)).1
    · exact ((absent_setting_iff proper wholes).mp (all f)).2
  · rintro ⟨fs, rfl, proper, filed⟩
    have wholes := passing_membersOf.mp whole
    have fits := (fits_known_iff wholes).mpr proper
    refine ⟨_, (fields_record_iff known_distinct honest).mpr ⟨fs, rfl, fits, rfl⟩, fun f => ?_⟩
    exact (absent_setting_iff proper wholes).mpr ⟨filed.named f, filed.kept f⟩

theorem Proper.exists_content (proper : Proper fs) (c : Content) (f : Setting) :
    ∃ c', (∀ value, (f.key, value) ∈ fs → Means f value c') ∧
      (f.key ∉ fs.map Prod.fst → c' = c) := by
  by_cases named : f.key ∈ fs.map Prod.fst
  · obtain ⟨⟨name, value⟩, member, same⟩ := List.mem_map.mp named
    subst same
    obtain ⟨c', means⟩ := proper.typed f value member
    refine ⟨c', fun value' member' => ?_, fun other => absurd named other⟩
    have alike := List.inj_on_of_nodup_map proper.once member member' rfl
    exact (Prod.mk.inj alike).2 ▸ means
  · refine ⟨c, fun value member => ?_, fun _ => rfl⟩
    exact absurd (List.mem_map_of_mem member) named

theorem Proper.exists_filed (proper : Proper fs) (honest : (membersOf fs).Honest)
    (whole : (membersOf fs).passing = none) (s : Settings) : ∃ t, Filed fs s t := by
  have wholes := passing_membersOf.mp whole
  have fits := (fits_known_iff wholes).mpr proper
  obtain ⟨t, read⟩ : ∃ t, s.reader (.record (membersOf fs)) = .ok t := by
    refine exists_read ((fields_record_iff known_distinct honest).mpr ⟨fs, rfl, fits, rfl⟩) ?_
    intro f
    obtain ⟨c, comes⟩ := proper.exists_content (s.get f) f
    exact ⟨c, (absent_setting_iff proper wholes).mpr comes⟩
  obtain ⟨fs', same, -, filed⟩ := (reader_record_iff honest whole).mp read
  rw [membersOf_injective same]
  exact ⟨t, filed⟩

end

end

end Tandem.Config
