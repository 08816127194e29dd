import Tandem.Config.Load
import Tandem.Proofs.Config.Record
import Tandem.Proofs.Text.Utf8

/-!
Settings and their files.

* `ofText_written_iff`: the text of a record gives settings if the record is proper and names no
  version but the current one.
* `ofText_value`: settings are read back from what is written of them.
* `files_give_settings`: what a file of settings comes to.
-/

namespace Tandem.Config

open Tandem.Document Tandem.Document.Reader Tandem.Host Tandem.Text

section
variable {s t : Settings}

/-! ## Files -/

theorem clean_settings (s : Settings) : s.reader.Clean := by
  intro value t honest read
  obtain ⟨found, read, -⟩ := get_of_read read
  refine clean_fields known_distinct ?_ value found honest read
  intro g isKnown value honest passes
  obtain ⟨f, covers⟩ := covers_known isKnown
  obtain ⟨c, read⟩ := (covers.check value).mp passes
  exact f.clean_reader value c honest read

/-- A record does not name a version, or the current one. -/
def Current (fs : List (String × Tree)) : Prop :=
  ∀ v, (Setting.schemaVersion.key, .text (.ok v) none) ∈ fs → v = Settings.version

theorem ofText_eq_ok_iff {path : Path} {text : String} :
    s.ofText path text = .ok t ↔
      s.reader.ofText text.toList = .ok t ∧
        ∀ v, t.schemaVersion = some v → v = Settings.version := by
  unfold Settings.ofText
  cases read : s.reader.ofText text.toList with
  | error e => simp
  | ok r =>
    cases named : r.schemaVersion with
    | none =>
      simp only [named, Except.ok.injEq]
      constructor
      · rintro rfl
        exact ⟨rfl, by simp [named]⟩
      · exact fun h => h.1
    | some v =>
      simp only [named]
      by_cases current : v = Settings.version
      · rw [if_pos current]
        simp only [Except.ok.injEq]
        constructor
        · rintro rfl
          exact ⟨rfl, by simp [named, current]⟩
        · exact fun h => h.1
      · rw [if_neg current]
        simp only [reduceCtorEq, false_iff, Except.ok.injEq]
        rintro ⟨rfl, only⟩
        exact current (only v named)

/-- A version that was read stands in the record. -/
theorem Filed.version_iff {fs : List (String × Tree)} (filed : Filed fs s t)
    (unset : s.schemaVersion = none) (v : String) :
    t.schemaVersion = some v ↔ (Setting.schemaVersion.key, .text (.ok v) none) ∈ fs := by
  have get : t.schemaVersion = some v ↔ t.get .schemaVersion = .text v := by
    unfold Settings.get
    cases t.schemaVersion <;> simp [Content.maybe]
  rw [get]
  constructor
  · intro holds
    by_cases named : Setting.schemaVersion.key ∈ fs.map Prod.fst
    · obtain ⟨⟨name, value⟩, member, same⟩ := List.mem_map.mp named
      subst same
      have means := filed.named .schemaVersion value member
      rw [holds] at means
      cases means with
      | typed typed =>
        cases typed
        exact member
    · have nothing := filed.kept .schemaVersion named
      rw [holds, Settings.get, unset] at nothing
      cases nothing
  · intro member
    have means := filed.named .schemaVersion _ member
    generalize t.get .schemaVersion = c at means
    cases means with
    | typed typed =>
      cases typed
      rfl

/-- The text of a record gives settings if the record is proper and of the current version. -/
theorem ofText_written_iff {path : Path} {text : List Char} {members : Members}
    (unset : s.schemaVersion = none) (written : Written text (.record members)) :
    s.ofText path (String.ofList text) = .ok t ↔
      ∃ fs, members = membersOf fs ∧ Proper fs ∧ Current fs ∧ Filed fs s t := by
  have honest := honest_record.mp written.honest
  have whole := (written_iff.mp written).2
  have read : s.reader.ofText text = .ok t ↔ s.reader (.record members) = .ok t := by
    rw [(clean_settings s).ofText_iff]
    constructor
    · rintro ⟨value, written', read⟩
      rw [written.unique written']
      exact read
    · exact fun read => ⟨_, written, read⟩
  rw [ofText_eq_ok_iff, String.toList_ofList, read, reader_record_iff honest whole]
  constructor
  · rintro ⟨⟨fs, rfl, proper, filed⟩, current⟩
    refine ⟨fs, rfl, proper, fun v member => ?_, filed⟩
    exact current v ((filed.version_iff unset v).mpr member)
  · rintro ⟨fs, rfl, proper, current, filed⟩
    refine ⟨⟨fs, rfl, proper, filed⟩, fun v named => ?_⟩
    exact current v ((filed.version_iff unset v).mp named)

/-! ## Settings that were written -/

/-- The written form of a content. -/
def Content.value? : Content → Option Value
  | nothing => none
  | text t => some (.text t)
  | word n => some (Settings.word n)
  | path p => some (.text p.text)

/-- What is written of settings, by their names. -/
def Settings.parts (s : Settings) : List (String × Value) :=
  Setting.all.filterMap fun f => (s.get f).value?.map (f.key, ·)

theorem value_eq (s : Settings) : s.value = .record s.parts := by
  obtain ⟨v, p, i, i', n, n', m, b, g, x, d⟩ := s
  cases v <;> cases d <;> rfl

theorem typed_word (n : UInt64) : Typed .word (Settings.word n).tree (.word n) := by
  have small := n.toNat_lt_size
  have size : UInt64.size = 18446744073709551616 := rfl
  have fits : Spelling.Fits n.toNat := by
    unfold Spelling.Fits
    omega
  rw [Settings.word, Value.tree, Spelling.meaning_ofInt fits]
  exact .word n

/-- A setting is written with its type, or is not set. -/
theorem typed_get (s : Settings) (f : Setting) :
    (∃ v, (s.get f).value? = some v ∧ Typed f.kind v.tree (s.get f)) ∨
      f.Optional ∧ s.get f = .nothing := by
  cases f with
  | schemaVersion =>
    unfold Settings.get
    cases s.schemaVersion with
    | none => exact .inr ⟨trivial, rfl⟩
    | some v => exact .inl ⟨_, rfl, .text v⟩
  | scratchDir =>
    unfold Settings.get
    cases s.scratchDir with
    | none => exact .inr ⟨trivial, rfl⟩
    | some p => exact .inl ⟨_, rfl, .path p.text⟩
  | moduleVariable => exact .inl ⟨_, rfl, .text _⟩
  | projectsDir | sourceInterpreter | targetInterpreter => exact .inl ⟨_, rfl, .path _⟩
  | timeoutSeconds | maxTimeoutSeconds | memoryMb | maxOutputBytes | killGraceMs =>
    exact .inl ⟨_, rfl, typed_word _⟩

theorem memberTrees_eq (parts : List (String × Value)) :
    Value.memberTrees parts = membersOf (parts.map fun part => (part.1, part.2.tree)) := by
  induction parts with
  | nil => rfl
  | cons part parts ih => rw [Value.memberTrees, List.map_cons, membersOf, ih]

theorem mem_parts_iff {name : String} {v : Value} :
    (name, v) ∈ s.parts ↔ ∃ f : Setting, f.key = name ∧ (s.get f).value? = some v := by
  simp [Settings.parts, Setting.mem_all, and_comm]

theorem nodup_parts (s : Settings) : (s.parts.map Prod.fst).Nodup := by
  rw [Settings.parts, List.map_filterMap]
  refine List.Nodup.filterMap ?_ (by decide : Setting.all.Nodup)
  intro f g name named named'
  have key {f : Setting} (h : name ∈ ((s.get f).value?.map (f.key, ·)).map Prod.fst) :
      f.key = name := by
    obtain ⟨part, written, rfl⟩ := Option.map_eq_some_iff.mp h
    obtain ⟨v, -, rfl⟩ := Option.map_eq_some_iff.mp written
    rfl
  exact Setting.key_injective ((key named).trans (key named').symm)

/-- Settings are written as a record of what they are, where they are set. -/
theorem parts_filed (unset : ∀ f : Setting, f.Optional → t.get f = .nothing) :
    Proper (s.parts.map fun part => (part.1, part.2.tree)) ∧
      Filed (s.parts.map fun part => (part.1, part.2.tree)) t s := by
  have names : (s.parts.map fun part => (part.1, part.2.tree)).map Prod.fst =
      s.parts.map Prod.fst := by
    rw [List.map_map]
    rfl
  have there {f : Setting} {value : Tree}
      (member : (f.key, value) ∈ s.parts.map fun part => (part.1, part.2.tree)) :
      Means f value (s.get f) := by
    obtain ⟨⟨name, v⟩, there, part⟩ := List.mem_map.mp member
    obtain ⟨rfl, rfl⟩ := Prod.mk.inj part
    obtain ⟨g, same, written⟩ := mem_parts_iff.mp there
    rw [Setting.key_injective same] at written
    obtain ⟨v', written', typed⟩ | ⟨-, nothing⟩ := typed_get s f
    · rw [Option.some.inj (written.symm.trans written')]
      exact .typed typed
    · rw [nothing] at written
      cases written
  refine ⟨⟨?_, names ▸ nodup_parts s, fun f value member => ⟨_, there member⟩⟩,
    fun f value member => there member, ?_⟩
  · intro part member
    obtain ⟨⟨name, v⟩, there, rfl⟩ := List.mem_map.mp member
    obtain ⟨f, same, -⟩ := mem_parts_iff.mp there
    exact ⟨f, same⟩
  · intro f absent
    obtain ⟨v, written, -⟩ | ⟨optional, nothing⟩ := typed_get s f
    · rw [names] at absent
      exact absurd (List.mem_map_of_mem (mem_parts_iff.mpr ⟨f, rfl, written⟩)) absent
    · rw [nothing, unset f optional]

theorem standard_unset (tmp : Path) (f : Setting) (optional : f.Optional) :
    (Settings.standard tmp).get f = .nothing := by
  cases f with
  | schemaVersion | scratchDir => rfl
  | _ => cases optional

/-- Settings are read back from what is written of them. -/
theorem ofText_value {tmp path : Path} {text : List Char}
    (version : s.schemaVersion = none ∨ s.schemaVersion = some Settings.version)
    (written : Written text s.value.tree) :
    (Settings.standard tmp).ofText path (String.ofList text) = .ok s := by
  rw [value_eq, Value.tree, memberTrees_eq] at written
  obtain ⟨proper, filed⟩ := parts_filed (s := s) (standard_unset tmp)
  refine (ofText_written_iff rfl written).mpr ⟨_, rfl, proper, fun v member => ?_, filed⟩
  have named := (filed.version_iff rfl v).mpr member
  obtain unset | current := version
  · rw [unset] at named
    cases named
  · rw [current] at named
    exact (Option.some.inj named).symm

/-- The text in what the file system answers. -/
def textOf : Except IoError Utf8.Bytes → Except IoError String
  | .error e => .error e
  | .ok bytes =>
    match Utf8.decode? bytes with
    | some text => .ok (String.ofList text)
    | none => .error .notUtf8

theorem textOf_encode (text : List Char) :
    textOf (.ok (Utf8.encode text)) = .ok (String.ofList text) := by
  simp only [textOf, Utf8.decode?_encode]

theorem path_readText (path : Path) (answer : Except IoError Utf8.Bytes) :
    Task.Path (readText path) [⟨.readFile path, answer⟩] (textOf answer) := by
  refine Task.path_ask_bind_iff.mpr ⟨_, _, rfl, ?_⟩
  cases answer with
  | error e => exact .done _
  | ok bytes =>
    unfold textOf
    dsimp only
    cases Utf8.decode? bytes <;> exact .done _

/-- The settings that a file gives over others, by what the file system answers. -/
def Settings.ofAnswer (s : Settings) (path : Path) (answer : Except IoError Utf8.Bytes) :
    Except ConfigError Settings :=
  match textOf answer with
  | .error e => .error (.unreadable path e)
  | .ok text => s.ofText path text

theorem ofAnswer_encode (s : Settings) (path : Path) (text : List Char) :
    s.ofAnswer path (.ok (Utf8.encode text)) = s.ofText path (String.ofList text) := by
  simp only [Settings.ofAnswer, textOf_encode]

theorem path_ofFile (s : Settings) (path : Path) (answer : Except IoError Utf8.Bytes) :
    Task.Path (s.ofFile path) [⟨.readFile path, answer⟩] (s.ofAnswer path answer) := by
  have read := path_readText path answer
  refine Task.path_bind_iff.mpr ⟨_, [], _, (List.append_nil _).symm, read, ?_⟩
  unfold Settings.ofAnswer
  cases textOf answer <;> exact .done _

/-- Settings that were written are read back, on a line or on a page. Any other record gives
settings if it names nothing but settings, each once and with a value of its type, and no version
but the current one; then what it names is as it says, and everything else is standard. -/
theorem files_give_settings (tmp path : Path) :
    (∀ s : Settings, (s.schemaVersion = none ∨ s.schemaVersion = some Settings.version) →
      ∀ text ∈ [s.value.line, s.value.page],
        Task.Path ((Settings.standard tmp).ofFile path)
          [⟨.readFile path, .ok (Utf8.encode text.toList)⟩] (.ok s)) ∧
    ∀ text members, Written text (.record members) →
      ∃ reply, Task.Path ((Settings.standard tmp).ofFile path)
          [⟨.readFile path, .ok (Utf8.encode text)⟩] reply ∧
        ((∃ s, reply = .ok s) ↔ ∃ fs, members = membersOf fs ∧ Proper fs ∧ Current fs) ∧
        ∀ s, reply = .ok s →
          ∀ fs, members = membersOf fs → Filed fs (Settings.standard tmp) s := by
  constructor
  · intro s version text member
    have written : Written text.toList s.value.tree := by
      simp only [List.mem_cons, List.not_mem_nil, or_false] at member
      obtain rfl | rfl := member
      · exact Value.written_line s.value
      · exact written_iff.mpr ⟨Value.ofText_page s.value, Value.passing_tree s.value⟩
    have read := path_ofFile (.standard tmp) path (.ok (Utf8.encode text.toList))
    rwa [ofAnswer_encode, ofText_value version written] at read
  · intro text members written
    refine ⟨_, path_ofFile (.standard tmp) path (.ok (Utf8.encode text)), ?_⟩
    rw [ofAnswer_encode]
    constructor
    · constructor
      · rintro ⟨s, read⟩
        obtain ⟨fs, same, proper, current, -⟩ := (ofText_written_iff rfl written).mp read
        exact ⟨fs, same, proper, current⟩
      · rintro ⟨fs, rfl, proper, current⟩
        have honest := honest_record.mp written.honest
        have whole := (written_iff.mp written).2
        obtain ⟨s, filed⟩ := proper.exists_filed honest whole (.standard tmp)
        exact ⟨s, (ofText_written_iff rfl written).mpr ⟨fs, rfl, proper, current, filed⟩⟩
    · intro s read fs same
      obtain ⟨fs', same', -, -, filed⟩ := (ofText_written_iff rfl written).mp read
      rw [membersOf_injective (same.symm.trans same')]
      exact filed

end

end Tandem.Config
