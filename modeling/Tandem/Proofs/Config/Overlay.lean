import Mathlib.Data.List.Forall2
import Tandem.Config.Overlay
import Tandem.Proofs.Text.Digits
import Tandem.Proofs.Text.Phrase

/-!
What the environment does to settings.

What is said about a layer over settings is said of each field of `Settings` in the same way, so
the fields have names here, and what a field holds is a `Content` of the kind of the field.

* `Tells`: what one variable says about its setting, and `Garbled`: a number that says nothing
  because it cannot be read. A value is one or the other, and says one thing.
* `Layered`: settings with all that some variables say, and everything else as it was.
* `overlay_layers`: the overlay applies every variable up to the first garbled one.
-/

namespace Tandem.Config

open Tandem.Host Tandem.Number Tandem.Text

/-! ## Settings one by one -/

/-- The fields of `Settings`. -/
inductive Setting where
  | schemaVersion
  | projectsDir
  | sourceInterpreter
  | targetInterpreter
  | timeoutSeconds
  | maxTimeoutSeconds
  | memoryMb
  | maxOutputBytes
  | killGraceMs
  | moduleVariable
  | scratchDir
deriving DecidableEq, Repr

/-- What a setting holds; `nothing` if it is not set. -/
inductive Content where
  | nothing
  | text (t : String)
  | word (n : UInt64)
  | path (p : Path)
deriving DecidableEq, Repr

namespace Content

/-- What a setting holds that can be without a content. -/
def maybe {α : Type} (c : α → Content) (a? : Option α) : Content := (a?.map c).getD .nothing

theorem text_injective : Function.Injective text := fun _ _ same => Content.text.inj same

theorem path_injective : Function.Injective path := fun _ _ same => Content.path.inj same

theorem maybe_injective {α : Type} {c : α → Content} (injective : Function.Injective c)
    (set : ∀ a, c a ≠ .nothing) : Function.Injective (maybe c) := by
  intro a? b? same
  cases a? with
  | none =>
    cases b? with
    | none => rfl
    | some b => exact absurd same.symm (set b)
  | some a =>
    cases b? with
    | none => exact absurd same (set a)
    | some b => rw [injective same]

end Content

inductive Kind where
  | text
  | word
  | path
deriving DecidableEq, Repr

namespace Setting

def kind : Setting → Kind
  | schemaVersion | moduleVariable => .text
  | projectsDir | sourceInterpreter | targetInterpreter | scratchDir => .path
  | timeoutSeconds | maxTimeoutSeconds | memoryMb | maxOutputBytes | killGraceMs => .word

/-- Whether the setting can be without a content. -/
def Optional : Setting → Prop
  | schemaVersion | scratchDir => True
  | _ => False

end Setting

namespace Settings

def get (s : Settings) : Setting → Content
  | .schemaVersion => .maybe .text s.schemaVersion
  | .projectsDir => .path s.projectsDir
  | .sourceInterpreter => .path s.sourceInterpreter
  | .targetInterpreter => .path s.targetInterpreter
  | .timeoutSeconds => .word s.timeoutSeconds
  | .maxTimeoutSeconds => .word s.maxTimeoutSeconds
  | .memoryMb => .word s.memoryMb
  | .maxOutputBytes => .word s.maxOutputBytes
  | .killGraceMs => .word s.killGraceMs
  | .moduleVariable => .text s.moduleVariable
  | .scratchDir => .maybe .path s.scratchDir

theorem ext_get {s t : Settings} (same : ∀ f, s.get f = t.get f) : s = t := by
  obtain ⟨v, p, i, i', n, n', m, b, g, x, d⟩ := s
  obtain ⟨v₁, p₁, i₁, i₁', n₁, n₁', m₁, b₁, g₁, x₁, d₁⟩ := t
  have version := Content.maybe_injective Content.text_injective nofun (same .schemaVersion)
  have scratch := Content.maybe_injective Content.path_injective nofun (same .scratchDir)
  have projects := same .projectsDir
  have source := same .sourceInterpreter
  have target := same .targetInterpreter
  have timeout := same .timeoutSeconds
  have maximum := same .maxTimeoutSeconds
  have memory := same .memoryMb
  have output := same .maxOutputBytes
  have grace := same .killGraceMs
  have module := same .moduleVariable
  simp only [get, Content.path.injEq, Content.word.injEq, Content.text.injEq] at *
  subst version scratch projects source target timeout maximum memory output grace module
  rfl

/-- Settings with one of them set to a content, or left as it was. -/
structure Updated (f : Setting) (u : Option Content) (s t : Settings) : Prop where
  set : t.get f = u.getD (s.get f)
  kept : ∀ g, g ≠ f → t.get g = s.get g

theorem Updated.none {f : Setting} {s : Settings} : Updated f none s s :=
  ⟨rfl, fun _ _ => rfl⟩

end Settings

variable {text core : List Char} {k : Kind} {value : Option String} {u : Option Content}
variable {s t r : Settings} {lookup : String → Option String}

/-! ## Texts without the blanks around them -/

/-- What is left of a text without the blanks at both ends. -/
structure Trimmed (text core : List Char) : Prop where
  around : ∃ before after, text = before ++ (core ++ after) ∧ Blank before ∧ Blank after
  first : ∀ c ∈ core.head?, ¬ isBlank c = true
  last : ∀ c ∈ core.getLast?, ¬ isBlank c = true

theorem trimmed_trim (text : List Char) : Trimmed text (trim text) := by
  obtain ⟨whole, before, first⟩ := stretch isBlank text
  obtain ⟨ending, after, last⟩ := stretch isBlank (text.dropWhile isBlank).reverse
  have parts : text.dropWhile isBlank =
      trim text ++ ((text.dropWhile isBlank).reverse.takeWhile isBlank).reverse := by
    have := congrArg List.reverse ending
    rwa [List.reverse_reverse, List.reverse_append] at this
  constructor
  · refine ⟨_, _, whole.trans (congrArg _ parts), before, ?_⟩
    exact fun c member => after c (List.mem_reverse.mp member)
  · intro c starts
    apply first c
    rw [parts]
    exact List.mem_head?_append_of_mem_head? starts
  · intro c ends
    rw [trim, List.getLast?_reverse] at ends
    exact last c ends

theorem Trimmed.trim_eq (h : Trimmed text core) : trim text = core := by
  obtain ⟨⟨before, after, rfl, blank, blank'⟩, first, last⟩ := h
  rw [trim, List.dropWhile_append_of_pos blank]
  cases core with
  | nil =>
    have gone : after.dropWhile isBlank = [] :=
      (stretch_iff.mpr ⟨(List.append_nil _).symm, blank', by simp⟩).2
    simp [gone]
  | cons c rest =>
    have opens : (c :: rest ++ after).dropWhile isBlank = c :: rest ++ after :=
      (stretch_iff.mpr ⟨(List.nil_append _).symm, by simp, by simpa using first⟩).2
    have closes : (c :: rest).reverse.dropWhile isBlank = (c :: rest).reverse := by
      refine (stretch_iff.mpr ⟨(List.nil_append _).symm, by simp, ?_⟩).2
      rwa [List.head?_reverse]
    have blank'' : ∀ c ∈ after.reverse, isBlank c = true :=
      fun c member => blank' c (List.mem_reverse.mp member)
    rw [opens, List.reverse_append, List.dropWhile_append_of_pos blank'', closes,
      List.reverse_reverse]

theorem trimmed_iff : Trimmed text core ↔ trim text = core := by
  constructor
  · exact Trimmed.trim_eq
  · rintro rfl
    exact trimmed_trim text

theorem trimmed_nil_iff : Trimmed text [] ↔ Blank text := by
  constructor
  · rintro ⟨⟨before, after, rfl, blank, blank'⟩, -, -⟩ c member
    exact (List.mem_append.mp member).elim (blank c) (blank' c)
  · intro blank
    exact ⟨⟨text, [], by simp, blank, by simp [Blank]⟩, by simp, by simp⟩

/-! ## What one variable says -/

/-- The variables with the settings that they are about, in the order in which they are looked
at. -/
def overrides : List (String × Setting) :=
  [("PARITY_PROJECTS_DIR", .projectsDir),
   ("PARITY_SOURCE_INTERPRETER", .sourceInterpreter),
   ("PARITY_TARGET_INTERPRETER", .targetInterpreter),
   ("PARITY_TIMEOUT_SECONDS", .timeoutSeconds),
   ("PARITY_MAX_TIMEOUT_SECONDS", .maxTimeoutSeconds),
   ("PARITY_MEMORY_LIMIT_MB", .memoryMb),
   ("PARITY_MAX_OUTPUT_BYTES", .maxOutputBytes),
   ("PARITY_KILL_GRACE_MS", .killGraceMs),
   ("PARITY_MODULE_PATH_VAR", .moduleVariable),
   ("PARITY_SCRATCH_DIR", .scratchDir)]

/-- What a variable with this value says about a setting of this kind: a content for it, or
nothing. -/
inductive Tells : Kind → Option String → Option Content → Prop where
  | unset (k : Kind) : Tells k none none
  | noPath : Tells .path (some "") none
  | path (p : String) (named : p ≠ "") : Tells .path (some p) (some (.path ⟨p⟩))
  | blank (t : String) (blank : Blank t.toList) : Tells .word (some t) none
  | word {t : String} {core : List Char} {n : UInt64} (trimmed : Trimmed t.toList core)
    (word : IsWord core n) : Tells .word (some t) (some (.word n))
  | text (t : String) : Tells .text (some t) (some (.text t))

/-- Something that is no word stands where a number has to stand. -/
inductive Garbled : Kind → Option String → List Char → Prop where
  | word {t : String} {core : List Char} (trimmed : Trimmed t.toList core) (filled : core ≠ [])
    (unread : ∀ n, ¬ IsWord core n) : Garbled .word (some t) core

theorem tells_or_garbled (k : Kind) (value : Option String) :
    (∃ u, Tells k value u) ∨ ∃ core, Garbled k value core := by
  cases value with
  | none => exact .inl ⟨none, .unset k⟩
  | some t =>
    cases k with
    | text => exact .inl ⟨_, .text t⟩
    | path =>
      by_cases named : t = ""
      · subst named
        exact .inl ⟨_, .noPath⟩
      · exact .inl ⟨_, .path t named⟩
    | word =>
      by_cases blank : trim t.toList = []
      · exact .inl ⟨_, .blank t (trimmed_nil_iff.mp (trimmed_iff.mpr blank))⟩
      · by_cases word : ∃ n, IsWord (trim t.toList) n
        · obtain ⟨n, word⟩ := word
          exact .inl ⟨_, .word (trimmed_trim t.toList) word⟩
        · exact .inr ⟨_, .word (trimmed_trim t.toList) blank (not_exists.mp word)⟩

theorem tells_none_iff : Tells k none u ↔ u = none := by
  constructor
  · rintro ⟨⟩
    rfl
  · rintro rfl
    exact .unset k

theorem not_garbled_none : ¬ Garbled k none core := by
  rintro ⟨⟩

theorem Trimmed.not_blank {n : UInt64} (trimmed : Trimmed text core) (word : IsWord core n) :
    ¬ Blank text := by
  intro blank
  have nothing := (trimmed_nil_iff.mpr blank).trim_eq.symm.trans trimmed.trim_eq
  subst nothing
  exact not_isWord_nil n word

theorem Tells.unique {u' : Option Content} (h : Tells k value u) (h' : Tells k value u') :
    u = u' := by
  cases h with
  | unset => cases h'; rfl
  | text t => cases h'; rfl
  | noPath =>
    cases h' with
    | noPath => rfl
    | path p named => exact absurd rfl named
  | path p named =>
    cases h' with
    | noPath => exact absurd rfl named
    | path => rfl
  | blank t blank =>
    cases h' with
    | blank => rfl
    | word trimmed word => exact absurd blank (trimmed.not_blank word)
  | word trimmed word =>
    cases h' with
    | blank t blank => exact absurd blank (trimmed.not_blank word)
    | word trimmed' word' =>
      have same := trimmed.trim_eq.symm.trans trimmed'.trim_eq
      subst same
      rw [word.unique word']

theorem Tells.not_garbled (h : Tells k value u) : ¬ Garbled k value core := by
  rintro ⟨trimmed, filled, unread⟩
  cases h with
  | blank t blank => exact filled (trimmed.trim_eq.symm.trans (trimmed_nil_iff.mpr blank).trim_eq)
  | word trimmed' word =>
    have same := trimmed.trim_eq.symm.trans trimmed'.trim_eq
    subst same
    exact unread _ word

/-! ## What one variable changes -/

/-- A change sets one setting, and a content of its kind. -/
inductive Sets : Change → Setting → Prop where
  | path {set : Path → Settings → Settings} {f : Setting} (kind : f.kind = .path)
    (sets : ∀ p s, Settings.Updated f (some (.path p)) s (set p s)) : Sets (.path set) f
  | word {set : UInt64 → Settings → Settings} {f : Setting} (kind : f.kind = .word)
    (sets : ∀ n s, Settings.Updated f (some (.word n)) s (set n s)) : Sets (.word set) f
  | text {set : String → Settings → Settings} {f : Setting} (kind : f.kind = .text)
    (sets : ∀ t s, Settings.Updated f (some (.text t)) s (set t s)) : Sets (.text set) f

structure Overrides (v : Variable) (o : String × Setting) : Prop where
  name : v.name = o.1
  sets : Sets v.change o.2

theorem all_overrides : List.Forall₂ Overrides Variable.all overrides := by
  have updated {f : Setting} {c : Content} {s t : Settings} (set : t.get f = c)
      (kept : ∀ g, g ≠ f → t.get g = s.get g) : Settings.Updated f (some c) s t := ⟨set, kept⟩
  simp only [Variable.all, overrides, List.forall₂_cons, List.Forall₂.nil, and_true]
  refine ⟨⟨rfl, ?_⟩, ⟨rfl, ?_⟩, ⟨rfl, ?_⟩, ⟨rfl, ?_⟩, ⟨rfl, ?_⟩, ⟨rfl, ?_⟩, ⟨rfl, ?_⟩, ⟨rfl, ?_⟩,
    ⟨rfl, ?_⟩, ⟨rfl, ?_⟩⟩
  all_goals
    first
      | refine .path rfl fun p s => updated rfl ?_
      | refine .word rfl fun n s => updated rfl ?_
      | refine .text rfl fun t s => updated rfl ?_
    intro g other
    cases g <;> first | rfl | exact absurd rfl other

section
variable {given : String} {v : Variable} {vs : List Variable} {o : String × Setting}
  {os : List (String × Setting)}

theorem apply_tells (h : Overrides v o) (told : Tells o.2.kind (some given) u) (s : Settings) :
    ∃ t, v.apply given s = .ok t ∧ Settings.Updated o.2 u s t := by
  obtain ⟨name, change⟩ := v
  obtain ⟨-, sets⟩ := h
  unfold Variable.apply
  cases sets with
  | text kind sets =>
    rw [kind] at told
    cases told
    exact ⟨_, rfl, sets given s⟩
  | path kind sets =>
    rw [kind] at told
    cases told with
    | noPath => exact ⟨s, rfl, .none⟩
    | path p named =>
      have filled : given.isEmpty = false := by simpa using named
      exact ⟨_, by simp only [filled]; rfl, sets ⟨given⟩ s⟩
  | word kind sets =>
    rw [kind] at told
    cases told with
    | blank t blank =>
      rw [(trimmed_nil_iff.mpr blank).trim_eq]
      exact ⟨s, rfl, .none⟩
    | @word t core n trimmed word =>
      refine ⟨_, ?_, sets n s⟩
      rw [trimmed.trim_eq]
      cases core with
      | nil => exact absurd word (not_isWord_nil n)
      | cons c rest => simp only [readWord_eq_ok_iff.mpr word]

theorem apply_garbled (h : Overrides v o) (garbled : Garbled o.2.kind (some given) core)
    (s : Settings) :
    ∃ flaw, v.apply given s = .error ⟨o.1, String.ofList core, flaw⟩ := by
  obtain ⟨name, change⟩ := v
  obtain ⟨rfl, sets⟩ := h
  unfold Variable.apply
  cases sets with
  | text kind sets => rw [kind] at garbled; cases garbled
  | path kind sets => rw [kind] at garbled; cases garbled
  | word kind sets =>
    rw [kind] at garbled
    obtain ⟨trimmed, filled, unread⟩ := garbled
    rw [trimmed.trim_eq]
    cases core with
    | nil => exact absurd rfl filled
    | cons c rest =>
      cases read : readWord (c :: rest) with
      | ok n => exact absurd (readWord_eq_ok_iff.mp read) (unread n)
      | error flaw => exact ⟨flaw, by simp only [read]⟩

/-! ## What the environment changes -/

/-- A variable that tells something is applied, and the others are looked at after it. -/
theorem overlayWith_tells (h : Overrides v o) (told : Tells o.2.kind (lookup o.1) u)
    (vs : List Variable) (s : Settings) :
    ∃ t, overlayWith lookup (v :: vs) s = overlayWith lookup vs t ∧ Settings.Updated o.2 u s t := by
  rw [overlayWith, h.name]
  cases given : lookup o.1 with
  | none =>
    rw [given, tells_none_iff] at told
    subst told
    exact ⟨s, rfl, .none⟩
  | some value =>
    rw [given] at told
    obtain ⟨t, applied, updated⟩ := apply_tells h told s
    exact ⟨t, by simp only [applied], updated⟩

/-- A garbled variable ends the overlay. -/
theorem overlayWith_garbled (h : Overrides v o) (garbled : Garbled o.2.kind (lookup o.1) core)
    (vs : List Variable) (s : Settings) :
    ∃ flaw, overlayWith lookup (v :: vs) s = (s, some ⟨o.1, String.ofList core, flaw⟩) := by
  rw [overlayWith, h.name]
  cases given : lookup o.1 with
  | none =>
    rw [given] at garbled
    exact absurd garbled not_garbled_none
  | some value =>
    rw [given] at garbled
    obtain ⟨flaw, stops⟩ := apply_garbled h garbled s
    exact ⟨flaw, by simp only [stops]⟩

/-- None of some variables is garbled. -/
def Legible (lookup : String → Option String) (os : List (String × Setting)) : Prop :=
  ∀ o ∈ os, ∀ core, ¬ Garbled o.2.kind (lookup o.1) core

/-- Settings with all that some variables tell, and everything else as it was. -/
structure Layered (lookup : String → Option String) (os : List (String × Setting))
    (s t : Settings) : Prop where
  told : ∀ o ∈ os, ∀ c, Tells o.2.kind (lookup o.1) (some c) → t.get o.2 = c
  kept : ∀ f, (∀ o ∈ os, o.2 = f → Tells o.2.kind (lookup o.1) none) → t.get f = s.get f

theorem Layered.nil : Layered lookup [] s s := by
  constructor
  · intro o member
    cases member
  · intro f _
    rfl

/-- The layer of one more variable, under the layer of others about other settings. -/
theorem Layered.cons (updated : Settings.Updated o.2 u s t) (told : Tells o.2.kind (lookup o.1) u)
    (other : ∀ o' ∈ os, o'.2 ≠ o.2) (h : Layered lookup os t r) :
    Layered lookup (o :: os) s r := by
  constructor
  · intro o' member c told'
    obtain rfl | member := List.mem_cons.mp member
    · have same := told.unique told'
      subst same
      rw [h.kept o'.2 fun o'' member' field => absurd field (other o'' member'), updated.set]
      rfl
    · exact h.told o' member c told'
  · intro f quiet
    rw [h.kept f fun o' member field => quiet o' (List.mem_cons_of_mem _ member) field]
    by_cases field : o.2 = f
    · subst field
      have nothing := told.unique (quiet o List.mem_cons_self rfl)
      subst nothing
      exact updated.set
    · exact updated.kept f (Ne.symm field)

/-- Applied to settings that have the layer already, a layer changes nothing. -/
theorem Layered.again (legible : Legible lookup os) (h : Layered lookup os s t)
    (h' : Layered lookup os t r) : r = t := by
  apply Settings.ext_get
  intro f
  by_cases quiet : ∀ o ∈ os, o.2 = f → Tells o.2.kind (lookup o.1) none
  · exact h'.kept f quiet
  · push Not at quiet
    obtain ⟨o, member, rfl, speaks⟩ := quiet
    obtain ⟨u, told⟩ | ⟨core, garbled⟩ := tells_or_garbled o.2.kind (lookup o.1)
    · cases u with
      | none => exact absurd told speaks
      | some c => rw [h'.told o member c told, h.told o member c told]
    · exact absurd garbled (legible o member core)

/-- How the overlay of some variables ends: all are applied, or those before the first garbled
one, which is named. -/
inductive Overlaid (lookup : String → Option String) (os : List (String × Setting))
    (s : Settings) : Settings × Option VariableFlaw → Prop where
  | whole {t : Settings} (legible : Legible lookup os) (layered : Layered lookup os s t) :
    Overlaid lookup os s (t, none)
  | stopped {before after : List (String × Setting)} {o : String × Setting} {core : List Char}
    {t : Settings} {flaw : WordFlaw} (parts : os = before ++ o :: after)
    (legible : Legible lookup before) (garbled : Garbled o.2.kind (lookup o.1) core)
    (layered : Layered lookup before s t) :
    Overlaid lookup os s (t, some ⟨o.1, String.ofList core, flaw⟩)

theorem overlaid (h : List.Forall₂ Overrides vs os) (apart : (os.map Prod.snd).Nodup)
    (s : Settings) : Overlaid lookup os s (overlayWith lookup vs s) := by
  induction h generalizing s with
  | nil => exact .whole (by simp [Legible]) .nil
  | @cons v o vs os first _ ih =>
    rw [List.map_cons, List.nodup_cons] at apart
    obtain ⟨fresh, apart⟩ := apart
    obtain ⟨u, told⟩ | ⟨core, garbled⟩ := tells_or_garbled o.2.kind (lookup o.1)
    · obtain ⟨t, goesOn, updated⟩ := overlayWith_tells first told vs s
      have clear : ∀ core, ¬ Garbled o.2.kind (lookup o.1) core := fun _ => told.not_garbled
      have onward := ih apart t
      rw [goesOn]
      generalize overlayWith lookup vs t = reply at onward
      cases onward with
      | whole legible layered =>
        refine .whole (List.forall_mem_cons.mpr ⟨clear, legible⟩) (layered.cons updated told ?_)
        exact fun o' member field => fresh (field ▸ List.mem_map_of_mem member)
      | @stopped before after o' core r flaw parts legible garbled layered =>
        subst parts
        refine .stopped (List.cons_append ..).symm (List.forall_mem_cons.mpr ⟨clear, legible⟩)
          garbled (layered.cons updated told ?_)
        intro o'' member field
        exact fresh (field ▸ List.mem_map_of_mem (List.mem_append_left _ member))
    · obtain ⟨flaw, stops⟩ := overlayWith_garbled first garbled vs s
      rw [stops]
      exact .stopped (List.nil_append _).symm (by simp [Legible]) garbled .nil

theorem settings_overlaid (s : Settings) (lookup : String → Option String) :
    Overlaid lookup overrides s (s.overlay lookup) :=
  overlaid all_overrides (by decide) s

theorem overlay_eq_none_iff (s : Settings) (lookup : String → Option String) :
    (s.overlay lookup).2 = none ↔ Legible lookup overrides := by
  have h := settings_overlaid s lookup
  generalize s.overlay lookup = reply at h
  cases h with
  | whole legible layered => simp [legible]
  | @stopped before after o core t flaw parts legible garbled layered =>
    simp only [reduceCtorEq, false_iff]
    intro all
    have member : o ∈ overrides := by simp [parts]
    exact all o member core garbled

theorem Overlaid.layered (h : Overlaid lookup os s (t, none)) : Layered lookup os s t := by
  cases h with
  | whole _ layered => exact layered

/-- The overlay applies what every variable tells, once and for all, unless one is garbled; then it
names the first one that is, and has applied what the variables before that one tell. -/
theorem overlay_layers (s : Settings) (lookup : String → Option String) :
    ((s.overlay lookup).2 = none ↔ Legible lookup overrides) ∧
      Overlaid lookup overrides s (s.overlay lookup) ∧
      ((s.overlay lookup).2 = none →
        (s.overlay lookup).1.overlay lookup = ((s.overlay lookup).1, none)) ∧
      ∀ flaw ∈ (s.overlay lookup).2,
        ("invalid " ++ flaw.name ++ "=").toList <+: flaw.message.toList := by
  refine ⟨overlay_eq_none_iff s lookup, settings_overlaid s lookup, ?_, ?_⟩
  · intro ends
    have legible := (overlay_eq_none_iff s lookup).mp ends
    have ends' := (overlay_eq_none_iff (s.overlay lookup).1 lookup).mpr legible
    have first := settings_overlaid s lookup
    have second := settings_overlaid (s.overlay lookup).1 lookup
    rw [← Prod.eta (s.overlay lookup), ends] at first
    rw [← Prod.eta ((s.overlay lookup).1.overlay lookup), ends'] at second
    exact Prod.ext (first.layered.again legible second.layered) ends'
  · intro flaw _
    refine ⟨(quoted flaw.value ++ ": " ++ flaw.flaw.text).toList, ?_⟩
    have message : flaw.message = "invalid " ++ flaw.name ++ "=" ++ quoted flaw.value ++ ": " ++
        flaw.flaw.text := rfl
    simp [message, String.toList_append]

end

end Tandem.Config
