import Mathlib.Data.List.Nodup
import Tandem.Document.Reader
import Tandem.Proofs.Document.Lexing
import Tandem.Proofs.Document.Order

/-!
Records as rows of named values.

* `membersOf`, `valuesOf`: the members of a record by their names.
* `Fits`: what a reader of known fields asks of a record. `fields_record_iff` says that it asks
  nothing else.
* `single_iff`: a record that is read for one field.
* `table_record_iff`: a record that is read as a table.
-/

namespace Tandem.Document

/-! ## Named values -/

/-- The members that give these values these names. -/
def membersOf : List (String × Tree) → Members
  | [] => .closed
  | (name, value) :: rest => .cons (.ok name) none value (membersOf rest)

/-- The names of members. -/
def Members.names : Members → List (Except Flaw String)
  | .cons name _ _ tail => name :: tail.names
  | _ => []

section
variable {fs fs' : List (String × Tree)}

theorem passing_membersOf :
    (membersOf fs).passing = none ↔ ∀ part ∈ fs, part.2.passing = none := by
  induction fs with
  | nil => simp [membersOf, Members.passing]
  | cons part fs ih => rw [membersOf, passing_cons_member, ih, List.forall_mem_cons]; simp

theorem honest_membersOf : (membersOf fs).Honest ↔ ∀ part ∈ fs, part.2.Honest := by
  induction fs with
  | nil => simp [membersOf, Members.Honest, Members.symbols, Token.Honest]
  | cons part fs ih =>
    rw [membersOf, honest_cons_member, ih, List.forall_mem_cons]
    exact and_iff_right fun _ _ => rfl

theorem membersOf_injective (h : membersOf fs = membersOf fs') : fs = fs' := by
  induction fs generalizing fs' with
  | nil =>
    cases fs' with
    | nil => rfl
    | cons part fs' => cases h
  | cons part fs ih =>
    cases fs' with
    | nil => cases h
    | cons part' fs' =>
      obtain ⟨name, value⟩ := part
      obtain ⟨name', value'⟩ := part'
      rw [membersOf, membersOf] at h
      injection h with sameName _ sameValue tail
      rw [Except.ok.inj sameName, sameValue, ih tail]

/-- Every name of a record is a text, or one of them is none. -/
theorem membersOf_or_unnamed {members : Members} (whole : members.passing = none) :
    (∃ fs, members = membersOf fs) ∨ ∃ flaw, .error flaw ∈ members.names := by
  match members with
  | .closed => exact .inl ⟨[], rfl⟩
  | .cut .. => cases whole
  | .nameless _ => cases whole
  | .cons (.error flaw) .. => exact .inr ⟨flaw, List.mem_cons_self ..⟩
  | .cons (.ok name) passing value tail =>
    obtain ⟨rfl, -, atTail⟩ := passing_cons_member.1 whole
    obtain ⟨fs, rfl⟩ | ⟨flaw, there⟩ := membersOf_or_unnamed atTail
    · exact .inl ⟨(name, value) :: fs, rfl⟩
    · exact .inr ⟨flaw, List.mem_cons_of_mem _ there⟩

theorem named_membersOf {flaw : Flaw} : .error flaw ∉ (membersOf fs).names := by
  induction fs with
  | nil => simp [membersOf, Members.names]
  | cons part fs ih => simp [membersOf, Members.names, ih]

end

section
variable {α β : Type}

/-- What stands under a name, in order. -/
def valuesOf (name : String) (parts : List (String × α)) : List α :=
  (parts.filter (·.1 = name)).map Prod.snd

section
variable {name : String} {value : α} {parts more : List (String × α)}

@[simp] theorem valuesOf_nil : valuesOf name ([] : List (String × α)) = [] := rfl

@[simp] theorem valuesOf_cons_self :
    valuesOf name ((name, value) :: parts) = value :: valuesOf name parts := by
  simp [valuesOf]

theorem valuesOf_cons_of_ne {other : String} (h : other ≠ name) :
    valuesOf name ((other, value) :: parts) = valuesOf name parts := by
  simp [valuesOf, h]

@[simp] theorem valuesOf_append :
    valuesOf name (parts ++ more) = valuesOf name parts ++ valuesOf name more := by
  simp [valuesOf]

theorem mem_valuesOf : value ∈ valuesOf name parts ↔ (name, value) ∈ parts := by
  simp [valuesOf]

theorem valuesOf_map (f : α → β) :
    valuesOf name (parts.map fun part => (part.1, f part.2)) = (valuesOf name parts).map f := by
  induction parts with
  | nil => rfl
  | cons part parts ih =>
    obtain ⟨n, value⟩ := part
    rw [List.map_cons]
    by_cases here : n = name
    · subst here
      rw [valuesOf_cons_self, valuesOf_cons_self, ih, List.map_cons]
    · rw [valuesOf_cons_of_ne here, valuesOf_cons_of_ne here, ih]

/-- The last of several members with one name is the first from behind. -/
theorem lookup_reverse : parts.reverse.lookup name = (valuesOf name parts).getLast? := by
  induction parts with
  | nil => rfl
  | cons part parts ih =>
    obtain ⟨n, value⟩ := part
    rw [List.reverse_cons, List.lookup_append, ih]
    by_cases here : n = name
    · subst here
      rw [valuesOf_cons_self, List.getLast?_cons]
      cases (valuesOf n parts).getLast? <;> simp
    · have other : (name == n) = false := by simpa using Ne.symm here
      rw [valuesOf_cons_of_ne here, List.lookup_cons, other]
      simp

end

end

namespace Reader

section
variable {α : Type} {r : Reader α} {strict : Bool} {known : List Field} {seen found : Fields}
  {fs : List (String × Tree)} {members : Members} {name title : String} {value : Tree}

/-! ## Known fields -/

/-- What a reader of known fields asks of a record: no field twice, values that pass their checks,
and other members only where it is not strict. -/
structure Fits (strict : Bool) (known : List Field) (fs : List (String × Tree)) : Prop where
  once : ∀ f ∈ known, (valuesOf f.name fs).length ≤ 1
  checks : ∀ f ∈ known, ∀ value ∈ valuesOf f.name fs, f.check value = .ok ()
  others : ∀ part ∈ fs, (∀ f ∈ known, f.name ≠ part.1) →
    strict = false ∧ part.2.passing = none

/-- The members that are known fields. -/
def kept (known : List Field) (fs : List (String × Tree)) : List (String × Tree) :=
  fs.filter fun part => known.any (·.name = part.1)

theorem valuesOf_kept {f : Field} (member : f ∈ known) :
    valuesOf f.name (kept known fs) = valuesOf f.name fs := by
  rw [valuesOf, valuesOf, kept, List.filter_filter]
  congr 1
  apply List.filter_congr
  intro part _
  by_cases named : part.1 = f.name
  · simp only [named, decide_true, Bool.true_and, List.any_eq_true, decide_eq_true_eq]
    exact ⟨f, member, rfl⟩
  · simp [named]

theorem fits_cons_known {f : Field} (distinct : (known.map Field.name).Nodup) (member : f ∈ known) :
    Fits strict known ((f.name, value) :: fs) ↔
      f.check value = .ok () ∧ valuesOf f.name fs = [] ∧ Fits strict known fs := by
  have apart : ∀ g ∈ known, g ≠ f → f.name ≠ g.name := by
    intro g member' other same
    exact other (List.inj_on_of_nodup_map distinct member' member same.symm)
  constructor
  · rintro ⟨once, checks, others⟩
    have alone := once f member
    have passes := checks f member
    rw [valuesOf_cons_self] at alone passes
    have nothing : valuesOf f.name fs = [] := List.eq_nil_of_length_eq_zero (by simpa using alone)
    refine ⟨passes value (List.mem_cons_self ..), nothing, ⟨?_, ?_, ?_⟩⟩
    · intro g member'
      by_cases same : g = f
      · simp [same, nothing]
      · rw [← valuesOf_cons_of_ne (apart g member' same)]
        exact once g member'
    · intro g member'
      by_cases same : g = f
      · simp [same, nothing]
      · rw [← valuesOf_cons_of_ne (apart g member' same)]
        exact checks g member'
    · exact fun part there => others part (List.mem_cons_of_mem _ there)
  · rintro ⟨passes, nothing, ⟨once, checks, others⟩⟩
    refine ⟨?_, ?_, ?_⟩
    · intro g member'
      by_cases same : g = f
      · simp [same, nothing]
      · rw [valuesOf_cons_of_ne (apart g member' same)]
        exact once g member'
    · intro g member'
      by_cases same : g = f
      · simpa [same, nothing] using passes
      · rw [valuesOf_cons_of_ne (apart g member' same)]
        exact checks g member'
    · refine List.forall_mem_cons.2 ⟨?_, others⟩
      intro unknown
      exact absurd rfl (unknown f member)

theorem fits_cons_unknown (unknown : ∀ f ∈ known, f.name ≠ name) :
    Fits strict known ((name, value) :: fs) ↔
      (strict = false ∧ value.passing = none) ∧ Fits strict known fs := by
  have same : ∀ f ∈ known, valuesOf f.name ((name, value) :: fs) = valuesOf f.name fs :=
    fun f member => valuesOf_cons_of_ne (Ne.symm (unknown f member))
  constructor
  · rintro ⟨once, checks, others⟩
    refine ⟨others _ (List.mem_cons_self ..) unknown, ⟨?_, ?_, ?_⟩⟩
    · intro f member
      exact same f member ▸ once f member
    · intro f member
      exact same f member ▸ checks f member
    · exact fun part there => others part (List.mem_cons_of_mem _ there)
  · rintro ⟨here, ⟨once, checks, others⟩⟩
    refine ⟨?_, ?_, ?_⟩
    · intro f member
      exact (same f member).symm ▸ once f member
    · intro f member
      exact (same f member).symm ▸ checks f member
    · exact List.forall_mem_cons.2 ⟨fun _ => here, others⟩

section
variable {passing : Option Flaw} {tail : Members}

theorem namedFields_unknown (unknown : ∀ f ∈ known, f.name ≠ name) :
    namedFields strict known seen (.cons (.ok name) passing value tail) = .ok found ↔
      (strict = false ∧ value.passing = none) ∧ namedFields strict known seen tail = .ok found := by
  have missing : known.find? (·.name == name) = none := by simpa using unknown
  rw [namedFields, meaning, Except.mapError]
  simp only [bind, Except.bind, missing]
  cases strict with
  | true => simp [throw, throwThe, MonadExceptOf.throw]
  | false => cases value.passing <;> simp [throw, throwThe, MonadExceptOf.throw]

theorem namedFields_known {f : Field} (distinct : (known.map Field.name).Nodup)
    (member : f ∈ known) :
    namedFields strict known seen (.cons (.ok f.name) passing value tail) = .ok found ↔
      seen.lookup f.name = none ∧ f.check value = .ok () ∧
        namedFields strict known ((f.name, value) :: seen) tail = .ok found := by
  have finds : known.find? (·.name == f.name) = some f := by
    cases kind : known.find? (·.name == f.name) with
    | none =>
      have other := List.find?_eq_none.1 kind f member
      simp at other
    | some g =>
      have named : g.name = f.name := by simpa using List.find?_some kind
      rw [List.inj_on_of_nodup_map distinct (List.mem_of_find?_eq_some kind) member named]
  rw [namedFields, meaning, Except.mapError]
  simp only [bind, Except.bind, finds]
  cases seen.lookup f.name with
  | some other => simp [throw, throwThe, MonadExceptOf.throw]
  | none => cases f.check value <;> simp

end

theorem namedFields_iff (distinct : (known.map Field.name).Nodup) :
    namedFields strict known seen (membersOf fs) = .ok found ↔
      Fits strict known fs ∧
        (∀ f ∈ known, valuesOf f.name fs ≠ [] → seen.lookup f.name = none) ∧
        found = (kept known fs).reverse ++ seen := by
  -- What is kept goes into `seen`, where it must not be twice.
  induction fs generalizing seen with
  | nil =>
    simp only [membersOf, namedFields, kept, List.filter_nil, List.reverse_nil, List.nil_append,
      valuesOf_nil, ne_eq, not_true_eq_false, false_implies, implies_true, true_and,
      Except.ok.injEq]
    constructor
    · intro same
      exact ⟨⟨by simp, by simp, by simp⟩, same.symm⟩
    · exact fun h => h.2.symm
  | cons part fs ih =>
    obtain ⟨name, value⟩ := part
    rw [membersOf]
    by_cases named : ∃ f ∈ known, f.name = name
    · obtain ⟨f, member, rfl⟩ := named
      have keeps : kept known ((f.name, value) :: fs) = (f.name, value) :: kept known fs := by
        apply List.filter_cons_of_pos
        exact List.any_eq_true.2 ⟨f, member, by simp⟩
      have order : ((f.name, value) :: kept known fs).reverse ++ seen =
          (kept known fs).reverse ++ (f.name, value) :: seen := by simp
      rw [namedFields_known distinct member, ih, fits_cons_known distinct member, keeps, order]
      constructor
      · rintro ⟨new, passes, fits, fresh, rfl⟩
        have nothing : valuesOf f.name fs = [] := by
          by_contra some
          have twice := fresh f member some
          simp at twice
        refine ⟨⟨passes, nothing, fits⟩, ?_, rfl⟩
        intro g member' some
        by_cases same : g.name = f.name
        · rw [same, new]
        · rw [valuesOf_cons_of_ne (Ne.symm same)] at some
          have later := fresh g member' some
          rwa [Value.lookup_cons_if, if_neg same] at later
      · rintro ⟨⟨passes, nothing, fits⟩, fresh, rfl⟩
        refine ⟨fresh f member (by simp), passes, fits, ?_, rfl⟩
        intro g member' some
        have same : g.name ≠ f.name := by
          intro same
          exact some (same ▸ nothing)
        rw [Value.lookup_cons_if, if_neg same]
        exact fresh g member' (by rwa [valuesOf_cons_of_ne (Ne.symm same)])
    · have unknown : ∀ f ∈ known, f.name ≠ name := fun f member same => named ⟨f, member, same⟩
      have keeps : kept known ((name, value) :: fs) = kept known fs := by
        apply List.filter_cons_of_neg
        simpa using unknown
      have fresh : (∀ f ∈ known, valuesOf f.name ((name, value) :: fs) ≠ [] →
          seen.lookup f.name = none) ↔
          ∀ f ∈ known, valuesOf f.name fs ≠ [] → seen.lookup f.name = none := by
        refine forall₂_congr ?_
        intro f member
        rw [valuesOf_cons_of_ne (Ne.symm (unknown f member))]
      rw [namedFields_unknown unknown, ih, fits_cons_unknown unknown, keeps, fresh]
      exact and_assoc.symm

/-- Every name of a record that is gone through to the end is a text. -/
theorem exists_membersOf {members : Members} {seen : Fields}
    (distinct : (known.map Field.name).Nodup) (honest : members.Honest)
    (h : namedFields strict known seen members = .ok found) : ∃ fs, members = membersOf fs := by
  match members with
  | .closed => exact ⟨[], rfl⟩
  | .cut .. => cases h
  | .nameless _ => cases h
  | .cons (.error _) _ _ _ => cases h
  | .cons (.ok name) passing value tail =>
    obtain ⟨atName, -, atTail⟩ := honest_cons_member.1 honest
    obtain rfl : passing = none := atName name rfl
    obtain ⟨seen', goesOn⟩ : ∃ seen', namedFields strict known seen' tail = .ok found := by
      by_cases named : ∃ f ∈ known, f.name = name
      · obtain ⟨f, member, rfl⟩ := named
        exact ⟨_, ((namedFields_known distinct member).1 h).2.2⟩
      · have unknown : ∀ f ∈ known, f.name ≠ name := fun f member same => named ⟨f, member, same⟩
        exact ⟨_, ((namedFields_unknown unknown).1 h).2⟩
    obtain ⟨fs, rfl⟩ := exists_membersOf distinct atTail goesOn
    exact ⟨(name, value) :: fs, rfl⟩

/-- A record is read by its known fields, each of which is found under its name. -/
theorem fields_record_iff (distinct : (known.map Field.name).Nodup) (honest : members.Honest) :
    fields title strict known (.record members) = .ok found ↔
      ∃ fs, members = membersOf fs ∧ Fits strict known fs ∧ found = (kept known fs).reverse := by
  constructor
  · intro read
    obtain ⟨fs, rfl⟩ := exists_membersOf distinct honest read
    obtain ⟨fits, -, same⟩ := (namedFields_iff distinct).1 read
    exact ⟨fs, rfl, fits, same.trans (List.append_nil _)⟩
  · rintro ⟨fs, rfl, fits, rfl⟩
    exact (namedFields_iff distinct).2 ⟨fits, fun _ _ _ => rfl, (List.append_nil _).symm⟩

/-- What a field that may be left out comes to. -/
theorem absent_kept_iff {a default : α} {f : Field} (member : f ∈ known)
    (fits : Fits strict known fs) :
    absent default f.name r (kept known fs).reverse = .ok a ↔
      valuesOf f.name fs = [] ∧ a = default ∨
        ∃ value, valuesOf f.name fs = [value] ∧ r value = .ok a := by
  rw [absent, lookup_reverse, valuesOf_kept member]
  have once := fits.once f member
  match values : valuesOf f.name fs, once with
  | [], _ => simp [eq_comm]
  | [value], _ => simp

theorem check_field_iff {mayEnd : Bool} :
    (field name r mayEnd).check value = .ok () ↔ ∃ a, r value = .ok a := by
  rw [field]
  dsimp only [bind, Except.bind, pure, Except.pure]
  cases r value <;> simp

/-! ## One field -/

/-- Reads a record for one field that may be left out, and passes over the others. -/
def single (title name : String) (default : α) (r : Reader α) : Reader α := fun t => do
  absent default name r (← fields title false [field name r true] t)

/-- What a field comes to that stands there once at most. -/
def ComesTo (values : List Tree) (r : Reader α) (default a : α) : Prop :=
  values = [] ∧ a = default ∨ ∃ value, values = [value] ∧ r value = .ok a

theorem ComesTo.length_le {values : List Tree} {default a : α} (h : ComesTo values r default a) :
    values.length ≤ 1 := by
  obtain ⟨rfl, -⟩ | ⟨value, rfl, -⟩ := h <;> simp

theorem ComesTo.reads {values : List Tree} {default a : α} (h : ComesTo values r default a) :
    ∀ value ∈ values, r value = .ok a := by
  obtain ⟨rfl, -⟩ | ⟨value, rfl, read⟩ := h
  · simp
  · simpa using read

theorem single_record_iff {default a : α} (honest : members.Honest)
    (whole : members.passing = none) :
    single title name default r (.record members) = .ok a ↔
      ∃ fs, members = membersOf fs ∧ ComesTo (valuesOf name fs) r default a := by
  have member : field name r true ∈ [field name r true] := List.mem_singleton.2 rfl
  have distinct : ([field name r true].map Field.name).Nodup := List.nodup_singleton _
  rw [single]
  constructor
  · intro read
    cases found : fields title false [field name r true] (.record members) with
    | error e =>
      rw [found] at read
      cases read
    | ok kept =>
      rw [found] at read
      obtain ⟨fs, rfl, fits, rfl⟩ := (fields_record_iff distinct honest).1 found
      exact ⟨fs, rfl, (absent_kept_iff member fits).1 read⟩
  · rintro ⟨fs, rfl, comes⟩
    have fits : Fits false [field name r true] fs := by
      refine ⟨List.forall_mem_singleton.2 comes.length_le, List.forall_mem_singleton.2 ?_, ?_⟩
      · exact fun value there => check_field_iff.2 ⟨a, comes.reads value there⟩
      · exact fun part there _ => ⟨rfl, passing_membersOf.1 whole part there⟩
    rw [(fields_record_iff distinct honest).2 ⟨fs, rfl, fits, rfl⟩]
    exact (absent_kept_iff member fits).2 comes

theorem refuse_ne_ok {expected : String} {t : Tree} {a : α} : refuse expected t ≠ .ok a := by
  rw [refuse]
  cases found t <;> exact nofun

/-- What is read for one field, from anything that is no list. -/
theorem single_iff {t : Tree} {default a : α} (honest : t.Honest) (whole : t.passing = none)
    (other : ∀ items, t ≠ .list items) :
    single title name default r t = .ok a ↔
      ∃ fs, t = .record (membersOf fs) ∧ ComesTo (valuesOf name fs) r default a := by
  have noRecord {expected : String} {β : Type} {next : Fields → Except ReadError β} {b : β} :
      refuse expected t >>= next ≠ .ok b := by
    cases found : refuse expected t with
    | error e => exact nofun
    | ok fs => exact absurd found refuse_ne_ok
  match t with
  | .record members =>
    rw [single_record_iff (honest_record.1 honest) whole]
    refine exists_congr fun fs => and_congr_left' ?_
    exact ⟨congrArg _, Tree.record.inj⟩
  | .list items => exact absurd rfl (other items)
  | .missing _ | .atom .. | .text .. =>
    refine iff_of_false noRecord ?_
    rintro ⟨fs, same, -⟩
    cases same

/-! ## Tables -/

section
variable {entries : List (String × α)}

theorem members_cons_iff {passing : Option Flaw} {tail : Members} :
    Reader.members r (.cons (.ok name) passing value tail) = .ok entries ↔
      ∃ a rest, r value = .ok a ∧ Reader.members r tail = .ok rest ∧
        entries = (name, a) :: rest := by
  rw [Reader.members]
  dsimp only [meaning, Except.mapError, bind, Except.bind, pure, Except.pure]
  cases r value with
  | error e => simp
  | ok a =>
    cases Reader.members r tail with
    | error e => simp
    | ok rest => simp [eq_comm]

theorem members_membersOf_iff :
    Reader.members r (membersOf fs) = .ok entries ↔
      fs.map (fun part => (part.1, r part.2)) =
        entries.map fun entry => (entry.1, .ok entry.2) := by
  induction fs generalizing entries with
  | nil =>
    rw [membersOf, Reader.members, Except.ok.injEq, List.map_nil]
    cases entries <;> simp
  | cons part fs ih =>
    obtain ⟨name, value⟩ := part
    rw [membersOf, members_cons_iff]
    constructor
    · rintro ⟨a, rest, first, others, rfl⟩
      rw [List.map_cons, List.map_cons, first, ih.1 others]
    · intro same
      match entries with
      | [] => cases same
      | (n, a) :: rest =>
        obtain ⟨first, others⟩ := List.cons.inj same
        obtain ⟨rfl, first⟩ := Prod.mk.inj first
        exact ⟨a, rest, first, ih.2 others, rfl⟩

theorem exists_membersOf_table {members : Members} {entries : List (String × α)}
    (honest : members.Honest) (h : Reader.members r members = .ok entries) :
    ∃ fs, members = membersOf fs := by
  match members with
  | .closed => exact ⟨[], rfl⟩
  | .cut .. => cases h
  | .nameless _ => cases h
  | .cons (.error _) _ _ _ => cases h
  | .cons (.ok name) passing value tail =>
    obtain ⟨atName, -, atTail⟩ := honest_cons_member.1 honest
    obtain rfl : passing = none := atName name rfl
    obtain ⟨a, rest, -, others, -⟩ := members_cons_iff.1 h
    obtain ⟨fs, rfl⟩ := exists_membersOf_table atTail others
    exact ⟨(name, value) :: fs, rfl⟩

/-- A table is what every member comes to under its name. -/
theorem table_record_iff (honest : members.Honest) :
    table r (.record members) = .ok entries ↔ ∃ fs, members = membersOf fs ∧
      fs.map (fun part => (part.1, r part.2)) =
        entries.map fun entry => (entry.1, .ok entry.2) := by
  constructor
  · intro read
    obtain ⟨fs, rfl⟩ := exists_membersOf_table honest read
    exact ⟨fs, rfl, members_membersOf_iff.1 read⟩
  · rintro ⟨fs, rfl, same⟩
    exact members_membersOf_iff.2 same

end

end

end Reader

end Tandem.Document
