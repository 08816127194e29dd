import Tandem.Document.Reader
import Tandem.Proofs.Document.Order
import Tandem.Proofs.Document.Parsing

/-!
Reading typed values back.

* `Restores`: a reader finds something in a value, whatever the order of fields in its records.
* `fields_of_sorted`: a record is read by the names of its fields.
* `Restores.recovers`: what a reader finds in a value it finds in every text of it.
* `Tree.Gives`: what stands in a document, by name.
-/

namespace Tandem.Document

open Tandem.Number

namespace Reader

section
variable {α : Type} {r : Reader α} {v w : Value} {a : α}

/-- The reader finds `a` in the value and in those that differ from it in the order of fields. -/
def Restores (r : Reader α) (v : Value) (a : α) : Prop :=
  ∀ w : Value, w.sorted = v.sorted → r w.tree = .ok a

/-! ## Values without fields -/

theorem restores_string (s : String) : string.Restores (.text s) s := by
  intro w same
  rw [Value.eq_text_of_sorted same]
  rfl

theorem restores_bool (b : Bool) : bool.Restores (.bool b) b := by
  intro w same
  rw [Value.eq_bool_of_sorted same]
  rfl

/-- A double that is read back from its text. -/
def ReadsBack (x : Binary64) : Prop := double.ofText x.render.toList = .ok x

theorem ofText_eq {text : List Char} (read : Tree.ofText text = (v.tree, [])) :
    r.ofText text = r v.tree := by
  rw [ofText, read]
  dsimp only
  cases r v.tree <;> rfl

theorem readsBack_iff (x : Binary64) : ReadsBack x ↔ double (Value.real x).tree = .ok x := by
  have read := Value.ofText_line (.real x)
  have text : (Value.real x).line.toList = x.render.toList := by simp [Value.line, Value.compact,
    Value.atom]
  rw [text] at read
  rw [ReadsBack, ofText_eq read]

/-- It is enough that the numeral of a double means this double. -/
theorem readsBack_of_number {x : Binary64}
    (means : (Spelling.ofReal x).numeral.number? = some (.real x)) : ReadsBack x := by
  rw [readsBack_iff, Value.tree, Numeral.meaning, means]
  rfl

theorem restores_double {x : Binary64} (back : ReadsBack x) : double.Restores (.real x) x := by
  intro w same
  rw [Value.eq_real_of_sorted same]
  exact (readsBack_iff x).1 back

theorem restores_int32 (n : Int32) : int32.Restores (.int n.toInt) n := by
  intro w same
  rw [Value.eq_int_of_sorted same]
  have least := n.le_toInt
  have most := n.toInt_lt
  have fits : Spelling.Fits n.toInt := by
    unfold Spelling.Fits
    omega
  have inside : -2147483648 ≤ n.toInt ∧ n.toInt ≤ 2147483647 := by omega
  rw [Value.tree, Spelling.meaning_ofInt fits, int32, integer, if_pos inside]
  exact congrArg Except.ok (Int32.ofInt_toInt n)

theorem restores_null : (optional r).Restores .null none := by
  intro w same
  rw [Value.eq_null_of_sorted same]
  rfl

theorem restores_optional (refuses : ∀ passing, r (.atom (.ok .null) passing) ≠ .ok a)
    (h : r.Restores v a) : (optional r).Restores v (some a) := by
  intro w same
  have found := h w same
  unfold optional
  split
  · rename_i null
    rw [null] at found
    exact absurd found (refuses _)
  · rw [found]
    rfl

theorem meaning_ok (a : α) : meaning (.ok a : Except Flaw α) = .ok a := rfl

theorem items_texts (lines : List String) :
    items string (Value.itemTrees (lines.map .text)) = .ok lines := by
  induction lines with
  | nil => rfl
  | cons line lines ih =>
    rw [List.map_cons, Value.itemTrees, items, ih]
    rfl

theorem restores_texts (lines : List String) :
    (list string).Restores (.list (lines.map .text)) lines := by
  intro w same
  rw [Value.sorted, Value.sorted_texts] at same
  cases w with
  | list values =>
    rw [Value.texts_of_sorted (Value.list.inj same)]
    exact items_texts lines
  | _ => simp [Value.sorted] at same

/-- One of several named things is found by its name. -/
theorem restores_variant {variants : List (String × α)} {name : String}
    (known : variants.lookup name = some a) : (variant variants).Restores (.text name) a := by
  intro w same
  rw [Value.eq_text_of_sorted same]
  simp only [Value.tree, variant, meaning_ok, variant.choose, bind, Except.bind, known]

/-! ## Records -/

/-- The field accepts the value in every order. -/
def Field.Accepts (f : Field) (v : Value) : Prop :=
  ∀ w : Value, w.sorted = v.sorted → f.check w.tree = .ok ()

theorem Restores.accepts (h : r.Restores v a) (name : String) (mayEnd : Bool) :
    (field name r mayEnd).Accepts v := by
  intro w same
  simp only [field, h w same]
  rfl

/-- What was found under a name is the field of this name, in some order, or nothing. -/
def Finds (found : Fields) (fields : List (String × Value)) (name : String) : Prop :=
  ∃ w? : Option Value, w?.map Value.sorted = (fields.lookup name).map Value.sorted ∧
    found.lookup name = w?.map Value.tree

section
variable {found : Fields} {fields : List (String × Value)} {name : String} {mayEnd : Bool}

/-- Fields have `a` under a name, written for `r`. -/
def Has (fields : List (String × Value)) (name : String) (r : Reader α) (a : α) : Prop :=
  ∃ v, fields.lookup name = some v ∧ r.Restores v a

/-- Fields have `a` under a name, or nothing where there is no `a`. -/
def MayHave (fields : List (String × Value)) (name : String) (r : Reader α) (a : Option α) : Prop :=
  Has fields name (optional r) a ∨ fields.lookup name = none ∧ a = none

/-- A record may hand the field what it has under its name. -/
def Suits (fields : List (String × Value)) (f : Field) : Prop :=
  ∀ v, fields.lookup f.name = some v → f.Accepts v

theorem Has.suits (h : Has fields name r a) : Suits fields (field name r mayEnd) := by
  intro u there
  obtain ⟨v, found, restores⟩ := h
  obtain rfl : v = u := Option.some.inj (found.symm.trans there)
  exact restores.accepts name mayEnd

theorem MayHave.suits {a : Option α} (h : MayHave fields name r a) :
    Suits fields (field name (optional r) mayEnd) := by
  obtain has | ⟨missing, -⟩ := h
  · exact has.suits
  · intro u (there : fields.lookup name = some u)
    rw [missing] at there
    contradiction

theorem Has.lookup (h : Has fields name r a) (finds : Finds found fields name) :
    ∃ t, found.lookup name = some t ∧ r t = .ok a := by
  obtain ⟨v, there, restores⟩ := h
  obtain ⟨w?, same, found⟩ := finds
  obtain ⟨w, rfl, order⟩ := Value.exists_of_map_sorted same there
  exact ⟨w.tree, found, restores w order⟩

theorem Has.required (h : Has fields name r a) (finds : Finds found fields name) :
    required name r found = .ok a := by
  obtain ⟨t, there, read⟩ := h.lookup finds
  rw [Reader.required, there]
  exact read

theorem Has.absent {default : α} (h : Has fields name r a) (finds : Finds found fields name) :
    absent default name r found = .ok a := by
  obtain ⟨t, there, read⟩ := h.lookup finds
  rw [Reader.absent, there]
  exact read

theorem MayHave.absent {a : Option α} (h : MayHave fields name r a)
    (finds : Finds found fields name) : absent none name (optional r) found = .ok a := by
  obtain has | ⟨missing, rfl⟩ := h
  · exact has.absent finds
  · obtain ⟨w?, same, found⟩ := finds
    rw [missing, Option.map_none, Option.map_eq_none_iff] at same
    rw [Reader.absent, found, same]
    rfl

end

end

section
variable {known : List Field} {fields : List (String × Value)}

/-- The members of a record are gone through to the end, and the known ones are kept. -/
theorem namedFields_memberTrees (seen : Fields) (distinct : (fields.map Prod.fst).Nodup)
    (fresh : ∀ n ∈ fields.map Prod.fst, seen.lookup n = none)
    (fits : ∀ f ∈ known, ∀ v, fields.lookup f.name = some v → f.check v.tree = .ok ()) :
    ∃ found, namedFields false known seen (Value.memberTrees fields) = .ok found ∧
      ∀ f ∈ known, found.lookup f.name =
        (seen.lookup f.name).or ((fields.lookup f.name).map Value.tree) := by
  -- A known member goes into `seen`, where the next one must still be new.
  induction fields generalizing seen with
  | nil => exact ⟨seen, rfl, by simp⟩
  | cons field fields ih =>
    obtain ⟨name, v⟩ := field
    obtain ⟨apart, distinct⟩ := List.nodup_cons.1 distinct
    obtain ⟨new, fresh⟩ := List.forall_mem_cons.1 fresh
    have later : ∀ f ∈ known, ∀ u, fields.lookup f.name = some u → f.check u.tree = .ok () := by
      intro f member u there
      have other : f.name ≠ name := by
        rintro rfl
        exact apart (Value.name_mem_of_lookup there)
      apply fits f member u
      rw [Value.lookup_cons_if, if_neg other, there]
    rw [Value.memberTrees, namedFields]
    simp only [meaning_ok, bind, Except.bind]
    cases kind : known.find? (·.name == name) with
    | none =>
      obtain ⟨found, read, finds⟩ := ih _ distinct fresh later
      refine ⟨found, ?_, ?_⟩
      · simpa [Value.passing_tree] using read
      · intro f member
        have unknown : f.name ≠ name := by simpa using List.find?_eq_none.1 kind f member
        rw [finds f member, Value.lookup_cons_if, if_neg unknown]
    | some f =>
      have named : f.name = name := by simpa using List.find?_some kind
      have good : f.check v.tree = .ok () := by
        apply fits f (List.mem_of_find?_eq_some kind)
        rw [Value.lookup_cons_if, if_pos named]
      have fresh' : ∀ n ∈ fields.map Prod.fst, ((name, v.tree) :: seen).lookup n = none := by
        intro n there
        have other : n ≠ name := by
          rintro rfl
          exact apart there
        rw [Value.lookup_cons_if, if_neg other, fresh n there]
      obtain ⟨found, read, finds⟩ := ih _ distinct fresh' later
      refine ⟨found, ?_, ?_⟩
      · simpa [new, good, pure, Except.pure] using read
      · intro g member
        rw [finds g member, Value.lookup_cons_if, Value.lookup_cons_if]
        by_cases same : g.name = name
        · simp [same, new]
        · simp [same]

/-- A record is read by the names of its fields, in whatever order they stand. -/
theorem fields_of_sorted {w : Value} (title : String) (distinct : (fields.map Prod.fst).Nodup)
    (suits : ∀ f ∈ known, Suits fields f)
    (same : w.sorted = (Value.record fields).sorted) :
    ∃ found, Reader.fields title false known w.tree = .ok found ∧
      ∀ f ∈ known, Finds found fields f.name := by
  obtain ⟨others, rfl, names, values⟩ := Value.record_of_sorted same
  have fits : ∀ f ∈ known, ∀ u, others.lookup f.name = some u → f.check u.tree = .ok () := by
    intro f member u there
    obtain ⟨v, value, order⟩ := Value.exists_of_map_sorted (values f.name).symm there
    exact suits f member v value u order.symm
  obtain ⟨found, read, finds⟩ :=
    namedFields_memberTrees [] (names.nodup_iff.2 distinct) (by simp) fits
  refine ⟨found, read, ?_⟩
  intro f member
  exact ⟨others.lookup f.name, values f.name, by simpa using finds f member⟩

end

/-! ## Texts -/

/-- The reader gets `a` from every text of the value: on a line or on a page, with the fields of its
records in any order. -/
def Recovers {α : Type} (r : Reader α) (v : Value) (a : α) : Prop :=
  ∀ w : Value, w.sorted = v.sorted →
    r.ofText w.line.toList = .ok a ∧ r.ofText w.page.toList = .ok a

theorem Restores.recovers {α : Type} {r : Reader α} {v : Value} {a : α} (h : r.Restores v a) :
    r.Recovers v a := by
  intro w same
  rw [ofText_eq w.ofText_line, ofText_eq w.ofText_page, h w same]
  exact ⟨rfl, rfl⟩

end Reader

/-! ## What stands in a document -/

/-- The member with this name. Of several the last counts. -/
def Members.get? (name : String) : Members → Option Tree
  | .cons (.ok n) _ value tail => (tail.get? name).or (if name = n then some value else none)
  | _ => none

/-- What stands in a tree under a name, under a name in that, and so on. -/
def Tree.get? : List String → Tree → Option Tree
  | [], t => some t
  | name :: names, .record members => (members.get? name).bind (get? names)
  | _ :: _, _ => none

/-- The reader finds `a` where the names lead. -/
def Tree.Gives {α : Type} (t : Tree) (names : List String) (r : Reader α) (a : α) : Prop :=
  ∃ u, t.get? names = some u ∧ r u = .ok a

section
variable {α : Type} {r : Reader α} {a b : α} {v w : Value} {fields : List (String × Value)}
  {name : String} {names : List String}

theorem get?_memberTrees (distinct : (fields.map Prod.fst).Nodup) :
    (Value.memberTrees fields).get? name = (fields.lookup name).map Value.tree := by
  induction fields with
  | nil => rfl
  | cons field fields ih =>
    obtain ⟨n, u⟩ := field
    obtain ⟨apart, distinct⟩ := List.nodup_cons.1 distinct
    rw [Value.memberTrees, Members.get?, ih distinct, Value.lookup_cons_if]
    by_cases here : name = n
    · have missing : fields.lookup name = none := by
        cases found : fields.lookup name with
        | none => rfl
        | some u => exact absurd (here ▸ Value.name_mem_of_lookup found) apart
      simp [here ▸ missing, here]
    · simp [here]

/-- The tree of a record in some order has what the record has. -/
theorem get?_of_sorted (distinct : (fields.map Prod.fst).Nodup)
    (same : w.sorted = (Value.record fields).sorted) :
    ∃ v? : Option Value, v?.map Value.sorted = (fields.lookup name).map Value.sorted ∧
      w.tree.get? (name :: names) = v?.bind fun v => v.tree.get? names := by
  obtain ⟨others, rfl, perm, values⟩ := Value.record_of_sorted same
  refine ⟨others.lookup name, values name, ?_⟩
  rw [Value.tree, Tree.get?, get?_memberTrees (perm.nodup_iff.2 distinct)]
  cases others.lookup name <;> rfl

theorem gives_of_sorted (distinct : (fields.map Prod.fst).Nodup)
    (same : w.sorted = (Value.record fields).sorted) (there : fields.lookup name = some v)
    (inside : ∀ w : Value, w.sorted = v.sorted → w.tree.Gives names r a) :
    w.tree.Gives (name :: names) r a := by
  obtain ⟨v?, value, found⟩ := get?_of_sorted distinct same
  obtain ⟨u, rfl, order⟩ := Value.exists_of_map_sorted value there
  obtain ⟨t, reached, read⟩ := inside u order
  exact ⟨t, found.trans reached, read⟩

theorem Reader.Has.gives (h : Reader.Has fields name r a) (distinct : (fields.map Prod.fst).Nodup)
    (same : w.sorted = (Value.record fields).sorted) : w.tree.Gives [name] r a := by
  obtain ⟨v, there, restores⟩ := h
  apply gives_of_sorted distinct same there
  intro u value
  exact ⟨u.tree, rfl, restores u value⟩

/-- A reader finds one thing in one place. -/
theorem Tree.Gives.iff {t : Tree} (h : t.Gives names r a) : t.Gives names r b ↔ a = b := by
  constructor
  · rintro ⟨u, found, read⟩
    obtain ⟨u', found', read'⟩ := h
    obtain rfl : u = u' := Option.some.inj (found.symm.trans found')
    exact Except.ok.inj (read'.symm.trans read)
  · rintro rfl
    exact h

end

end Tandem.Document
