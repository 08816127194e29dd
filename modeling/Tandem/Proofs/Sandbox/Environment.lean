import Tandem.Proofs.Text.Utf8
import Tandem.Sandbox.Environment

/-!
What a guest can learn from its environment.

* `get?_ofHost`: an allowed variable has the last value that is text.
* `sanitized_reveals`: nothing else of the host reaches the environment.
-/

namespace Tandem.Sandbox

open Tandem.Text

/-- The variables of a host. Names and values are bytes of any kind. -/
abbrev HostVariables := List (Utf8.Bytes × Utf8.Bytes)

/-- Whether an entry gives an allowed variable a value that is text. -/
def admitted (entry : Utf8.Bytes × Utf8.Bytes) : Bool :=
  allowedVariables.any (fun name => entry.1 == Utf8.encode name.toList) &&
    (Utf8.decode? entry.2).isSome

/-- The text that an entry gives to a variable. -/
def textFor? (name : String) (entry : Utf8.Bytes × Utf8.Bytes) : Option String :=
  if entry.1 = Utf8.encode name.toList then (Utf8.decode? entry.2).map String.ofList else none

/-- The last text that a host gives to a variable. -/
def lastText? (host : HostVariables) (name : String) : Option String :=
  (host.filterMap (textFor? name)).getLast?

namespace Environment

/-- Every variable stands once, in order of the names. -/
def Sorted (env : Environment) : Prop := (env.map Prod.fst).Pairwise (· < ·)

section
variable {env : Environment} {name other value : String}

theorem get?_set : (env.set name value).get? other =
    if other = name then some value else env.get? other := by
  induction env with
  | nil => grind [set, get?]
  | cons entry env ih =>
    obtain ⟨first, old⟩ := entry
    rw [set]
    split
    · grind [get?]
    · split
      · grind [get?]
      · simp only [get?, List.lookup_cons] at ih ⊢
        rw [ih]
        grind

theorem mem_names_set : other ∈ (env.set name value).map Prod.fst ↔
    other = name ∨ other ∈ env.map Prod.fst := by
  induction env with
  | nil => simp [set]
  | cons entry env ih =>
    obtain ⟨first, old⟩ := entry
    rw [set]
    split
    · simp
    · split
      · simp_all
      · simp only [List.map_cons, List.mem_cons, ih]
        grind

theorem sorted_set (h : env.Sorted) : (env.set name value).Sorted := by
  induction env with
  | nil => simp [Sorted, set]
  | cons entry env ih =>
    obtain ⟨first, old⟩ := entry
    rw [Sorted, List.map_cons, List.pairwise_cons] at h
    obtain ⟨least, sorted⟩ := h
    rw [set]
    split
    · rename_i before
      have rest := List.pairwise_cons.2 ⟨least, sorted⟩
      refine List.pairwise_cons.2 ⟨fun other mem => ?_, rest⟩
      obtain rfl | mem := List.mem_cons.1 mem
      · exact before
      · exact String.lt_trans before (least other mem)
    · split
      · rename_i same
        exact List.pairwise_cons.2 ⟨same ▸ least, sorted⟩
      · rename_i after apart
        have later : first < name := Std.lt_of_le_of_ne (String.not_lt.1 after) (Ne.symm apart)
        refine List.pairwise_cons.2 ⟨fun other mem => ?_, ih sorted⟩
        obtain rfl | mem := mem_names_set.1 mem
        · exact later
        · exact least other mem

/-- The pairs are set one after the other, so the last one with a name counts. -/
theorem get?_foldl_set (pairs : List (String × String)) :
    (pairs.foldl (fun env (name, value) => env.set name value) env).get? other =
      ((pairs.filterMap fun pair => if pair.1 = other then some pair.2 else none).getLast?).or
        (env.get? other) := by
  induction pairs generalizing env with
  | nil => simp
  | cons pair pairs ih =>
    simp only [List.foldl_cons]
    rw [ih, get?_set, List.filterMap_cons]
    by_cases same : pair.1 = other
    · simp only [same, if_true, List.getLast?_cons]
      generalize (pairs.filterMap _).getLast? = later
      cases later <;> rfl
    · simp only [same, Ne.symm same, if_false]

theorem sorted_foldl_set {pairs : List (String × String)} (h : env.Sorted) :
    (pairs.foldl (fun env (name, value) => env.set name value) env).Sorted := by
  induction pairs generalizing env with
  | nil => exact h
  | cons pair pairs ih => exact ih (sorted_set h)

theorem names_foldl_set {pairs : List (String × String)}
    (h : other ∈ (pairs.foldl (fun env (name, value) => env.set name value) env).map Prod.fst) :
    other ∈ pairs.map Prod.fst ∨ other ∈ env.map Prod.fst := by
  induction pairs generalizing env with
  | nil => exact .inr h
  | cons pair pairs ih =>
    obtain later | now := ih h
    · exact .inl (List.mem_cons_of_mem _ later)
    · obtain rfl | before := mem_names_set.1 now
      · exact .inl (List.mem_cons_self ..)
      · exact .inr before

end

/-! ## The host's part -/

section
variable {host : HostVariables} {entry : Utf8.Bytes × Utf8.Bytes} {name value : String}

theorem allowed?_eq_some_iff : allowed? entry = some (name, value) ↔
    name ∈ allowedVariables ∧ textFor? name entry = some value := by
  have named : entry.1 = Utf8.encode name.toList ↔
      (Utf8.decode? entry.1).map String.ofList = some name := by
    rw [← Utf8.decode?_eq_some_iff, Option.map_eq_some_iff]
    constructor
    · exact fun h => ⟨_, h, String.ofList_toList⟩
    · rintro ⟨text, h, rfl⟩
      rw [h, String.toList_ofList]
  simp only [textFor?, named, allowed?]
  cases Utf8.decode? entry.1 <;> cases Utf8.decode? entry.2 <;> grind

theorem admitted_eq_isSome : admitted entry = (allowed? entry).isSome := by
  rw [Bool.eq_iff_iff, Option.isSome_iff_exists, Prod.exists]
  simp only [admitted, allowed?_eq_some_iff, textFor?, Bool.and_eq_true, List.any_eq_true,
    beq_iff_eq, Option.isSome_iff_exists, Option.ite_none_right_eq_some, Option.map_eq_some_iff]
  constructor
  · rintro ⟨⟨name, listed, named⟩, text, read⟩
    exact ⟨name, _, listed, named, text, read, rfl⟩
  · rintro ⟨name, _, listed, named, text, read, -⟩
    exact ⟨⟨name, listed, named⟩, text, read⟩

/-- Only admitted entries count. -/
theorem ofHost_filter (host : HostVariables) : ofHost (host.filter admitted) = ofHost host := by
  have each : (fun entry => if admitted entry then allowed? entry else none) = allowed? := by
    funext entry
    rw [admitted_eq_isSome]
    cases allowed? entry <;> rfl
  rw [ofHost, List.filterMap_filter, each, ofHost]

theorem get?_ofHost (h : name ∈ allowedVariables) :
    (ofHost host).get? name = lastText? host name := by
  have each : (fun entry => (allowed? entry).bind fun pair =>
      if pair.1 = name then some pair.2 else none) = textFor? name := by
    funext entry
    refine Option.ext fun value => ?_
    rw [Option.bind_eq_some_iff, Prod.exists]
    simp only [allowed?_eq_some_iff, Option.ite_none_right_eq_some, Option.some.injEq]
    constructor
    · rintro ⟨name, value, ⟨-, found⟩, rfl, rfl⟩
      exact found
    · exact fun found => ⟨name, value, ⟨h, found⟩, rfl, rfl⟩
  rw [ofHost, get?_foldl_set, List.filterMap_filterMap, each]
  exact Option.or_none

theorem sorted_ofHost (host : HostVariables) : (ofHost host).Sorted :=
  sorted_foldl_set .nil

theorem mem_allowed_of_mem_ofHost (h : name ∈ (ofHost host).map Prod.fst) :
    name ∈ allowedVariables := by
  obtain listed | none := names_foldl_set h
  · obtain ⟨⟨name, value⟩, pair, rfl⟩ := List.mem_map.1 listed
    obtain ⟨entry, -, found⟩ := List.mem_filterMap.1 pair
    exact (allowed?_eq_some_iff.1 found).1
  · cases none

/-! ## The whole -/

theorem sanitized_none (host : HostVariables) : sanitized host none =
    if ((ofHost host).get? "PATH").isSome then ofHost host
    else (ofHost host).set "PATH" defaultSearchPath := rfl

/-- The variable for the directory goes over all others, if its name is one. -/
theorem sanitized_some (host : HostVariables) (name dir : String) :
    sanitized host (some (name, dir)) =
      if isVariableName name then (sanitized host none).set name dir else sanitized host none := rfl

theorem sorted_sanitized (host : HostVariables) (module : Option (String × String)) :
    (sanitized host module).Sorted := by
  have plain : (sanitized host none).Sorted := by
    rw [sanitized_none]
    split
    · exact sorted_ofHost host
    · exact sorted_set (sorted_ofHost host)
  match module with
  | none => exact plain
  | some (name, dir) =>
    rw [sanitized_some]
    split
    · exact sorted_set plain
    · exact plain

theorem mem_names_sanitized {module : Option (String × String)}
    (h : name ∈ (sanitized host module).map Prod.fst) :
    name ∈ allowedVariables ∨ ∃ dir, module = some (name, dir) ∧ isVariableName name = true := by
  have plain (h : name ∈ (sanitized host none).map Prod.fst) : name ∈ allowedVariables := by
    rw [sanitized_none] at h
    split at h
    · exact mem_allowed_of_mem_ofHost h
    · obtain rfl | mem := mem_names_set.1 h
      · decide
      · exact mem_allowed_of_mem_ofHost mem
  match module with
  | none => exact .inl (plain h)
  | some (other, dir) =>
    rw [sanitized_some] at h
    split at h
    · rename_i valid
      obtain rfl | mem := mem_names_set.1 h
      · exact .inr ⟨dir, rfl, valid⟩
      · exact .inl (plain mem)
    · exact .inl (plain h)

theorem get?_sanitized_none (h : name ∈ allowedVariables) : (sanitized host none).get? name =
    (lastText? host name).or (if name = "PATH" then some defaultSearchPath else none) := by
  have path : "PATH" ∈ allowedVariables := by decide
  rw [sanitized_none, get?_ofHost path]
  split
  · rename_i given
    rw [get?_ofHost h]
    split
    · subst name
      obtain ⟨value, found⟩ := Option.isSome_iff_exists.1 given
      rw [found]
      rfl
    · exact Option.or_none.symm
  · rename_i missing
    rw [get?_set, get?_ofHost h]
    split
    · subst name
      rw [Option.not_isSome_iff_eq_none.1 missing]
      rfl
    · exact Option.or_none.symm

theorem path_sanitized (host : HostVariables) (module : Option (String × String)) :
    ((sanitized host module).get? "PATH").isSome = true := by
  have plain : ((sanitized host none).get? "PATH").isSome = true := by
    rw [get?_sanitized_none (by decide), if_pos rfl]
    simp
  match module with
  | none => exact plain
  | some (name, dir) =>
    rw [sanitized_some]
    split
    · rw [get?_set]
      split
      · rfl
      · exact plain
    · exact plain

/-- Hosts that agree on the admitted entries give one environment. -/
theorem sanitized_agrees {host' : HostVariables} (h : host'.filter admitted = host.filter admitted)
    (module : Option (String × String)) : sanitized host' module = sanitized host module := by
  have same : ofHost host' = ofHost host := by rw [← ofHost_filter host', h, ofHost_filter]
  simp only [sanitized, same]

end

/-- A guest learns of its host the last texts of the allowed variables, and nothing else: hosts that
agree on the admitted entries give one environment. -/
theorem sanitized_reveals (host : HostVariables) (module : Option (String × String)) :
    (∀ host', host'.filter admitted = host.filter admitted →
      sanitized host' module = sanitized host module) ∧
    (sanitized host module).Sorted ∧
    (∀ name ∈ (sanitized host module).map Prod.fst, name ∈ allowedVariables ∨
      ∃ dir, module = some (name, dir) ∧ isVariableName name = true) ∧
    ((sanitized host module).get? "PATH").isSome = true ∧
    (∀ name ∈ allowedVariables, (∀ dir, module ≠ some (name, dir)) →
      (sanitized host module).get? name =
        (lastText? host name).or (if name = "PATH" then some defaultSearchPath else none)) ∧
    ∀ name dir, module = some (name, dir) →
      (isVariableName name = true → (sanitized host module).get? name = some dir) ∧
      (isVariableName name = false → sanitized host module = sanitized host none) := by
  refine ⟨fun host' same => sanitized_agrees same module, sorted_sanitized host module,
    fun name => mem_names_sanitized, path_sanitized host module, fun name listed other => ?_,
    fun name dir here => ?_⟩
  · match module with
    | none => exact get?_sanitized_none listed
    | some (name', dir) =>
      have apart : name ≠ name' := fun same => other dir (same ▸ rfl)
      rw [sanitized_some]
      split
      · rw [get?_set, if_neg apart, get?_sanitized_none listed]
      · exact get?_sanitized_none listed
  · subst here
    rw [sanitized_some]
    constructor
    · intro valid
      rw [if_pos valid, get?_set, if_pos rfl]
    · intro invalid
      rw [invalid]
      rfl

def textEntry (name value : String) : Utf8.Bytes × Utf8.Bytes :=
  (Utf8.encode name.toList, Utf8.encode value.toList)

/-- A host with a secret, and with names and values that are no text. -/
def secretive : HostVariables :=
  [textEntry "TOKEN" "hush", textEntry "HOME" "/root", ([0xff], [0x2f]), textEntry "PATH" "/bin",
    textEntry "HOME" "/home/ada", (Utf8.encode "HOME".toList, [0xff])]

/-- A host without them that has the same admitted entries. -/
def candid : HostVariables :=
  [textEntry "HOME" "/root", textEntry "PATH" "/bin", textEntry "HOME" "/home/ada"]

theorem sanitized_reveals_secretive :
    (candid.filter admitted = secretive.filter admitted ∧
      sanitized candid (some ("PATH", "/tmp")) = sanitized secretive (some ("PATH", "/tmp"))) ∧
    (sanitized secretive (some ("PATH", "/tmp"))).get? "HOME" = some "/home/ada" ∧
    (sanitized secretive (some ("PATH", "/tmp"))).get? "PATH" = some "/tmp" ∧
    sanitized secretive (some ("A=B", "/tmp")) = sanitized secretive none := by
  obtain ⟨agree, -, -, -, last, named⟩ := sanitized_reveals secretive (some ("PATH", "/tmp"))
  have same : candid.filter admitted = secretive.filter admitted := by decide +kernel
  have home : lastText? secretive "HOME" = some "/home/ada" := by decide +kernel
  refine ⟨⟨same, agree candid same⟩, ?_, (named "PATH" "/tmp" rfl).1 (by decide +kernel), ?_⟩
  · rw [last "HOME" (by decide) (by simp), home]
    rfl
  · exact ((sanitized_reveals secretive _).2.2.2.2.2 "A=B" "/tmp" rfl).2 (by decide +kernel)

end Environment

end Tandem.Sandbox
