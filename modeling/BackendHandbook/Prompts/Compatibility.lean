import BackendHandbook.Foundation.Fallible
import BackendHandbook.Prompts.Gate
import Mathlib.Data.Finset.Sort

/-! Declared backward compatibility of prompt revisions, and what it promises of the variables that
callers send. -/

namespace BackendHandbook.Prompts

open Fallible List

inductive Incompatibility
  | variableRemoved (name : String)
  | newRequired (name : String)
  | typeChanged (name : String) (old new : VariableType)
  | enumNarrowed (name : String)
  | guaranteeDropped (token : String)
  | contractRemoved (contract : String)

section Model

/-- The names of the specs, each at its first place, as the keys of a dictionary are. -/
def namesOf (specs : List VariableSpec) : List String := (specs.map (·.name)).eraseDups

/-- The spec that a dictionary by name holds: the last one. -/
def specNamed (specs : List VariableSpec) (name : String) : Option VariableSpec :=
  specs.reverse.find? (·.name = name)

def changesOf (name : String) (oldSpec newSpec : VariableSpec) : List Incompatibility :=
  (if oldSpec.type ≠ newSpec.type then [.typeChanged name oldSpec.type newSpec.type] else []) ++
    if oldSpec.type = .enum ∧ newSpec.type = .enum ∧ ∃ before ∈ oldSpec.allowed, before ≠ ∅ ∧
      ∃ after ∈ newSpec.allowed, after ≠ ∅ ∧ ¬ before ⊆ after then [.enumNarrowed name] else []

def backwardIncompatibilities (old new : PromptContractRevision) : List Incompatibility :=
  let oldNames := namesOf old.variableSpecs
  let newNames := namesOf new.variableSpecs
  ((oldNames.filter (· ∉ newNames)).map .variableRemoved) ++
    ((newNames.filter fun name => name ∉ oldNames ∧
      ∃ spec ∈ specNamed new.variableSpecs name, spec.required = true ∧
        spec.default = .scalar .none).map .newRequired) ++
    (oldNames.flatMap fun name =>
      match specNamed old.variableSpecs name, specNamed new.variableSpecs name with
      | some oldSpec, some newSpec => changesOf name oldSpec newSpec
      | _, _ => []) ++
    (((old.semanticGuarantees \ new.semanticGuarantees).sort (· ≤ ·)).map .guaranteeDropped) ++
    ((old.compatibleApplicationContracts \ new.compatibleApplicationContracts).sort
      (· ≤ ·)).map .contractRemoved

def isBackwardCompatible (old new : PromptContractRevision) : Bool :=
  (backwardIncompatibilities old new).isEmpty

end Model

section Statement

def Accepts (revision : PromptContractRevision) (variableMap : Variables) : Prop :=
  ∃ resolved, validateAndFillVariables revision variableMap = .ok resolved

def Passes (spec : VariableSpec) (value : VariableValue) : Prop :=
  ∃ scalar, checkType spec value = .ok scalar

/-- The variable may be left out: it is optional, and its default passes its own check. -/
def Omittable (spec : VariableSpec) : Prop := spec.required = false ∧ Passes spec spec.default

/-- The spec takes what all specs of its name took before: an omission, `None`, and, where a name is
declared more than once, any other value. -/
structure Carries (old new : List VariableSpec) (spec : VariableSpec) : Prop where
  omitted : (∀ known ∈ old, known.name = spec.name → Omittable known) → Omittable spec
  null : spec.name ∈ old.map (·.name) →
    (∀ known ∈ old, known.name = spec.name → known.required = false) → spec.required = false
  repeated : ¬ ((old.map (·.name)).Nodup ∧ (new.map (·.name)).Nodup) →
    spec.name ∈ old.map (·.name) → ∀ value, value ≠ .scalar .none →
      (∀ known ∈ old, known.name = spec.name → Passes known value) → Passes spec value

end Statement

variable {specs : List VariableSpec} {value : VariableValue} {name : String}

section Acceptance

/-- What a spec takes of a map: a value, or an omission. -/
def Takes (spec : VariableSpec) : Option VariableValue → Prop
  | some value => Passes spec value
  | none => Omittable spec

variable {spec : VariableSpec} {variableMap : Variables}

theorem fill_ok_iff :
    (∃ scalar, fill variableMap spec = .ok scalar) ↔ Takes spec (variableMap.lookup spec.name) := by
  unfold fill
  cases variableMap.lookup spec.name with
  | some => exact Iff.rfl
  | none =>
    cases required : spec.required with
    | true => simp [Takes, Omittable, required]
    | false => simp [Takes, Omittable, Passes, required]

theorem resolve_ok_iff {resolved : Dict String Scalar} :
    (∃ filled, resolve variableMap specs resolved = .ok filled) ↔
      ∀ spec ∈ specs, Takes spec (variableMap.lookup spec.name) := by
  induction specs generalizing resolved with
  | nil => exact iff_of_true ⟨resolved, rfl⟩ nofun
  | cons spec _ ih =>
    rw [forall_mem_cons, ← fill_ok_iff, resolve]
    cases fill variableMap spec with
    | error => simp
    | ok => simp [ih]

variable {revision : PromptContractRevision}

theorem accepts_iff : Accepts revision variableMap ↔
      (∀ name ∈ variableMap.keys, name ∈ revision.variableSpecs.map (·.name)) ∧
        ∀ spec ∈ revision.variableSpecs, Takes spec (variableMap.lookup spec.name) := by
  unfold Accepts validateAndFillVariables
  cases unknown : variableMap.keys.find? fun name => name ∉ revision.variableSpecs.map (·.name) with
  | some name =>
    have listed := mem_of_find?_eq_some unknown
    have undeclared := find?_some unknown
    exact iff_of_false nofun fun accepted => of_decide_eq_true undeclared (accepted.1 name listed)
  | none =>
    have declared := find?_eq_none.mp unknown
    simp only [decide_not, Bool.not_eq_true', decide_eq_false_iff_not, not_not] at declared
    rw [and_iff_right declared]
    exact resolve_ok_iff

/-- The map with what is given for one name. -/
def giving (variableMap : Variables) (name : String) : Option VariableValue → Variables
  | some value => variableMap.insert name value
  | none => variableMap.erase name

variable {given : Option VariableValue}

theorem lookup_giving {other : String} : (giving variableMap name given).lookup other =
      if other = name then given else variableMap.lookup other := by
  cases given with
  | some => exact Dict.lookup_insert_eq _ _ _ _
  | none =>
    by_cases same : other = name
    · rw [if_pos same, same]
      exact AList.lookup_erase _ _
    · rw [if_neg same]
      exact AList.lookup_erase_ne same

theorem accepts_giving (accepted : Accepts revision variableMap)
    (declared : name ∈ revision.variableSpecs.map (·.name) ∨ given = none)
    (taken : ∀ spec ∈ revision.variableSpecs, spec.name = name → Takes spec given) :
    Accepts revision (giving variableMap name given) := by
  rw [accepts_iff] at accepted ⊢
  constructor
  · intro other listed
    rw [← AList.mem_keys, ← AList.lookup_isSome, lookup_giving] at listed
    split at listed
    · next same =>
      rcases declared with declared | omitted
      · exact same ▸ declared
      · rw [omitted] at listed
        cases listed
    · exact accepted.1 other (AList.mem_keys.mp (AList.lookup_isSome.mp listed))
  · intro spec listed
    rw [lookup_giving]
    split
    · next same => exact taken spec listed same
    · exact accepted.2 spec listed

theorem passes_none : Passes spec (.scalar .none) ↔ spec.required = false := by
  unfold Passes checkType
  cases required : spec.required with
  | false => simp
  | true => cases spec.type <;> simp

/-- Another value passes by the type of the spec alone. -/
theorem passes_iff (given : value ≠ .scalar .none) : Passes spec value ↔ match spec.type with
      | .str => ∃ text, value = .scalar (.str text)
      | .int => ∃ number, value = .scalar (.int number)
      | .bool => ∃ truth, value = .scalar (.bool truth)
      | .enum => ∃ text, value = .scalar (.str text) ∧ ∃ values ∈ spec.allowed, text ∈ values := by
  unfold Passes checkType
  rw [if_neg fun none => given none.1]
  cases spec.type <;> rcases value with (_ | _ | _ | _) | _ <;> simp
  next text => split <;> simp_all

end Acceptance

section Compatible

variable {old new : PromptContractRevision}

variable {spec : VariableSpec}

theorem specNamed_of_mem (unique : (specs.map (·.name)).Nodup) (listed : spec ∈ specs) :
    specNamed specs spec.name = some spec := by
  unfold specNamed
  cases found : specs.reverse.find? (·.name = spec.name) with
  | none =>
    have absent := find?_eq_none.mp found spec (mem_reverse.mpr listed)
    exact absurd (decide_eq_true rfl) absent
  | some other =>
    have same : other.name = spec.name := by simpa using find?_some found
    have inside : other ∈ specs := mem_reverse.mp (mem_of_find?_eq_some found)
    rw [inj_on_of_nodup_map unique inside listed same]

theorem kept_of_compatible (compatible : isBackwardCompatible old new = true)
    (declared : name ∈ old.variableSpecs.map (·.name)) : name ∈ new.variableSpecs.map (·.name) := by
  simp only [isBackwardCompatible, backwardIncompatibilities, List.isEmpty_iff,
    append_eq_nil_iff, map_eq_nil_iff, filter_eq_nil_iff, namesOf,
    mem_eraseDups] at compatible
  simpa using compatible.1.1.1.1 name declared

theorem unchanged_of_compatible (compatible : isBackwardCompatible old new = true)
    (unique : (old.variableSpecs.map (·.name)).Nodup ∧ (new.variableSpecs.map (·.name)).Nodup)
    {known : VariableSpec} (before : known ∈ old.variableSpecs)
    (after : spec ∈ new.variableSpecs) (same : known.name = spec.name) :
    changesOf known.name known spec = [] := by
  simp only [isBackwardCompatible, backwardIncompatibilities, List.isEmpty_iff,
    append_eq_nil_iff, flatMap_eq_nil_iff, namesOf, mem_eraseDups] at compatible
  have changes := compatible.1.1.2 known.name (mem_map_of_mem before)
  rw [specNamed_of_mem unique.1 before, same, specNamed_of_mem unique.2 after] at changes
  rw [same]
  exact changes

theorem passes_of_unchanged {known : VariableSpec}
    (unchanged : changesOf known.name known spec = []) (given : value ≠ .scalar .none)
    (passes : Passes known value) : Passes spec value := by
  simp only [changesOf, append_eq_nil_iff, ite_eq_right_iff, cons_ne_nil, imp_false,
    not_not] at unchanged
  obtain ⟨types, enums⟩ := unchanged
  rw [passes_iff given] at passes ⊢
  rw [← types]
  cases type : known.type with
  | str | int | bool => simpa [type] using passes
  | enum =>
    simp only [type] at passes ⊢
    obtain ⟨text, same, values, allowed, member⟩ := passes
    obtain ⟨others, lists, inhabited⟩ := spec.enumerated (types ▸ type)
    refine ⟨text, same, others, lists, ?_⟩
    by_contra missing
    exact enums ⟨type, types ▸ type, values, allowed, Finset.ne_empty_of_mem member, others, lists,
      inhabited, fun inside => missing (inside member)⟩

/-- A declared compatibility is real exactly where each variable of the new revision, on its own,
takes an omission and `None` wherever the old revision took them. -/
theorem compatibility_real_iff (old new : PromptContractRevision) :
    (isBackwardCompatible old new = true →
        ∀ variableMap, Accepts old variableMap → Accepts new variableMap) ↔
      (isBackwardCompatible old new = true → (∃ variableMap, Accepts old variableMap) →
        ∀ spec ∈ new.variableSpecs, Carries old.variableSpecs new.variableSpecs spec) := by
  constructor
  · rintro sound compatible ⟨variableMap, accepted⟩ spec listed
    have takes : ∀ given, spec.name ∈ old.variableSpecs.map (·.name) ∨ given = none →
        (∀ known ∈ old.variableSpecs, known.name = spec.name → Takes known given) →
          Takes spec given := by
      intro given declared taken
      have carried := sound compatible _ (accepts_giving accepted declared taken)
      have here := (accepts_iff.mp carried).2 spec listed
      rw [lookup_giving, if_pos rfl] at here
      exact here
    constructor
    · exact takes none (.inr rfl)
    · intro declared optional
      exact passes_none.mp (takes (some _) (.inl declared)
        fun known inside same => passes_none.mpr (optional known inside same))
    · intro _ declared value _ passed
      exact takes (some value) (.inl declared) passed
  · intro carries compatible variableMap accepted
    have carried := carries compatible ⟨variableMap, accepted⟩
    obtain ⟨declared, takes⟩ := accepts_iff.mp accepted
    refine accepts_iff.mpr ⟨fun name listed => kept_of_compatible compatible (declared name listed),
      fun spec listed => ?_⟩
    have known : ∀ known ∈ old.variableSpecs, known.name = spec.name →
        Takes known (variableMap.lookup spec.name) :=
      fun known inside same => same ▸ takes known inside
    cases found : variableMap.lookup spec.name with
    | none =>
      rw [found] at known
      exact (carried spec listed).omitted known
    | some value =>
      rw [found] at known
      have named : spec.name ∈ old.variableSpecs.map (·.name) :=
        declared _ (AList.mem_keys.mp (AList.lookup_isSome.mp (found ▸ rfl)))
      by_cases none : value = .scalar .none
      · subst none
        exact passes_none.mpr ((carried spec listed).null named
          fun other inside same => passes_none.mp (known other inside same))
      by_cases unique : (old.variableSpecs.map (·.name)).Nodup ∧
          (new.variableSpecs.map (·.name)).Nodup
      · obtain ⟨other, inside, same⟩ := mem_map.mp named
        exact passes_of_unchanged (unchanged_of_compatible compatible unique inside listed same)
          none (known other inside same)
      · exact (carried spec listed).repeated unique named value none known

end Compatible

namespace Sample

def asking (required : Bool) : PromptContractRevision :=
  { promptContractId := "report", revision := toString required, messages := []
    variableSpecs :=
      [{ name := "tone", required, no_default := fun _ => rfl, enumerated := by simp }]
    compatibleApplicationContracts := ∅, semanticGuarantees := ∅, rendererVersion := "v1" }

/-- An optional variable becomes required, which no check of compatibility looks at. -/
theorem required_undeclared : ¬ ∀ old new, isBackwardCompatible old new = true →
    ∀ variableMap, Accepts old variableMap → Accepts new variableMap := by
  intro sound
  have compatible : isBackwardCompatible (asking false) (asking true) = true := by
    simp [isBackwardCompatible, backwardIncompatibilities, asking, namesOf, specNamed, changesOf]
  obtain ⟨_, done⟩ := sound _ _ compatible ∅ ⟨_, rfl⟩
  cases done

end Sample

end BackendHandbook.Prompts
