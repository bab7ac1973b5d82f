import BackendHandbook.Agents.StateMachine
import Mathlib.Algebra.GroupWithZero.Nat

/-! Context assembly: the required parts, then in the order of the caller the optional ones that
still fit. -/

namespace BackendHandbook.Memory

open Agents List

inductive OmissionReason
  | scopeMismatch | permissionDenied | memoryExpired | memoryRevoked | sourceUnavailable
  | sourceVersionStale | budgetOmitted

structure Omission where
  memoryId : String
  reason : OmissionReason

inductive AssemblyStatus
  | ready | contextBudgetExceeded
  deriving DecidableEq

structure ContextPart where
  (partId content : String)
  required : Bool
  sourceVersion : String

def ContextPart.omission (part : ContextPart) : Omission := ⟨part.partId, .budgetOmitted⟩

structure ContextManifest where
  status : AssemblyStatus
  selectedIds : List String
  omitted : List Omission
  (estimatedInputTokens requiredCapacity : Int)
  selectedSourceVersions : List (String × String)
  assemblyPolicyVersion : String := "context-policy-v1"
  grantsBusinessExecution : Bool := false
  estimator : String := "FAKE_UTF8_BYTES_DIVIDED_BY_4"

/-- The four numbers that `assemble_context` is called with. -/
structure ContextLimits where
  (reservedOutputTokens safetyMargin applicationLimit providerLimit : Int)

def FakeTokenEstimator.estimate (text : String) : Nat := (text.utf8ByteSize + 3) / 4

def size (items : List ContextPart) : Nat :=
  (items.map fun item => FakeTokenEstimator.estimate item.content).sum

namespace ContextLimits

variable (limits : ContextLimits)

/-- What `ContextBudget` checks when it is built; the tokens are a sum of estimates. -/
def Valid : Prop :=
  0 ≤ limits.reservedOutputTokens ∧ 0 ≤ limits.safetyMargin ∧ 0 ≤ limits.applicationLimit ∧
    0 ≤ limits.providerLimit
  deriving Decidable

def budget (tokens : Nat) : Except String ContextBudget :=
  if limits.Valid then
    .ok ⟨tokens, limits.reservedOutputTokens.toNat, limits.safetyMargin.toNat,
      limits.applicationLimit.toNat, limits.providerLimit.toNat⟩
  else .error "context budget values must be non-negative"

/-- One round of the loop over the optional parts. -/
def consider : List ContextPart × List Omission → ContextPart →
    Except String (List ContextPart × List Omission)
  | (selected, omitted), part => do
    let budget ← limits.budget (size (selected ++ [part]))
    return if budget.admitted then (selected ++ [part], omitted)
      else (selected, omitted ++ [part.omission])

end ContextLimits

def manifestOf (status : AssemblyStatus) (selected : List ContextPart) (omitted : List Omission)
    (requiredCapacity : Int) : ContextManifest :=
  { status, selectedIds := selected.map (·.partId), omitted
    estimatedInputTokens := size selected, requiredCapacity
    selectedSourceVersions := selected.map fun part => (part.partId, part.sourceVersion) }

def assembleContext (parts : List ContextPart) (limits : ContextLimits) :
    Except String ContextManifest := do
  let selected := parts.filter (·.required)
  let requiredBudget ← limits.budget (size selected)
  if ¬ requiredBudget.admitted then
    return manifestOf .contextBudgetExceeded selected [] requiredBudget.requiredCapacity
  let (selected, omitted) ← (parts.filter (! ·.required)).foldlM limits.consider (selected, [])
  return manifestOf .ready selected omitted
    (size selected + limits.reservedOutputTokens + limits.safetyMargin)

/-- The parts fit behind the reserved output and the margin, and no limit is above the one of the
provider. -/
def ContextLimits.Fits (limits : ContextLimits) (items : List ContextPart) : Prop :=
  size items + limits.reservedOutputTokens + limits.safetyMargin ≤ limits.applicationLimit ∧
    limits.applicationLimit ≤ limits.providerLimit
  deriving Decidable

/-- Which occurrences a ready manifest names: all the required ones, and no other fits as well. -/
structure Selects (limits : ContextLimits) (parts selected dropped : List ContextPart) :
    Prop where
  partition : selected ++ dropped ~ parts
  optional : ∀ part ∈ dropped, part.required = false
  fits : limits.Fits selected
  maximal : ∀ part ∈ dropped, ¬ limits.Fits (selected ++ [part])

variable {limits : ContextLimits} {parts selected : List ContextPart}

@[simp] theorem size_append (first second : List ContextPart) :
    size (first ++ second) = size first + size second := by
  simp [size]

theorem budget_eq (valid : limits.Valid) (items : List ContextPart) :
    ∃ budget, limits.budget (size items) = .ok budget ∧ (budget.admitted ↔ limits.Fits items) := by
  refine ⟨_, if_pos valid, ?_⟩
  simp only [ContextBudget.admitted, ContextBudget.requiredCapacity, ContextLimits.Fits,
    ContextLimits.Valid] at valid ⊢
  omega

/-- The loop keeps what fits; what it drops fits no later selection either. -/
theorem foldlM_consider (valid : limits.Valid) (optional : List ContextPart)
    (omitted : List Omission) (fits : limits.Fits selected) :
    ∃ kept dropped, optional.foldlM limits.consider (selected, omitted) =
        .ok (selected ++ kept, omitted ++ dropped.map (·.omission)) ∧
      kept ++ dropped ~ optional ∧ limits.Fits (selected ++ kept) ∧
      ∀ part ∈ dropped, ¬ limits.Fits (selected ++ kept ++ [part]) := by
  induction optional generalizing selected omitted with
  | nil => exact ⟨[], [], by simp [pure, Except.pure], .nil, by simpa using fits, by simp⟩
  | cons part rest ih =>
    obtain ⟨budget, built, admits⟩ := budget_eq valid (selected ++ [part])
    have round : limits.consider (selected, omitted) part = .ok (if budget.admitted then
        (selected ++ [part], omitted) else
        (selected, omitted ++ [part.omission])) := by
      rw [ContextLimits.consider, built]
      rfl
    rw [foldlM_cons, round]
    by_cases more : limits.Fits (selected ++ [part])
    · obtain ⟨kept, dropped, run, split, within, maximal⟩ := ih omitted more
      rw [append_assoc] at run within maximal
      rw [if_pos (admits.mpr more)]
      exact ⟨part :: kept, dropped, run, split.cons part, within, maximal⟩
    · obtain ⟨kept, dropped, run, split, within, maximal⟩ := ih (omitted ++ [part.omission]) fits
      rw [append_assoc] at run
      rw [if_neg fun admitted => more (admits.mp admitted)]
      refine ⟨kept, part :: dropped, run, perm_middle.trans (split.cons part), within,
        forall_mem_cons.mpr ⟨fun late => more ?_, maximal⟩⟩
      simp only [ContextLimits.Fits, size_append] at late ⊢
      omega

/-- A negative number is refused; else the manifest names a maximal selection of parts, or the
required ones when these alone do not fit. -/
structure Assembles (parts : List ContextPart) (limits : ContextLimits) : Prop where
  raises : (∃ message, assembleContext parts limits = .error message) ↔ ¬ limits.Valid
  ready : ∀ manifest, assembleContext parts limits = .ok manifest → manifest.status = .ready →
    ∃ selected dropped, Selects limits parts selected dropped ∧
      manifest.selectedIds = selected.map (·.partId) ∧
      manifest.omitted = dropped.map (·.omission) ∧
      manifest.estimatedInputTokens = size selected ∧ manifest.requiredCapacity =
        size selected + limits.reservedOutputTokens + limits.safetyMargin
  exceeded : (∃ manifest, assembleContext parts limits = .ok manifest ∧
      manifest.status = .contextBudgetExceeded) ↔
    limits.Valid ∧ ¬ limits.Fits (parts.filter (·.required))

theorem assembleContext_assembles (parts : List ContextPart) (limits : ContextLimits) :
    Assembles parts limits := by
  by_cases valid : limits.Valid
  · obtain ⟨budget, built, admits⟩ := budget_eq valid (parts.filter (·.required))
    by_cases fits : limits.Fits (parts.filter (·.required))
    · obtain ⟨kept, dropped, run, split, within, maximal⟩ :=
        foldlM_consider valid (parts.filter (! ·.required)) [] fits
      have selects : Selects limits parts (parts.filter (·.required) ++ kept) dropped := by
        refine ⟨?_, fun part member => ?_, within, maximal⟩
        · rw [append_assoc]
          exact (split.append_left _).trans (filter_append_perm _ parts)
        · have listed := split.subset (mem_append_right kept member)
          simpa using of_mem_filter listed
      have done : assembleContext parts limits = .ok (manifestOf .ready
          (parts.filter (·.required) ++ kept) (dropped.map (·.omission))
          (size (parts.filter (·.required) ++ kept) + limits.reservedOutputTokens +
            limits.safetyMargin)) := by
        simp only [assembleContext, built, admits.mpr fits, run, bind, Except.bind]
        rfl
      refine ⟨by simp [done, valid], fun manifest same _ => ?_, by simp [done, manifestOf, fits]⟩
      cases done.symm.trans same
      exact ⟨_, dropped, selects, rfl, rfl, rfl, rfl⟩
    · have beyond : ¬ budget.admitted := fun admitted => fits (admits.mp admitted)
      have done : assembleContext parts limits = .ok (manifestOf .contextBudgetExceeded
          (parts.filter (·.required)) [] budget.requiredCapacity) := by
        simp only [assembleContext, built, beyond, bind, Except.bind]
        rfl
      refine ⟨by simp [done, valid], fun manifest same ready => ?_,
        by simp [done, manifestOf, valid, fits]⟩
      cases done.symm.trans same
      cases ready
  · have refused : ∀ tokens, limits.budget tokens =
        .error "context budget values must be non-negative" := fun _ => if_neg valid
    constructor <;> simp [assembleContext, refused, valid, bind, Except.bind]

/-- Of no parts and an application limit below zero, the required ones do not fit, and the answer
is an error. -/
theorem negative_limit_raises :
    ¬ ∀ parts limits, (∃ manifest, assembleContext parts limits = .ok manifest ∧
        manifest.status = .contextBudgetExceeded) ↔ ¬ limits.Fits (parts.filter (·.required)) := by
  intro exact
  obtain ⟨manifest, done, _⟩ := (exact [] ⟨0, 0, -1, 0⟩).mpr (by decide)
  cases done

end BackendHandbook.Memory
