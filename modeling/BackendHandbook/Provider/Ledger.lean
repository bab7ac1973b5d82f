import BackendHandbook.Foundation.Shares
import BackendHandbook.Streaming.JobStore
import Mathlib.Algebra.Order.Ring.Rat

/-! The jobs of the provider control plane, with their contracts and their money. -/

namespace BackendHandbook.Provider

open Dict

open Streaming (Instant IntentKind)

inductive JobStatus
  | queued | running | deferred | succeeded | failed | cancelled | expired | pendingReconciliation
  deriving DecidableEq

def JobStatus.value : JobStatus → String
  | .queued => "queued"
  | .running => "running"
  | .deferred => "deferred"
  | .succeeded => "succeeded"
  | .failed => "failed"
  | .cancelled => "cancelled"
  | .expired => "expired"
  | .pendingReconciliation => "pending_reconciliation"

def terminalStatuses : List JobStatus := [.succeeded, .failed, .cancelled, .expired]

def terminalForIntent : IntentKind → JobStatus
  | .userCancellation => .cancelled
  | .deadlineExpiry => .expired

def intentValue : IntentKind → String
  | .userCancellation => "user_cancellation"
  | .deadlineExpiry => "deadline_expiry"

inductive CostState
  | none | reserved | reconciliationPending | settled
  deriving DecidableEq

inductive SettleOutcome
  | settled | overageReconcile

/-- What the product has authorized, as it is persisted at acceptance. -/
structure ExecutionContract where
  (provider account model region : String)
  maxTokens : Int
  outputPricePer1k : ℚ
  maxInputTokens : Int := 0
  inputPricePer1k : ℚ := 0
  deriving DecidableEq

def ExecutionContract.circuitKey (contract : ExecutionContract) : String :=
  "circuit:" ++ contract.provider ++ ":" ++ contract.account ++ ":" ++ contract.model ++ ":" ++
    contract.region

def ExecutionContract.worstCaseCost (contract : ExecutionContract) : ℚ :=
  (contract.maxInputTokens / 1000) * contract.inputPricePer1k +
    (contract.maxTokens / 1000) * contract.outputPricePer1k

/-- What is known of an external execution. -/
structure Attempt where
  providerRequestId : Option String := none
  providerDispatchStartedAt : Option Instant := none
  deriving DecidableEq

def Attempt.evidence (attempt : Attempt) : Bool :=
  attempt.providerRequestId.isSome || attempt.providerDispatchStartedAt.isSome

structure DeferRecord where
  retryReason : String
  nextAttemptAt : Instant
  deferCount : Int
  deadline : Instant
  deriving DecidableEq

structure RepairRecord where
  (wasStatus repairId : String)
  repairedAt : Instant
  reason : String
  deriving DecidableEq

structure Job where
  (jobId tenantId : String)
  contract : ExecutionContract
  status : JobStatus
  deadline : Instant
  costState : CostState := .none
  reservedCost : Option ℚ := none
  settledCost : Option ℚ := none
  costOverage : Option ℚ := none
  repairHistory : List RepairRecord := []
  attempt : Option Attempt := none
  intentKind : Option IntentKind := none
  defer : Option DeferRecord := none
  deferCount : Int := 0
  releaseVersion : String := "r1"
  deriving DecidableEq

def Job.evidence (job : Job) : Bool := job.attempt.any Attempt.evidence

/-- The stored jobs, each under its own identifier. -/
structure JobTable where
  entries : Dict String Job
  named : ∀ jobId job, entries.lookup jobId = some job → job.jobId = jobId

namespace JobTable

def empty : JobTable where
  entries := ∅
  named := by
    intro jobId job found
    rw [lookup_empty] at found
    cases found

def lookup (table : JobTable) (jobId : String) : Option Job := table.entries.lookup jobId

def write (table : JobTable) (job : Job) : JobTable where
  entries := table.entries.insert job.jobId job
  named := forall_insert rfl table.named

theorem lookup_write (table : JobTable) (job : Job) (jobId : String) :
    (table.write job).lookup jobId = if jobId = job.jobId then some job else table.lookup jobId :=
  lookup_insert_eq table.entries job.jobId jobId job

end JobTable

inductive Raised
  | keyError (key : String)

/-! The tenants' budgets: worst-case reservation, settlement and release.

Amounts are exact rationals, with no rounding and no tolerance. -/

structure TenantBudgetLedger where
  available : Dict String ℚ
  reserved : Dict String ℚ := ∅

namespace TenantBudgetLedger

variable (ledger : TenantBudgetLedger)

def adjust (tenantId : String) (amount : ℚ) : Except Raised TenantBudgetLedger :=
  match ledger.available.lookup tenantId with
  | none => .error (.keyError tenantId)
  | some balance =>
    .ok { ledger with available := ledger.available.insert tenantId (balance + amount) }

def pop (jobId : String) : TenantBudgetLedger :=
  { ledger with reserved := ledger.reserved.erase jobId }

def reserveWorstCase (job : Job) : Except Raised Bool × Job × TenantBudgetLedger :=
  if (ledger.reserved.lookup job.jobId).isSome then (.ok true, job, ledger)
  else
    let amount := job.contract.worstCaseCost
    if held ledger.available job.tenantId < amount then (.ok false, job, ledger)
    else
      match ledger.adjust job.tenantId (-amount) with
      | .error raised => (.error raised, job, ledger)
      | .ok charged =>
        (.ok true, { job with reservedCost := some amount, costState := .reserved },
          { charged with reserved := charged.reserved.insert job.jobId amount })

def hasReservation (job : Job) : Bool := (ledger.reserved.lookup job.jobId).isSome

def settleActual (job : Job) (actualCost : ℚ) :
    Except Raised SettleOutcome × Job × TenantBudgetLedger :=
  let reserved := held ledger.reserved job.jobId
  let popped := ledger.pop job.jobId
  if reserved < actualCost then
    (.ok .overageReconcile,
      { job with
        settledCost := some reserved, costOverage := some (actualCost - reserved)
        costState := .reconciliationPending }, popped)
  else
    let unused := reserved - actualCost
    let settled := { job with
      settledCost := some actualCost, costOverage := none, costState := .settled }
    if 0 < unused then
      match popped.adjust job.tenantId unused with
      | .error raised => (.error raised, job, popped)
      | .ok credited => (.ok .settled, settled, credited)
    else (.ok .settled, settled, popped)

def releaseReservation (job : Job) : Except Raised Unit × Job × TenantBudgetLedger :=
  let reserved := held ledger.reserved job.jobId
  let popped := ledger.pop job.jobId
  match popped.adjust job.tenantId reserved with
  | .error raised => (.error raised, job, popped)
  | .ok credited => (.ok (), { job with costState := .none, reservedCost := none }, credited)

def holdForReconciliation (job : Job) : Except Raised Unit × Job × TenantBudgetLedger :=
  (.ok (), { job with costState := .reconciliationPending }, ledger)

end TenantBudgetLedger

section Steps

/-- A credit (or a charge) of one balance that exists. -/
structure Credited (tenantId : String) (amount : ℚ) (before after : Dict String ℚ) : Prop where
  known : (before.lookup tenantId).isSome
  same : ∀ who, (after.lookup who).isSome = (before.lookup who).isSome
  moved : ∀ who, held after who = held before who + if tenantId = who then amount else 0

variable (ledger : TenantBudgetLedger) (job : Job)

theorem adjust_step (tenantId : String) (amount : ℚ) :
    ((ledger.available.lookup tenantId).isSome = false ∧
        ledger.adjust tenantId amount = .error (.keyError tenantId)) ∨
      ∃ credited, ledger.adjust tenantId amount = .ok { ledger with available := credited } ∧
        Credited tenantId amount ledger.available credited := by
  simp only [TenantBudgetLedger.adjust]
  cases found : ledger.available.lookup tenantId with
  | none => exact .inl ⟨rfl, rfl⟩
  | some =>
    refine .inr ⟨_, rfl, by simp [found], ?_, ?_⟩
    · intro who
      rw [lookup_insert_eq]
      by_cases same : who = tenantId
      · rw [if_pos same, same, found]
        rfl
      · rw [if_neg same]
    · intro who
      rw [held_insert]
      by_cases same : who = tenantId
      · rw [if_pos same, if_pos same.symm, same, held, found]
        rfl
      · have other : ¬ tenantId = who := fun equal => same equal.symm
        rw [if_neg same, if_neg other, add_zero]

inductive ReserveStep : Except Raised Bool × Job × TenantBudgetLedger → Prop
  | kept (answer : Except Raised Bool)
      (unreserved : answer = .ok true → (ledger.reserved.lookup job.jobId).isSome) :
      ReserveStep (answer, job, ledger)
  | reserved (charged : Dict String ℚ)
      (absent : ledger.reserved.lookup job.jobId = none)
      (covered : job.contract.worstCaseCost ≤ held ledger.available job.tenantId)
      (charge : Credited job.tenantId (-job.contract.worstCaseCost) ledger.available charged) :
      ReserveStep (.ok true,
        { job with reservedCost := some job.contract.worstCaseCost, costState := .reserved },
        ⟨charged, ledger.reserved.insert job.jobId job.contract.worstCaseCost⟩)

theorem reserveWorstCase_step : ReserveStep ledger job (ledger.reserveWorstCase job) := by
  simp only [TenantBudgetLedger.reserveWorstCase]
  by_cases present : (ledger.reserved.lookup job.jobId).isSome = true
  · rw [if_pos present]
    exact .kept _ fun _ => present
  · have absent : ledger.reserved.lookup job.jobId = none := by
      simpa using present
    rw [if_neg present]
    by_cases short : held ledger.available job.tenantId < job.contract.worstCaseCost
    · rw [if_pos short]
      exact .kept _ (by simp)
    · rw [if_neg short]
      rcases adjust_step ledger job.tenantId (-job.contract.worstCaseCost) with
        ⟨_, same⟩ | ⟨charged, same, charge⟩
      · rw [same]
        exact .kept _ (by simp)
      · rw [same]
        exact .reserved charged absent (not_lt.mp short) charge

inductive SettleStep (actualCost : ℚ) :
    Except Raised SettleOutcome × Job × TenantBudgetLedger → Prop
  | raised (unknown : (ledger.available.lookup job.tenantId).isSome = false)
      (unused : actualCost < held ledger.reserved job.jobId) :
      SettleStep actualCost (.error (.keyError job.tenantId), job, ledger.pop job.jobId)
  | exceeded (overrun : held ledger.reserved job.jobId < actualCost) :
      SettleStep actualCost (.ok .overageReconcile,
        { job with
          settledCost := some (held ledger.reserved job.jobId)
          costOverage := some (actualCost - held ledger.reserved job.jobId)
          costState := .reconciliationPending }, ledger.pop job.jobId)
  | exhausted (used : held ledger.reserved job.jobId = actualCost) :
      SettleStep actualCost (.ok .settled,
        { job with settledCost := some actualCost, costOverage := none, costState := .settled },
        ledger.pop job.jobId)
  | credited (credited : Dict String ℚ)
      (unused : actualCost < held ledger.reserved job.jobId)
      (credit : Credited job.tenantId (held ledger.reserved job.jobId - actualCost)
        ledger.available credited) :
      SettleStep actualCost (.ok .settled,
        { job with settledCost := some actualCost, costOverage := none, costState := .settled },
        ⟨credited, ledger.reserved.erase job.jobId⟩)

theorem settleActual_step (actualCost : ℚ) :
    SettleStep ledger job actualCost (ledger.settleActual job actualCost) := by
  simp only [TenantBudgetLedger.settleActual]
  by_cases overrun : held ledger.reserved job.jobId < actualCost
  · rw [if_pos overrun]
    exact .exceeded overrun
  · rw [if_neg overrun]
    by_cases unused : 0 < held ledger.reserved job.jobId - actualCost
    · have less := sub_pos.mp unused
      rw [if_pos unused]
      rcases adjust_step (ledger.pop job.jobId) job.tenantId
        (held ledger.reserved job.jobId - actualCost) with
        ⟨unknown, same⟩ | ⟨credited, same, credit⟩
      · rw [same]
        exact .raised unknown less
      · rw [same]
        exact .credited credited less credit
    · have exhausted : held ledger.reserved job.jobId = actualCost :=
        le_antisymm (not_lt.mp fun less => unused (sub_pos.mpr less)) (not_lt.mp overrun)
      rw [if_neg unused]
      exact .exhausted exhausted

/-- Where the job of a release stands afterwards. -/
inductive ReleaseStep : Except Raised Unit × Job × TenantBudgetLedger → Prop
  | raised (unknown : (ledger.available.lookup job.tenantId).isSome = false) :
      ReleaseStep (.error (.keyError job.tenantId), job, ledger.pop job.jobId)
  | released (credited : Dict String ℚ)
      (credit : Credited job.tenantId (held ledger.reserved job.jobId) ledger.available
        credited) :
      ReleaseStep (.ok (), { job with costState := .none, reservedCost := none },
        ⟨credited, ledger.reserved.erase job.jobId⟩)

theorem releaseReservation_step : ReleaseStep ledger job (ledger.releaseReservation job) := by
  simp only [TenantBudgetLedger.releaseReservation]
  rcases adjust_step (ledger.pop job.jobId) job.tenantId
    (held ledger.reserved job.jobId) with ⟨unknown, same⟩ | ⟨credited, same, credit⟩
  · rw [same]
    exact .raised unknown
  · rw [same]
    exact .released credited credit

end Steps

end BackendHandbook.Provider
