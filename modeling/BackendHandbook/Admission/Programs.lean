import BackendHandbook.Admission.Store
import BackendHandbook.Foundation.Protocols

/-! The admission boundary, and the callers that work on one admission store. -/

namespace BackendHandbook.Admission

open Interleaving AdmissionStore

/-- What the shared limiter says to one request. -/
inductive LimiterAnswer
  | allowed | limited | unavailable

inductive Question
  | allow (key : String)

abbrev Question.Reply : Question → Type
  | .allow _ => LimiterAnswer

inductive Finished
  | raised (error : Raised)
  | admitted (result : AdmissionResult)
  | reconciled (state : ReconcileState)

abbrev AdmissionProgram :=
  Program Call (fun call => Except Raised call.Answer) Question Question.Reply Finished

def call (request : Call) (next : request.Answer → AdmissionProgram) : AdmissionProgram :=
  await .raised request next

/-- The arguments of one `admit_job`. -/
structure AdmitRequest where
  identity : AuthenticatedIdentity
  requestedTenantId : String
  command : Command
  memberships : MembershipDirectory
  policy : PolicyStore
  failAfterReserve : Bool := false

def reserveAndCreate (ctx : AuthorizedTenantContext) (command : Command)
    (failAfterReserve : Bool) : AdmissionProgram :=
  call (.reserveAndCreate ctx command failAfterReserve) fun result => .done (.admitted result)

def AdmitRequest.program (request : AdmitRequest) : AdmissionProgram :=
  match authorize request.identity request.requestedTenantId "job.create" request.memberships
    request.policy with
  | .error error => .done (.raised error)
  | .ok ctx =>
    call (.findByIdem ctx.tenantId request.command.idempotencyKey) fun
      | some _ => reserveAndCreate ctx request.command false
      | none =>
        .ask (.allow (ctx.tenantId ++ ":job.create")) fun
          | .unavailable => .done (.raised (.limiterUnavailable "rate limiter unavailable"))
          | .limited =>
            .done (.admitted ⟨.rateLimited, none, "rate limit exceeded (429 + Retry-After)"⟩)
          | .allowed => reserveAndCreate ctx request.command request.failAfterReserve

inductive Client
  | admitJob (request : AdmitRequest)
  | reserveAndCreate (ctx : AuthorizedTenantContext) (command : Command)
      (failAfterReserve : Bool)
  | reconcile (jobId : String) (actualTokens : Option Int)
  | settleOverage (jobId : String) (grantedExtraTokens : Int)

def Client.program : Client → AdmissionProgram
  | .admitJob request => request.program
  | .reserveAndCreate ctx command failAfterReserve =>
    Admission.reserveAndCreate ctx command failAfterReserve
  | .reconcile jobId actualTokens =>
    call (.reconcile jobId actualTokens) fun state => .done (.reconciled state)
  | .settleOverage jobId granted =>
    call (.settleOverage jobId granted) fun state => .done (.reconciled state)

inductive Action
  | enter (client : Client)
  | resume (index : Nat) (oracle : (question : Question) → question.Reply)

def Action.turn : Action →
    Turn Call (fun call => Except Raised call.Answer) Question Question.Reply Finished
  | .enter client => .start client.program
  | .resume index oracle => .resume index oracle

abbrev AdmissionPool :=
  Pool AdmissionStore Call (fun call => Except Raised call.Answer) Question Question.Reply Finished

section Schedules

variable (sha256 : String → String) (uuid4 : Nat → String) (budgets : List TenantBudget)
variable (actions : List Action)

/-- The store and the callers behind a schedule from fresh budgets. -/
def poolAfter : AdmissionPool :=
  run (perform sha256 uuid4) ⟨ofBudgets budgets, []⟩ (actions.map Action.turn)

/-- The store calls that a schedule comes down to. -/
def storeCalls : List Call :=
  calls (perform sha256 uuid4) ⟨ofBudgets budgets, []⟩ (actions.map Action.turn)

theorem poolAfter_state : (poolAfter sha256 uuid4 budgets actions).state =
      Run.final (perform sha256 uuid4) (ofBudgets budgets)
        (storeCalls sha256 uuid4 budgets actions) :=
  run_state (perform sha256 uuid4) _ _

end Schedules

/-! What one call can do to the admission store. -/

section Reserve

variable (sha256 : String → String) (uuid4 : Nat → String)
variable (ctx : AuthorizedTenantContext) (command : Command)

inductive ReserveStep (store : AdmissionStore) :
    Except Raised AdmissionResult × AdmissionStore → Prop
  | refused (answer : Except Raised AdmissionResult)
      (uncreated : ∀ result, answer = .ok result → result.outcome ≠ .created) :
      ReserveStep store (answer, store)
  | created (budget : TenantBudget) (reason : String)
      (absent : store.byIdem.lookup (ctx.tenantId, command.idempotencyKey) = none)
      (found : store.budgets.lookup ctx.tenantId = some budget)
      (covered : command.maxTokens ≤ budget.available) :
      ReserveStep store
        (.ok ⟨.created, some (store.newJob sha256 uuid4 ctx command), reason⟩,
          store.commitAdmission sha256 uuid4 ctx command budget)

theorem replay_uncreated (existingId : String) (store : AdmissionStore)
    (result : AdmissionResult) (answered : store.replay sha256 command existingId = .ok result) :
    result.outcome ≠ .created := by
  simp only [replay] at answered
  cases found : store.jobs.lookup existingId with
  | none => simp [found] at answered
  | some job =>
    simp only [found] at answered
    by_cases same : job.requestFingerprint = computeRequestFingerprint sha256 command
    · rw [if_pos same] at answered
      cases answered
      simp
    · rw [if_neg same] at answered
      cases answered
      simp

variable (failAfterReserve : Bool) (store : AdmissionStore)

theorem reserve_step (absent : store.byIdem.lookup (ctx.tenantId, command.idempotencyKey) = none) :
    ReserveStep sha256 uuid4 ctx command store
      (store.reserve sha256 uuid4 ctx command failAfterReserve) := by
  have exceeded : ReserveStep sha256 uuid4 ctx command store
      (.ok ⟨.quotaExceeded, none, "insufficient tenant budget (zero rows)"⟩, store) := by
    apply ReserveStep.refused
    intro result same
    cases same
    simp
  simp only [reserve]
  cases found : store.budgets.lookup ctx.tenantId with
  | none => exact exceeded
  | some budget =>
    dsimp only
    by_cases short : budget.available < command.maxTokens
    · rw [if_pos short]
      exact exceeded
    · rw [if_neg short]
      cases failAfterReserve with
      | true =>
        apply ReserveStep.refused
        intro result same
        cases same
      | false => exact .created budget _ absent found (by omega)

theorem reserveAndCreate_step : ReserveStep sha256 uuid4 ctx command store
      (store.reserveAndCreate sha256 uuid4 ctx command failAfterReserve) := by
  simp only [AdmissionStore.reserveAndCreate]
  by_cases unbounded : command.maxTokens ≤ 0
  · rw [if_pos unbounded]
    apply ReserveStep.refused
    intro result same
    cases same
  · rw [if_neg unbounded]
    cases known : store.byIdem.lookup (ctx.tenantId, command.idempotencyKey) with
    | none => exact reserve_step sha256 uuid4 ctx command failAfterReserve store known
    | some existingId => exact .refused _ (replay_uncreated sha256 command existingId store)

end Reserve

section Settle

variable (jobId : String)

/-- Neither settled nor held back for an overage. -/
def Undecided (store : AdmissionStore) : Prop :=
  store.reconcileStatus.lookup jobId ≠ some .settled ∧
    store.reconcileStatus.lookup jobId ≠ some .overageReconciliationRequired

/-- The answer of a usage callback or a settlement, with the store that it leaves. -/
inductive SettleStep (store : AdmissionStore) :
    Except Raised ReconcileState × AdmissionStore → Prop
  | kept (answer : Except Raised ReconcileState) : SettleStep store (answer, store)
  | pending (job : Job) (found : store.jobs.lookup jobId = some job)
      (undecided : Undecided jobId store) :
      SettleStep store
        (.ok .reconciliationPending, store.setStatus jobId .reconciliationPending)
  | exceeded (job : Job) (budget : TenantBudget) (actual : Int)
      (found : store.jobs.lookup jobId = some job)
      (funds : store.budgets.lookup job.tenantId = some budget)
      (undecided : Undecided jobId store) :
      SettleStep store (.ok .overageReconciliationRequired,
        (store.observe jobId actual).requireOverage jobId budget actual)
  | settled (job : Job) (budget : TenantBudget) (actual : Int)
      (found : store.jobs.lookup jobId = some job)
      (funds : store.budgets.lookup job.tenantId = some budget)
      (undecided : Undecided jobId store)
      (within : actual ≤ Dict.held store.reservations jobId) :
      SettleStep store
        (.ok .settled, (store.observe jobId actual).settle jobId job.tenantId budget actual)
  | funded (overage : OverageRecord) (budget : TenantBudget) (granted : Int)
      (waiting : store.reconcileStatus.lookup jobId = some .overageReconciliationRequired)
      (recorded : store.overages.lookup jobId = some overage)
      (funds : store.budgets.lookup overage.tenantId = some budget)
      (covered : 0 ≤ prospectiveAvailable budget overage granted) :
      SettleStep store (.ok .settled, store.fund jobId budget overage granted)

theorem decideOnce_step (actualTokens : Option Int) {store : AdmissionStore} {job : Job}
    {budget : TenantBudget} (found : store.jobs.lookup jobId = some job)
    (funds : store.budgets.lookup job.tenantId = some budget) (undecided : Undecided jobId store) :
    SettleStep jobId store (.ok (store.decideOnce jobId job.tenantId budget actualTokens).1,
        (store.decideOnce jobId job.tenantId budget actualTokens).2) := by
  cases actualTokens with
  | none => exact .pending job found undecided
  | some actual =>
    simp only [decideOnce]
    by_cases exceeds : Dict.held store.reservations jobId < actual
    · rw [if_pos exceeds]
      exact .exceeded job budget actual found funds undecided
    · rw [if_neg exceeds]
      exact .settled job budget actual found funds undecided (by omega)

theorem reconcile_step (actualTokens : Option Int) (store : AdmissionStore) :
    SettleStep jobId store (store.reconcile jobId actualTokens) := by
  simp only [AdmissionStore.reconcile]
  by_cases negative : actualTokens.any (· < 0)
  · rw [if_pos negative]
    exact .kept _
  rw [if_neg negative]
  cases found : store.jobs.lookup jobId with
  | none => exact .kept _
  | some job =>
  dsimp only
  cases funds : store.budgets.lookup job.tenantId with
  | none => exact .kept _
  | some budget =>
  have decided : Undecided jobId store → SettleStep jobId store
      (.ok (store.decideOnce jobId job.tenantId budget actualTokens).1,
        (store.decideOnce jobId job.tenantId budget actualTokens).2) :=
    decideOnce_step jobId actualTokens found funds
  cases status : store.reconcileStatus.lookup jobId with
  | none => exact decided (by simp [Undecided, status])
  | some state =>
    cases state with
    | reserved | reconciliationPending | reconciliationConflict =>
      exact decided (by simp [Undecided, status])
    | overageReconciliationRequired => exact .kept _
    | settled =>
      by_cases replayed : actualTokens = none ∨ actualTokens = store.settledActual.lookup jobId
      · rw [if_pos replayed]
        exact .kept _
      · rw [if_neg replayed]
        exact .kept _

theorem settleOverage_step (granted : Int) (store : AdmissionStore) :
    SettleStep jobId store (store.settleOverage jobId granted) := by
  simp only [AdmissionStore.settleOverage]
  by_cases negative : granted < 0
  · rw [if_pos negative]
    exact .kept _
  rw [if_neg negative]
  by_cases waiting : store.reconcileStatus.lookup jobId ≠ some .overageReconciliationRequired
  · rw [if_pos waiting]
    exact .kept _
  rw [if_neg waiting]
  cases recorded : store.overages.lookup jobId with
  | none => exact .kept _
  | some overage =>
  dsimp only
  cases funds : store.budgets.lookup overage.tenantId with
  | none => exact .kept _
  | some budget =>
  dsimp only
  by_cases unfunded : prospectiveAvailable budget overage granted < 0
  · rw [if_pos unfunded]
    exact .kept _
  · rw [if_neg unfunded]
    exact .funded overage budget granted (not_not.mp waiting) recorded funds (by omega)

end Settle

end BackendHandbook.Admission
