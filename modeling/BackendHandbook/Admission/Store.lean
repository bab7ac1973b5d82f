import BackendHandbook.Foundation.Json
import BackendHandbook.Foundation.Shares

/-! Tenant authority in front of the quota: membership, policy, and the admitted job. -/

namespace BackendHandbook.Admission

structure AuthenticatedIdentity where
  userId : String

inductive MembershipStatus
  | active | removed
  deriving DecidableEq

structure TenantMembership where
  (userId tenantId role : String)
  status : MembershipStatus := .active

structure MembershipDirectory where
  byKey : Dict (String × String) TenantMembership := ∅

def MembershipDirectory.activeMembership (directory : MembershipDirectory)
    (userId tenantId : String) : Option TenantMembership :=
  (directory.byKey.lookup (userId, tenantId)).filter fun membership =>
    membership.status = .active

def defaultRoleActions : Dict String (List String) :=
  let operator := ["job.create", "job.read_own", "job.read_all", "job.cancel", "job.retry"]
  ((AList.insert "admin" operator ∅).insert "operator" operator).insert "member"
    ["job.create", "job.read_own"]

structure PolicyStore where
  roleActions : Dict String (List String) := defaultRoleActions

def PolicyStore.actionsFor (policy : PolicyStore) (role : String) : List String :=
  (policy.roleActions.lookup role).getD []

inductive Raised
  | authorizationError (message : String)
  | limiterUnavailable (message : String)
  | valueError (message : String)
  | reservationRollback (message : String)
  | keyError

structure AuthorizedTenantContext where
  (userId tenantId : String)
  permissions : List String

def authorize (identity : AuthenticatedIdentity) (requestedTenantId action : String)
    (memberships : MembershipDirectory) (policy : PolicyStore) :
    Except Raised AuthorizedTenantContext :=
  match memberships.activeMembership identity.userId requestedTenantId with
  | none => .error (.authorizationError "forbidden")
  | some membership =>
    let permissions := policy.actionsFor membership.role
    if action ∉ permissions then .error (.authorizationError "forbidden")
    else .ok ⟨identity.userId, requestedTenantId, permissions⟩

inductive JobStatus
  | queued | cancelled

structure Job where
  (jobId tenantId createdByUserId idempotencyKey requestFingerprint : String)
  maxTokens : Int
  documentId : Option String := none
  taskType : String := "default"
  status : JobStatus := .queued

/-- What a caller asks for under one idempotency key. -/
structure Command where
  idempotencyKey : String
  maxTokens : Int
  documentId : Option String := none
  taskType : String := "default"

/-- `compute_request_fingerprint`: the behaviour-relevant fields, in the order of their keys. -/
def computeRequestFingerprint (sha256 : String → String) (command : Command) : String :=
  sha256 (Json.object [("document_id", Json.optional command.documentId),
    ("max_tokens", toString command.maxTokens), ("task_type", Json.string command.taskType)])

inductive AdmissionOutcome
  | created | idempotentReplay | fingerprintConflict | quotaExceeded | rateLimited
  deriving DecidableEq

structure TenantBudget where
  tenantId : String
  tokenLimit : Int
  usedTokens : Int := 0
  reservedTokens : Int := 0
  deriving DecidableEq

def TenantBudget.available (budget : TenantBudget) : Int :=
  budget.tokenLimit - budget.usedTokens - budget.reservedTokens

structure AdmissionResult where
  outcome : AdmissionOutcome
  job : Option Job := none
  reason : String := ""

inductive ReconcileState
  | reserved | settled | reconciliationPending | overageReconciliationRequired
  | reconciliationConflict
  deriving DecidableEq

structure OverageRecord where
  (jobId tenantId : String)
  (reservedTokens observedActualTokens : Int)
  reason : String

/-- The outbox envelope of one accepted job. -/
structure DispatchIntent where
  (eventType jobId tenantId correlationId : String)

/-! The admission store: the guarded reservation, and the settlement of its usage. -/

structure AdmissionStore where
  budgets : Dict String TenantBudget := ∅
  jobs : Dict String Job := ∅
  byIdem : Dict (String × String) String := ∅
  outbox : List DispatchIntent := []
  reservations : Dict String Int := ∅
  observedUsage : Dict String Int := ∅
  overages : Dict String OverageRecord := ∅
  reconcileStatus : Dict String ReconcileState := ∅
  settledActual : Dict String Int := ∅
  overageCredits : Dict String Int := ∅
  /-- How many identifiers have been drawn so far. -/
  drawn : Nat := 0

inductive Call
  | findByIdem (tenantId idempotencyKey : String)
  | reserveAndCreate (ctx : AuthorizedTenantContext) (command : Command)
      (failAfterReserve : Bool)
  | reconcile (jobId : String) (actualTokens : Option Int)
  | settleOverage (jobId : String) (grantedExtraTokens : Int)

abbrev Call.Answer : Call → Type
  | .findByIdem _ _ => Option String
  | .reserveAndCreate _ _ _ => AdmissionResult
  | .reconcile _ _ => ReconcileState
  | .settleOverage _ _ => ReconcileState

namespace AdmissionStore

def setBudget (store : AdmissionStore) (budget : TenantBudget) : AdmissionStore :=
  { store with budgets := store.budgets.insert budget.tenantId budget }

/-- The empty store with these budgets set, in their order. -/
def ofBudgets (budgets : List TenantBudget) : AdmissionStore := budgets.foldl setBudget {}

section Reserve

variable (sha256 : String → String) (uuid4 : Nat → String)
variable (ctx : AuthorizedTenantContext) (command : Command)

def newJob (store : AdmissionStore) : Job :=
  { jobId := uuid4 store.drawn, tenantId := ctx.tenantId, createdByUserId := ctx.userId
    idempotencyKey := command.idempotencyKey
    requestFingerprint := computeRequestFingerprint sha256 command, maxTokens := command.maxTokens
    documentId := command.documentId, taskType := command.taskType }

/-- Reservation, job and outbox intent, in one transaction. -/
def commitAdmission (budget : TenantBudget) (store : AdmissionStore) : AdmissionStore :=
  let job := store.newJob sha256 uuid4 ctx command
  let reserved := budget.reservedTokens + command.maxTokens
  { store with
    budgets := store.budgets.insert ctx.tenantId { budget with reservedTokens := reserved }
    jobs := store.jobs.insert job.jobId job
    byIdem := store.byIdem.insert (ctx.tenantId, command.idempotencyKey) job.jobId
    reservations := store.reservations.insert job.jobId command.maxTokens
    reconcileStatus := store.reconcileStatus.insert job.jobId .reserved
    outbox := store.outbox ++
      [⟨"job.dispatch_requested", job.jobId, ctx.tenantId, uuid4 (store.drawn + 1)⟩]
    drawn := store.drawn + 2 }

def replay (existingId : String) (store : AdmissionStore) : Except Raised AdmissionResult :=
  match store.jobs.lookup existingId with
  | none => .error .keyError
  | some job =>
    if job.requestFingerprint = computeRequestFingerprint sha256 command then
      .ok ⟨.idempotentReplay, some job, "same command replay; no second reservation"⟩
    else .ok ⟨.fingerprintConflict, none, "same key, changed behavior-relevant command"⟩

variable (failAfterReserve : Bool) (store : AdmissionStore)

/-- A key that names no job yet: the guarded reservation decides. -/
def reserve : Except Raised AdmissionResult × AdmissionStore :=
  let exceeded := (.ok ⟨.quotaExceeded, none, "insufficient tenant budget (zero rows)"⟩, store)
  match store.budgets.lookup ctx.tenantId with
  | none => exceeded
  | some budget =>
    if budget.available < command.maxTokens then exceeded
    else if failAfterReserve then
      -- What was just reserved is given back before the raise.
      (.error (.reservationRollback "injected failure after reservation, before commit"), store)
    else
      (.ok ⟨.created, some (store.newJob sha256 uuid4 ctx command),
        "reserved + Job + Outbox committed"⟩,
        store.commitAdmission sha256 uuid4 ctx command budget)

def reserveAndCreate : Except Raised AdmissionResult × AdmissionStore :=
  if command.maxTokens ≤ 0 then (.error (.valueError "max_tokens must be positive"), store)
  else
    match store.byIdem.lookup (ctx.tenantId, command.idempotencyKey) with
    | some existingId => (store.replay sha256 command existingId, store)
    | none => store.reserve sha256 uuid4 ctx command failAfterReserve

end Reserve

section Settle

variable (jobId : String)

def setStatus (status : ReconcileState) (store : AdmissionStore) : AdmissionStore :=
  { store with reconcileStatus := store.reconcileStatus.insert jobId status }

def observe (actual : Int) (store : AdmissionStore) : AdmissionStore :=
  { store with observedUsage := store.observedUsage.insert jobId actual }

def requireOverage (budget : TenantBudget) (actual : Int) (store : AdmissionStore) :
    AdmissionStore :=
  let overage :=
    { jobId, tenantId := budget.tenantId
      reservedTokens := Dict.held store.reservations jobId, observedActualTokens := actual
      reason := "provider actual usage exceeded the reserved amount" }
  { store.setStatus jobId .overageReconciliationRequired with
    overages := store.overages.insert jobId overage }

variable (tenantId : String) (budget : TenantBudget)

/-- The exact actual is charged and the rest of the reservation released. -/
def settle (actual : Int) (store : AdmissionStore) : AdmissionStore :=
  let settled :=
    { budget with
      reservedTokens := budget.reservedTokens - Dict.held store.reservations jobId
      usedTokens := budget.usedTokens + actual }
  { store.setStatus jobId .settled with
    budgets := store.budgets.insert tenantId settled
    reservations := store.reservations.insert jobId 0
    settledActual := store.settledActual.insert jobId actual }

/-- A callback for a job that is not yet settled. -/
def decideOnce (actualTokens : Option Int)
    (store : AdmissionStore) : ReconcileState × AdmissionStore :=
  match actualTokens with
  | none => (.reconciliationPending, store.setStatus jobId .reconciliationPending)
  | some actual =>
    let observed := store.observe jobId actual
    if Dict.held store.reservations jobId < actual then
      (.overageReconciliationRequired, observed.requireOverage jobId budget actual)
    else (.settled, observed.settle jobId tenantId budget actual)

def reconcile (actualTokens : Option Int) (store : AdmissionStore) :
    Except Raised ReconcileState × AdmissionStore :=
  if actualTokens.any (· < 0) then
    (.error (.valueError "actual_tokens must not be negative"), store)
  else
    match store.jobs.lookup jobId with
    | none => (.error .keyError, store)
    | some job =>
      match store.budgets.lookup job.tenantId with
      | none => (.error .keyError, store)
      | some budget =>
        match (store.reconcileStatus.lookup jobId).getD .reserved with
        | .settled =>
          if actualTokens = none ∨ actualTokens = store.settledActual.lookup jobId then
            (.ok .settled, store)
          else (.ok .reconciliationConflict, store)
        | .overageReconciliationRequired => (.ok .overageReconciliationRequired, store)
        | _ =>
          let (state, decided) := store.decideOnce jobId job.tenantId budget actualTokens
          (.ok state, decided)

variable (budget : TenantBudget) (overage : OverageRecord) (granted : Int)

/-- What would be available with the credit applied, the full usage charged and the hold
released. -/
def prospectiveAvailable : Int :=
  (budget.tokenLimit + granted) - (budget.usedTokens + overage.observedActualTokens) -
    (budget.reservedTokens - overage.reservedTokens)

def fund (store : AdmissionStore) : AdmissionStore :=
  let funded :=
    { budget with
      tokenLimit := budget.tokenLimit + granted
      reservedTokens := budget.reservedTokens - overage.reservedTokens
      usedTokens := budget.usedTokens + overage.observedActualTokens }
  { store.setStatus jobId .settled with
    budgets := store.budgets.insert overage.tenantId funded
    reservations := store.reservations.insert jobId 0
    settledActual := store.settledActual.insert jobId overage.observedActualTokens
    overageCredits := store.overageCredits.insert jobId granted }

def settleOverage (granted : Int) (store : AdmissionStore) :
    Except Raised ReconcileState × AdmissionStore :=
  if granted < 0 then
    (.error (.valueError "granted_extra_tokens must not be negative"), store)
  else if store.reconcileStatus.lookup jobId ≠ some .overageReconciliationRequired then
    (.ok ((store.reconcileStatus.lookup jobId).getD .reserved), store)
  else
    match store.overages.lookup jobId with
    | none => (.error .keyError, store)
    | some overage =>
      match store.budgets.lookup overage.tenantId with
      | none => (.error .keyError, store)
      | some budget =>
        if prospectiveAvailable budget overage granted < 0 then
          (.ok .overageReconciliationRequired, store)
        else (.ok .settled, store.fund jobId budget overage granted)

end Settle

end AdmissionStore

def perform (sha256 : String → String) (uuid4 : Nat → String) :
    (call : Call) → AdmissionStore → Except Raised call.Answer × AdmissionStore
  | .findByIdem tenantId idempotencyKey, store =>
    (.ok (store.byIdem.lookup (tenantId, idempotencyKey)), store)
  | .reserveAndCreate ctx command failAfterReserve, store =>
    store.reserveAndCreate sha256 uuid4 ctx command failAfterReserve
  | .reconcile jobId actualTokens, store => store.reconcile jobId actualTokens
  | .settleOverage jobId granted, store => store.settleOverage jobId granted

end BackendHandbook.Admission
