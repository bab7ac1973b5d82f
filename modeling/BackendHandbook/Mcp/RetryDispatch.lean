import BackendHandbook.Foundation.Text
import BackendHandbook.Mcp.Boundary

/-! The store of dispatch records: an operation is registered ready, its dispatch is claimed, and
the dispatched attempt is completed. -/

namespace BackendHandbook.Mcp

inductive RetryDispatchDecisionKind
  | admitted | callerIntentInactive | deadlineExhausted | authorizationNotCurrent
  | capacityNotAdmitted | circuitOpen
  deriving DecidableEq

/-- A new protocol attempt under the same application operation. -/
structure RetryAttemptPlan where
  (operationId idempotencyKey : String)
  protocolRequestId : RequestId
  attemptNumber : Int
  delaySeconds : ℚ
  transportGeneration : Option Int := none

structure RetryDispatchDecision where
  kind : RetryDispatchDecisionKind
  attempt : RetryAttemptPlan

def RetryDispatchDecision.admitted (dispatch : RetryDispatchDecision) : Bool :=
  dispatch.kind = .admitted

inductive RetryDispatchRecordState
  | readyForDispatch | readyForRetry | dispatchStarted | completed
  deriving DecidableEq

def RetryDispatchRecordState.value : RetryDispatchRecordState → String
  | .readyForDispatch => "READY_FOR_DISPATCH"
  | .readyForRetry => "READY_FOR_RETRY"
  | .dispatchStarted => "DISPATCH_STARTED"
  | .completed => "COMPLETED"

def RetryDispatchRecordState.ofValue : String → Option RetryDispatchRecordState
  | "READY_FOR_DISPATCH" => some .readyForDispatch
  | "READY_FOR_RETRY" => some .readyForRetry
  | "DISPATCH_STARTED" => some .dispatchStarted
  | "COMPLETED" => some .completed
  | _ => none

/-- The operation waits for a dispatch. -/
def RetryDispatchRecordState.ready (state : RetryDispatchRecordState) : Bool :=
  state ∈ [.readyForDispatch, .readyForRetry]

structure RetryDispatchRecord where
  (operationId idempotencyKey : String)
  state : RetryDispatchRecordState
  (version attemptNumber : Int)
  protocolRequestId : Option RequestId
  tenantId : Option String := none
  resourceId : Option String := none
  toolName : Option String := none
  fenceToken : Int := 0
  transportGeneration : Option Int := none
  externalObjectId : Option String := none

inductive RetryDispatchClaimOutcome
  | claimed | notAdmitted | identityConflict | stateConflict | versionConflict | fenceConflict
  | attemptSequenceConflict | transportGenerationRequired
  deriving DecidableEq

def RetryDispatchClaimOutcome.value : RetryDispatchClaimOutcome → String
  | .claimed => "CLAIMED"
  | .notAdmitted => "NOT_ADMITTED"
  | .identityConflict => "IDENTITY_CONFLICT"
  | .stateConflict => "STATE_CONFLICT"
  | .versionConflict => "VERSION_CONFLICT"
  | .fenceConflict => "FENCE_CONFLICT"
  | .attemptSequenceConflict => "ATTEMPT_SEQUENCE_CONFLICT"
  | .transportGenerationRequired => "TRANSPORT_GENERATION_REQUIRED"

structure RetryDispatchClaim where
  outcome : RetryDispatchClaimOutcome
  record : Option RetryDispatchRecord := none
  durableTransition : Bool := false

def bindingComplete (binding : List (Option String)) : Bool :=
  binding.all (·.isNone) || binding.all Text.truthy

structure RetryableRegistration where
  evidence : FailureEvidence
  tenantId : Option String := none
  resourceId : Option String := none
  toolName : Option String := none
  version : Int := 1
  fenceToken : Int := 0

structure ReadyRegistration where
  (operationId idempotencyKey tenantId resourceId toolName : String)
  (version fenceToken : Int)
  previousAttemptNumber : Int := 0

structure ClaimArguments where
  dispatch : RetryDispatchDecision
  expectedVersion : Int
  expectedState : RetryDispatchRecordState := .readyForRetry
  expectedFence : Option Int := none
  newFence : Option Int := none
  tenantId : Option String := none
  resourceId : Option String := none
  toolName : Option String := none

structure CompletionArguments where
  (operationId idempotencyKey tenantId resourceId toolName : String)
  attemptNumber : Int
  protocolRequestId : RequestId
  transportGeneration : Int
  expectedState : RetryDispatchRecordState
  (expectedVersion expectedFence : Int)
  externalObjectId : String

abbrev InMemoryRetryDispatchStore := Dict String RetryDispatchRecord

def RetryableRegistration.record (registration : RetryableRegistration) : RetryDispatchRecord :=
  { operationId := registration.evidence.operationId
    idempotencyKey := registration.evidence.idempotencyKey, state := .readyForRetry
    version := registration.version, attemptNumber := registration.evidence.attemptNumber
    protocolRequestId := some registration.evidence.protocolRequestId
    tenantId := registration.tenantId, resourceId := registration.resourceId
    toolName := registration.toolName, fenceToken := registration.fenceToken }

def ReadyRegistration.record (registration : ReadyRegistration) : RetryDispatchRecord :=
  { operationId := registration.operationId
    idempotencyKey := registration.idempotencyKey, state := .readyForDispatch
    version := registration.version, attemptNumber := registration.previousAttemptNumber
    protocolRequestId := none, tenantId := some registration.tenantId
    resourceId := some registration.resourceId, toolName := some registration.toolName
    fenceToken := registration.fenceToken }

namespace ClaimArguments

variable (claim : ClaimArguments) (current : RetryDispatchRecord)

/-- Why a claim fails on the record that it finds. -/
def refusal : Option RetryDispatchClaimOutcome :=
  if current.idempotencyKey ≠ claim.dispatch.attempt.idempotencyKey ∨
      (claim.tenantId.isSome ∧ current.tenantId ≠ claim.tenantId) ∨
      (claim.resourceId.isSome ∧ current.resourceId ≠ claim.resourceId) ∨
      (claim.toolName.isSome ∧ current.toolName ≠ claim.toolName) then
    some .identityConflict
  else if current.state ≠ claim.expectedState then some .stateConflict
  else if current.version ≠ claim.expectedVersion then some .versionConflict
  else if claim.expectedFence.any (current.fenceToken ≠ ·) then some .fenceConflict
  else if claim.newFence.any (fun fence => claim.expectedFence.any (fence ≤ ·)) then
    some .fenceConflict
  else if claim.dispatch.attempt.attemptNumber ≠ current.attemptNumber + 1 then
    some .attemptSequenceConflict
  else if current.tenantId.isSome ∧ claim.dispatch.attempt.transportGeneration = none then
    some .transportGenerationRequired
  else none

/-- The record that a claim leaves. -/
def claimed : RetryDispatchRecord :=
  { current with
    state := .dispatchStarted, version := current.version + 1
    attemptNumber := claim.dispatch.attempt.attemptNumber
    protocolRequestId := some claim.dispatch.attempt.protocolRequestId
    fenceToken := claim.newFence.getD current.fenceToken
    transportGeneration := claim.dispatch.attempt.transportGeneration }

end ClaimArguments

namespace CompletionArguments

variable (completion : CompletionArguments) (current : RetryDispatchRecord)

def matched : Bool :=
  current.idempotencyKey = completion.idempotencyKey ∧ current.tenantId = some completion.tenantId ∧
    current.resourceId = some completion.resourceId ∧
    current.toolName = some completion.toolName ∧
    current.attemptNumber = completion.attemptNumber ∧
    current.protocolRequestId = some completion.protocolRequestId ∧
    current.transportGeneration = some completion.transportGeneration ∧
    current.state = completion.expectedState ∧
    current.version = completion.expectedVersion ∧
    current.fenceToken = completion.expectedFence

def completed : RetryDispatchRecord :=
  { current with
    state := .completed, version := current.version + 1
    externalObjectId := some completion.externalObjectId }

end CompletionArguments

namespace InMemoryRetryDispatchStore

variable (store : InMemoryRetryDispatchStore)

def register (record : RetryDispatchRecord) : Except Raised Unit × InMemoryRetryDispatchStore :=
  if (store.lookup record.operationId).isSome then
    (.error (.valueError "operation is already registered"), store)
  else (.ok (), store.insert record.operationId record)

def addRetryable (registration : RetryableRegistration) :
    Except Raised Unit × InMemoryRetryDispatchStore :=
  if registration.evidence.executionCertainty ≠ .provenNotExecuted then
    (.error (.valueError "only proven-not-executed attempts can retry"), store)
  else if bindingComplete [registration.tenantId, registration.resourceId,
      registration.toolName] = false then
    (.error (.valueError "retryable operation binding must be complete"), store)
  else if registration.version < 0 ∨ registration.fenceToken < 0 then
    (.error (.valueError "retryable version and fence must be non-negative"), store)
  else store.register registration.record

def addReadyOperation (registration : ReadyRegistration) :
    Except Raised Unit × InMemoryRetryDispatchStore :=
  if "" ∈ [registration.operationId, registration.idempotencyKey, registration.tenantId,
      registration.resourceId, registration.toolName] then
    (.error (.valueError "ready operation identity must be complete"), store)
  else if registration.version < 0 ∨ registration.fenceToken < 0 ∨
      registration.previousAttemptNumber < 0 then
    (.error (.valueError "ready operation counters must be non-negative"), store)
  else store.register registration.record

/-- The dispatch is on record before the winner may call the transport. -/
def claimDispatch (claim : ClaimArguments) : RetryDispatchClaim × InMemoryRetryDispatchStore :=
  if claim.dispatch.admitted = false then ({ outcome := .notAdmitted }, store)
  else
    match store.lookup claim.dispatch.attempt.operationId with
    | none => ({ outcome := .identityConflict }, store)
    | some current =>
      match claim.refusal current with
      | some refused => ({ outcome := refused }, store)
      | none =>
        ({ outcome := .claimed
           record := some (claim.claimed current)
           durableTransition := true },
          store.insert claim.dispatch.attempt.operationId (claim.claimed current))

def compareAndSetCompleted (completion : CompletionArguments) :
    Option RetryDispatchRecord × InMemoryRetryDispatchStore :=
  match store.lookup completion.operationId with
  | none => (none, store)
  | some current =>
    if completion.matched current = false then (none, store)
    else
      (some (completion.completed current),
        store.insert completion.operationId (completion.completed current))

end InMemoryRetryDispatchStore

inductive DispatchCall
  | addRetryable (registration : RetryableRegistration)
  | addReadyOperation (registration : ReadyRegistration)
  | read (operationId : String)
  | claimDispatch (claim : ClaimArguments)
  | compareAndSetCompleted (completion : CompletionArguments)

abbrev DispatchCall.Answer : DispatchCall → Type
  | .addRetryable _ => Except Raised Unit
  | .addReadyOperation _ => Except Raised Unit
  | .read _ => Option RetryDispatchRecord
  | .claimDispatch _ => RetryDispatchClaim
  | .compareAndSetCompleted _ => Option RetryDispatchRecord

def InMemoryRetryDispatchStore.perform : (call : DispatchCall) → InMemoryRetryDispatchStore →
    call.Answer × InMemoryRetryDispatchStore
  | .addRetryable registration, store => store.addRetryable registration
  | .addReadyOperation registration, store => store.addReadyOperation registration
  | .read operationId, store => (store.lookup operationId, store)
  | .claimDispatch claim, store => store.claimDispatch claim
  | .compareAndSetCompleted completion, store => store.compareAndSetCompleted completion

end BackendHandbook.Mcp
