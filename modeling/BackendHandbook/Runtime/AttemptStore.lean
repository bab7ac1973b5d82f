import BackendHandbook.Tools.Contracts

/-! The attempt store: one authoritative lifecycle, written by conditional updates. -/

namespace BackendHandbook.Runtime

open Tools

structure AttemptExecutionContract where
  (attemptId jobId : String)

structure AttemptPromptBinding where
  renderedMessageHash : String

structure PreparedAttempt where
  providerBinding : AttemptExecutionContract
  promptBinding : AttemptPromptBinding

inductive RuntimeAttemptStatus
  | prepared | dispatchClaimed | pendingReconciliation | toolAdmitted | toolExecuted
  | toolExecutionBlocked | outcomeRejected | cancelled | completed
  deriving DecidableEq

structure RuntimeAttemptRecord where
  prepared : PreparedAttempt
  status : RuntimeAttemptStatus
  claimedBy : Option String := none
  fenceToken : Option Int := none
  reason : String := ""
  toolCallId : Option String := none
  toolIdempotencyKey : Option String := none
  operationId : Option String := none

inductive CompensationStatus
  | planned | dispatchClaimed | pendingReconciliation
  deriving DecidableEq

structure CompensationRecord where
  (compensationId sourceAttemptId sourceToolCallId sourceOperationId idempotencyKey : String)
  status : CompensationStatus
  claimedBy : Option String := none

inductive RuntimeError
  | attemptExists | notOwner | unknownRequiresClaim | admissionMismatch | executionRequiresAdmission
  | staleAuthority | outcomeMismatch | cancellationRequiresEffect | sourceNotCancelled
  | compensationKeyReused | compensationExists | notCompensationOwner
  | unknownKey (key : String)

def RuntimeError.text : RuntimeError → String
  | .attemptExists => "Attempt already exists"
  | .notOwner => "worker does not own current Attempt"
  | .unknownRequiresClaim => "unknown transition requires dispatch claim"
  | .admissionMismatch => "Admission does not match current Attempt"
  | .executionRequiresAdmission => "execution requires current Admission"
  | .staleAuthority => "stale Tool execution authority"
  | .outcomeMismatch => "outcome does not match current Runtime identity"
  | .cancellationRequiresEffect => "cancellation path requires executed effect"
  | .sourceNotCancelled => "compensation requires cancelled executed source"
  | .compensationKeyReused => "compensation requires a new idempotency key"
  | .compensationExists => "compensation already exists"
  | .notCompensationOwner => "only current compensation owner may update"
  | .unknownKey key => key

structure InMemoryRuntimeAttemptStore where
  records : Dict String RuntimeAttemptRecord := ∅
  compensations : Dict String CompensationRecord := ∅
  nextFenceToken : Int := 0

namespace InMemoryRuntimeAttemptStore

variable (store : InMemoryRuntimeAttemptStore)

def write (attemptId : String) (record : RuntimeAttemptRecord) : InMemoryRuntimeAttemptStore :=
  { store with records := store.records.insert attemptId record }

def issueFence : InMemoryRuntimeAttemptStore :=
  { store with nextFenceToken := store.nextFenceToken + 1 }

def writeCompensation (compensationId : String) (record : CompensationRecord) :
    InMemoryRuntimeAttemptStore :=
  { store with compensations := store.compensations.insert compensationId record }

def owned (attemptId workerId : String) : Except RuntimeError RuntimeAttemptRecord :=
  match store.records.lookup attemptId with
  | some current =>
    if current.claimedBy = some workerId then .ok current else .error .notOwner
  | none => .error .notOwner

def persistPrepared (prepared : PreparedAttempt) :
    Except RuntimeError InMemoryRuntimeAttemptStore :=
  if (store.records.lookup prepared.providerBinding.attemptId).isSome then .error .attemptExists
  else .ok (store.write prepared.providerBinding.attemptId { prepared, status := .prepared })

def claimDispatch (attemptId expectedPromptHash workerId : String) :
    Option RuntimeAttemptRecord × InMemoryRuntimeAttemptStore :=
  match store.records.lookup attemptId with
  | some current =>
    if current.status ≠ .prepared ∨
        current.prepared.promptBinding.renderedMessageHash ≠ expectedPromptHash then (none, store)
    else
      let store := store.issueFence
      let claimed := { current with
        status := .dispatchClaimed, claimedBy := some workerId
        fenceToken := some store.nextFenceToken, reason := "dispatch_claimed" }
      (some claimed, store.write attemptId claimed)
  | none => (none, store)

def markProviderExecutionUnknown (attemptId workerId : String) :
    Except RuntimeError (RuntimeAttemptRecord × InMemoryRuntimeAttemptStore) := do
  let current ← store.owned attemptId workerId
  if current.status ≠ .dispatchClaimed then throw .unknownRequiresClaim
  let updated := { current with
    status := .pendingReconciliation, reason := "provider_execution_unknown" }
  return (updated, store.write attemptId updated)

def recordToolAdmission (workerId : String) (call : AdmittedToolCall) :
    Except RuntimeError (RuntimeAttemptRecord × InMemoryRuntimeAttemptStore) := do
  let current ← store.owned call.attemptId workerId
  if current.status ≠ .dispatchClaimed ∨ call.jobId ≠ current.prepared.providerBinding.jobId then
    throw .admissionMismatch
  let updated := { current with
    status := .toolAdmitted, reason := "tool_admitted", toolCallId := some call.toolCallId
    toolIdempotencyKey := some call.idempotencyKey }
  return (updated, store.write call.attemptId updated)

def executedRecord (current : RuntimeAttemptRecord) (result : ExecutionResult) :
    RuntimeAttemptRecord :=
  if result.status = .executed ∨ result.status = .duplicateSuppressed then
    { current with
      status := .toolExecuted, reason := "tool_executed", operationId := result.operationId }
  else
    { current with
      status := .toolExecutionBlocked, reason := "tool_execution_blocked"
      operationId := result.operationId }

def recordToolExecution (attemptId workerId : String) (result : ExecutionResult) :
    Except RuntimeError (RuntimeAttemptRecord × InMemoryRuntimeAttemptStore) := do
  let current ← store.owned attemptId workerId
  if current.status ≠ .toolAdmitted then throw .executionRequiresAdmission
  let updated := executedRecord current result
  return (updated, store.write attemptId updated)

/-- The lifecycle, the fence and the identities, checked again where the effect is made. -/
def toolAuthority (call : AdmittedToolCall) (workerId : String) (expectedFenceToken : Int) :
    Except RuntimeError RuntimeAttemptRecord := do
  let current ← store.owned call.attemptId workerId
  if current.status ≠ .toolAdmitted ∨ current.fenceToken ≠ some expectedFenceToken ∨
      current.toolCallId ≠ some call.toolCallId ∨
      current.toolIdempotencyKey ≠ some call.idempotencyKey then
    throw .staleAuthority
  return current

def recordOutcome (workerId : String) (call : AdmittedToolCall) (operationId : String)
    (outcome : OutcomeDecision) :
    Except RuntimeError (RuntimeAttemptRecord × InMemoryRuntimeAttemptStore) := do
  let current ← store.owned call.attemptId workerId
  if current.status ≠ .toolExecuted ∨ current.toolCallId ≠ some call.toolCallId ∨
      current.operationId ≠ some operationId ∨
      call.jobId ≠ current.prepared.providerBinding.jobId then
    throw .outcomeMismatch
  let updated := { current with
    status := match outcome.status with
      | .verified => .completed
      | .identityMismatch => .pendingReconciliation
      | _ => .outcomeRejected
    reason := outcome.safeReasonCode }
  return (updated, store.write call.attemptId updated)

def cancelAfterExternalEffect (attemptId : String) :
    Except RuntimeError (RuntimeAttemptRecord × InMemoryRuntimeAttemptStore) :=
  match store.records.lookup attemptId with
  | none => .error (.unknownKey attemptId)
  | some current =>
    if current.status ≠ .toolExecuted then .error .cancellationRequiresEffect
    else
      let updated := { current with status := .cancelled }
      .ok (updated, store.write attemptId updated)

def createCompensation (compensationId sourceAttemptId idempotencyKey : String) :
    Except RuntimeError (CompensationRecord × InMemoryRuntimeAttemptStore) :=
  match store.records.lookup sourceAttemptId with
  | none => .error (.unknownKey sourceAttemptId)
  | some source =>
    match source.status, source.toolCallId, source.operationId with
    | .cancelled, some toolCallId, some operationId =>
      if some idempotencyKey = source.toolIdempotencyKey then .error .compensationKeyReused
      else if (store.compensations.lookup compensationId).isSome then .error .compensationExists
      else
        let record : CompensationRecord :=
          { compensationId, sourceAttemptId, idempotencyKey
            sourceToolCallId := toolCallId, sourceOperationId := operationId, status := .planned }
        .ok (record, store.writeCompensation compensationId record)
    | _, _, _ => .error .sourceNotCancelled

def claimCompensation (compensationId workerId : String) :
    Option CompensationRecord × InMemoryRuntimeAttemptStore :=
  match store.compensations.lookup compensationId with
  | some current =>
    if current.status ≠ .planned then (none, store)
    else
      let claimed := { current with status := .dispatchClaimed, claimedBy := some workerId }
      (some claimed, store.writeCompensation compensationId claimed)
  | none => (none, store)

def markCompensationUnknown (compensationId workerId : String) :
    Except RuntimeError (CompensationRecord × InMemoryRuntimeAttemptStore) :=
  match store.compensations.lookup compensationId with
  | none => .error (.unknownKey compensationId)
  | some current =>
    if current.status ≠ .dispatchClaimed ∨ current.claimedBy ≠ some workerId then
      .error .notCompensationOwner
    else
      let pending := { current with status := .pendingReconciliation }
      .ok (pending, store.writeCompensation compensationId pending)

end InMemoryRuntimeAttemptStore

structure RuntimeState where
  store : InMemoryRuntimeAttemptStore := {}
  executor : InMemoryToolExecutor := {}

/-- Recheck lifecycle and fencing at the modeled effect boundary. -/
def RuntimeState.executeAdmittedWithFence (sha256 : String → String) (state : RuntimeState)
    (call : AdmittedToolCall) (workerId : String) (expectedFenceToken : Int)
    (registry : ToolRegistry) : Except RuntimeError ExecutionResult × RuntimeState :=
  match state.store.toolAuthority call workerId expectedFenceToken with
  | .error raised => (.error raised, state)
  | .ok _ =>
    let (result, executor) := state.executor.execute sha256 call registry
    match state.store.recordToolExecution call.attemptId workerId result with
    | .error raised => (.error raised, { state with executor })
    | .ok (_, store) => (.ok result, { store, executor })

/-- One call on the store, atomic behind its lock. -/
inductive RuntimeCall
  | persistPrepared (prepared : PreparedAttempt)
  | claimDispatch (attemptId expectedPromptHash workerId : String)
  | markProviderExecutionUnknown (attemptId workerId : String)
  | recordToolAdmission (workerId : String) (call : AdmittedToolCall)
  | recordToolExecution (attemptId workerId : String) (result : ExecutionResult)
  | executeAdmittedWithFence (call : AdmittedToolCall) (workerId : String)
      (expectedFenceToken : Int) (registry : ToolRegistry)
  | recordOutcome (workerId : String) (call : AdmittedToolCall) (operationId : String)
      (outcome : OutcomeDecision)
  | cancelAfterExternalEffect (attemptId : String)
  | createCompensation (compensationId sourceAttemptId idempotencyKey : String)
  | claimCompensation (compensationId workerId : String)
  | markCompensationUnknown (compensationId workerId : String)

def RuntimeCall.Answer : RuntimeCall → Type
  | .persistPrepared _ => Except RuntimeError Unit
  | .claimDispatch _ _ _ => Option RuntimeAttemptRecord
  | .markProviderExecutionUnknown _ _ => Except RuntimeError RuntimeAttemptRecord
  | .recordToolAdmission _ _ => Except RuntimeError RuntimeAttemptRecord
  | .recordToolExecution _ _ _ => Except RuntimeError RuntimeAttemptRecord
  | .executeAdmittedWithFence _ _ _ _ => Except RuntimeError ExecutionResult
  | .recordOutcome _ _ _ _ => Except RuntimeError RuntimeAttemptRecord
  | .cancelAfterExternalEffect _ => Except RuntimeError RuntimeAttemptRecord
  | .createCompensation _ _ _ => Except RuntimeError CompensationRecord
  | .claimCompensation _ _ => Option CompensationRecord
  | .markCompensationUnknown _ _ => Except RuntimeError CompensationRecord

namespace RuntimeState

def commit {α : Type} (state : RuntimeState) :
    Except RuntimeError (α × InMemoryRuntimeAttemptStore) → Except RuntimeError α × RuntimeState
  | .ok (answer, store) => (.ok answer, { state with store })
  | .error raised => (.error raised, state)

def perform (sha256 : String → String) :
    (call : RuntimeCall) → RuntimeState → call.Answer × RuntimeState
  | .persistPrepared prepared, state =>
    state.commit ((state.store.persistPrepared prepared).map fun store => ((), store))
  | .claimDispatch attemptId expectedPromptHash workerId, state =>
    let (answer, store) := state.store.claimDispatch attemptId expectedPromptHash workerId
    (answer, { state with store })
  | .markProviderExecutionUnknown attemptId workerId, state =>
    state.commit (state.store.markProviderExecutionUnknown attemptId workerId)
  | .recordToolAdmission workerId call, state =>
    state.commit (state.store.recordToolAdmission workerId call)
  | .recordToolExecution attemptId workerId result, state =>
    state.commit (state.store.recordToolExecution attemptId workerId result)
  | .executeAdmittedWithFence call workerId expectedFenceToken registry, state =>
    state.executeAdmittedWithFence sha256 call workerId expectedFenceToken registry
  | .recordOutcome workerId call operationId outcome, state =>
    state.commit (state.store.recordOutcome workerId call operationId outcome)
  | .cancelAfterExternalEffect attemptId, state =>
    state.commit (state.store.cancelAfterExternalEffect attemptId)
  | .createCompensation compensationId sourceAttemptId idempotencyKey, state =>
    state.commit
      (state.store.createCompensation compensationId sourceAttemptId idempotencyKey)
  | .claimCompensation compensationId workerId, state =>
    let (answer, store) := state.store.claimCompensation compensationId workerId
    (answer, { state with store })
  | .markCompensationUnknown compensationId workerId, state =>
    state.commit (state.store.markCompensationUnknown compensationId workerId)

end RuntimeState

end BackendHandbook.Runtime
