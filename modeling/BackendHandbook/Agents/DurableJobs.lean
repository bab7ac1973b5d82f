import BackendHandbook.Foundation.Fallible

/-! The durable record of an agent job, its recovery decision and its store.

`decideDurableRecovery` is pure; only `apply` and `takeOverExpiredLease` move a record. -/

namespace BackendHandbook.Agents

open Fallible

inductive AgentState
  | ready | running | waiting | pendingReconciliation | completed | terminated | failed | cancelled
  deriving DecidableEq

def terminalStates : List AgentState := [.completed, .terminated, .failed, .cancelled]

inductive ExternalCertainty
  | definitelyNotDispatched | outcomeUnknown | verifiedTerminal
  deriving DecidableEq

inductive DurableRecoveryDecision
  | resume | retry | replan | reconcile | repair | settle | compensate | escalate | blocked
  | terminalNoop | rejectStale
  deriving DecidableEq

def DurableRecoveryDecision.value : DurableRecoveryDecision → String
  | .resume => "RESUME"
  | .retry => "RETRY"
  | .replan => "REPLAN"
  | .reconcile => "RECONCILE"
  | .repair => "REPAIR"
  | .settle => "SETTLE"
  | .compensate => "COMPENSATE"
  | .escalate => "ESCALATE"
  | .blocked => "BLOCKED"
  | .terminalNoop => "TERMINAL_NOOP"
  | .rejectStale => "REJECT_STALE"

inductive ReservationStatus
  | held | settled | released
  deriving DecidableEq

inductive ReservationAction
  | noChange | keepHeld | release | settleVerified
  deriving DecidableEq

inductive OutboxAction
  | none | createRecoveryIntent | publishOriginalIntent
  deriving DecidableEq

inductive RecoveryApplyStatus
  | applied | duplicateReplay | noopStale | noopTerminal | notApplicable

structure ExecutionBindings where
  (controllerRelease promptBinding providerBinding toolBinding policyBinding : String)
  required : controllerRelease ≠ "" ∧ promptBinding ≠ "" ∧ providerBinding ≠ "" ∧
    toolBinding ≠ "" ∧ policyBinding ≠ ""

structure DurableCheckpoint where
  (tenantId jobId stepId attemptId checkpointId : String)
  checkpointVersion : Int
  authoritativeState : AgentState
  (stateVersion fenceToken leaseGeneration : Int)
  bindings : ExecutionBindings
  progressFingerprint : String
  (verifiedObservationIds reservationIds pendingReconciliationIds : List String)
  previousCheckpointId : Option String := none
  identities : tenantId ≠ "" ∧ jobId ≠ "" ∧ stepId ≠ "" ∧ attemptId ≠ "" ∧
    checkpointId ≠ "" ∧ progressFingerprint ≠ ""
  versions : 0 ≤ checkpointVersion ∧ 0 ≤ stateVersion ∧ 0 ≤ fenceToken ∧ 0 ≤ leaseGeneration
  observations : verifiedObservationIds.Nodup

/-- The next link of the checkpoint chain; the constructor checks run again. -/
def DurableCheckpoint.replace (checkpoint : DurableCheckpoint) (checkpointId : String)
    (checkpointVersion : Int) (authoritativeState : AgentState) (stateVersion fenceToken : Int)
    (previousCheckpointId : Option String) : Except String DurableCheckpoint :=
  if named : checkpointId = "" then
    .error "checkpoint identity and progress are required"
  else if counted : 0 ≤ checkpointVersion ∧ 0 ≤ stateVersion ∧ 0 ≤ fenceToken then
    .ok { checkpoint with
      checkpointId, checkpointVersion, authoritativeState, stateVersion, fenceToken
      previousCheckpointId
      identities := by
        have parts := checkpoint.identities
        exact ⟨parts.1, parts.2.1, parts.2.2.1, parts.2.2.2.1, named, parts.2.2.2.2.2⟩
      versions := ⟨counted.1, counted.2.1, counted.2.2, checkpoint.versions.2.2.2⟩ }
  else .error "checkpoint versions must be non-negative"

@[ext]
structure ReservationRecord where
  (reservationId attemptId : String)
  reservedUnits : Nat
  status : ReservationStatus := .held
  settledUnits : Option Nat := none
  releasedUnits : Nat := 0
  identity : reservationId ≠ "" ∧ attemptId ≠ ""
  settled_fits : ∀ settled ∈ settledUnits, settled ≤ reservedUnits

instance : DecidableEq ReservationRecord := fun _ _ =>
  decidable_of_iff _ ReservationRecord.ext_iff.symm

def ReservationRecord.release (reservation : ReservationRecord) : ReservationRecord :=
  { reservation with status := .released, releasedUnits := reservation.reservedUnits }

def ReservationRecord.settle (reservation : ReservationRecord) (usage : Option Int) :
    Except String ReservationRecord :=
  match usage with
  | none => .error "verified usage does not fit reservation"
  | some actual =>
    if fits : 0 ≤ actual ∧ actual ≤ reservation.reservedUnits then
      .ok { reservation with
        status := .settled, settledUnits := some actual.toNat
        releasedUnits := reservation.reservedUnits - actual.toNat
        settled_fits := by
          intro settled member
          cases Option.mem_some.mp member
          omega }
    else .error "verified usage does not fit reservation"

structure OutboxIntent where
  (eventId jobId stepId attemptId eventType : String)
  publishedAtEpochMs : Option Int := none

structure RecoveryOperation where
  (recoveryId sourceAttemptId : String)
  (recoveryGeneration attemptsUsed attemptLimit deadlineEpochMs : Int)
  lastEvidenceFingerprint : Option String

def RecoveryOperation.automaticRecoveryAvailable (recovery : RecoveryOperation) : Bool :=
  recovery.attemptsUsed < recovery.attemptLimit

structure DurableAgentJobRecord where
  (tenantId jobId currentStepId currentAttemptId : String)
  state : AgentState
  (stateVersion fenceToken : Int)
  leaseOwner : Option String
  leaseExpiryEpochMs : Option Int
  leaseGeneration : Int
  currentCheckpoint : DurableCheckpoint
  reservations : List ReservationRecord
  recoveryOperations : List RecoveryOperation := []
  outboxIntents : List OutboxIntent := []
  auditEvents : List String := []

structure RecoveryRequest where
  (recoveryId tenantId jobId stepId attemptId checkpointId : String)
  expectedState : AgentState
  (expectedStateVersion expectedFenceToken nowEpochMs : Int)
  externalCertainty : ExternalCertainty
  (currentAuthorization originalBindingCurrentlyAllowed : Bool)
  internalRepairRequired : Bool := false
  verifiedEffectUnwanted : Bool := false
  verifiedUsageUnits : Option Int := none

structure DurableRecoveryCandidate where
  (phase status recoveryId tenantId jobId stepId attemptId checkpointId : String)
  expectedState : AgentState
  (expectedStateVersion expectedFenceToken : Int)
  decision : DurableRecoveryDecision
  recoveryReason : String
  nextState : AgentState
  reservationAction : ReservationAction
  outboxAction : OutboxAction
  evidence : List String
  verifiedUsageUnits : Option Int := none
  deriving DecidableEq

variable (request : RecoveryRequest)

def candidate (decision : DurableRecoveryDecision) (status reason : String) (nextState : AgentState)
    (reservationAction : ReservationAction := .noChange) (outboxAction : OutboxAction := .none)
    (evidence : List String := []) : DurableRecoveryCandidate :=
  { phase := "DURABLE_RECOVERY", status
    recoveryId := request.recoveryId, tenantId := request.tenantId, jobId := request.jobId
    stepId := request.stepId, attemptId := request.attemptId, checkpointId := request.checkpointId
    expectedState := request.expectedState, expectedStateVersion := request.expectedStateVersion
    expectedFenceToken := request.expectedFenceToken
    decision
    recoveryReason := reason
    nextState
    reservationAction
    outboxAction
    evidence
    verifiedUsageUnits := request.verifiedUsageUnits }

def RecoveryRequest.identifies (record : DurableAgentJobRecord) : Prop :=
  request.tenantId = record.tenantId ∧ request.jobId = record.jobId ∧
    request.stepId = record.currentStepId ∧ request.attemptId = record.currentAttemptId ∧
    request.checkpointId = record.currentCheckpoint.checkpointId
  deriving Decidable

def RecoveryRequest.upToDate (record : DurableAgentJobRecord) : Prop :=
  request.expectedState = record.state ∧ request.expectedStateVersion = record.stateVersion ∧
    request.expectedFenceToken = record.fenceToken
  deriving Decidable

def unresolvedState (state : AgentState) : AgentState :=
  if state ∈ terminalStates then state else .pendingReconciliation

def decideDurableRecovery (record : DurableAgentJobRecord) (recovery : RecoveryOperation)
    (request : RecoveryRequest) : DurableRecoveryCandidate :=
  if ¬ request.identifies record then
    candidate request .rejectStale "CHECKPOINT_IDENTITY_MISMATCH"
      "recovery identity does not match durable current identity" record.state
      .noChange .none ["reload_authoritative_record"]
  else if ¬ request.upToDate record then
    candidate request .rejectStale "STALE_RECOVERY_SNAPSHOT"
      "state, version, or fence advanced" record.state
      .noChange .none ["conditional_apply_would_affect_zero_rows"]
  else if recovery.automaticRecoveryAvailable = false ∨
      recovery.deadlineEpochMs ≤ request.nowEpochMs then
    candidate request .escalate "BOUNDED_RECOVERY_EXHAUSTED"
      "automatic recovery limit or deadline reached" (unresolvedState record.state)
      .keepHeld .none ["manual_or_operator_owned_follow_up_required"]
  else if request.externalCertainty = .outcomeUnknown then
    candidate request .reconcile "EXTERNAL_OUTCOME_UNKNOWN"
      "query and classify the original operation identity" (unresolvedState record.state)
      .keepHeld .createRecoveryIntent
      ["original_attempt_identity_preserved", "unknown_usage_is_not_zero"]
  else if request.internalRepairRequired then
    candidate request .repair "INTERNAL_DURABLE_REFERENCE_REPAIR"
      "repair internal truth without changing history" record.state
      .noChange .none ["append_only_repair_audit_required"]
  else if request.verifiedEffectUnwanted then
    if ¬ request.currentAuthorization then
      candidate request .blocked "COMPENSATION_NOT_AUTHORIZED"
        "new external effect requires current authorization" record.state
        .noChange .none ["verified_effect_remains_historical_fact"]
    else
      candidate request .compensate "COMPENSATION_CANDIDATE"
        "create a new operation for the unwanted verified effect" record.state
        .noChange .createRecoveryIntent ["source_attempt_not_rewritten"]
  else if request.verifiedUsageUnits.isSome then
    candidate request .settle "VERIFIED_USAGE_SETTLEMENT"
      "settle actual usage and release unused capacity" record.state
      .settleVerified .none ["verified_usage_evidence"]
  else if record.state ∈ terminalStates then
    candidate request .terminalNoop "ALREADY_TERMINAL"
      "terminal Job cannot be reopened by recovery" record.state
      .noChange .none ["terminal_history_preserved"]
  else if ¬ request.originalBindingCurrentlyAllowed then
    if ¬ request.currentAuthorization then
      candidate request .blocked "CURRENT_AUTHORIZATION_REVOKED"
        "old binding is preserved and new planning is blocked" record.state
        .release .none ["old_binding_not_rewritten"]
    else
      candidate request .replan "CURRENT_BINDING_REPLAN_REQUIRED"
        "old binding is no longer valid for new execution" .waiting
        .release .createRecoveryIntent ["old_binding_not_rewritten"]
  else if request.externalCertainty = .definitelyNotDispatched then
    if ¬ request.currentAuthorization then
      candidate request .blocked "CURRENT_AUTHORIZATION_REVOKED"
        "Retry cannot bypass current authorization" record.state .release
    else
      candidate request .retry "SAFE_NEW_ATTEMPT_CANDIDATE"
        "original execution is proven not dispatched" .running
        .release .createRecoveryIntent ["new_attempt_identity_required"]
  else
    candidate request .resume "SAFE_RESUME_CANDIDATE"
      "continue the same identity from committed facts" record.state
      .noChange .none ["immutable_execution_bindings_preserved"]

structure DurableAgentJobStore where
  record : DurableAgentJobRecord
  appliedRecoveryIds : List String := []

section Store

-- `sha256` stands for `hashlib.sha256(text.encode("utf-8")).hexdigest()`.
variable (sha256 : String → String)

def nextCheckpointId (checkpoint : DurableCheckpoint) (recoveryId : String) : String :=
  "checkpoint-" ++ String.ofList ((sha256 ("\x1f".intercalate [checkpoint.checkpointId,
    toString checkpoint.checkpointVersion, recoveryId])).toList.take 20)

namespace DurableRecoveryCandidate

/-- The conditional write: every expected value of the candidate is the record's own. -/
def agrees (candidate : DurableRecoveryCandidate) (current : DurableAgentJobRecord) : Prop :=
  candidate.tenantId = current.tenantId ∧ candidate.jobId = current.jobId ∧
    candidate.stepId = current.currentStepId ∧
    candidate.attemptId = current.currentAttemptId ∧
    candidate.checkpointId = current.currentCheckpoint.checkpointId ∧
    candidate.expectedState = current.state ∧
    candidate.expectedStateVersion = current.stateVersion ∧
    candidate.expectedFenceToken = current.fenceToken
  deriving Decidable

def terminalAllowed : List DurableRecoveryDecision :=
  [.reconcile, .repair, .settle, .compensate, .escalate]

variable (candidate : DurableRecoveryCandidate)

/-- The guards of `apply`, in its order; `none` lets the candidate through. -/
def refusal (store : DurableAgentJobStore) : Option RecoveryApplyStatus :=
  if candidate.recoveryId ∈ store.appliedRecoveryIds then some .duplicateReplay
  else if ¬ candidate.agrees store.record then some .noopStale
  else if store.record.state ∈ terminalStates ∧ candidate.decision ∉ terminalAllowed then
    some .noopTerminal
  else if candidate.decision = .rejectStale ∨ candidate.decision = .terminalNoop then
    some .notApplicable
  else if candidate.decision = .blocked ∧ candidate.reservationAction = .noChange ∧
      candidate.outboxAction = .none then
    some .notApplicable
  else none

def adjust (reservation : ReservationRecord) : Except String ReservationRecord :=
  if reservation.attemptId ≠ candidate.attemptId then .ok reservation
  else match candidate.reservationAction with
    | .release => .ok reservation.release
    | .settleVerified => reservation.settle candidate.verifiedUsageUnits
    | .noChange | .keepHeld => .ok reservation

variable (current : DurableAgentJobRecord)

def intents : List OutboxIntent :=
  if candidate.outboxAction = .createRecoveryIntent then
    [{ eventId := "recovery:" ++ candidate.recoveryId
       jobId := current.jobId, stepId := current.currentStepId
       attemptId := current.currentAttemptId, eventType := candidate.decision.value }]
  else []

def operation : RecoveryOperation :=
  { recoveryId := candidate.recoveryId
    sourceAttemptId := current.currentAttemptId, recoveryGeneration := current.leaseGeneration
    attemptsUsed := 1, attemptLimit := 1, deadlineEpochMs := 0
    lastEvidenceFingerprint := some (sha256 ("\x1f".intercalate candidate.evidence)) }

/-- The record that an admitted candidate writes, or the error its checks raise. -/
def write : Except String DurableAgentJobRecord := do
  let reservations ← current.reservations.mapM candidate.adjust
  let checkpoint := current.currentCheckpoint
  let nextCheckpoint ← checkpoint.replace
    (nextCheckpointId sha256 checkpoint candidate.recoveryId) (checkpoint.checkpointVersion + 1)
    candidate.nextState (current.stateVersion + 1) (current.fenceToken + 1)
    (some checkpoint.checkpointId)
  return { current with
    state := candidate.nextState, stateVersion := current.stateVersion + 1
    fenceToken := current.fenceToken + 1, currentCheckpoint := nextCheckpoint
    reservations
    recoveryOperations := current.recoveryOperations ++ [candidate.operation sha256 current]
    outboxIntents := current.outboxIntents ++ candidate.intents current
    auditEvents := current.auditEvents ++ ["recovery_applied:" ++ candidate.recoveryId] }

end DurableRecoveryCandidate

namespace InMemoryDurableAgentJobStore

def apply (candidate : DurableRecoveryCandidate) (store : DurableAgentJobStore) :
    Except String RecoveryApplyStatus × DurableAgentJobStore :=
  match candidate.refusal store with
  | some status => (.ok status, store)
  | none =>
    match candidate.write sha256 store.record with
    | .error raised => (.error raised, store)
    | .ok record =>
      (.ok .applied, ⟨record, store.appliedRecoveryIds ++ [candidate.recoveryId]⟩)

def takeOverExpiredLease (workerId : String) (nowEpochMs : Int) (store : DurableAgentJobStore) :
    Bool × DurableAgentJobStore :=
  let current := store.record
  match current.leaseExpiryEpochMs with
  | none => (false, store)
  | some expiry =>
    if nowEpochMs < expiry ∨ current.state ∈ terminalStates then (false, store)
    else (true, { store with record := { current with
      leaseOwner := some workerId, leaseExpiryEpochMs := none
      leaseGeneration := current.leaseGeneration + 1, fenceToken := current.fenceToken + 1
      auditEvents := current.auditEvents ++ ["lease_taken_over:" ++ workerId] } })

/-- Whether the worker may write; the evidence reference is kept either way. -/
def acceptResult (workerId : String) (resultFenceToken : Int) (evidenceId : String)
    (store : DurableAgentJobStore) : Bool × DurableAgentJobStore :=
  let current := store.record
  (decide (current.leaseOwner = some workerId ∧ current.fenceToken = resultFenceToken ∧
      current.state ∉ terminalStates),
    { store with record := { current with
      auditEvents := current.auditEvents ++ ["late_or_current_result:" ++ evidenceId] } })

end InMemoryDurableAgentJobStore
end Store
end BackendHandbook.Agents
