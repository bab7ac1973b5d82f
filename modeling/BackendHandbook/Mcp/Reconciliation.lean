import BackendHandbook.Foundation.Threads
import BackendHandbook.Mcp.Boundary

/-! Reconciliation of operations that may have been dispatched: the read-only scheduler, the
store, and the committer that works on it call by call. -/

namespace BackendHandbook.Mcp

open Interleaving

inductive AuthoritativeOperationStatus
  | succeeded | failed | notExecuted | notFound | unknown

/-- The identity that the application owns, for observation and for commit. -/
@[ext]
structure ApplicationOperationBinding where
  (operationId idempotencyKey tenantId resourceId : String)
  complete : operationId ≠ "" ∧ idempotencyKey ≠ "" ∧ tenantId ≠ "" ∧ resourceId ≠ ""

instance : DecidableEq ApplicationOperationBinding := fun _ _ =>
  decidable_of_iff _ ApplicationOperationBinding.ext_iff.symm

/-- The answer of a read-only lookup; not yet a durable fact. -/
structure AuthoritativeResultEvidence where
  binding : ApplicationOperationBinding
  status : AuthoritativeOperationStatus
  evidenceSource : String
  externalObjectId : Option String := none
  evidenceSource_nonEmpty : evidenceSource ≠ ""
  identified : status = .succeeded → externalObjectId.any (· ≠ "") = true

inductive ReconciliationDecisionKind
  | resolvedSucceeded | resolvedFailed | resolvedNotExecuted | stillPending | evidenceConflict
  | notRequired

structure ReconciliationDecision where
  kind : ReconciliationDecisionKind
  binding : ApplicationOperationBinding
  evidenceSource : Option String := none
  externalObjectId : Option String := none

/-- Not found is no proof of non-execution. -/
def AuthoritativeOperationStatus.decision : AuthoritativeOperationStatus →
    ReconciliationDecisionKind
  | .succeeded => .resolvedSucceeded
  | .failed => .resolvedFailed
  | .notExecuted => .resolvedNotExecuted
  | _ => .stillPending

/-- One read-only observation of an unknown outcome. -/
def reconcileOnce (query : ApplicationOperationBinding → AuthoritativeResultEvidence)
    (failure : FailureEvidence) (binding : ApplicationOperationBinding) : ReconciliationDecision :=
  if failure.operationId ≠ binding.operationId ∨
      failure.idempotencyKey ≠ binding.idempotencyKey then
    { kind := .evidenceConflict, binding := binding, evidenceSource := some failure.evidenceSource }
  else if failure.executionCertainty = .provenNotExecuted then
    { kind := .notRequired, binding := binding }
  else
    let observed := query binding
    if observed.binding ≠ binding then
      { kind := .evidenceConflict
        binding := binding, evidenceSource := some observed.evidenceSource }
    else
      { kind := observed.status.decision
        binding := binding, evidenceSource := some observed.evidenceSource
        externalObjectId := observed.externalObjectId }

inductive ReconciledBusinessOutcome
  | succeeded | failed | notExecuted
  deriving DecidableEq

inductive ComplianceOutcome
  | compliant | authorizationViolation | notApplicable

inductive ReconciliationRecordState
  | pendingReconciliation | completed
  deriving DecidableEq

structure ReconciliationRecord where
  binding : ApplicationOperationBinding
  state : ReconciliationRecordState
  version : Int
  businessOutcome : Option ReconciledBusinessOutcome := none
  complianceOutcome : Option ComplianceOutcome := none
  externalObjectId : Option String := none
  evidenceSource : Option String := none

abbrev ReconciliationStore := Dict String ReconciliationRecord

inductive ReconciliationCall
  | addPending (binding : ApplicationOperationBinding)
  | read (operationId : String)
  | compareAndSetCompleted (binding : ApplicationOperationBinding) (expectedVersion : Int)
      (businessOutcome : ReconciledBusinessOutcome) (complianceOutcome : ComplianceOutcome)
      (externalObjectId : Option String) (evidenceSource : String)

abbrev ReconciliationCall.Answer : ReconciliationCall → Type
  | .addPending _ => Except Raised Unit
  | .read _ => Option ReconciliationRecord
  | .compareAndSetCompleted _ _ _ _ _ _ => Option ReconciliationRecord

namespace ReconciliationStore

variable (store : ReconciliationStore) (binding : ApplicationOperationBinding)

def addPending : Except Raised Unit × ReconciliationStore :=
  if (store.lookup binding.operationId).isSome then
    (.error (.valueError "operation is already registered"), store)
  else
    (.ok (), store.insert binding.operationId
      { binding := binding, state := .pendingReconciliation, version := 1 })

def compareAndSetCompleted (expectedVersion : Int) (businessOutcome : ReconciledBusinessOutcome)
    (complianceOutcome : ComplianceOutcome) (externalObjectId : Option String)
    (evidenceSource : String) : Option ReconciliationRecord × ReconciliationStore :=
  match store.lookup binding.operationId with
  | none => (none, store)
  | some current =>
    if current.binding ≠ binding ∨ current.state ≠ .pendingReconciliation ∨
        current.version ≠ expectedVersion then (none, store)
    else
      let updated := { current with
        state := .completed, version := current.version + 1, businessOutcome := some businessOutcome
        complianceOutcome := some complianceOutcome, externalObjectId := externalObjectId
        evidenceSource := some evidenceSource }
      (some updated, store.insert binding.operationId updated)

def perform : (call : ReconciliationCall) → ReconciliationStore → call.Answer × ReconciliationStore
  | .addPending binding, store => addPending store binding
  | .read operationId, store => (store.lookup operationId, store)
  | .compareAndSetCompleted binding expectedVersion businessOutcome complianceOutcome
      externalObjectId evidenceSource, store =>
    compareAndSetCompleted store binding expectedVersion businessOutcome complianceOutcome
      externalObjectId evidenceSource

end ReconciliationStore

inductive ReconciliationCommitOutcome
  | committed | proposalNotResolved | bindingConflict | stateConflict | versionConflict
  | casConflict
  deriving DecidableEq

structure ReconciliationCommitResult where
  outcome : ReconciliationCommitOutcome
  record : Option ReconciliationRecord := none
  durableTransition : Bool := false

def ReconciliationDecisionKind.businessOutcome : ReconciliationDecisionKind →
    Option ReconciledBusinessOutcome
  | .resolvedSucceeded => some .succeeded
  | .resolvedFailed => some .failed
  | .resolvedNotExecuted => some .notExecuted
  | _ => none

def complianceOutcome (outcome : ReconciledBusinessOutcome) (authorizationValidAtEffect : Bool) :
    ComplianceOutcome :=
  if outcome = .notExecuted then .notApplicable
  else if authorizationValidAtEffect then .compliant
  else .authorizationViolation

def commitRefusal (binding : ApplicationOperationBinding) (expectedVersion : Int)
    (current : Option ReconciliationRecord) : Option ReconciliationCommitOutcome :=
  match current with
  | none => some .bindingConflict
  | some record =>
    if record.binding ≠ binding then some .bindingConflict
    else if record.state ≠ .pendingReconciliation then some .stateConflict
    else if record.version ≠ expectedVersion then some .versionConflict
    else none

inductive ReconciliationFinished
  | registered (answer : Except Raised Unit)
  | committed (result : ReconciliationCommitResult)

abbrev ReconciliationProgram :=
  Program ReconciliationCall ReconciliationCall.Answer Empty (fun _ => Empty)
    ReconciliationFinished

variable (proposal : ReconciliationDecision) (expectedVersion : Int)
  (authorizationValidAtEffect : Bool)

/-- The compare-and-set of a commit whose snapshot was in order. -/
def completeRecord (outcome : ReconciledBusinessOutcome)
    (source : String) : ReconciliationProgram :=
  .call (.compareAndSetCompleted proposal.binding expectedVersion outcome
      (complianceOutcome outcome authorizationValidAtEffect) proposal.externalObjectId source) fun
    | none => .done (.committed { outcome := .casConflict })
    | some updated => .done (.committed
        { outcome := .committed, record := some updated, durableTransition := true })

/-- `ReconciliationCommitter.commit`: a snapshot, then a compare-and-set. -/
def commit : ReconciliationProgram :=
  match proposal.kind.businessOutcome, proposal.evidenceSource with
  | some outcome, some source =>
    .call (.read proposal.binding.operationId) fun current =>
      match commitRefusal proposal.binding expectedVersion current with
      | some refused => .done (.committed { outcome := refused })
      | none => completeRecord proposal expectedVersion authorizationValidAtEffect outcome source
  | _, _ => .done (.committed { outcome := .proposalNotResolved })

/-- A committed fact as retry input, never as a retry command. -/
def authoritativeNotExecutedEvidence (committed : ReconciliationCommitResult)
    (originalFailure : FailureEvidence) : Except Raised FailureEvidence :=
  match committed.record with
  | none => .error (.valueError "committed NOT_EXECUTED fact is required")
  | some record =>
    match record.evidenceSource with
    | none => .error (.valueError "committed NOT_EXECUTED fact is required")
    | some source =>
      if committed.outcome ≠ .committed ∨ record.businessOutcome ≠ some .notExecuted then
        .error (.valueError "committed NOT_EXECUTED fact is required")
      else if originalFailure.operationId ≠ record.binding.operationId ∨
          originalFailure.idempotencyKey ≠ record.binding.idempotencyKey then
        .error (.valueError "original failure does not match reconciled binding")
      else if nonEmpty : source ≠ "" then
        .ok
          { operationId := record.binding.operationId
            idempotencyKey := record.binding.idempotencyKey
            protocolRequestId := originalFailure.protocolRequestId
            attemptNumber := originalFailure.attemptNumber, phase := .reconciliation
            kind := .authoritativeNotExecuted
            dispatchCertainty := originalFailure.dispatchCertainty
            executionCertainty := .provenNotExecuted, evidenceSource := source
            operationId_nonEmpty := record.binding.complete.1
            idempotencyKey_nonEmpty := record.binding.complete.2.1
            attempt_pos := originalFailure.attempt_pos, evidenceSource_nonEmpty := nonEmpty
            unsent := fun _ => rfl }
      else .error (.valueError "evidence_source must not be empty")

end BackendHandbook.Mcp
