import BackendHandbook.Agents.DurableJobs
import BackendHandbook.Foundation.Dict
import BackendHandbook.Foundation.Text

/-! Human control over one action of a durable job: a pure decision, one apply boundary and
a local dispatch claim.

Facts and principals are trusted inputs. The digests of the source are the functions of
`Fingerprints`. -/

namespace BackendHandbook.Agents

open Text

inductive ApprovalStatus
  | notRequired | pending | approved | rejected | expired | revoked | superseded | cancelled
  | conflict
  deriving DecidableEq

def ApprovalStatus.value : ApprovalStatus → String
  | .notRequired => "NOT_REQUIRED"
  | .pending => "PENDING"
  | .approved => "APPROVED"
  | .rejected => "REJECTED"
  | .expired => "EXPIRED"
  | .revoked => "REVOKED"
  | .superseded => "SUPERSEDED"
  | .cancelled => "CANCELLED"
  | .conflict => "CONFLICT"

def closedApprovals : List ApprovalStatus :=
  [.rejected, .expired, .revoked, .superseded, .cancelled, .conflict]

inductive Risk
  | low | high
  deriving DecidableEq

inductive Operation
  | decision | gate | interrupt | observeCancel | recover | lateResult | invalidate
  deriving DecidableEq

inductive InvocationGovernanceStatus
  | allowedToDay74Admission | originalSnapshotMismatch | originalToolNotVisible
  | currentPermissionRevoked | currentRegistryBlocked | schemaBindingMismatch
  deriving DecidableEq

structure Principal where
  (tenantId actorId role : String)
  authenticated : Bool
  permissions : List String
  deriving DecidableEq

structure ActionBinding where
  (tenantId jobId stepId attemptId operationId actionType toolName toolVersion argumentsFingerprint
   artifactId artifactVersion requesterId policyId policyVersion : String)
  risk : Risk
  executionBindingFingerprint : String
  deriving DecidableEq

/-- The texts of `asdict(action)`; the value of the risk is never empty. -/
def ActionBinding.values (action : ActionBinding) : List String :=
  [action.tenantId, action.jobId, action.stepId, action.attemptId, action.operationId,
    action.actionType, action.toolName, action.toolVersion, action.argumentsFingerprint,
    action.artifactId, action.artifactVersion, action.requesterId, action.policyId,
    action.policyVersion, action.executionBindingFingerprint]

structure ApprovalRequest where
  requestId : String
  binding : ActionBinding
  (requestedAt respondBy expiresAt : Int)
  eligibleRoles : List String
  separationRequired : Bool
  (issuedStateVersion issuedFence : Int)
  supersedes : Option String := none

structure ApprovalDecision where
  (decisionId requestId bindingFingerprint actorId tenantId : String)
  choice : ApprovalStatus
  decidedAt : Int
  reasonCode : String
  deriving DecidableEq

structure CurrentFacts where
  (executor approver : Principal)
  policyAvailable : Bool
  (policyId policyVersion : String)
  (policyQuarantined approvalRequired : Bool)
  governance : InvocationGovernanceStatus
  (admissionAllowed businessValid budgetAllowed : Bool)
  certainty : ExternalCertainty
  recovery : RecoveryOperation
  policyWaitDeadline : Int
  (owner fallbackOwner : Principal)
  ownerAvailable : Bool
  escalationDeadline : Int
  verifiedUsage : Option Int := none
  outcomeEvidenceId : Option String := none

structure Command where
  commandId : String
  operation : Operation
  actor : Principal
  expectedState : AgentState
  (expectedStateVersion expectedFence : Int)
  decision : Option ApprovalDecision := none
  invalidateTo : Option ApprovalStatus := none
  evidenceId : Option String := none
  sourceAttemptId : Option String := none
  sourceOperationId : Option String := none
  sourceFence : Option Int := none
  deriving DecidableEq

structure Escalation where
  (escalationId tenantId attemptId operationId : String)
  ownerId : Option String
  (reason priority : String)
  deadline : Int
  alertStatus : String
  evidence : List String
  deriving DecidableEq

structure Snapshot where
  job : DurableAgentJobRecord
  action : ActionBinding
  request : ApprovalRequest
  approval : ApprovalStatus := .pending
  decisions : List ApprovalDecision := []
  decisionEvidence : List ApprovalDecision := []
  interruptId : Option String := none
  cancellationObservedBy : List String := []
  dispatchStarted : Bool := false
  claimedEvents : List String := []
  escalations : List Escalation := []
  checkpointHistory : List DurableCheckpoint := []

structure HumanControlCandidate where
  (phase snapshotFingerprint : String)
  command : Command
  status : String
  nextState : AgentState
  approvalStatus : ApprovalStatus
  executionAllowed : Bool
  reservationAction : ReservationAction
  (outboxAction followUp : String)
  (authorizationResult separationResult : Bool)
  evidence : List String
  escalation : Option Escalation := none
  recoveryCandidate : Option DurableRecoveryCandidate := none
  deriving DecidableEq

/-- `fingerprint` at the values the module hashes: records as `asdict`, and lists of texts. -/
structure Fingerprints where
  action : ActionBinding → String
  decision : ApprovalDecision → String
  snapshot : Snapshot → String
  bindings : ExecutionBindings → String
  texts : List String → String

def permitted (principal : Principal) (tenant permission : String) : Bool :=
  principal.authenticated && principal.tenantId == tenant &&
    principal.permissions.contains permission

namespace HumanControl

section Decide

variable (prints : Fingerprints) (snapshot : Snapshot) (command : Command)
  (facts : CurrentFacts) (now : Int)

def authz : Bool :=
  permitted facts.executor snapshot.action.tenantId snapshot.action.actionType &&
    facts.executor.actorId == snapshot.action.requesterId

def sod : Bool :=
  !snapshot.request.separationRequired || facts.approver.actorId != snapshot.action.requesterId

/-- The answer that only names its status; the branches set what differs. -/
def result (status : String) : HumanControlCandidate :=
  { phase := "HUMAN_CONTROL", snapshotFingerprint := prints.snapshot snapshot, command, status
    nextState := snapshot.job.state, approvalStatus := snapshot.approval, executionAllowed := false
    reservationAction := .noChange, outboxAction := "NONE", followUp := "NONE"
    authorizationResult := authz snapshot facts, separationResult := sod snapshot facts
    evidence := [] }

/-- An answer with evidence and nothing else. -/
def noted (status : String) (evidence : List String) : HumanControlCandidate :=
  { result prints snapshot command facts status with evidence }

def escalate (reason : String) (state : AgentState) (approval : ApprovalStatus)
    (recovery : Option DurableRecoveryCandidate) (evidence : List String) : HumanControlCandidate :=
  let owner := if facts.ownerAvailable then facts.owner else facts.fallbackOwner
  let ownerOk := permitted owner snapshot.action.tenantId "operate"
  if facts.escalationDeadline ≤ now then
    result prints snapshot command facts "INVALID_ESCALATION_DEADLINE"
  else
    let extra := if facts.ownerAvailable then [] else ["OWNER_UNAVAILABLE"]
    { result prints snapshot command facts ("ESCALATE_" ++ reason) with
      nextState := state, approvalStatus := approval
      reservationAction := if facts.certainty = .outcomeUnknown then .keepHeld else .noChange
      outboxAction := "ESCALATION_ALERT", followUp := "OPERATOR_REVIEW"
      evidence := evidence ++ extra
      escalation := some
        { escalationId := "escalation:" ++ command.commandId
          tenantId := snapshot.action.tenantId, attemptId := snapshot.action.attemptId
          operationId := snapshot.action.operationId
          ownerId := if ownerOk then some owner.actorId else none
          reason
          priority := "HIGH", deadline := facts.escalationDeadline
          alertStatus := if ownerOk then "PENDING" else "UNROUTABLE"
          evidence := evidence ++ extra }
      recoveryCandidate := recovery }

/-- The inputs are well formed; what the types rule out has no test here. -/
def wellFormed : Prop :=
  command.commandId ≠ "" ∧ 0 ≤ now ∧ snapshot.request.requestId ≠ "" ∧
    0 ≤ snapshot.request.requestedAt ∧
    snapshot.request.requestedAt ≤ snapshot.request.respondBy ∧
    snapshot.request.respondBy ≤ snapshot.request.expiresAt ∧
    ∀ value ∈ snapshot.action.values, value ≠ ""

instance : Decidable (wellFormed snapshot command now) := by
  unfold wellFormed
  infer_instance

def bindingHolds : Prop :=
  snapshot.job.tenantId = snapshot.action.tenantId ∧ snapshot.job.jobId = snapshot.action.jobId ∧
    snapshot.job.currentStepId = snapshot.action.stepId ∧
    snapshot.job.currentAttemptId = snapshot.action.attemptId ∧
    snapshot.action.executionBindingFingerprint =
      prints.bindings snapshot.job.currentCheckpoint.bindings

instance : Decidable (bindingHolds prints snapshot) := by
  unfold bindingHolds
  infer_instance

/-- Evidence collection is separate from the write authority of the old worker. -/
def decideLateResult : HumanControlCandidate :=
  if ¬ truthy command.evidenceId ∨ command.sourceAttemptId ≠ some snapshot.action.attemptId ∨
      command.sourceOperationId ≠ some snapshot.action.operationId then
    result prints snapshot command facts "RESULT_IDENTITY_MISMATCH"
  else
    let stale := command.sourceFence ≠ some snapshot.job.fenceToken ∨
      some command.actor.actorId ≠ snapshot.job.leaseOwner ∨
      snapshot.job.state ∈ terminalStates
    { result prints snapshot command facts
        (if stale then "STALE_RESULT_EVIDENCE" else "RESULT_EVIDENCE") with
      evidence := ["original_identity_evidence", command.evidenceId.getD ""]
      followUp := "VERIFY_ORIGINAL_RESULT" }

/-- The identity of a callback, settled before its lifecycle; `none` lets it through. -/
def decideCallback : Option HumanControlCandidate :=
  match command.decision with
  | none => some (result prints snapshot command facts "INVALID_DECISION")
  | some decision =>
    if decision.decisionId = "" ∨ (decision.choice ≠ .approved ∧ decision.choice ≠ .rejected) then
      some (result prints snapshot command facts "INVALID_DECISION")
    else if ¬ permitted command.actor snapshot.action.tenantId "approve" ∨
        command.actor.actorId ≠ decision.actorId ∨
        command.actor.tenantId ≠ decision.tenantId ∨ command.actor ≠ facts.approver then
      some (result prints snapshot command facts "APPROVER_NOT_AUTHORIZED")
    else
      match snapshot.decisions.find? (·.decisionId = decision.decisionId) with
      | none => none
      | some previous =>
        if previous = decision then
          some (noted prints snapshot command facts "DUPLICATE_DECISION"
            ["duplicate_no_business_effect"])
        else
          some (escalate prints snapshot command facts now "DECISION_IDENTITY_CONFLICT"
            snapshot.job.state .conflict none
            [prints.decision previous, prints.decision decision])

/-- The recovery operation in force: the last recorded one of the attempt, or the given. -/
def recoveryInForce (job : DurableAgentJobRecord) (attemptId : String)
    (given : RecoveryOperation) : RecoveryOperation :=
  ((job.recoveryOperations.filter (·.sourceAttemptId = attemptId)).getLast?).getD given

def attemptReservations : List ReservationRecord :=
  snapshot.job.reservations.filter (·.attemptId = snapshot.action.attemptId)

def recoveryRequest : RecoveryRequest :=
  { recoveryId := command.commandId
    tenantId := snapshot.action.tenantId, jobId := snapshot.action.jobId
    stepId := snapshot.action.stepId, attemptId := snapshot.action.attemptId
    checkpointId := snapshot.job.currentCheckpoint.checkpointId, expectedState := snapshot.job.state
    expectedStateVersion := snapshot.job.stateVersion, expectedFenceToken := snapshot.job.fenceToken
    nowEpochMs := now, externalCertainty := facts.certainty
    currentAuthorization := authz snapshot facts
    originalBindingCurrentlyAllowed := !facts.policyQuarantined
    verifiedUsageUnits := facts.verifiedUsage }

/-- The bounded recovery of an attempt that may have been dispatched. -/
def decideReconciliation (recovery : RecoveryOperation) : HumanControlCandidate :=
  if facts.certainty = .definitelyNotDispatched then
    result prints snapshot command facts "NO_EXTERNAL_OPERATION_TO_RECONCILE"
  else
    let candidate := decideDurableRecovery snapshot.job recovery
      (recoveryRequest snapshot command facts now)
    if candidate.decision = .escalate then
      escalate prints snapshot command facts now "BOUNDED_RECOVERY_EXHAUSTED"
        candidate.nextState snapshot.approval (some candidate) ["original_identity_preserved"]
    else if candidate.decision = .reconcile then
      { result prints snapshot command facts "RECONCILE" with
        nextState := candidate.nextState, reservationAction := .keepHeld
        outboxAction := "RECONCILIATION_QUERY", followUp := "RECONCILE_ORIGINAL_OPERATION"
        evidence := ["original_identity_preserved"], recoveryCandidate := some candidate }
    else if candidate.decision = .settle then
      { result prints snapshot command facts "SETTLE" with
        reservationAction := .settleVerified, evidence := ["verified_usage"]
        recoveryCandidate := some candidate }
    else result prints snapshot command facts "RECOVERY_NO_NEW_BUSINESS_EXECUTION"

/-- A verified usage is settled once, under an authorization window of its own. -/
def decideSettlement (recovery : RecoveryOperation) (usage : Int) : HumanControlCandidate :=
  if facts.certainty ≠ .verifiedTerminal ∨ ¬ truthy facts.outcomeEvidenceId then
    result prints snapshot command facts "USAGE_EVIDENCE_REQUIRED"
  else
    match attemptReservations snapshot with
    | [reservation] =>
      if usage < 0 ∨ (reservation.reservedUnits : Int) < usage then
        result prints snapshot command facts "INVALID_VERIFIED_USAGE"
      else
        match reservation.status with
        | .settled =>
          if reservation.settledUnits.map Int.ofNat = some usage then
            result prints snapshot command facts "SETTLEMENT_ALREADY_RECORDED"
          else
            escalate prints snapshot command facts now "SETTLEMENT_CONFLICT"
              snapshot.job.state snapshot.approval none ["settled_usage_not_rewritten"]
        | .released =>
          escalate prints snapshot command facts now "SETTLEMENT_RESERVATION_CONFLICT"
            snapshot.job.state snapshot.approval none []
        | .held =>
          decideReconciliation prints snapshot command facts now
            { recoveryId := "settlement:" ++ command.commandId
              sourceAttemptId := snapshot.action.attemptId
              recoveryGeneration := recovery.recoveryGeneration, attemptsUsed := 0
              attemptLimit := 1, deadlineEpochMs := now + 1
              lastEvidenceFingerprint := facts.outcomeEvidenceId }
    | _ => result prints snapshot command facts "INVALID_VERIFIED_USAGE"

def decideRecover : HumanControlCandidate :=
  let recovery := recoveryInForce snapshot.job snapshot.action.attemptId facts.recovery
  if ¬ permitted command.actor snapshot.action.tenantId "operate" ∨
      recovery.sourceAttemptId ≠ snapshot.action.attemptId ∨ recovery.attemptsUsed < 0 ∨
      recovery.attemptLimit < 1 then
    result prints snapshot command facts "RECOVERY_NOT_AUTHORIZED"
  else
    match facts.verifiedUsage with
    | some usage => decideSettlement prints snapshot command facts now recovery usage
    | none => decideReconciliation prints snapshot command facts now recovery

def decideObserveCancel : HumanControlCandidate :=
  if ¬ truthy snapshot.interruptId then
    result prints snapshot command facts "NO_CANCELLATION_REQUEST"
  else
    noted prints snapshot command facts "CANCELLATION_OBSERVED"
      ["worker_observed_not_external_absence"]

/-- The attempt was neither claimed here nor possibly dispatched elsewhere. -/
def unused : Bool := !snapshot.dispatchStarted && facts.certainty == .definitelyNotDispatched

def decideInterrupt : HumanControlCandidate :=
  if ¬ permitted command.actor snapshot.action.tenantId "interrupt" then
    result prints snapshot command facts "INTERRUPT_NOT_AUTHORIZED"
  else if truthy snapshot.interruptId then
    result prints snapshot command facts "DUPLICATE_INTERRUPT"
  else
    { result prints snapshot command facts
        (if unused snapshot facts then "INTERRUPTED_PRE_DISPATCH"
          else "INTERRUPTED_POST_DISPATCH") with
      nextState :=
        if snapshot.job.state ∈ terminalStates then snapshot.job.state
        else if unused snapshot facts then .cancelled
        else .pendingReconciliation
      reservationAction := if unused snapshot facts then .release else .keepHeld
      followUp :=
        if unused snapshot facts then "NONE" else "CANCELLATION_REQUEST_AND_RECONCILIATION"
      evidence := ["interrupt_is_not_external_absence"] }

def decideInvalidate : HumanControlCandidate :=
  match command.invalidateTo with
  | none => result prints snapshot command facts "INVALID_LIFECYCLE_CHANGE"
  | some target =>
    if ¬ permitted command.actor snapshot.action.tenantId "operate" ∨
        target ∉ [ApprovalStatus.revoked, .superseded, .cancelled] then
      result prints snapshot command facts "INVALID_LIFECYCLE_CHANGE"
    else
      { result prints snapshot command facts ("APPROVAL_" ++ target.value) with
        approvalStatus := target, evidence := ["approval_history_preserved"] }

def decideDecision (decision : ApprovalDecision) : HumanControlCandidate :=
  if decision.requestId ≠ snapshot.request.requestId ∨
      decision.bindingFingerprint ≠ prints.action snapshot.action then
    result prints snapshot command facts "DECISION_BINDING_MISMATCH"
  else if ¬ (snapshot.request.requestedAt ≤ decision.decidedAt ∧ decision.decidedAt ≤ now) ∨
      snapshot.request.expiresAt ≤ decision.decidedAt then
    result prints snapshot command facts "DECISION_TIME_INVALID"
  else if command.actor.role ∉ snapshot.request.eligibleRoles ∨ ¬ sod snapshot facts then
    result prints snapshot command facts "APPROVER_POLICY_REJECTED"
  else if snapshot.decisions ≠ [] then
    escalate prints snapshot command facts now "CONFLICTING_HUMAN_DECISION" snapshot.job.state
      .conflict none ["original_decision_preserved"]
  else
    { result prints snapshot command facts "DECISION_RECORDED" with
      approvalStatus := decision.choice, evidence := ["human_decision_not_dispatch"] }

def held : Bool :=
  snapshot.job.reservations.any fun reservation =>
    reservation.attemptId == snapshot.action.attemptId && reservation.status == .held

/-- The recorded decision that the approver of today stands behind. -/
def approvedBy (approved : ApprovalDecision) : Prop :=
  approved.choice = .approved ∧ approved.bindingFingerprint = prints.action snapshot.action ∧
    approved.requestId = snapshot.request.requestId ∧
    approved.actorId = facts.approver.actorId ∧
    permitted facts.approver snapshot.action.tenantId "approve" = true ∧
    facts.approver.role ∈ snapshot.request.eligibleRoles ∧ sod snapshot facts = true

instance (approved : ApprovalDecision) : Decidable (approvedBy prints snapshot facts approved) := by
  unfold approvedBy
  infer_instance

def executionCandidate : HumanControlCandidate :=
  { result prints snapshot command facts "EXECUTION_CANDIDATE" with
    nextState := .running
    approvalStatus := if facts.approvalRequired then snapshot.approval else .notRequired
    executionAllowed := true, outboxAction := "PUBLISH"
    evidence := ["current_guards_passed_candidate_only"] }

def decideApproved : HumanControlCandidate :=
  if facts.approvalRequired then
    if snapshot.approval ≠ .approved then
      if snapshot.request.respondBy ≤ now then
        escalate prints snapshot command facts now "APPROVAL_OVERDUE" .waiting
          snapshot.approval none []
      else
        { result prints snapshot command facts "APPROVAL_PENDING" with
          nextState := .waiting, outboxAction := "APPROVAL_REQUEST" }
    else
      match snapshot.decisions with
      | [] => result prints snapshot command facts "APPROVAL_EVIDENCE_MISSING"
      | approved :: _ =>
        if ¬ approvedBy prints snapshot facts approved then
          result prints snapshot command facts "CURRENT_APPROVER_INVALID"
        else executionCandidate prints snapshot command facts
  else executionCandidate prints snapshot command facts

/-- Execution and human approval are authorized separately. -/
def decideExecution : HumanControlCandidate :=
  if ¬ authz snapshot facts then
    { result prints snapshot command facts "AUTHORIZATION_REVOKED" with
      reservationAction := if unused snapshot facts then .release else .keepHeld }
  else if facts.governance ≠ .allowedToDay74Admission then
    result prints snapshot command facts "TOOL_GOVERNANCE_BLOCKED"
  else if ¬ facts.businessValid then
    result prints snapshot command facts "BUSINESS_VALIDATION_FAILED"
  else if ¬ facts.admissionAllowed then
    result prints snapshot command facts "TOOL_ADMISSION_BLOCKED"
  else if ¬ facts.budgetAllowed then
    result prints snapshot command facts "BUDGET_BLOCKED"
  else if snapshot.dispatchStarted then
    result prints snapshot command facts "ALREADY_DISPATCH_CLAIMED"
  else if facts.certainty ≠ .definitelyNotDispatched then
    result prints snapshot command facts "EXTERNAL_OPERATION_ALREADY_POSSIBLE"
  else if ¬ held snapshot then
    result prints snapshot command facts "RESERVATION_NOT_HELD"
  else decideApproved prints snapshot command facts now

/-- The guards that a decision and a gate share, then what each of them asks for. -/
def decideGate : HumanControlCandidate :=
  if snapshot.job.state ∈ terminalStates then
    noted prints snapshot command facts "TERMINAL_NOOP" ["terminal_not_reopened"]
  else if truthy snapshot.interruptId then
    result prints snapshot command facts "INTERRUPT_BLOCKED"
  else if snapshot.approval ∈ closedApprovals then
    result prints snapshot command facts ("APPROVAL_" ++ snapshot.approval.value)
  else if snapshot.request.binding ≠ snapshot.action then
    noted prints snapshot command facts "APPROVAL_BINDING_MISMATCH" ["new_request_required"]
  else if snapshot.request.expiresAt ≤ now ∧ facts.approvalRequired then
    { noted prints snapshot command facts "APPROVAL_EXPIRED" ["no_silent_renewal"] with
      approvalStatus := .expired }
  else if facts.policyQuarantined then
    noted prints snapshot command facts "POLICY_QUARANTINED" ["old_binding_preserved"]
  else if ¬ facts.policyAvailable then
    if facts.policyWaitDeadline ≤ now then
      escalate prints snapshot command facts now "APPROVAL_POLICY_UNAVAILABLE" .waiting
        snapshot.approval none ["POLICY_WAIT_DEADLINE_EXCEEDED"]
    else
      { result prints snapshot command facts "POLICY_UNAVAILABLE" with nextState := .waiting }
  else if facts.policyId ≠ snapshot.action.policyId ∨
      facts.policyVersion ≠ snapshot.action.policyVersion then
    result prints snapshot command facts "POLICY_BINDING_MISMATCH"
  else if snapshot.action.risk = .high ∧ ¬ facts.approvalRequired then
    result prints snapshot command facts "RISK_POLICY_CONFLICT"
  else
    match command.operation, command.decision with
    | .decision, some decision =>
      decideDecision prints snapshot command facts now decision
    | _, _ => decideExecution prints snapshot command facts now

def upToDate : Prop :=
  command.expectedState = snapshot.job.state ∧
    command.expectedStateVersion = snapshot.job.stateVersion ∧
    command.expectedFence = snapshot.job.fenceToken
  deriving Decidable

/-- What a command asks for once its versions are those of the job. -/
def decideOperation : HumanControlCandidate :=
  if ¬ upToDate snapshot command then
    noted prints snapshot command facts "STALE_CANDIDATE" ["reload_current_facts"]
  else match command.operation with
    | .recover => decideRecover prints snapshot command facts now
    | .observeCancel => decideObserveCancel prints snapshot command facts
    | .interrupt => decideInterrupt prints snapshot command facts
    | .invalidate => decideInvalidate prints snapshot command facts
    | .decision | .gate | .lateResult => decideGate prints snapshot command facts now

end Decide
end HumanControl

open HumanControl in
def decideHumanControl (prints : Fingerprints) (snapshot : Snapshot) (command : Command)
    (facts : CurrentFacts) (now : Int) : HumanControlCandidate :=
  if ¬ wellFormed snapshot command now then
    noted prints snapshot command facts "INVALID_FACTS" ["fail_closed"]
  else if ¬ permitted command.actor snapshot.action.tenantId "control" then
    result prints snapshot command facts "CONTROL_NOT_AUTHORIZED"
  else if ¬ bindingHolds prints snapshot then
    result prints snapshot command facts "EXECUTION_BINDING_MISMATCH"
  else match command.operation with
    | .lateResult => decideLateResult prints snapshot command facts
    | .decision =>
      (decideCallback prints snapshot command facts now).getD
        (decideOperation prints snapshot command facts now)
    | _ => decideOperation prints snapshot command facts now

end BackendHandbook.Agents
