import BackendHandbook.Foundation.Protocols
import BackendHandbook.Mcp.Capstone

/-! The orchestrator: gates, one durable claim, one transport call, the checks on its result, and
the commit. Each function is a program over single calls on the store and on the transport. -/

namespace BackendHandbook.Mcp

open Agents (ApprovalDecision ApprovalRequest ApprovalStatus)
open Interleaving

def ExecutionCertainty.value : ExecutionCertainty → String
  | .provenNotExecuted => "PROVEN_NOT_EXECUTED"
  | .possiblyExecuted => "POSSIBLY_EXECUTED"
  | .provenExecuted => "PROVEN_EXECUTED"

def DispatchCertainty.value : DispatchCertainty → String
  | .provenNotSent => "PROVEN_NOT_SENT"
  | .possiblySent => "POSSIBLY_SENT"
  | .provenSent => "PROVEN_SENT"

def FailureKind.value : FailureKind → String
  | .connectTimeout => "CONNECT_TIMEOUT"
  | .transportUnavailable => "TRANSPORT_UNAVAILABLE"
  | .sendFailure => "SEND_FAILURE"
  | .readTimeout => "READ_TIMEOUT"
  | .connectionLost => "CONNECTION_LOST"
  | .dispatchOwnerLost => "DISPATCH_OWNER_LOST"
  | .callerCancelled => "CALLER_CANCELLED"
  | .jwksRefreshFailed => "JWKS_REFRESH_FAILED"
  | .capacityRejected => "CAPACITY_REJECTED"
  | .unverifiedRemoteFailure => "UNVERIFIED_REMOTE_FAILURE"
  | .circuitOpen => "CIRCUIT_OPEN"
  | .unsupportedVersion => "UNSUPPORTED_VERSION"
  | .authoritativeNotExecuted => "AUTHORITATIVE_NOT_EXECUTED"

inductive RemoteResponseCorrelationOutcome
  | matched | staleGeneration | unknownRequest | alreadyCompleted
  deriving DecidableEq

structure RemoteResponseCorrelation where
  outcome : RemoteResponseCorrelationOutcome
  binding : Option RemoteRequestBinding := none

/-- Untrusted application content of a correlated result. -/
structure CapstoneToolResultCandidate where
  (operationId tenantId resourceId toolName externalObjectId : String)

/-- A validated success; only a committer may persist it. -/
structure CapstoneSuccessTransitionProposal where
  (operationId idempotencyKey tenantId resourceId toolName : String)
  attemptNumber : Int
  protocolRequestId : RequestId
  transportGeneration : Int
  externalObjectId : String

inductive CapstoneCandidateOutcome
  | correlationRejected | protocolRejected | outputRejected | transitionProposalReady
  deriving DecidableEq

structure CapstoneCandidateDecision where
  outcome : CapstoneCandidateOutcome
  safeReason : String
  proposal : Option CapstoneSuccessTransitionProposal
  protocolValidationCalls : Nat := 0
  outputValidationCalls : Nat := 0
  carries : outcome = .transitionProposalReady ↔ proposal.isSome = true

def evaluateCandidate (identity : CapstoneOperationIdentity) (expectedToolName : String)
    (expectedAttempt : RemoteRequestBinding) (correlation : RemoteResponseCorrelation)
    (observation : ProtocolObservation) (candidate : CapstoneToolResultCandidate) :
    CapstoneCandidateDecision :=
  if correlation.outcome ≠ .matched ∨ correlation.binding ≠ some expectedAttempt ∨
      expectedAttempt.operationId ≠ identity.operationId ∨
      expectedAttempt.idempotencyKey ≠ identity.idempotencyKey then
    { outcome := .correlationRejected
      safeReason := "RESPONSE_NOT_BOUND_TO_CURRENT_ATTEMPT_AND_GENERATION", proposal := none
      carries := by simp }
  else if observation.outcome ≠ .protocolResult ∨
      observation.protocolRequestId ≠ some expectedAttempt.key.protocolRequestId ∨
      observation.applicationOperationId ≠ some identity.operationId then
    { outcome := .protocolRejected
      safeReason := "PROTOCOL_OBSERVATION_NOT_A_MATCHED_RESULT", proposal := none
      protocolValidationCalls := 1
      carries := by simp }
  else if candidate.operationId ≠ identity.operationId ∨ candidate.tenantId ≠ identity.tenantId ∨
      candidate.resourceId ≠ identity.resourceId ∨ candidate.toolName ≠ expectedToolName ∨
      candidate.externalObjectId = "" then
    { outcome := .outputRejected
      safeReason := "CANDIDATE_OUTPUT_DOES_NOT_MATCH_APPLICATION_BINDING", proposal := none
      protocolValidationCalls := 1, outputValidationCalls := 1
      carries := by simp }
  else
    { outcome := .transitionProposalReady
      safeReason := "CORRELATED_AND_VALIDATED_CANDIDATE_REQUIRES_COMMITTER"
      proposal := some
        { operationId := identity.operationId
          idempotencyKey := identity.idempotencyKey, tenantId := identity.tenantId
          resourceId := identity.resourceId, toolName := expectedToolName
          attemptNumber := expectedAttempt.attemptNumber
          protocolRequestId := expectedAttempt.key.protocolRequestId
          transportGeneration := expectedAttempt.key.transportGeneration
          externalObjectId := candidate.externalObjectId }
      protocolValidationCalls := 1, outputValidationCalls := 1
      carries := by simp }

inductive CapstoneCommitOutcome
  | committed | alreadyCommitted | proposalNotReady | bindingConflict | attemptConflict
  | stateConflict | versionConflict | fenceConflict | casConflict
  deriving DecidableEq

def CapstoneCommitOutcome.value : CapstoneCommitOutcome → String
  | .committed => "COMMITTED"
  | .alreadyCommitted => "ALREADY_COMMITTED"
  | .proposalNotReady => "PROPOSAL_NOT_READY"
  | .bindingConflict => "BINDING_CONFLICT"
  | .attemptConflict => "ATTEMPT_CONFLICT"
  | .stateConflict => "STATE_CONFLICT"
  | .versionConflict => "VERSION_CONFLICT"
  | .fenceConflict => "FENCE_CONFLICT"
  | .casConflict => "CAS_CONFLICT"

structure CapstoneCommitResult where
  outcome : CapstoneCommitOutcome
  record : Option RetryDispatchRecord := none
  committerCalls : Nat := 1
  durableTransition : Bool := false

variable (proposal : CapstoneSuccessTransitionProposal) (expectedState : RetryDispatchRecordState)
  (expectedVersion expectedFence : Int)

/-- What a commit returns on the snapshot alone, where it does not go on to write. -/
def committedAlready (snapshot : Option RetryDispatchRecord) : Option CapstoneCommitResult :=
  match snapshot with
  | none => some { outcome := .bindingConflict }
  | some current =>
    if current.idempotencyKey ≠ proposal.idempotencyKey ∨
        current.tenantId ≠ some proposal.tenantId ∨
        current.resourceId ≠ some proposal.resourceId ∨
        current.toolName ≠ some proposal.toolName then
      some { outcome := .bindingConflict }
    else if current.attemptNumber ≠ proposal.attemptNumber ∨
        current.protocolRequestId ≠ some proposal.protocolRequestId ∨
        current.transportGeneration ≠ some proposal.transportGeneration then
      some { outcome := .attemptConflict }
    else if current.state = .completed then
      if current.externalObjectId = some proposal.externalObjectId then
        some { outcome := .alreadyCommitted, record := some current }
      else some { outcome := .stateConflict }
    else if current.state ≠ expectedState then some { outcome := .stateConflict }
    else if current.version ≠ expectedVersion then some { outcome := .versionConflict }
    else if current.fenceToken ≠ expectedFence then some { outcome := .fenceConflict }
    else none

def completionOf : CompletionArguments :=
  { operationId := proposal.operationId
    idempotencyKey := proposal.idempotencyKey, tenantId := proposal.tenantId
    resourceId := proposal.resourceId, toolName := proposal.toolName
    attemptNumber := proposal.attemptNumber, protocolRequestId := proposal.protocolRequestId
    transportGeneration := proposal.transportGeneration, expectedState := expectedState
    expectedVersion := expectedVersion, expectedFence := expectedFence
    externalObjectId := proposal.externalObjectId }

structure CapstoneTransportExchange where
  correlation : RemoteResponseCorrelation
  observation : ProtocolObservation
  candidate : CapstoneToolResultCandidate
  transportCalls : Nat := 1
  handlerCalls : Nat := 1
  controlledToolCalls : Nat := 1

/-- The evidence of an adapter for a request with no credible result. -/
structure CapstoneUnknownTransportOutcome where
  evidence : FailureEvidence
  transportCalls : Nat := 1
  handlerCalls : Nat := 0
  controlledToolCalls : Nat := 0
  possible : evidence.executionCertainty = .possiblyExecuted

structure TransportExecution where
  identity : CapstoneOperationIdentity
  toolName : String
  attempt : RemoteRequestBinding

/-- What a transport call returns or raises; any other exception leaves the run with it. -/
inductive TransportAnswer
  | exchanged (exchange : CapstoneTransportExchange)
  | unknown (outcome : CapstoneUnknownTransportOutcome)
  | raised

inductive OrchestrationOutcome
  | proposalBlocked | identityBlocked | accessBlocked | preflightBlocked | claimBlocked
  | pendingReconciliation | candidateBlocked | commitBlocked | succeeded
  deriving DecidableEq

/-- Durable application truth that is safe to return to the agent. -/
structure VerifiedAgentObservation where
  (operationId resourceId externalObjectId : String)
  durableVersion : Int
  identified : operationId ≠ "" ∧ resourceId ≠ "" ∧ externalObjectId ≠ ""
  durable : 1 ≤ durableVersion

structure CapstoneOrchestrationInput where
  proposal : AgentMCPToolProposal
  capabilitySnapshot : ToolCapabilitySnapshot
  identity : CapstoneOperationIdentity
  approvalStatus : ApprovalStatus
  approvalRequest : ApprovalRequest
  approvalDecision : Option ApprovalDecision
  authorizationDecision : Option AuthorizationDecision
  guard : DurableDispatchGuard
  attempt : RemoteRequestBinding
  deadline : DeadlineBudget
  now : ℚ
  negotiation : VersionNegotiationResult
  versionedPermit : VersionedPermitOutcome
  capacity : TenantCapacityOutcome
  circuitAllowsRequest : Bool

structure CapstoneOrchestrationResult where
  outcome : OrchestrationOutcome
  safeReason : String
  transportCalls : Nat := 0
  handlerCalls : Nat := 0
  controlledToolCalls : Nat := 0
  committerCalls : Nat := 0
  durableTransition : Bool := false
  candidateValidationCalls : Nat := 0
  failureEvidence : Option FailureEvidence := none
  verifiedAgentObservation : Option VerifiedAgentObservation
  verified : outcome = .succeeded ↔ verifiedAgentObservation.isSome = true

inductive OrchestratorFinished
  | registered (answer : Except Raised Unit)
  | committed (result : CapstoneCommitResult)
  | returned (result : CapstoneOrchestrationResult)
  | raised (error : Raised)
  | unknownState (value : String)
  | transportRaised

abbrev OrchestratorProgram :=
  Program DispatchCall DispatchCall.Answer TransportExecution (fun _ => TransportAnswer)
    OrchestratorFinished

/-- `CapstoneCommitter.commit`: a snapshot, then a compare-and-set; the result goes on. -/
def commitCandidate (decision : CapstoneCandidateDecision)
    (expectedState : RetryDispatchRecordState) (expectedVersion expectedFence : Int)
    (next : CapstoneCommitResult → OrchestratorProgram) : OrchestratorProgram :=
  match decision.proposal with
  | none => next { outcome := .proposalNotReady }
  | some proposal =>
    .call (.read proposal.operationId) fun snapshot =>
      match committedAlready proposal expectedState expectedVersion expectedFence snapshot with
      | some result => next result
      | none =>
        .call (.compareAndSetCompleted
            (completionOf proposal expectedState expectedVersion expectedFence)) fun
          | none => next { outcome := .casConflict }
          | some updated =>
            next { outcome := .committed, record := some updated, durableTransition := true }

def blockedResult (outcome : OrchestrationOutcome) (reason : String)
    (unverified : outcome ≠ .succeeded) : OrchestratorFinished :=
  .returned
    { outcome := outcome, safeReason := reason, verifiedAgentObservation := none
      verified := by simp [unverified] }

def verifiedObservation (record : RetryDispatchRecord) : Except Raised VerifiedAgentObservation :=
  match record.externalObjectId with
  | none => .error (.valueError "committed success record is incomplete")
  | some externalObjectId =>
    if identified : record.operationId ≠ "" ∧ record.resourceId.getD "" ≠ "" ∧
        externalObjectId ≠ "" then
      if durable : 1 ≤ record.version then
        .ok
          { operationId := record.operationId
            resourceId := record.resourceId.getD "", externalObjectId := externalObjectId
            durableVersion := record.version, identified := identified, durable := durable }
      else .error (.valueError "verified observation requires a durable version")
    else .error (.valueError "verified Agent observation binding is required")

def committedResult (exchange : CapstoneTransportExchange) (committed : CapstoneCommitResult) :
    OrchestratorFinished :=
  if committed.outcome ∈ [.committed, .alreadyCommitted] then
    match committed.record with
    | none => .raised (.valueError "committed success record is incomplete")
    | some record =>
      match verifiedObservation record with
      | .error error => .raised error
      | .ok observation =>
        .returned
          { outcome := .succeeded
            safeReason := committed.outcome.value, transportCalls := exchange.transportCalls
            handlerCalls := exchange.handlerCalls
            controlledToolCalls := exchange.controlledToolCalls
            committerCalls := committed.committerCalls
            durableTransition := committed.durableTransition, candidateValidationCalls := 1
            verifiedAgentObservation := some observation
            verified := by simp }
  else
    .returned
      { outcome := .commitBlocked
        safeReason := committed.outcome.value, transportCalls := exchange.transportCalls
        handlerCalls := exchange.handlerCalls, controlledToolCalls := exchange.controlledToolCalls
        committerCalls := committed.committerCalls, durableTransition := committed.durableTransition
        candidateValidationCalls := 1, verifiedAgentObservation := none
        verified := by simp }

variable (request : CapstoneOrchestrationInput)

/-- The result of a run whose transport gave no credible answer. -/
def unknownResult (unknown : CapstoneUnknownTransportOutcome) : OrchestratorFinished :=
  let evidence := unknown.evidence
  if evidence.operationId ≠ request.identity.operationId ∨
      evidence.idempotencyKey ≠ request.identity.idempotencyKey ∨
      evidence.protocolRequestId ≠ request.attempt.key.protocolRequestId ∨
      evidence.attemptNumber ≠ request.attempt.attemptNumber then
    .raised (.valueError "transport failure evidence binding mismatch")
  else
    .returned
      { outcome := .pendingReconciliation
        safeReason := evidence.kind.value ++ ":" ++ evidence.dispatchCertainty.value ++ ":" ++
          evidence.executionCertainty.value
        transportCalls := unknown.transportCalls, handlerCalls := unknown.handlerCalls
        controlledToolCalls := unknown.controlledToolCalls, failureEvidence := some evidence
        verifiedAgentObservation := none
        verified := by simp }

variable (candidate : GovernedToolCandidate)

/-- A run behind its transport call: the result is checked, then committed. -/
def settle (claimed : RetryDispatchRecord) : TransportAnswer → OrchestratorProgram
  | .raised => .done .transportRaised
  | .unknown outcome => .done (unknownResult request outcome)
  | .exchanged exchange =>
    let decision := evaluateCandidate request.identity candidate.binding.toolName request.attempt
      exchange.correlation exchange.observation exchange.candidate
    if decision.outcome ≠ .transitionProposalReady then
      .done (.returned
        { outcome := .candidateBlocked
          safeReason := decision.safeReason, transportCalls := exchange.transportCalls
          handlerCalls := exchange.handlerCalls, controlledToolCalls := exchange.controlledToolCalls
          verifiedAgentObservation := none
          verified := by simp })
    else
      commitCandidate decision .dispatchStarted claimed.version claimed.fenceToken fun committed =>
        .done (committedResult exchange committed)

/-- A run past its gates: the claim, and the transport call of its winner. -/
def claimAndExecute (attempt : RemoteRequestBinding) : OrchestratorProgram :=
  match claimOf request.identity candidate request.guard attempt with
  | none => .done (.unknownState request.guard.currentState)
  | some arguments =>
    .call (.claimDispatch arguments) fun claim =>
      match claim.outcome, claim.record with
      | .claimed, some claimed =>
        .ask ⟨request.identity, candidate.binding.toolName, request.attempt⟩
          (settle request candidate claimed)
      | outcome, _ => .done (blockedResult .claimBlocked outcome.value (by decide))

/-- `int` of a finite clock value: towards zero. -/
def truncate (value : ℚ) : Int := value.num.tdiv value.den

section Model

variable (prints : CapstonePrints)

/-- `AgentMCPOrchestrator.run`. -/
def runOrchestrator (request : CapstoneOrchestrationInput) : OrchestratorProgram :=
  let bound := bindProposal request.proposal request.capabilitySnapshot
  match bound.candidate with
  | none => .done (blockedResult .proposalBlocked bound.safeReason (by decide))
  | some candidate =>
    let prepared := prepareAuthorization request.identity candidate
    if prepared.outcome ≠ .readyForCurrentAuthorization then
      .done (blockedResult .identityBlocked prepared.safeReason (by decide))
    else
      let access := composeAccess prints request.identity candidate request.approvalStatus
        request.approvalRequest request.approvalDecision request.authorizationDecision
        (truncate request.now)
      if access.outcome ≠ .readyForPreflight then
        .done (blockedResult .accessBlocked access.safeReason (by decide))
      else
        let preflight := evaluatePreflight request.identity access request.guard request.attempt
          request.deadline request.now request.negotiation request.versionedPermit
          request.capacity request.circuitAllowsRequest
        match preflight.attempt with
        | none => .done (blockedResult .preflightBlocked preflight.safeReason (by decide))
        | some attempt => claimAndExecute request candidate attempt

/-- The arguments of one `CapstoneCandidatePipeline.evaluate`. -/
structure CandidateEvaluation where
  identity : CapstoneOperationIdentity
  expectedToolName : String
  expectedAttempt : RemoteRequestBinding
  correlation : RemoteResponseCorrelation
  observation : ProtocolObservation
  candidate : CapstoneToolResultCandidate

def CandidateEvaluation.decision (evaluation : CandidateEvaluation) : CapstoneCandidateDecision :=
  evaluateCandidate evaluation.identity evaluation.expectedToolName evaluation.expectedAttempt
    evaluation.correlation evaluation.observation evaluation.candidate

/-- A registration, a run, or a commit of some decision of the pipeline. -/
inductive OrchestratorClient
  | addRetryable (registration : RetryableRegistration)
  | addReadyOperation (registration : ReadyRegistration)
  | run (request : CapstoneOrchestrationInput)
  | commit (evaluation : CandidateEvaluation) (expectedState : RetryDispatchRecordState)
      (expectedVersion expectedFence : Int)

def OrchestratorClient.program : OrchestratorClient → OrchestratorProgram
  | .addRetryable registration =>
    .call (.addRetryable registration) fun answer => .done (.registered answer)
  | .addReadyOperation registration =>
    .call (.addReadyOperation registration) fun answer => .done (.registered answer)
  | .run request => runOrchestrator prints request
  | .commit evaluation expectedState expectedVersion expectedFence =>
    commitCandidate evaluation.decision expectedState expectedVersion expectedFence fun result =>
      .done (.committed result)

/-- A client enters, or the client at an index goes on, with an answer of the transport for it
where it waits for one. -/
inductive OrchestratorAction
  | enter (client : OrchestratorClient)
  | resume (index : Nat) (transport : TransportExecution → TransportAnswer)

def OrchestratorAction.turn : OrchestratorAction →
    Turn DispatchCall DispatchCall.Answer TransportExecution (fun _ => TransportAnswer)
      OrchestratorFinished
  | .enter client => .start (client.program prints)
  | .resume index transport => .resume index transport

variable (actions : List OrchestratorAction)

/-- The calls that a schedule makes on a store that is empty at first, in their order. -/
def dispatchCalls : List DispatchCall :=
  calls InMemoryRetryDispatchStore.perform ⟨∅, []⟩ (actions.map (OrchestratorAction.turn prints))

/-- The calls of a schedule on the transport, in their order. -/
def transportCalls : List TransportExecution :=
  questions InMemoryRetryDispatchStore.perform ⟨∅, []⟩
    (actions.map (OrchestratorAction.turn prints))

end Model

end BackendHandbook.Mcp
