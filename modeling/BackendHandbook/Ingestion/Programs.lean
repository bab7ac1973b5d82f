import BackendHandbook.Foundation.Interleaving
import BackendHandbook.Ingestion.Calls
import Mathlib.Data.Rat.Defs

/-! What the clients of the ingestion store exchange: preflight, requests, parser replies,
registry evidence, and programs over single store calls. -/

namespace BackendHandbook.Ingestion

open Text Interleaving

inductive ParserPreflightOutcome
  | ready | bindingConflict | contractMismatch | unsupportedMediaType | resourceLimit
  | generationMismatch
  deriving DecidableEq

inductive ParserAdapterOutcome
  | candidate | preflightBlocked | sourceBytesChanged | parserFailed

structure ParserCapability where
  (parserName parserVersion parseContractVersion : String)
  parserGeneration : Nat
  supportedMediaTypes : List String
  maximumInputBytes : Nat
  nonEmpty : requireNonEmpty [parserName, parserVersion, parseContractVersion] = true
  media_nonEmpty : supportedMediaTypes ≠ []
  budget_pos : 0 < maximumInputBytes

structure ParserPreflightDecision where
  outcome : ParserPreflightOutcome
  safeReason : String

structure ParserAdapterResult where
  outcome : ParserAdapterOutcome
  safeReason : String
  candidate : Option ParsedDocumentCandidate
  parserCalls : Nat
  produced_iff : outcome = .candidate ↔ candidate.isSome = true

def ParserCapability.preflight (capability : ParserCapability)
    (operation : IngestionOperationIdentity) (version : DocumentVersionDefinition)
    (source : SourceArtifactReference) (attempt : ParserAttemptIdentity) :
    ParserPreflightDecision :=
  if operation.version ≠ version.identity ∨ operation.version ≠ source.version ∨
      operation.sourceArtifactId ≠ version.sourceArtifactId ∨
      operation.sourceArtifactId ≠ source.sourceArtifactId ∨
      attempt.operationId ≠ operation.operationId ∨
      attempt.idempotencyKey ≠ operation.idempotencyKey then
    ⟨.bindingConflict, "PARSER_PREFLIGHT_IDENTITY_BINDING_CONFLICT"⟩
  else if version.parseContractVersion ≠ capability.parseContractVersion then
    ⟨.contractMismatch, "DOCUMENT_VERSION_REQUIRES_A_DIFFERENT_PARSE_CONTRACT"⟩
  else if source.detectedMediaType ∉ capability.supportedMediaTypes then
    ⟨.unsupportedMediaType, "PARSER_DOES_NOT_SUPPORT_DETECTED_MEDIA_TYPE"⟩
  else if source.sizeBytes > capability.maximumInputBytes then
    ⟨.resourceLimit, "SOURCE_EXCEEDS_PARSER_INPUT_BUDGET"⟩
  else if attempt.parserGeneration ≠ capability.parserGeneration then
    ⟨.generationMismatch, "ATTEMPT_IS_NOT_BOUND_TO_CURRENT_PARSER_GENERATION"⟩
  else ⟨.ready, "PARSER_PREFLIGHT_PASSED"⟩

inductive IngestionPreflightOutcome
  | ready | authorizationBlocked | callerIntentInactive | deadlineExhausted | capacityRejected
  | circuitOpen | parserPreflightBlocked
  deriving DecidableEq

inductive IngestionOrchestrationOutcome
  | succeeded | preflightBlocked | dispatchClaimBlocked | pendingReconciliation | parserRejected
  | candidateRejected | commitBlocked

structure IngestionOrchestrationRequest where
  operation : IngestionOperationIdentity
  version : DocumentVersionDefinition
  source : SourceArtifactReference
  attempt : ParserAttemptIdentity
  sourceBytes : List UInt8
  expectedOperationState : IngestionOperationState
  (expectedOperationStateVersion expectedOperationFence : Int)
  (currentAuthorization parserPermitCurrent callerIntentActive cancelled : Bool)
  (now deadline : Rat)
  (capacityAdmitted circuitAllowsRequest : Bool)

structure IngestionPreflightDecision where
  outcome : IngestionPreflightOutcome
  safeReason : String

def IngestionOrchestrationRequest.preflight (request : IngestionOrchestrationRequest)
    (capability : ParserCapability) : IngestionPreflightDecision :=
  if ¬ request.currentAuthorization ∨ ¬ request.parserPermitCurrent then
    ⟨.authorizationBlocked, "CURRENT_AUTHORIZATION_AND_PARSER_PERMIT_REQUIRED"⟩
  else if ¬ request.callerIntentActive ∨ request.cancelled then
    ⟨.callerIntentInactive, "CALLER_INTENT_OR_CANCELLATION_BLOCKS_DISPATCH"⟩
  else if request.now ≥ request.deadline then
    ⟨.deadlineExhausted, "PARENT_DEADLINE_EXHAUSTED"⟩
  else if ¬ request.capacityAdmitted then
    ⟨.capacityRejected, "CURRENT_PARSER_CAPACITY_NOT_ADMITTED"⟩
  else if ¬ request.circuitAllowsRequest then
    ⟨.circuitOpen, "PARSER_CIRCUIT_IS_OPEN"⟩
  else
    let parser := capability.preflight request.operation request.version request.source
      request.attempt
    if parser.outcome ≠ .ready then ⟨.parserPreflightBlocked, parser.safeReason⟩
    else ⟨.ready, "INGESTION_PREFLIGHT_PASSED"⟩

structure VerifiedIngestionObservation where
  (operationId tenantId documentId documentVersionId parsedArtifactId : String)
  durableDocumentStateVersion : Nat

structure IngestionOrchestrationResult where
  outcome : IngestionOrchestrationOutcome
  safeReason : String
  parserTransportCalls : Nat := 0
  parserCalls : Nat := 0
  candidateValidationCalls : Nat := 0
  committerCalls : Nat := 0
  durableTransitions : Nat := 0
  verifiedObservation : Option VerifiedIngestionObservation := none

inductive AuthoritativeParseStatus
  | succeeded | failed | notExecuted | notFound | unknown
  deriving DecidableEq

structure AuthoritativeParseEvidence where
  status : AuthoritativeParseStatus
  (operationId idempotencyKey : String)
  attemptNumber : Nat
  parserRequestId : String
  parserGeneration : Nat
  candidate : Option ParsedDocumentCandidate
  succeeded_iff : status = .succeeded ↔ candidate.isSome = true

inductive IngestionRecoveryOutcome
  | succeeded | failedConfirmed | notExecutedConfirmed | pendingReconciliation
  | authorityBindingConflict | candidateRejected | commitBlocked | operationNotRecoverable
  deriving DecidableEq

structure IngestionRecoveryResult where
  outcome : IngestionRecoveryOutcome
  safeReason : String
  registryQueries : Nat := 0
  candidateValidationCalls : Nat := 0
  committerCalls : Nat := 0
  durableTransitions : Nat := 0
  requeryScheduled : Bool := false
  operatorAlertRequired : Bool := false
  deriving DecidableEq

/-- What the parser hand-off comes back with: a lost outcome or a result. -/
inductive ParserReply
  | outcomeUnknown (safeReason : String) (parserTransportCalls : Nat)
  | result (parsed : ParserAdapterResult)

/-- The questions ingestion puts to the parser transport and to the parse registry. -/
inductive Question
  | execute (request : IngestionOrchestrationRequest)
  | query (operation : IngestionOperationIdentity) (attempt : ParserAttemptIdentity)

abbrev Question.Reply : Question → Type
  | .execute _ => ParserReply
  | .query .. => AuthoritativeParseEvidence

/-- How a client of the store ends. -/
inductive Finished
  | raised (error : Raised)
  | answered (call : Call) (response : call.Response)
  | orchestrated (result : IngestionOrchestrationResult)
  | recovered (result : IngestionRecoveryResult)

abbrev IngestionProgram := Program Call Call.Response Question Question.Reply Finished

def await (call : Call) (next : call.Answer → IngestionProgram) : IngestionProgram :=
  .call call fun
    | .error raised => .done (.raised raised)
    | .ok answer => next answer

def activationGuard (document : DocumentHeadSnapshot) (version : DocumentVersionLifecycleRecord)
    (state : IngestionOperationState) (record : IngestionOperationRecord) :
    IngestionActivationGuard :=
  { expectedDocumentState := document.state, expectedActiveVersionId := document.activeVersionId
    expectedDocumentStateVersion := document.stateVersion
    expectedDocumentFence := document.fenceToken, expectedVersionState := version.state
    expectedVersionStateVersion := version.stateVersion, expectedVersionFence := version.fenceToken
    expectedOperationState := state, expectedOperationStateVersion := record.stateVersion
    expectedOperationFence := record.fenceToken }

/-! The ingestion orchestrator: preflight, durable claim, parser hand-off, validation
and commit, as a program over single store calls. -/

namespace RAGIngestionOrchestrator

variable (sha256 : String → String)

def orchestrated (result : IngestionOrchestrationResult) : IngestionProgram :=
  .done (.orchestrated result)

variable (request : IngestionOrchestrationRequest)

/-- A claimed attempt whose parser or candidate was definitively rejected. -/
def reject (record : IngestionOperationRecord)
    (outcome : IngestionOrchestrationOutcome) (safeReason : String)
    (parserCalls candidateValidationCalls : Nat) : IngestionProgram :=
  await (.markQuarantined request.operation record.stateVersion record.fenceToken)
    fun quarantined => orchestrated
      { outcome, safeReason, parserTransportCalls := 1, parserCalls, candidateValidationCalls
        committerCalls := quarantined.committerCalls
        durableTransitions := 1 + quarantined.durableTransition.toNat }

def finishCommit (parserCalls : Nat) (committed : IngestionCommitResult) : IngestionProgram :=
  if committed.outcome ≠ .committed ∧ committed.outcome ≠ .alreadyCommitted then
    orchestrated
      { outcome := .commitBlocked, safeReason := committed.safeReason, parserTransportCalls := 1
        parserCalls
        candidateValidationCalls := 1, committerCalls := committed.committerCalls
        durableTransitions := 1 }
  else match committed.document, committed.parsedArtifact with
  | some document, some artifact => orchestrated
      { outcome := .succeeded, safeReason := committed.safeReason, parserTransportCalls := 1
        parserCalls
        candidateValidationCalls := 1, committerCalls := committed.committerCalls
        durableTransitions := 1 + committed.durableTransition.toNat
        verifiedObservation := some
          { operationId := request.operation.operationId
            tenantId := request.operation.tenantId, documentId := request.operation.documentId
            documentVersionId := request.operation.documentVersionId
            parsedArtifactId := artifact.parsedArtifactId
            durableDocumentStateVersion := document.stateVersion } }
  | _, _ => .done (.raised .assertionError)

variable (record : IngestionOperationRecord)

/-- Validation and commit of a returned candidate; the guard is read just before. -/
def publishCandidate (parserCalls : Nat) (candidate : ParsedDocumentCandidate) : IngestionProgram :=
  let validation := ParsedCandidateValidator.evaluate sha256 request.operation request.version
    request.source request.attempt candidate
  if validation.outcome ≠ .readyForCommit then
    reject request record .candidateRejected validation.safeReason parserCalls 1
  else
    await (.readDocument request.operation.version.document) fun document =>
    await (.readVersion request.operation.version) fun version =>
    await (.commit validation (activationGuard document version .parseDispatchStarted record))
      fun committed => finishCommit request parserCalls committed

def handOff : IngestionProgram :=
  .ask (.execute request) fun
    | .outcomeUnknown safeReason parserTransportCalls =>
      await (.markPendingReconciliation request.operation record.stateVersion
        record.fenceToken) fun pending => orchestrated
          { outcome := .pendingReconciliation, safeReason, parserTransportCalls
            committerCalls := pending.committerCalls
            durableTransitions := 1 + pending.durableTransition.toNat }
    | .result parsed =>
      match parsed.candidate with
      | none => reject request record .parserRejected parsed.safeReason parsed.parserCalls 0
      | some candidate => publishCandidate sha256 request record parsed.parserCalls candidate

def run (capability : ParserCapability) (request : IngestionOrchestrationRequest) :
    IngestionProgram :=
  let preflight := request.preflight capability
  if preflight.outcome ≠ .ready then
    orchestrated { outcome := .preflightBlocked, safeReason := preflight.safeReason }
  else
    await (.claimParseDispatch request.operation request.attempt request.expectedOperationState
      request.expectedOperationStateVersion request.expectedOperationFence) fun claim =>
      match claim.outcome, claim.record with
      | .claimed, some record => handOff sha256 request record
      | outcome, _ => orchestrated
          { outcome := .dispatchClaimBlocked, safeReason := claimOutcomeValue outcome
            durableTransitions := claim.durableTransition.toNat }
where
  claimOutcomeValue : IngestionDispatchClaimOutcome → String
    | .claimed => "CLAIMED"
    | .alreadyClaimed => "ALREADY_CLAIMED"
    | .identityConflict => "IDENTITY_CONFLICT"
    | .stateConflict => "STATE_CONFLICT"
    | .versionConflict => "VERSION_CONFLICT"
    | .fenceConflict => "FENCE_CONFLICT"
    | .attemptSequenceConflict => "ATTEMPT_SEQUENCE_CONFLICT"

end RAGIngestionOrchestrator
end BackendHandbook.Ingestion
