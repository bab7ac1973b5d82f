import BackendHandbook.Ingestion.Programs
import BackendHandbook.Ingestion.Records

/-! Recovery of an ingestion operation from authoritative parse evidence. -/

namespace BackendHandbook.Ingestion

open Interleaving RAGIngestionOrchestrator

structure IngestionRecoveryPolicy where
  maximumQueries : Nat
  budget_pos : 0 < maximumQueries

namespace IngestionRecoveryCoordinator

variable (sha256 : String → String)

def recovered (result : IngestionRecoveryResult) : IngestionProgram := .done (.recovered result)

def evidenceBinds (evidence : AuthoritativeParseEvidence)
    (operation : IngestionOperationIdentity) (attempt : ParserAttemptIdentity) : Prop :=
  evidence.operationId = operation.operationId ∧
    evidence.idempotencyKey = operation.idempotencyKey ∧
    evidence.attemptNumber = attempt.attemptNumber ∧
    evidence.parserRequestId = attempt.parserRequestId ∧
    evidence.parserGeneration = attempt.parserGeneration
  deriving Decidable

variable (operation : IngestionOperationIdentity)

/-- Evidence of failure or of no execution becomes a reconciliation fact. -/
def confirm (current : IngestionOperationRecord)
    (target : IngestionOperationState) (outcome : IngestionRecoveryOutcome)
    (safeReason : String) (committerCalls transitionCount : Nat) : IngestionProgram :=
  await (.commitAuthoritativeReconciliation operation target current.stateVersion
    current.fenceToken) fun committed => recovered
      { outcome, safeReason, registryQueries := 1
        committerCalls := committerCalls + committed.committerCalls
        durableTransitions := transitionCount + committed.durableTransition.toNat }

/-- Evidence of success is validated again and committed under a freshly read guard. -/
def publishEvidence (version : DocumentVersionDefinition) (source : SourceArtifactReference)
    (attempt : ParserAttemptIdentity) (current : IngestionOperationRecord)
    (candidate : ParsedDocumentCandidate) (committerCalls transitionCount : Nat) :
    IngestionProgram :=
  let validation :=
    ParsedCandidateValidator.evaluate sha256 operation version source attempt candidate
  if validation.outcome ≠ .readyForCommit then
    recovered
      { outcome := .candidateRejected
        safeReason := validation.safeReason, registryQueries := 1, candidateValidationCalls := 1
        committerCalls
        durableTransitions := transitionCount, operatorAlertRequired := true }
  else
    await (.readDocument operation.version.document) fun document =>
    await (.readVersion operation.version) fun versionRecord =>
    await (.commit validation
        (activationGuard document versionRecord .pendingReconciliation current))
      fun committed =>
        if committed.outcome ≠ .committed ∧ committed.outcome ≠ .alreadyCommitted then
          recovered
            { outcome := .commitBlocked, safeReason := committed.safeReason, registryQueries := 1
              candidateValidationCalls := 1
              committerCalls := committerCalls + committed.committerCalls
              durableTransitions := transitionCount }
        else
          recovered
            { outcome := .succeeded
              safeReason := "AUTHORITATIVE_PARSE_SUCCESS_COMMITTED", registryQueries := 1
              candidateValidationCalls := 1
              committerCalls := committerCalls + committed.committerCalls
              durableTransitions := transitionCount + committed.durableTransition.toNat }

variable (policy : IngestionRecoveryPolicy) (operation : IngestionOperationIdentity)
  (version : DocumentVersionDefinition) (source : SourceArtifactReference) (queryNumber : Int)

/-- Query the registry about the recorded attempt and route what it answers. -/
def consult (current : IngestionOperationRecord)
    (committerCalls transitionCount : Nat) : IngestionProgram :=
  match current.attempt with
  | none => .done (.raised .assertionError)
  | some attempt =>
    .ask (.query operation attempt) fun evidence =>
      if ¬ evidenceBinds evidence operation attempt then
        recovered
          { outcome := .authorityBindingConflict
            safeReason := "AUTHORITATIVE_EVIDENCE_BINDING_CONFLICT", registryQueries := 1
            committerCalls
            durableTransitions := transitionCount, operatorAlertRequired := true }
      else
        let budgetRemaining := decide (queryNumber < policy.maximumQueries)
        let pending (safeReason : String) : IngestionProgram := recovered
          { outcome := .pendingReconciliation, safeReason, registryQueries := 1, committerCalls
            durableTransitions := transitionCount, requeryScheduled := budgetRemaining
            operatorAlertRequired := !budgetRemaining }
        match evidence.status with
        | .notFound => pending "NOT_FOUND"
        | .unknown => pending "UNKNOWN"
        | .failed => confirm operation current .failed .failedConfirmed "FAILED"
            committerCalls transitionCount
        | .notExecuted => confirm operation current .provenNotExecuted .notExecutedConfirmed
            "NOT_EXECUTED" committerCalls transitionCount
        | .succeeded =>
          match evidence.candidate with
          | none => .done (.raised .assertionError)
          | some candidate => publishEvidence sha256 operation version source attempt current
              candidate committerCalls transitionCount

def recover : IngestionProgram :=
  if queryNumber ≤ 0 then
    .done (.raised (.valueError "reconciliation query number must be positive"))
  else
    await (.readOperation operation.operationId) fun current =>
      if current.identity ≠ operation ∨ current.attempt = none then
        recovered
          { outcome := .operationNotRecoverable
            safeReason := "RECOVERY_OPERATION_BINDING_IS_INCOMPLETE" }
      else if current.state = .parseDispatchStarted then
        await (.markPendingReconciliation operation current.stateVersion current.fenceToken)
          fun pending =>
            match pending.record with
            | none => recovered
                { outcome := .commitBlocked
                  safeReason := "PENDING_RECONCILIATION_TRANSITION_BLOCKED"
                  committerCalls := pending.committerCalls
                  durableTransitions := pending.durableTransition.toNat }
            | some record => consult sha256 policy operation version source queryNumber record
                pending.committerCalls pending.durableTransition.toNat
      else if current.state ≠ .pendingReconciliation then
        recovered
          { outcome := .operationNotRecoverable
            safeReason := "OPERATION_IS_NOT_PENDING_RECONCILIATION" }
      else consult sha256 policy operation version source queryNumber current 0 0

end IngestionRecoveryCoordinator

/-- The clients of the store: single calls other than a commit, `run`, and `recover`. -/
inductive Client
  | single (call : Call) (plain : ∀ decision guard, call ≠ .commit decision guard)
  | run (capability : ParserCapability) (request : IngestionOrchestrationRequest)
  | recover (policy : IngestionRecoveryPolicy) (operation : IngestionOperationIdentity)
      (version : DocumentVersionDefinition) (source : SourceArtifactReference)
      (queryNumber : Int)

section Clients

variable (sha256 : String → String)

def Client.program : Client → IngestionProgram
  | .single call _ => .call call fun response => .done (.answered call response)
  | .run capability request => RAGIngestionOrchestrator.run sha256 capability request
  | .recover policy operation version source queryNumber =>
    IngestionRecoveryCoordinator.recover sha256 policy operation version source queryNumber

/-- One move of the schedule: a client enters, or the client at an index goes on. -/
inductive Action
  | enter (client : Client)
  | resume (index : Nat) (oracle : (question : Question) → question.Reply)

def Action.turn : Action → Turn Call Call.Response Question Question.Reply Finished
  | .enter client => .start (client.program sha256)
  | .resume index oracle => .resume index oracle

def emptyPool : Pool Store Call Call.Response Question Question.Reply Finished :=
  { state := {}, threads := [] }

def storeCalls (actions : List Action) : List Call :=
  Interleaving.calls perform emptyPool (actions.map (Action.turn sha256))

end Clients

section Legality

variable {sha256 : String → String}

theorem await_issues {P : Call → Prop} {call : Call} {next : call.Answer → IngestionProgram}
    (now : P call) (later : ∀ answer, (next answer).Issues P) : (await call next).Issues P := by
  refine ⟨now, fun response => ?_⟩
  cases response with
  | error => trivial
  | ok => exact later _

private theorem reject_legal (request : IngestionOrchestrationRequest)
    (record : IngestionOperationRecord) (outcome : IngestionOrchestrationOutcome)
    (reason : String) (parserCalls validations : Nat) :
    (reject request record outcome reason parserCalls validations).Issues (Legal sha256) :=
  await_issues trivial fun _ => trivial

private theorem publishCandidate_legal (request : IngestionOrchestrationRequest)
    (record : IngestionOperationRecord) (parserCalls : Nat) (candidate : ParsedDocumentCandidate) :
    (publishCandidate sha256 request record parserCalls candidate).Issues (Legal sha256) := by
  unfold publishCandidate
  dsimp only
  split
  · exact reject_legal _ _ _ _ _ _
  · refine await_issues trivial fun document => await_issues trivial fun version =>
      await_issues ⟨_, _, _, _, _, rfl⟩ fun committed => ?_
    unfold finishCommit
    split
    · trivial
    · split <;> trivial

theorem run_legal (capability : ParserCapability) (request : IngestionOrchestrationRequest) :
    (RAGIngestionOrchestrator.run sha256 capability request).Issues (Legal sha256) := by
  unfold RAGIngestionOrchestrator.run
  dsimp only
  split
  · trivial
  · refine await_issues trivial fun claim => ?_
    split
    · intro reply
      cases reply with
      | outcomeUnknown => exact await_issues trivial fun _ => trivial
      | result =>
        dsimp only
        split
        · exact reject_legal _ _ _ _ _ _
        · exact publishCandidate_legal _ _ _ _
    · trivial

private theorem publishEvidence_legal (operation : IngestionOperationIdentity)
    (version : DocumentVersionDefinition) (source : SourceArtifactReference)
    (attempt : ParserAttemptIdentity) (current : IngestionOperationRecord)
    (candidate : ParsedDocumentCandidate) (committerCalls transitionCount : Nat) :
    (IngestionRecoveryCoordinator.publishEvidence sha256 operation version source attempt
      current candidate committerCalls transitionCount).Issues (Legal sha256) := by
  unfold IngestionRecoveryCoordinator.publishEvidence
  dsimp only
  split
  · trivial
  · refine await_issues trivial fun document => await_issues trivial fun versionRecord =>
      await_issues ⟨_, _, _, _, _, rfl⟩ fun committed => ?_
    split <;> trivial

private theorem consult_legal (policy : IngestionRecoveryPolicy)
    (operation : IngestionOperationIdentity) (version : DocumentVersionDefinition)
    (source : SourceArtifactReference) (queryNumber : Int) (current : IngestionOperationRecord)
    (committerCalls transitionCount : Nat) :
    (IngestionRecoveryCoordinator.consult sha256 policy operation version source queryNumber
      current committerCalls transitionCount).Issues (Legal sha256) := by
  unfold IngestionRecoveryCoordinator.consult
  split
  · trivial
  · intro evidence
    dsimp only
    split
    · trivial
    · split
      · trivial
      · trivial
      · exact await_issues trivial fun _ => trivial
      · exact await_issues trivial fun _ => trivial
      · split
        · trivial
        · exact publishEvidence_legal _ _ _ _ _ _ _ _

theorem recover_legal (policy : IngestionRecoveryPolicy)
    (operation : IngestionOperationIdentity) (version : DocumentVersionDefinition)
    (source : SourceArtifactReference) (queryNumber : Int) :
    (IngestionRecoveryCoordinator.recover sha256 policy operation version source
      queryNumber).Issues (Legal sha256) := by
  unfold IngestionRecoveryCoordinator.recover
  split
  · trivial
  · refine await_issues trivial fun current => ?_
    split
    · trivial
    · split
      · refine await_issues trivial fun pending => ?_
        split
        · trivial
        · exact consult_legal _ _ _ _ _ _ _ _
      · split
        · trivial
        · exact consult_legal _ _ _ _ _ _ _ _

theorem client_legal (client : Client) : (client.program sha256).Issues (Legal sha256) := by
  cases client with
  | single call plain =>
    refine ⟨?_, fun _ => trivial⟩
    cases call with
    | commit decision guard => exact absurd rfl (plain decision guard)
    | _ => exact trivial
  | run => exact run_legal _ _
  | recover => exact recover_legal _ _ _ _ _

theorem storeCalls_legal (actions : List Action) :
    ∀ call ∈ storeCalls sha256 actions, Legal sha256 call := by
  apply Interleaving.calls_issue
  · intro thread member; cases member
  · intro program member
    rcases List.mem_map.mp member with ⟨action, _, same⟩
    cases action with
    | enter client => cases same; exact client_legal client
    | resume => cases same

end Legality

/-! One report and its parse, as the tests of the repository write them. -/

namespace Sample

-- Any function serves as a digest where no two digests are compared.
def digest (text : String) : String := text

def operation : IngestionOperationIdentity :=
  { tenantId := "tenant-a", documentId := "report-42", documentVersionId := "report-42-v2"
    sourceArtifactId := "source-report-42-v2", operationId := "op-ingest-report-42-v2"
    idempotencyKey := "idem-ingest-report-42-v2", nonEmpty := by decide }

def version : DocumentVersionDefinition :=
  { identity := operation.version, sourceArtifactId := operation.sourceArtifactId
    parseContractVersion := "parser-contract-v1", createdByOperationId := operation.operationId
    nonEmpty := by decide }

def source : SourceArtifactReference :=
  { version := operation.version, sourceArtifactId := operation.sourceArtifactId
    objectBucket := "controlled-ingestion"
    objectKey := "tenant-a/report-42/report-42-v2/source", objectVersion := "object-v2"
    checksumSha256 := "sha256:source", sizeBytes := 31, detectedMediaType := "text/markdown"
    nonEmpty := by decide, size_pos := by decide }

def attempt (number : Nat) (positive : decide (0 < number) = true := by exact Eq.refl true) :
    ParserAttemptIdentity :=
  { operationId := operation.operationId, idempotencyKey := operation.idempotencyKey
    attemptNumber := number
    parserRequestId := if number = 1 then "parse-request-95-1" else "parse-request-95-2"
    parserGeneration := 3
    nonEmpty := by split <;> decide, attempt_pos := of_decide_eq_true positive }

def capability : ParserCapability :=
  { parserName := "controlled-text-parser", parserVersion := "1.0.0"
    parseContractVersion := "parser-contract-v1", parserGeneration := 3
    supportedMediaTypes := ["text/plain", "text/markdown", "text/html"]
    maximumInputBytes := 1024, nonEmpty := by decide, media_nonEmpty := by decide
    budget_pos := by decide }

def request (attempt : ParserAttemptIdentity) (state : IngestionOperationState)
    (stateVersion : Int) : IngestionOrchestrationRequest :=
  { operation, version, source, attempt, sourceBytes := []
    expectedOperationState := state, expectedOperationStateVersion := stateVersion
    expectedOperationFence := stateVersion, currentAuthorization := true
    parserPermitCurrent := true, callerIntentActive := true, cancelled := false
    now := 10, deadline := 20, capacityAdmitted := true, circuitAllowsRequest := true }

def candidate (attempt : ParserAttemptIdentity) (text : String)
    (filled : Text.requireNonEmpty [attempt.operationId, attempt.idempotencyKey,
      attempt.parserRequestId, sha256Text digest text] = true := by exact Eq.refl true) :
    ParsedDocumentCandidate :=
  { manifest :=
      { tenantId := operation.tenantId, documentId := operation.documentId
        documentVersionId := operation.documentVersionId
        sourceArtifactId := operation.sourceArtifactId
        sourceChecksumSha256 := source.checksumSha256, operationId := attempt.operationId
        idempotencyKey := attempt.idempotencyKey, parserName := capability.parserName
        parserVersion := capability.parserVersion
        parseContractVersion := version.parseContractVersion
        attemptNumber := attempt.attemptNumber, parserRequestId := attempt.parserRequestId
        parserGeneration := attempt.parserGeneration
        outputChecksumSha256 := sha256Text digest text, pageCount := 1, sectionCount := 1
        recordCount := 0, warnings := [], errors := []
        nonEmpty := by
          simp only [Text.requireNonEmpty_cons] at filled ⊢
          rcases filled with ⟨operationId, idempotencyKey, requestId, checksum, _⟩
          exact ⟨by decide, by decide, by decide, by decide, by decide, operationId,
            idempotencyKey, by decide, by decide, by decide, requestId, checksum, rfl⟩
        attempt_pos := attempt.attempt_pos }
    canonicalText := text, sections := [text] }

/-- The parser answers with the reply; the registry knows nothing. -/
def oracle (reply : ParserReply) : (question : Question) → question.Reply
  | .execute _ => reply
  | .query operation attempt =>
    { status := .notFound, operationId := operation.operationId
      idempotencyKey := operation.idempotencyKey, attemptNumber := attempt.attemptNumber
      parserRequestId := attempt.parserRequestId, parserGeneration := attempt.parserGeneration
      candidate := none, succeeded_iff := by simp }

def parsed (candidate : ParsedDocumentCandidate) : ParserReply :=
  .result { outcome := .candidate, safeReason := "PARSER_CANDIDATE_RETURNED"
            candidate := some candidate, parserCalls := 1, produced_iff := by simp }

def lost : ParserReply := .outcomeUnknown "PARSER_RESPONSE_LOST" 1

def intake : Action :=
  .enter (.single (.registerIntake operation version source) (by intro _ _ same; cases same))

def tombstone (state : DocumentHeadState) (stateVersion : Int) : Action :=
  .enter (.single (.tombstoneDocument operation.version.document state stateVersion stateVersion)
    (by intro _ _ same; cases same))

end Sample
end BackendHandbook.Ingestion
