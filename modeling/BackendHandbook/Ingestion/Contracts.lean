import BackendHandbook.Foundation.Text

/-! Immutable ingestion identities, source evidence and parser candidates, and the
pure validation that turns a candidate into an activation proposal. -/

namespace BackendHandbook.Ingestion

open Text

inductive DocumentHeadState
  | registered | active | tombstoned
  deriving DecidableEq

inductive CandidateValidationOutcome
  | readyForCommit | correlationConflict | manifestBindingConflict | sourceChecksumConflict
  | structureInvalid | outputChecksumConflict
  deriving DecidableEq

structure DocumentIdentity where
  (tenantId documentId : String)
  nonEmpty : requireNonEmpty [tenantId, documentId] = true
  deriving DecidableEq

structure DocumentVersionIdentity where
  (tenantId documentId documentVersionId : String)
  nonEmpty : requireNonEmpty [tenantId, documentId, documentVersionId] = true
  deriving DecidableEq

variable (identity : DocumentVersionIdentity)

theorem DocumentVersionIdentity.document_nonEmpty :
    requireNonEmpty [identity.tenantId, identity.documentId] = true := by
  have parts := identity.nonEmpty
  simp only [requireNonEmpty_cons] at parts ⊢
  exact ⟨parts.1, parts.2.1, rfl⟩

def DocumentVersionIdentity.document : DocumentIdentity :=
  ⟨identity.tenantId, identity.documentId, identity.document_nonEmpty⟩

theorem DocumentVersionIdentity.version_truthy :
    truthy (some identity.documentVersionId) = true := by
  have parts := identity.nonEmpty
  simp only [requireNonEmpty_cons] at parts
  exact truthy_of_strip _ parts.2.2.1

/-- The mutable head of a logical document: only an active head carries a pointer. -/
structure DocumentHeadSnapshot where
  identity : DocumentIdentity
  state : DocumentHeadState
  activeVersionId : Option String
  (stateVersion fenceToken : Nat)
  pointer_iff : state = .active ↔ truthy activeVersionId = true

structure SourceArtifactReference where
  version : DocumentVersionIdentity
  (sourceArtifactId objectBucket objectKey objectVersion checksumSha256 : String)
  sizeBytes : Nat
  detectedMediaType : String
  nonEmpty : requireNonEmpty [sourceArtifactId, objectBucket, objectKey, objectVersion,
    checksumSha256, detectedMediaType] = true
  size_pos : 0 < sizeBytes
  deriving DecidableEq

structure DocumentVersionDefinition where
  identity : DocumentVersionIdentity
  (sourceArtifactId parseContractVersion createdByOperationId : String)
  nonEmpty : requireNonEmpty [sourceArtifactId, parseContractVersion, createdByOperationId] = true
  deriving DecidableEq

structure IngestionOperationIdentity where
  (tenantId documentId documentVersionId sourceArtifactId operationId idempotencyKey : String)
  nonEmpty : requireNonEmpty [tenantId, documentId, documentVersionId, sourceArtifactId,
    operationId, idempotencyKey] = true
  deriving DecidableEq

variable (identity : IngestionOperationIdentity)

theorem IngestionOperationIdentity.version_nonEmpty :
    requireNonEmpty [identity.tenantId, identity.documentId,
      identity.documentVersionId] = true := by
  have parts := identity.nonEmpty
  simp only [requireNonEmpty_cons] at parts ⊢
  exact ⟨parts.1, parts.2.1, parts.2.2.1, rfl⟩

def IngestionOperationIdentity.version : DocumentVersionIdentity :=
  ⟨identity.tenantId, identity.documentId, identity.documentVersionId, identity.version_nonEmpty⟩

structure ParserAttemptIdentity where
  (operationId idempotencyKey : String)
  attemptNumber : Nat
  parserRequestId : String
  parserGeneration : Nat
  nonEmpty : requireNonEmpty [operationId, idempotencyKey, parserRequestId] = true
  attempt_pos : 0 < attemptNumber
  deriving DecidableEq

structure ParseManifest where
  (tenantId documentId documentVersionId sourceArtifactId sourceChecksumSha256 operationId
   idempotencyKey parserName parserVersion parseContractVersion : String)
  attemptNumber : Nat
  parserRequestId : String
  parserGeneration : Nat
  outputChecksumSha256 : String
  (pageCount sectionCount recordCount : Nat)
  (warnings errors : List String)
  nonEmpty : requireNonEmpty [tenantId, documentId, documentVersionId, sourceArtifactId,
    sourceChecksumSha256, operationId, idempotencyKey, parserName, parserVersion,
    parseContractVersion, parserRequestId, outputChecksumSha256] = true
  attempt_pos : 0 < attemptNumber
  deriving DecidableEq

structure ParsedDocumentCandidate where
  manifest : ParseManifest
  canonicalText : String
  sections : List String

structure ParsedArtifactDefinition where
  parsedArtifactId : String
  version : DocumentVersionIdentity
  (sourceArtifactId outputChecksumSha256 canonicalText : String)
  sections : List String
  manifest : ParseManifest
  deriving DecidableEq

structure IngestionActivationProposal where
  operation : IngestionOperationIdentity
  attempt : ParserAttemptIdentity
  parsedArtifact : ParsedArtifactDefinition

/-- Only a ready decision carries a proposal, and no decision owns durable authority. -/
structure CandidateValidationDecision where
  outcome : CandidateValidationOutcome
  safeReason : String
  proposal : Option IngestionActivationProposal
  (correlationChecks manifestValidationCalls structuralValidationCalls outputValidationCalls : Nat)
  ready_iff : outcome = .readyForCommit ↔ proposal.isSome = true

section Validator

-- `sha256` stands for `hashlib.sha256(text.encode("utf-8")).hexdigest()`.
variable (sha256 : String → String)

def sha256Text (value : String) : String := "sha256:" ++ sha256 value

namespace ParsedCandidateValidator

def blocked (outcome : CandidateValidationOutcome) (reason : String)
    (correlationChecks manifestValidationCalls structuralValidationCalls
      outputValidationCalls : Nat) (notReady : outcome ≠ .readyForCommit := by decide) :
    CandidateValidationDecision :=
  { outcome, safeReason := reason, proposal := none, correlationChecks,
    manifestValidationCalls, structuralValidationCalls, outputValidationCalls,
    ready_iff := by simp [notReady] }

variable (operation : IngestionOperationIdentity)

def correlationOk (attempt : ParserAttemptIdentity) (manifest : ParseManifest) : Prop :=
  attempt.operationId = operation.operationId ∧ attempt.idempotencyKey = operation.idempotencyKey ∧
    manifest.operationId = attempt.operationId ∧
    manifest.idempotencyKey = attempt.idempotencyKey ∧
    manifest.attemptNumber = attempt.attemptNumber ∧
    manifest.parserRequestId = attempt.parserRequestId ∧
    manifest.parserGeneration = attempt.parserGeneration
  deriving Decidable

def manifestBindingOk (version : DocumentVersionDefinition) (source : SourceArtifactReference)
    (manifest : ParseManifest) : Prop :=
  version.identity = operation.version ∧ source.version = operation.version ∧
    version.sourceArtifactId = operation.sourceArtifactId ∧
    source.sourceArtifactId = operation.sourceArtifactId ∧
    manifest.tenantId = operation.tenantId ∧
    manifest.documentId = operation.documentId ∧
    manifest.documentVersionId = operation.documentVersionId ∧
    manifest.sourceArtifactId = operation.sourceArtifactId ∧
    manifest.parseContractVersion = version.parseContractVersion
  deriving Decidable

def structureOk (candidate : ParsedDocumentCandidate) : Prop :=
  strip candidate.canonicalText.toList ≠ [] ∧
    candidate.manifest.sectionCount = candidate.sections.length ∧
    candidate.manifest.errors = []
  deriving Decidable

variable (operation : IngestionOperationIdentity)

def artifactMaterial (manifest : ParseManifest) : String :=
  "\x1f".intercalate [operation.operationId, operation.documentVersionId,
    manifest.outputChecksumSha256, manifest.parseContractVersion]

def parsedArtifact (candidate : ParsedDocumentCandidate) : ParsedArtifactDefinition :=
  { parsedArtifactId := "parsed:" ++ sha256 (artifactMaterial operation candidate.manifest)
    version := operation.version, sourceArtifactId := operation.sourceArtifactId
    outputChecksumSha256 := candidate.manifest.outputChecksumSha256
    canonicalText := candidate.canonicalText, sections := candidate.sections
    manifest := candidate.manifest }

variable (version : DocumentVersionDefinition) (source : SourceArtifactReference)
  (attempt : ParserAttemptIdentity) (candidate : ParsedDocumentCandidate)

def evaluate : CandidateValidationDecision :=
  if ¬ correlationOk operation attempt candidate.manifest then
    blocked .correlationConflict "PARSER_RESPONSE_DOES_NOT_BIND_CURRENT_ATTEMPT" 1 0 0 0
  else if ¬ manifestBindingOk operation version source candidate.manifest then
    blocked .manifestBindingConflict
      "PARSE_MANIFEST_DOES_NOT_BIND_EXPECTED_DOCUMENT_VERSION" 1 1 0 0
  else if candidate.manifest.sourceChecksumSha256 ≠ source.checksumSha256 then
    blocked .sourceChecksumConflict "PARSE_MANIFEST_SOURCE_CHECKSUM_MISMATCH" 1 1 0 0
  else if ¬ structureOk candidate then
    blocked .structureInvalid "PARSED_CANDIDATE_STRUCTURE_REJECTED" 1 1 1 0
  else if candidate.manifest.outputChecksumSha256 ≠
      sha256Text sha256 candidate.canonicalText then
    blocked .outputChecksumConflict "PARSED_OUTPUT_CHECKSUM_MISMATCH" 1 1 1 1
  else
    { outcome := .readyForCommit, safeReason := "CANDIDATE_VALIDATION_PASSED"
      proposal := some ⟨operation, attempt, parsedArtifact sha256 operation candidate⟩
      correlationChecks := 1, manifestValidationCalls := 1, structuralValidationCalls := 1
      outputValidationCalls := 1
      ready_iff := by simp }

theorem evaluate_proposal (proposal : IngestionActivationProposal)
    (ready : (evaluate sha256 operation version source attempt candidate).proposal =
      some proposal) :
    proposal = ⟨operation, attempt, parsedArtifact sha256 operation candidate⟩ := by
  unfold evaluate at ready
  split_ifs at ready
  all_goals first
    | exact (Option.some.inj ready).symm
    | cases ready

end ParsedCandidateValidator

variable (decision : CandidateValidationDecision)

/-- A decision that came out of the validator, on any inputs. -/
def Validated : Prop :=
  ∃ operation version source attempt candidate,
    decision = ParsedCandidateValidator.evaluate sha256 operation version source attempt candidate

theorem validated_artifact_id
    (proposal : IngestionActivationProposal) (validated : Validated sha256 decision)
    (ready : decision.proposal = some proposal) :
    truthy (some proposal.parsedArtifact.parsedArtifactId) = true := by
  rcases validated with ⟨_, _, _, _, _, rfl⟩
  rw [ParsedCandidateValidator.evaluate_proposal sha256 _ _ _ _ _ _ ready]
  exact truthy_append _ _ (by decide)

end Validator
end BackendHandbook.Ingestion
