import BackendHandbook.Chunking.Validator

/-! The sole writer of chunk sets: claims of attempts, the insertion of an immutable set under its
result key, and the conditional selection of a set with its outbox intent. -/

namespace BackendHandbook.Chunking

open Ingestion

deriving instance DecidableEq for ChunkingClaim

inductive ChunkCommitOutcome
  | committed | alreadyCommitted | identityConflict | notReady | staleAttempt | staleDay95Input
  | notFound

inductive SelectionOutcome
  | selected | alreadySelected | staleSelection | staleDay95Input | staleAttempt | notFound

structure ChunkCommitResult where
  outcome : ChunkCommitOutcome
  safeReason : String
  chunkSet : Option ChunkSet := none
  durableTransition : Bool := false

structure ChunkSelectionResult where
  outcome : SelectionOutcome
  safeReason : String
  selection : Option ChunkSelection := none
  durableTransition : Bool := false

inductive CommitRaised
  | keyError

/-- The digests of the identities that the writer gives out, one for each shape. -/
structure IdentityHashing where
  resultKey : String × String × String × String × String × String → String
  chunkId : String × Int × List (Nat × Nat × String) → String
  event : (String × String) × Nat × String → String

section Identities

variable (identities : IdentityHashing)
variable (operation : ChunkingOperationIdentity)

def ChunkingOperationIdentity.stableResultKey : String :=
  stableHash (identities.resultKey (operation.version.tenantId, operation.version.documentId,
    operation.version.documentVersionId, operation.sourceArtifactId, operation.parsedArtifactId,
    operation.contractFingerprint))

def ChunkingOperationIdentity.selectionKey : String × String :=
  (operation.version.tenantId, operation.version.documentId)

def chunkSetIdOf : String :=
  "chunk-set:" ++ Text.removeprefix "sha256:" (operation.stableResultKey identities)

def chunkOf (chunkSetId : String) (item : ChunkCandidate) : Chunk :=
  { chunkId := "chunk:" ++ Text.removeprefix "sha256:"
      (stableHash (identities.chunkId (chunkSetId, item.ordinal,
        item.sourceSegments.map fun segment => (segment.start, segment.end_, segment.role))))
    chunkSetId
    candidate := item }

/-- The set that a candidate becomes. -/
def chunkSetOf (candidate : ChunkSetCandidate) : ChunkSet :=
  { chunkSetId := chunkSetIdOf identities candidate.operation
    operation := candidate.operation, experimentId := candidate.experimentId
    manifest := candidate.manifest
    chunks :=
      candidate.chunks.map (chunkOf identities (chunkSetIdOf identities candidate.operation)) }

def selectionEventId (key : String × String) (revision : Nat) (chunkSetId : String) : String :=
  stableHash (identities.event (key, revision, chunkSetId))

end Identities

namespace InMemoryChunkSetStore

def markOutboxDispatched (eventId : String) (store : InMemoryChunkSetStore) :
    Bool × InMemoryChunkSetStore :=
  match store.outbox.lookup eventId with
  | none => (false, store)
  | some current =>
    if current.state = "DISPATCHED" then (true, store)
    else
      (true, { store with
        outbox := store.outbox.insert eventId { current with state := "DISPATCHED" } })

end InMemoryChunkSetStore

namespace ChunkSetCommitter

/-- The lifecycle facts of a version, unless one of them is missing. -/
def lifecycleOf (day95 : Ingestion.Store) (identity : DocumentVersionIdentity) :
    Option (DocumentHeadSnapshot × DocumentVersionLifecycleRecord × IngestionOperationRecord) := do
  let document ← day95.document? identity.document
  let version ← day95.version? identity
  let ingestion ← day95.operation? version.definition.createdByOperationId
  return (document, version, ingestion)

/-- The binding of the parsed artifact, its source and its operation to the claimed version. -/
def claimBindingOk (textHash : String → String) (document : DocumentHeadSnapshot)
    (version : DocumentVersionLifecycleRecord) (ingestion : IngestionOperationRecord)
    (parsed : ParsedArtifactDefinition) (source : SourceArtifactReference)
    (operation : ChunkingOperationIdentity) : Prop :=
  let eligibility := evaluateDay96ChunkingEligibility document version ingestion
  eligibility.outcome = .eligible ∧ eligibility.parsedArtifactId = some operation.parsedArtifactId ∧
    parsed.version = operation.version ∧
    source.version = operation.version ∧
    parsed.sourceArtifactId = source.sourceArtifactId ∧
    parsed.manifest.sourceChecksumSha256 = source.checksumSha256 ∧
    parsed.sourceArtifactId = version.definition.sourceArtifactId ∧
    parsed.manifest.tenantId = operation.version.tenantId ∧
    parsed.manifest.documentId = operation.version.documentId ∧
    parsed.manifest.documentVersionId = operation.version.documentVersionId ∧
    parsed.manifest.sourceArtifactId = operation.sourceArtifactId ∧
    parsed.manifest.operationId = ingestion.identity.operationId ∧
    parsed.manifest.idempotencyKey = ingestion.identity.idempotencyKey ∧
    parsed.manifest.parseContractVersion = version.definition.parseContractVersion ∧
    ingestion.identity.version = operation.version ∧
    ingestion.identity.sourceArtifactId = operation.sourceArtifactId ∧
    (∃ attempt ∈ ingestion.attempt, parsed.manifest.attemptNumber = attempt.attemptNumber ∧
      parsed.manifest.parserRequestId = attempt.parserRequestId ∧
      parsed.manifest.parserGeneration = attempt.parserGeneration) ∧
    parsed.outputChecksumSha256 = sha256Text textHash parsed.canonicalText ∧
    parsed.manifest.outputChecksumSha256 = parsed.outputChecksumSha256
  deriving Decidable

/-- What the claimed operation reads of the lifecycle is complete and bound to it. -/
def claimable (textHash : String → String) (day95 : Ingestion.Store)
    (operation : ChunkingOperationIdentity) : Bool :=
  match lifecycleOf day95 operation.version,
      day95.parsedArtifacts.lookup operation.parsedArtifactId,
      day95.sourceArtifacts.lookup operation.sourceArtifactId with
  | some (document, version, ingestion), some parsed, some source =>
    decide (claimBindingOk textHash document version ingestion parsed source operation)
  | _, _, _ => false

def attemptAdmissible (previous : Option ChunkingClaim) (attempt : ChunkingAttemptIdentity) :
    Bool :=
  match previous with
  | none => attempt.attemptNumber == 1 && attempt.generation == 1
  | some claim => attempt.attemptNumber == claim.attempt.attemptNumber + 1 &&
      attempt.generation == claim.attempt.generation + 1 &&
      attempt.requestId != claim.attempt.requestId

def nextClaim (operation : ChunkingOperationIdentity) (attempt : ChunkingAttemptIdentity)
    (previous : Option ChunkingClaim) : ChunkingClaim :=
  { operation, attempt, revision := (previous.map (·.revision)).getD 0 + 1
    fence := (previous.map (·.fence)).getD 0 + 1 }

def claim (textHash : String → String) (day95 : Ingestion.Store)
    (operation : ChunkingOperationIdentity) (attempt : ChunkingAttemptIdentity)
    (store : InMemoryChunkSetStore) : Option ChunkingClaim × InMemoryChunkSetStore :=
  let existing := store.operations.lookup operation.operationId
  let idempotencyKey := (operation.version.tenantId, operation.idempotencyKey)
  let priorOperationId := store.idempotency.lookup idempotencyKey
  let previous := store.claims.lookup operation.operationId
  if attempt.operationId ≠ operation.operationId then (none, store)
  else if claimable textHash day95 operation = false then (none, store)
  else if existing ≠ none ∧ existing ≠ some operation then (none, store)
  else if priorOperationId ≠ none ∧ priorOperationId ≠ some operation.operationId then
    (none, store)
  else if previous ≠ none ∧ previous.map (·.attempt) = some attempt then (previous, store)
  else if attemptAdmissible previous attempt = false then (none, store)
  else
    (some (nextClaim operation attempt previous), { store with
      operations := store.operations.insert operation.operationId operation
      idempotency := store.idempotency.insert idempotencyKey operation.operationId
      claims := store.claims.insert operation.operationId (nextClaim operation attempt previous) })

section Persist

variable (hashing : Hashing) (tokenizer : TokenizerPort) (identities : IdentityHashing)

def refused (outcome : ChunkCommitOutcome) (safeReason : String) : ChunkCommitResult :=
  { outcome, safeReason }

/-- The checks of a candidate before its result key is looked at: what refuses it, if anything. -/
def refusal (day95 : Ingestion.Store) (contract : ChunkingContract)
    (candidate : ChunkSetCandidate) (store : InMemoryChunkSetStore) : Option ChunkCommitResult :=
  let operation := candidate.operation
  if (store.claims.lookup operation.operationId).map (·.attempt) ≠ some candidate.attempt then
    some (refused .staleAttempt "CHUNKING_ATTEMPT_GENERATION_STALE")
  else
    match lifecycleOf day95 operation.version with
    | none => some (refused .staleDay95Input "DAY95_LIFECYCLE_FACT_MISSING")
    | some (document, version, ingestion) =>
      match day95.parsedArtifacts.lookup operation.parsedArtifactId,
          day95.sourceArtifacts.lookup operation.sourceArtifactId with
      | some parsed, some source =>
        let refreshed := ChunkSetCandidateValidator.evaluate hashing tokenizer document version
          ingestion parsed source contract candidate
        if refreshed.outcome ≠ .readyForCommit then
          some (refused .staleDay95Input refreshed.safeReason)
        else none
      | _, _ => some (refused .staleDay95Input "DAY95_SOURCE_OR_PARSED_ARTIFACT_MISSING")

def commit (candidate : ChunkSetCandidate) (store : InMemoryChunkSetStore) :
    Except CommitRaised ChunkCommitResult × InMemoryChunkSetStore :=
  let operation := candidate.operation
  match store.resultKeys.lookup (operation.stableResultKey identities) with
  | some existingId =>
    match store.sets.lookup existingId with
    | none => (.error .keyError, store)
    | some existingSet =>
      if existingSet.manifest ≠ candidate.manifest ∨
          existingSet.operation.contractFingerprint ≠ operation.contractFingerprint then
        (.ok (refused .identityConflict "SAME_RESULT_IDENTITY_HAS_DIFFERENT_MANIFEST"), store)
      else
        (.ok { outcome := .alreadyCommitted, safeReason := "EXACT_CHUNK_SET_ALREADY_COMMITTED"
               chunkSet := some existingSet }, store)
  | none =>
    let chunkSet := chunkSetOf identities candidate
    (.ok { outcome := .committed, safeReason := "IMMUTABLE_CHUNK_SET_COMMITTED"
           chunkSet := some chunkSet, durableTransition := true },
      { store with
        sets := store.sets.insert chunkSet.chunkSetId chunkSet
        resultKeys :=
          store.resultKeys.insert (operation.stableResultKey identities) chunkSet.chunkSetId })

def persist (day95 : Ingestion.Store) (decision : ChunkValidationDecision)
    (contract : ChunkingContract) (store : InMemoryChunkSetStore) :
    Except CommitRaised ChunkCommitResult × InMemoryChunkSetStore :=
  match decision.candidate with
  | none => (.ok (refused .notReady "CANDIDATE_NOT_READY"), store)
  | some candidate =>
    match refusal hashing tokenizer day95 contract candidate store with
    | some result => (.ok result, store)
    | none => commit identities candidate store

end Persist

section Select

variable (textHash : String → String) (identities : IdentityHashing)

def unselected (outcome : SelectionOutcome) (safeReason : String)
    (selection : Option ChunkSelection := none) : ChunkSelectionResult :=
  { outcome, safeReason, selection }

/-- The lifecycle still has the version of the set active, at the expected state and fence. -/
def selectable (day95 : Ingestion.Store) (operation : ChunkingOperationIdentity)
    (expectedDocumentStateVersion expectedDocumentFence : Int) (document : DocumentHeadSnapshot)
    (version : DocumentVersionLifecycleRecord) (ingestion : IngestionOperationRecord) : Bool :=
  let eligibility := evaluateDay96ChunkingEligibility document version ingestion
  match day95.parsedArtifacts.lookup operation.parsedArtifactId,
      day95.sourceArtifacts.lookup operation.sourceArtifactId with
  | some parsed, some source =>
    decide (eligibility.outcome = .eligible ∧
      eligibility.parsedArtifactId = some operation.parsedArtifactId ∧
      parsed.outputChecksumSha256 = sha256Text textHash parsed.canonicalText ∧
      parsed.manifest.sourceChecksumSha256 = source.checksumSha256 ∧
      (document.stateVersion : Int) = expectedDocumentStateVersion ∧
      (document.fenceToken : Int) = expectedDocumentFence)
  | _, _ => false

variable (operation : ChunkingOperationIdentity) (chunkSetId : String)

def selectionIntent (revision : Nat) : ChunkSelectionOutboxIntent :=
  { eventId := selectionEventId identities operation.selectionKey revision chunkSetId
    tenantId := operation.version.tenantId, documentId := operation.version.documentId
    documentVersionId := operation.version.documentVersionId
    chunkSetId
    selectionRevision := revision }

/-- The writes of a selection: the selection of the document and its outbox intent. -/
def writeSelection (revision fence : Nat) (store : InMemoryChunkSetStore) :
    ChunkSelectionResult × InMemoryChunkSetStore :=
  let selection : ChunkSelection :=
    { tenantId := operation.version.tenantId, documentId := operation.version.documentId
      documentVersionId := operation.version.documentVersionId, chunkSetId, revision, fence }
  let outbox := selectionIntent identities operation chunkSetId revision
  ({ outcome := .selected, safeReason := "CHUNK_SET_SELECTED_WITH_OUTBOX_INTENT"
     selection := some selection, durableTransition := true },
    { store with
      selections := store.selections.insert operation.selectionKey selection
      outbox := store.outbox.insert outbox.eventId outbox })

def selectCurrent
    (expectedSelectedId : Option String) (expectedSelectionRevision : Int) (fence : Nat)
    (store : InMemoryChunkSetStore) : ChunkSelectionResult × InMemoryChunkSetStore :=
  let previous := store.selections.lookup operation.selectionKey
  let actualRevision : Nat := (previous.map (·.revision)).getD 0
  if previous.map (·.chunkSetId) = some chunkSetId then
    (unselected .alreadySelected "CHUNK_SET_ALREADY_SELECTED" previous, store)
  else if previous.map (·.chunkSetId) ≠ expectedSelectedId ∨
      (actualRevision : Int) ≠ expectedSelectionRevision then
    (unselected .staleSelection "SELECTED_CHUNK_SET_BASELINE_CHANGED" previous, store)
  else writeSelection identities operation chunkSetId (actualRevision + 1) fence store

def select (day95 : Ingestion.Store) (chunkSetId : String) (expectedSelectedId : Option String)
    (expectedSelectionRevision expectedDocumentStateVersion expectedDocumentFence : Int)
    (claim : ChunkingClaim) (store : InMemoryChunkSetStore) :
    ChunkSelectionResult × InMemoryChunkSetStore :=
  match store.sets.lookup chunkSetId with
  | none => (unselected .notFound "CHUNK_SET_NOT_FOUND", store)
  | some chunkSet =>
    let operation := chunkSet.operation
    if claim.operation.stableResultKey identities ≠ operation.stableResultKey identities ∨
        store.claims.lookup claim.operation.operationId ≠ some claim then
      (unselected .staleAttempt "CHUNKING_CLAIM_FENCE_STALE", store)
    else
      match lifecycleOf day95 operation.version with
      | none => (unselected .staleDay95Input "DAY95_LIFECYCLE_FACT_MISSING", store)
      | some (document, version, ingestion) =>
        if selectable textHash day95 operation expectedDocumentStateVersion
            expectedDocumentFence document version ingestion = false then
          (unselected .staleDay95Input "DAY95_ACTIVE_VERSION_OR_FENCE_CHANGED", store)
        else
          selectCurrent identities operation chunkSetId expectedSelectedId
            expectedSelectionRevision claim.fence store

end Select

end ChunkSetCommitter

end BackendHandbook.Chunking
