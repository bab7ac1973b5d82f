import BackendHandbook.Ingestion.Store

/-! The sole writer of lifecycle facts: intake, operation transitions, quarantine,
tombstone and activation. -/

namespace BackendHandbook.Ingestion

open Text

inductive IngestionIntakeOutcome
  | created | newImmutableVersion | exactDuplicate | identityConflict | documentTombstoned

inductive IngestionOperationTransitionOutcome
  | committed | alreadyCommitted | identityConflict | stale

inductive IngestionCommitOutcome
  | committed | alreadyCommitted | notReady | bindingConflict | documentStale | versionStale
  | operationStale | artifactConflict
  deriving DecidableEq

structure IngestionIntakeResult where
  outcome : IngestionIntakeOutcome
  safeReason : String
  document : Option DocumentHeadSnapshot := none
  version : Option DocumentVersionLifecycleRecord := none
  operation : Option IngestionOperationRecord := none
  source : Option SourceArtifactReference := none
  committerCalls : Nat := 1
  durableTransition : Bool := false

structure IngestionOperationTransitionResult where
  outcome : IngestionOperationTransitionOutcome
  record : Option IngestionOperationRecord := none
  committerCalls : Nat := 1
  durableTransition : Bool := false

structure IngestionCommitResult where
  outcome : IngestionCommitOutcome
  safeReason : String
  document : Option DocumentHeadSnapshot := none
  version : Option DocumentVersionLifecycleRecord := none
  operation : Option IngestionOperationRecord := none
  parsedArtifact : Option ParsedArtifactDefinition := none
  committerCalls : Nat := 1
  durableTransition : Bool := false

/-- Expectations of an activation; the source rejects negative numbers when it is built. -/
structure IngestionActivationGuard where
  expectedDocumentState : DocumentHeadState
  expectedActiveVersionId : Option String
  (expectedDocumentStateVersion expectedDocumentFence : Nat)
  expectedVersionState : DocumentVersionLifecycle
  (expectedVersionStateVersion expectedVersionFence : Nat)
  expectedOperationState : IngestionOperationState
  (expectedOperationStateVersion expectedOperationFence : Nat)

def operationEvent (identity : IngestionOperationIdentity) (eventId eventType : String) :
    IngestionLifecycleOutboxIntent :=
  { eventId, eventType, tenantId := identity.tenantId, documentId := identity.documentId,
    documentVersionId := identity.documentVersionId, operationId := identity.operationId }

namespace IngestionCommitter

def intakeBindingConflict (operation : IngestionOperationIdentity)
    (version : DocumentVersionDefinition) (source : SourceArtifactReference) : Prop :=
  operation.version ≠ version.identity ∨ source.version ≠ version.identity ∨
    operation.sourceArtifactId ≠ source.sourceArtifactId ∨
    version.sourceArtifactId ≠ source.sourceArtifactId ∨
    version.createdByOperationId ≠ operation.operationId
  deriving Decidable

def fingerprint (version : DocumentVersionDefinition) (source : SourceArtifactReference) :
    Fingerprint :=
  (source.checksumSha256, source.sizeBytes, source.detectedMediaType, version.parseContractVersion)

def registeredDocument (identity : DocumentIdentity) : DocumentHeadSnapshot :=
  { identity, state := .registered, activeVersionId := none, stateVersion := 0,
    fenceToken := 0, pointer_iff := by decide }

def registeredVersion (version : DocumentVersionDefinition) : DocumentVersionLifecycleRecord :=
  { definition := version, state := .registered, parsedArtifactId := none,
    activationCommitId := none, stateVersion := 0, fenceToken := 0, valid := by decide }

variable (operation : IngestionOperationIdentity)

def readyOperation : IngestionOperationRecord :=
  { identity := operation, state := .readyForDispatch, stateVersion := 0, fenceToken := 0,
    attempt := none, attemptHistory := [], valid := by simp [IngestionOperationRecord.postInit,
      IngestionOperationRecord.requiresAttempt] }

/-- The writes of an accepted intake, in one locked transaction. -/
def registerFacts (version : DocumentVersionDefinition) (source : SourceArtifactReference)
    (document : DocumentHeadSnapshot) (store : Store) : Store :=
  let facts := fingerprint version source
  { store with
    documents := store.documents.insert (documentKey version.identity.document) document
    versions := store.versions.insert (versionKey version.identity) (registeredVersion version)
    operations := store.operations.insert operation.operationId (readyOperation operation)
    sourceArtifacts := store.sourceArtifacts.insert source.sourceArtifactId source
    operationSourceFingerprints :=
      store.operationSourceFingerprints.insert operation.operationId facts
    idempotencyOperations := store.idempotencyOperations.insert
      (operation.tenantId, operation.idempotencyKey) operation.operationId
    documentFingerprints := store.documentFingerprints.insert
      (operation.tenantId, operation.documentId, facts) operation.operationId
    outbox := store.outbox.setdefault ("ingestion-registered:" ++ operation.operationId)
      (operationEvent operation ("ingestion-registered:" ++ operation.operationId)
        "INGESTION_REGISTERED") }

def intakeOfKnownOperation (version : DocumentVersionDefinition) (source : SourceArtifactReference)
    (existing : IngestionOperationRecord) (store : Store) : IngestionIntakeResult :=
  let existingVersion := store.version? existing.identity.version
  let existingSource := store.sourceArtifacts.lookup existing.identity.sourceArtifactId
  if existing.identity = operation ∧
      store.operationSourceFingerprints.lookup operation.operationId =
        some (fingerprint version source) ∧
      existingVersion.map (·.definition) = some version ∧
      existingSource = some source then
    { outcome := .exactDuplicate, safeReason := "EXACT_OPERATION_AND_SOURCE_FINGERPRINT_REUSED"
      document := store.document? version.identity.document, version := existingVersion
      operation := some existing, source := existingSource }
  else
    { outcome := .identityConflict
      safeReason := "OPERATION_ID_ALREADY_BINDS_DIFFERENT_INGESTION_INPUT"
      operation := some existing }

/-- The answer for a source fingerprint already registered under this document. -/
def intakeOfKnownFingerprint (version : DocumentVersionDefinition)
    (duplicateOperationId : String) (store : Store) : Except Raised IngestionIntakeResult :=
  match store.operation? duplicateOperationId with
  | none => .error .keyError
  | some duplicate =>
    match store.version? duplicate.identity.version,
        store.sourceArtifacts.lookup duplicate.identity.sourceArtifactId with
    | some duplicateVersion, some duplicateSource => .ok
        { outcome := .exactDuplicate
          safeReason := "DOCUMENT_SOURCE_AND_PARSE_CONTRACT_ALREADY_REGISTERED"
          document := store.document? version.identity.document, version := some duplicateVersion
          operation := some duplicate, source := some duplicateSource }
    | _, _ => .error .keyError

variable (operation : IngestionOperationIdentity) (version : DocumentVersionDefinition)
  (source : SourceArtifactReference) (store : Store)

/-- Intake of a new operation with a new fingerprint: the document may still refuse it. -/
def intakeOfNewVersion : IngestionIntakeResult × Store :=
  let current := store.document? version.identity.document
  if current.any (·.state = .tombstoned) then
    ({ outcome := .documentTombstoned
       safeReason := "TOMBSTONED_DOCUMENT_REQUIRES_EXPLICIT_RESTORE_POLICY"
       document := current }, store)
  else match store.version? version.identity with
  | some existing =>
    ({ outcome := .identityConflict
       safeReason := "DOCUMENT_VERSION_ID_IS_IMMUTABLE_AND_ALREADY_EXISTS", document := current
       version := some existing }, store)
  | none =>
    if (store.sourceArtifacts.lookup source.sourceArtifactId).isSome then
      ({ outcome := .identityConflict
         safeReason := "SOURCE_ARTIFACT_ID_IS_IMMUTABLE_AND_ALREADY_EXISTS"
         document := current }, store)
    else
      let document := current.getD (registeredDocument version.identity.document)
      ({ outcome := if current.isNone then .created else .newImmutableVersion
         safeReason := if current.isNone then "DOCUMENT_AND_FIRST_IMMUTABLE_VERSION_REGISTERED"
           else "NEW_IMMUTABLE_DOCUMENT_VERSION_REGISTERED"
         document := some document, version := some (registeredVersion version)
         operation := some (readyOperation operation), source := some source
         durableTransition := true },
        registerFacts operation version source document store)

def registerIntake : Except Raised IngestionIntakeResult × Store :=
  if intakeBindingConflict operation version source then
    (.ok { outcome := .identityConflict
           safeReason := "INTAKE_DOCUMENT_VERSION_SOURCE_BINDING_CONFLICT" }, store)
  else match store.operation? operation.operationId with
  | some existing => (.ok (intakeOfKnownOperation operation version source existing store), store)
  | none =>
    match store.idempotencyOperations.lookup (operation.tenantId, operation.idempotencyKey) with
    | some holder =>
      match store.operation? holder with
      | none => (.error .keyError, store)
      | some bound =>
        (.ok { outcome := .identityConflict
               safeReason := "IDEMPOTENCY_KEY_ALREADY_BINDS_ANOTHER_OPERATION"
               operation := some bound }, store)
    | none =>
      match store.documentFingerprints.lookup
          (operation.tenantId, operation.documentId, fingerprint version source) with
      | some duplicate => (intakeOfKnownFingerprint version duplicate store, store)
      | none =>
        let (result, next) := intakeOfNewVersion operation version source store
        (.ok result, next)

variable (identity : IngestionOperationIdentity)

def transition (source target : IngestionOperationState) (expectedStateVersion expectedFence : Int)
    (admits : IngestionOperationRecord → Bool)
    (history : IngestionOperationRecord → List ParserAttemptIdentity)
    (eventId : IngestionOperationRecord → String) (eventType : String) (store : Store) :
    Except Raised IngestionOperationTransitionResult × Store :=
  match store.operation? identity.operationId with
  | none => (.ok { outcome := .identityConflict }, store)
  | some current =>
    if current.identity ≠ identity then
      (.ok { outcome := .identityConflict }, store)
    else if current.state = target then
      (.ok { outcome := .alreadyCommitted, record := some current }, store)
    else if current.state ≠ source ∨ (current.stateVersion : Int) ≠ expectedStateVersion ∨
        (current.fenceToken : Int) ≠ expectedFence ∨ admits current = false then
      (.ok { outcome := .stale, record := some current }, store)
    else
      match current.advance target current.attempt (history current) with
      | .error raised => (.error raised, store)
      | .ok next =>
        (.ok { outcome := .committed, record := some next, durableTransition := true },
          (store.putOperation identity.operationId next).emit
            (operationEvent identity (eventId next) eventType))

variable (expectedStateVersion expectedFence : Int)

def prepareProvenNotExecutedRetry :
    Store → Except Raised IngestionOperationTransitionResult × Store :=
  transition identity .provenNotExecuted .readyForDispatch expectedStateVersion expectedFence
    (fun current => current.attempt.isSome) (fun current => current.rememberCurrent)
    (fun ready => "ingestion-retry-ready:" ++ identity.operationId ++ ":" ++
      toString ready.stateVersion)
    "INGESTION_RETRY_READY"

def markPendingReconciliation : Store → Except Raised IngestionOperationTransitionResult × Store :=
  transition identity .parseDispatchStarted .pendingReconciliation expectedStateVersion
    expectedFence (fun _ => true) (fun current => current.attemptHistory)
    (fun _ => "ingestion-reconcile:" ++ identity.operationId)
    "INGESTION_RECONCILIATION_REQUIRED"

def reconciliationEventType (target : IngestionOperationState) : String :=
  if target = .provenNotExecuted then "INGESTION_PROVEN_NOT_EXECUTED"
  else "INGESTION_AUTHORITATIVE_FAILURE"

variable (identity : IngestionOperationIdentity)

def commitAuthoritativeReconciliation
    (target : IngestionOperationState) (expectedStateVersion expectedFence : Int)
    (store : Store) : Except Raised IngestionOperationTransitionResult × Store :=
  if target ≠ .failed ∧ target ≠ .provenNotExecuted then
    (.error (.valueError "unsupported authoritative reconciliation target"), store)
  else
    transition identity .pendingReconciliation target expectedStateVersion expectedFence
      (fun _ => true) (fun current => current.attemptHistory)
      (fun _ => lower (reconciliationEventType target) ++ ":" ++ identity.operationId)
      (reconciliationEventType target) store

def markQuarantined (expectedStateVersion expectedFence : Int) (store : Store) :
    Except Raised IngestionOperationTransitionResult × Store :=
  match store.operation? identity.operationId with
  | none => (.ok { outcome := .identityConflict }, store)
  | some current =>
    if current.identity ≠ identity then
      (.ok { outcome := .identityConflict }, store)
    else if current.state = .quarantined then
      (.ok { outcome := .alreadyCommitted, record := some current }, store)
    else if current.state ≠ .parseDispatchStarted ∨
        (current.stateVersion : Int) ≠ expectedStateVersion ∨
        (current.fenceToken : Int) ≠ expectedFence then
      (.ok { outcome := .stale, record := some current }, store)
    else
      match current.advance .quarantined current.attempt current.attemptHistory with
      | .error raised => (.error raised, store)
      | .ok quarantined =>
        match store.version? identity.version with
        | none => (.ok { outcome := .stale, record := some current }, store)
        | some version =>
          if version.state ≠ .registered then
            (.ok { outcome := .stale, record := some current }, store)
          else
            match version.advance .quarantined version.parsedArtifactId
                version.activationCommitId with
            | .error raised => (.error raised, store)
            | .ok quarantinedVersion =>
              (.ok { outcome := .committed, record := some quarantined, durableTransition := true },
                ((store.putOperation identity.operationId quarantined).putVersion
                  (versionKey identity.version) quarantinedVersion).emit
                  (operationEvent identity ("ingestion-quarantined:" ++ identity.operationId)
                    "INGESTION_QUARANTINED"))

variable (identity : DocumentIdentity)

def tombstoneEvent (tombstoned : DocumentHeadSnapshot)
    (activeVersion : Option DocumentVersionLifecycleRecord) : IngestionLifecycleOutboxIntent :=
  { eventId := "document-tombstoned:" ++ identity.tenantId ++ ":" ++ identity.documentId ++
      ":" ++ toString tombstoned.stateVersion
    eventType := "DOCUMENT_TOMBSTONED", tenantId := identity.tenantId
    documentId := identity.documentId
    documentVersionId := match activeVersion with
      | some version => version.definition.identity.documentVersionId
      | none => "none"
    operationId := "lifecycle-tombstone" }

/-- Retire the version under the pointer; `none` when the pointer names no active version. -/
def retireActiveVersion (document : DocumentHeadSnapshot) (store : Store) :
    Option (Except Raised (Option DocumentVersionLifecycleRecord × Store)) :=
  match document.activeVersionId with
  | none => some (.ok (none, store))
  | some activeId =>
    let activeKey := (identity.tenantId, identity.documentId, activeId)
    match store.versions.lookup activeKey with
    | none => none
    | some active =>
      if active.state ≠ .active then none
      else
        match active.advance .tombstoned active.parsedArtifactId active.activationCommitId with
        | .error raised => some (.error raised)
        | .ok retired => some (.ok (some retired, store.putVersion activeKey retired))

def tombstoneDocument (expectedState : DocumentHeadState)
    (expectedStateVersion expectedFence : Int) (store : Store) :
    Except Raised IngestionCommitResult × Store :=
  match store.document? identity with
  | none => (.ok { outcome := .bindingConflict, safeReason := "DOCUMENT_NOT_FOUND" }, store)
  | some document =>
    if document.state = .tombstoned then
      (.ok { outcome := .alreadyCommitted, safeReason := "DOCUMENT_ALREADY_TOMBSTONED",
             document := some document }, store)
    else if document.state ≠ expectedState ∨ (document.stateVersion : Int) ≠ expectedStateVersion ∨
        (document.fenceToken : Int) ≠ expectedFence then
      (.ok { outcome := .documentStale
             safeReason := "DOCUMENT_STATE_VERSION_OR_FENCE_CHANGED"
             document := some document }, store)
    else
      match retireActiveVersion identity document store with
      | none =>
        (.ok { outcome := .versionStale
               safeReason := "ACTIVE_POINTER_DOES_NOT_BIND_ACTIVE_VERSION"
               document := some document
               version := document.activeVersionId.bind fun activeId =>
                 store.versions.lookup (identity.tenantId, identity.documentId, activeId) },
          store)
      | some (.error raised) => (.error raised, store)
      | some (.ok (activeVersion, retired)) =>
        match document.advance .tombstoned none with
        | .error raised => (.error raised, retired)
        | .ok tombstoned =>
          (.ok { outcome := .committed
                 safeReason := "DOCUMENT_TOMBSTONE_PUBLISHED_EVIDENCE_RETAINED"
                 document := some tombstoned, version := activeVersion
                 durableTransition := true },
            (retired.putDocument identity tombstoned).emit
              (tombstoneEvent identity tombstoned activeVersion))

variable (document : DocumentHeadSnapshot) (version : DocumentVersionLifecycleRecord)
  (operation : IngestionOperationRecord)

def bindingsMatch (proposalOperation : IngestionOperationIdentity)
    (proposalAttempt : ParserAttemptIdentity) (artifact : ParsedArtifactDefinition) : Prop :=
  document.identity = proposalOperation.version.document ∧
    version.definition.identity = proposalOperation.version ∧
    version.definition.sourceArtifactId = proposalOperation.sourceArtifactId ∧
    operation.identity = proposalOperation ∧
    operation.attempt = some proposalAttempt ∧
    artifact.version = proposalOperation.version ∧
    artifact.sourceArtifactId = proposalOperation.sourceArtifactId ∧
    artifact.manifest.operationId = proposalOperation.operationId ∧
    artifact.manifest.idempotencyKey = proposalOperation.idempotencyKey
  deriving Decidable

def alreadyCommitted (artifact : ParsedArtifactDefinition) : Prop :=
  document.state = .active ∧
    document.activeVersionId = some version.definition.identity.documentVersionId ∧
    version.state = .active ∧
    version.parsedArtifactId = some artifact.parsedArtifactId ∧
    operation.state = .completed
  deriving Decidable

def documentGuardMatches (document : DocumentHeadSnapshot) (guard : IngestionActivationGuard) :
    Prop :=
  document.state = guard.expectedDocumentState ∧
    document.activeVersionId = guard.expectedActiveVersionId ∧
    document.stateVersion = guard.expectedDocumentStateVersion ∧
    document.fenceToken = guard.expectedDocumentFence
  deriving Decidable

def versionGuardMatches (version : DocumentVersionLifecycleRecord)
    (guard : IngestionActivationGuard) : Prop :=
  version.state = guard.expectedVersionState ∧
    version.stateVersion = guard.expectedVersionStateVersion ∧
    version.fenceToken = guard.expectedVersionFence
  deriving Decidable

def operationGuardMatches (operation : IngestionOperationRecord)
    (guard : IngestionActivationGuard) : Prop :=
  operation.state = guard.expectedOperationState ∧
    operation.stateVersion = guard.expectedOperationStateVersion ∧
    operation.fenceToken = guard.expectedOperationFence
  deriving Decidable

def artifactConflicts (artifact : ParsedArtifactDefinition) (store : Store) : Bool :=
  (store.parsedArtifacts.lookup artifact.parsedArtifactId).any (· ≠ artifact)

def commitId (operation : IngestionOperationIdentity) (document : DocumentHeadSnapshot) : String :=
  "activate:" ++ operation.operationId ++ ":" ++ toString (document.stateVersion + 1)

/-- Supersede another version under the pointer; `none` when it is not an active version. -/
def supersedePrevious (document : DocumentHeadSnapshot) (identity : DocumentVersionIdentity)
    (store : Store) : Option (Except Raised Store) :=
  match document.activeVersionId with
  | none => some (.ok store)
  | some previousId =>
    if truthy (some previousId) = true ∧ previousId ≠ identity.documentVersionId then
      let previousKey := (identity.tenantId, identity.documentId, previousId)
      match store.versions.lookup previousKey with
      | none => none
      | some previous =>
        if previous.state ≠ .active then none
        else
          match previous.advance .superseded previous.parsedArtifactId
              previous.activationCommitId with
          | .error raised => some (.error raised)
          | .ok superseded => some (.ok (store.putVersion previousKey superseded))
    else some (.ok store)

/-- The five writes of an activation, in the order of the source. -/
def publish (proposal : IngestionActivationProposal) (document : DocumentHeadSnapshot)
    (version : DocumentVersionLifecycleRecord) (operation : IngestionOperationRecord)
    (store : Store) : Store :=
  let identity := proposal.operation
  let artifacts := store.parsedArtifacts.setdefault proposal.parsedArtifact.parsedArtifactId
    proposal.parsedArtifact
  ((({ store with parsedArtifacts := artifacts }.putVersion (versionKey identity.version)
    version).putDocument identity.version.document document).putOperation
    identity.operationId operation).emit
    (operationEvent identity ("document-version-active:" ++ identity.operationId)
      "DOCUMENT_VERSION_ACTIVATED")

/-- The activation proper, after every guard has passed. -/
def activate (document : DocumentHeadSnapshot) (version : DocumentVersionLifecycleRecord)
    (operation : IngestionOperationRecord) (proposal : IngestionActivationProposal)
    (store : Store) : Except Raised IngestionCommitResult × Store :=
  let identity := proposal.operation
  let artifact := proposal.parsedArtifact
  match version.advance .active (some artifact.parsedArtifactId)
      (some (commitId identity document)) with
  | .error raised => (.error raised, store)
  | .ok committedVersion =>
    match document.advance .active (some identity.documentVersionId) with
    | .error raised => (.error raised, store)
    | .ok committedDocument =>
      match operation.advance .completed operation.attempt operation.attemptHistory with
      | .error raised => (.error raised, store)
      | .ok committedOperation =>
        (.ok { outcome := .committed
               safeReason := "DOCUMENT_VERSION_ACTIVATED", document := some committedDocument
               version := some committedVersion, operation := some committedOperation
               parsedArtifact := some artifact
               durableTransition := true },
          publish proposal committedDocument committedVersion committedOperation store)

def commit (decision : CandidateValidationDecision) (guard : IngestionActivationGuard)
    (store : Store) : Except Raised IngestionCommitResult × Store :=
  match decision.proposal with
  | none =>
    (.ok { outcome := .notReady, safeReason := "VALIDATED_ACTIVATION_PROPOSAL_REQUIRED" }, store)
  | some proposal =>
    match store.document? proposal.operation.version.document,
        store.version? proposal.operation.version,
        store.operation? proposal.operation.operationId with
    | some document, some version, some operation =>
      let blocked (outcome : IngestionCommitOutcome) (reason : String) :
          Except Raised IngestionCommitResult × Store :=
        (.ok { outcome, safeReason := reason, document := some document,
               version := some version, operation := some operation }, store)
      if ¬ bindingsMatch document version operation proposal.operation proposal.attempt
          proposal.parsedArtifact then
        blocked .bindingConflict "ACTIVATION_PROPOSAL_BINDING_CONFLICT"
      else if alreadyCommitted document version operation proposal.parsedArtifact then
        (.ok { outcome := .alreadyCommitted
               safeReason := "ACTIVATION_ALREADY_COMMITTED", document := some document
               version := some version, operation := some operation
               parsedArtifact := some proposal.parsedArtifact }, store)
      else if ¬ documentGuardMatches document guard then
        blocked .documentStale "DOCUMENT_STATE_VERSION_OR_FENCE_CHANGED"
      else if ¬ versionGuardMatches version guard then
        blocked .versionStale "DOCUMENT_VERSION_STATE_VERSION_OR_FENCE_CHANGED"
      else if ¬ operationGuardMatches operation guard then
        blocked .operationStale "INGESTION_OPERATION_STATE_VERSION_OR_FENCE_CHANGED"
      else if artifactConflicts proposal.parsedArtifact store then
        blocked .artifactConflict "PARSED_ARTIFACT_IDENTITY_CONFLICT"
      else
        match supersedePrevious document proposal.operation.version store with
        | none =>
          blocked .bindingConflict "ACTIVE_POINTER_DOES_NOT_BIND_AN_ACTIVE_VERSION"
        | some (.error raised) => (.error raised, store)
        | some (.ok superseded) => activate document version operation proposal superseded
    | _, _, _ =>
      (.ok { outcome := .bindingConflict, safeReason := "CURRENT_LIFECYCLE_FACTS_NOT_FOUND" },
        store)

end IngestionCommitter
end BackendHandbook.Ingestion
