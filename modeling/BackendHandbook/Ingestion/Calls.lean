import BackendHandbook.Foundation.Run
import BackendHandbook.Ingestion.Committer

/-! The atomic calls on the ingestion store, and what each of them can change.

`Change` lists every durable transition with the guards it passed. -/

namespace BackendHandbook.Ingestion

open Text InMemoryIngestionLifecycleStore IngestionCommitter

inductive Call
  | registerIntake (operation : IngestionOperationIdentity)
      (version : DocumentVersionDefinition) (source : SourceArtifactReference)
  | claimParseDispatch (identity : IngestionOperationIdentity)
      (attempt : ParserAttemptIdentity) (expectedState : IngestionOperationState)
      (expectedStateVersion expectedFence : Int)
  | prepareProvenNotExecutedRetry (identity : IngestionOperationIdentity)
      (expectedStateVersion expectedFence : Int)
  | markPendingReconciliation (identity : IngestionOperationIdentity)
      (expectedStateVersion expectedFence : Int)
  | markQuarantined (identity : IngestionOperationIdentity)
      (expectedStateVersion expectedFence : Int)
  | commitAuthoritativeReconciliation (identity : IngestionOperationIdentity)
      (target : IngestionOperationState) (expectedStateVersion expectedFence : Int)
  | tombstoneDocument (identity : DocumentIdentity) (expectedState : DocumentHeadState)
      (expectedStateVersion expectedFence : Int)
  | commit (decision : CandidateValidationDecision) (guard : IngestionActivationGuard)
  | readDocument (identity : DocumentIdentity)
  | readVersion (identity : DocumentVersionIdentity)
  | readOperation (operationId : String)

abbrev Call.Answer : Call → Type
  | .registerIntake .. => IngestionIntakeResult
  | .claimParseDispatch .. => IngestionDispatchClaim
  | .prepareProvenNotExecutedRetry .. | .markPendingReconciliation ..
  | .markQuarantined .. | .commitAuthoritativeReconciliation .. =>
    IngestionOperationTransitionResult
  | .tombstoneDocument .. | .commit .. => IngestionCommitResult
  | .readDocument _ => DocumentHeadSnapshot
  | .readVersion _ => DocumentVersionLifecycleRecord
  | .readOperation _ => IngestionOperationRecord

abbrev Call.Response (call : Call) : Type := Except Raised call.Answer

def perform : (call : Call) → Store → call.Response × Store
  | .registerIntake operation version source => registerIntake operation version source
  | .claimParseDispatch identity attempt state version fence =>
    claimParseDispatch identity attempt state version fence
  | .prepareProvenNotExecutedRetry identity version fence =>
    prepareProvenNotExecutedRetry identity version fence
  | .markPendingReconciliation identity version fence =>
    markPendingReconciliation identity version fence
  | .markQuarantined identity version fence => markQuarantined identity version fence
  | .commitAuthoritativeReconciliation identity target version fence =>
    commitAuthoritativeReconciliation identity target version fence
  | .tombstoneDocument identity state version fence =>
    tombstoneDocument identity state version fence
  | .commit decision guard => commit decision guard
  | .readDocument identity => readDocument identity
  | .readVersion identity => readVersion identity
  | .readOperation operationId => readOperation operationId

/-- The durable-transition flag of an answer; a raised error reports none. -/
def durable : (call : Call) → call.Response → Bool
  | .registerIntake .., .ok result => result.durableTransition
  | .claimParseDispatch .., .ok claim => claim.durableTransition
  | .prepareProvenNotExecutedRetry .., .ok result
  | .markPendingReconciliation .., .ok result
  | .markQuarantined .., .ok result
  | .commitAuthoritativeReconciliation .., .ok result => result.durableTransition
  | .tombstoneDocument .., .ok result
  | .commit .., .ok result => result.durableTransition
  | .readDocument _, .ok _ | .readVersion _, .ok _ | .readOperation _, .ok _ => false
  | _, .error _ => false

variable (store : Store) (identity : IngestionOperationIdentity)

structure ClaimAdmitted (attempt : ParserAttemptIdentity) (expectedState : IngestionOperationState)
    (expectedStateVersion expectedFence : Int) (current : IngestionOperationRecord) : Prop where
  found : store.operation? identity.operationId = some current
  identity_eq : current.identity = identity
  attempt_bound : attempt.operationId = identity.operationId ∧
    attempt.idempotencyKey = identity.idempotencyKey
  unclaimed : ¬ (current.state = .parseDispatchStarted ∧ current.attempt = some attempt)
  state_eq : current.state = expectedState
  version_eq : (current.stateVersion : Int) = expectedStateVersion
  fence_eq : (current.fenceToken : Int) = expectedFence
  follows : attemptFollows current attempt = true

structure MoveAdmitted (source : IngestionOperationState) (expectedStateVersion expectedFence : Int)
    (current : IngestionOperationRecord) : Prop where
  found : store.operation? identity.operationId = some current
  identity_eq : current.identity = identity
  state_eq : current.state = source
  version_eq : (current.stateVersion : Int) = expectedStateVersion
  fence_eq : (current.fenceToken : Int) = expectedFence

/-- The guards of an activation, up to the previous version under the pointer. -/
structure CommitAdmitted (store : Store) (decision : CandidateValidationDecision)
    (guard : IngestionActivationGuard) (proposal : IngestionActivationProposal)
    (document : DocumentHeadSnapshot) (version : DocumentVersionLifecycleRecord)
    (operation : IngestionOperationRecord) : Prop where
  proposed : decision.proposal = some proposal
  document_found : store.document? proposal.operation.version.document = some document
  version_found : store.version? proposal.operation.version = some version
  operation_found : store.operation? proposal.operation.operationId = some operation
  bindings : bindingsMatch document version operation proposal.operation proposal.attempt
    proposal.parsedArtifact
  fresh : ¬ alreadyCommitted document version operation proposal.parsedArtifact
  document_guard : documentGuardMatches document guard
  version_guard : versionGuardMatches version guard
  operation_guard : operationGuardMatches operation guard
  artifact : artifactConflicts proposal.parsedArtifact store = false

def Call.move : Call →
    Option (IngestionOperationIdentity × IngestionOperationState × IngestionOperationState ×
      Int × Int)
  | .prepareProvenNotExecutedRetry identity version fence =>
    some (identity, .provenNotExecuted, .readyForDispatch, version, fence)
  | .markPendingReconciliation identity version fence =>
    some (identity, .parseDispatchStarted, .pendingReconciliation, version, fence)
  | .commitAuthoritativeReconciliation identity target version fence =>
    if target = .failed ∨ target = .provenNotExecuted then
      some (identity, .pendingReconciliation, target, version, fence)
    else none
  | _ => none

/-- The intent a plain operation move records for the record it wrote. -/
def Call.moveEvent (call : Call) (identity : IngestionOperationIdentity)
    (next : IngestionOperationRecord) : IngestionLifecycleOutboxIntent :=
  match call with
  | .prepareProvenNotExecutedRetry .. =>
    operationEvent identity ("ingestion-retry-ready:" ++ identity.operationId ++ ":" ++
      toString next.stateVersion) "INGESTION_RETRY_READY"
  | .markPendingReconciliation .. =>
    operationEvent identity ("ingestion-reconcile:" ++ identity.operationId)
      "INGESTION_RECONCILIATION_REQUIRED"
  | .commitAuthoritativeReconciliation _ target _ _ =>
    operationEvent identity
      (lower (reconciliationEventType target) ++ ":" ++ identity.operationId)
      (reconciliationEventType target)
  | _ => operationEvent identity "" ""

/-- The durable transitions of the store, with the guards each one passed. -/
inductive Change (store : Store) : Call → Store → Prop
  | intake (operation : IngestionOperationIdentity) (version : DocumentVersionDefinition)
      (source : SourceArtifactReference)
      (bound : ¬ intakeBindingConflict operation version source)
      (newOperation : store.operation? operation.operationId = none)
      (newKey : store.idempotencyOperations.lookup
        (operation.tenantId, operation.idempotencyKey) = none)
      (newFingerprint : store.documentFingerprints.lookup
        (operation.tenantId, operation.documentId, fingerprint version source) = none)
      (newVersion : store.version? version.identity = none)
      (newSource : store.sourceArtifacts.lookup source.sourceArtifactId = none)
      (living : ∀ document, store.document? version.identity.document = some document →
        document.state ≠ .tombstoned) :
      Change store (.registerIntake operation version source)
        (registerFacts operation version source
          ((store.document? version.identity.document).getD
            (registeredDocument version.identity.document)) store)
  | claim (identity : IngestionOperationIdentity) (attempt : ParserAttemptIdentity)
      (expectedState : IngestionOperationState) (expectedStateVersion expectedFence : Int)
      (current claimed : IngestionOperationRecord)
      (admitted : ClaimAdmitted store identity attempt expectedState expectedStateVersion
        expectedFence current)
      (moved : current.advance .parseDispatchStarted (some attempt)
        (IngestionOperationRecord.remember current.rememberCurrent attempt) = .ok claimed) :
      Change store
        (.claimParseDispatch identity attempt expectedState expectedStateVersion expectedFence)
        (store.putOperation identity.operationId claimed)
  | move (call : Call) (identity : IngestionOperationIdentity)
      (source target : IngestionOperationState) (expectedStateVersion expectedFence : Int)
      (current next : IngestionOperationRecord) (history : List ParserAttemptIdentity)
      (moves : call.move = some (identity, source, target, expectedStateVersion, expectedFence))
      (admitted : MoveAdmitted store identity source expectedStateVersion expectedFence current)
      (recorded : history = current.attemptHistory ∨ history = current.rememberCurrent)
      (moved : current.advance target current.attempt history = .ok next) :
      Change store call
        ((store.putOperation identity.operationId next).emit (call.moveEvent identity next))
  | quarantine (identity : IngestionOperationIdentity) (expectedStateVersion expectedFence : Int)
      (current quarantined : IngestionOperationRecord)
      (version quarantinedVersion : DocumentVersionLifecycleRecord)
      (admitted : MoveAdmitted store identity .parseDispatchStarted expectedStateVersion
        expectedFence current)
      (moved : current.advance .quarantined current.attempt current.attemptHistory =
        .ok quarantined)
      (version_found : store.version? identity.version = some version)
      (registered : version.state = .registered)
      (isolated : version.advance .quarantined version.parsedArtifactId
        version.activationCommitId = .ok quarantinedVersion) :
      Change store (.markQuarantined identity expectedStateVersion expectedFence)
        (((store.putOperation identity.operationId quarantined).putVersion
          (versionKey identity.version) quarantinedVersion).emit
          (operationEvent identity ("ingestion-quarantined:" ++ identity.operationId)
            "INGESTION_QUARANTINED"))
  | tombstone (identity : DocumentIdentity) (expectedState : DocumentHeadState)
      (expectedStateVersion expectedFence : Int) (document tombstoned : DocumentHeadSnapshot)
      (activeVersion : Option DocumentVersionLifecycleRecord) (retired : Store)
      (found : store.document? identity = some document)
      (living : document.state ≠ .tombstoned)
      (guards : document.state = expectedState ∧
        (document.stateVersion : Int) = expectedStateVersion ∧
        (document.fenceToken : Int) = expectedFence)
      (retiring : retireActiveVersion identity document store = some (.ok (activeVersion, retired)))
      (moved : document.advance .tombstoned none = .ok tombstoned) :
      Change store
        (.tombstoneDocument identity expectedState expectedStateVersion expectedFence)
        ((retired.putDocument identity tombstoned).emit
          (tombstoneEvent identity tombstoned activeVersion))
  | activation (decision : CandidateValidationDecision) (guard : IngestionActivationGuard)
      (proposal : IngestionActivationProposal) (document committedDocument : DocumentHeadSnapshot)
      (version committedVersion : DocumentVersionLifecycleRecord)
      (operation committedOperation : IngestionOperationRecord) (superseded : Store)
      (admitted : CommitAdmitted store decision guard proposal document version operation)
      (superseding : supersedePrevious document proposal.operation.version store =
        some (.ok superseded))
      (version_moved : version.advance .active
        (some proposal.parsedArtifact.parsedArtifactId)
        (some (commitId proposal.operation document)) = .ok committedVersion)
      (document_moved : document.advance .active
        (some proposal.operation.documentVersionId) = .ok committedDocument)
      (operation_moved : operation.advance .completed operation.attempt
        operation.attemptHistory = .ok committedOperation) :
      Change store (.commit decision guard)
        (publish proposal committedDocument committedVersion committedOperation superseded)

variable {document : DocumentHeadSnapshot}

variable {activeVersion : Option DocumentVersionLifecycleRecord}

/-- Retiring touches at most the record under the pointer, and leaves it tombstoned. -/
theorem retire_cases {identity : DocumentIdentity} {store retired : Store}
    (retiring : retireActiveVersion identity document store =
      some (.ok (activeVersion, retired))) : (document.activeVersionId = none ∧ retired = store) ∨
      ∃ activeId active next, document.activeVersionId = some activeId ∧
        store.versions.lookup (identity.tenantId, identity.documentId, activeId) =
          some active ∧ active.state = .active ∧
        active.advance .tombstoned active.parsedArtifactId active.activationCommitId = .ok next ∧
        retired = store.putVersion (identity.tenantId, identity.documentId, activeId) next := by
  unfold retireActiveVersion at retiring
  cases pointer : document.activeVersionId with
  | none =>
    rw [pointer] at retiring
    cases retiring
    exact .inl ⟨rfl, rfl⟩
  | some activeId =>
  right
  rw [pointer] at retiring
  dsimp only at retiring
  cases found : store.versions.lookup (identity.tenantId, identity.documentId, activeId) with
  | none => rw [found] at retiring; cases retiring
  | some active =>
  rw [found] at retiring
  dsimp only at retiring
  split_ifs at retiring with inactive
  cases moved : active.advance .tombstoned active.parsedArtifactId active.activationCommitId with
  | error => rw [moved] at retiring; cases retiring
  | ok next =>
    rw [moved] at retiring
    cases retiring
    exact ⟨activeId, active, next, rfl, found, not_not.mp inactive, moved, rfl⟩

/-- Superseding touches at most the record under the pointer, never the new version. -/
theorem supersede_cases {identity : DocumentVersionIdentity} {store superseded : Store}
    (superseding : supersedePrevious document identity store = some (.ok superseded)) :
    (superseded = store ∧ ∀ previousId, document.activeVersionId = some previousId →
        truthy (some previousId) = true → previousId = identity.documentVersionId) ∨
      ∃ previousId previous next, document.activeVersionId = some previousId ∧
        previousId ≠ identity.documentVersionId ∧
        store.versions.lookup (identity.tenantId, identity.documentId, previousId) =
          some previous ∧ previous.state = .active ∧
        previous.advance .superseded previous.parsedArtifactId previous.activationCommitId =
          .ok next ∧ superseded =
          store.putVersion (identity.tenantId, identity.documentId, previousId) next := by
  unfold supersedePrevious at superseding
  cases pointer : document.activeVersionId with
  | none =>
    rw [pointer] at superseding
    cases superseding
    exact .inl ⟨rfl, by intro previousId impossible; cases impossible⟩
  | some previousId =>
  rw [pointer] at superseding
  dsimp only at superseding
  split_ifs at superseding with other
  · right
    cases found : store.versions.lookup
        (identity.tenantId, identity.documentId, previousId) with
    | none => rw [found] at superseding; cases superseding
    | some previous =>
    rw [found] at superseding
    dsimp only at superseding
    split_ifs at superseding with inactive
    cases moved : previous.advance .superseded previous.parsedArtifactId
        previous.activationCommitId with
    | error raised => rw [moved] at superseding; cases superseding
    | ok next =>
      rw [moved] at superseding
      cases superseding
      exact ⟨previousId, previous, next, rfl, other.2, found, not_not.mp inactive, moved, rfl⟩
  · left
    cases superseding
    refine ⟨rfl, ?_⟩
    rintro _ ⟨rfl⟩ named
    by_contra different
    exact other ⟨named, different⟩

/-- Retiring writes no map but that of the versions. -/
theorem retired_eq {identity : DocumentIdentity} {store retired : Store}
    (retiring : retireActiveVersion identity document store = some (.ok (activeVersion, retired))) :
    retired = { store with versions := retired.versions } := by
  rcases retire_cases retiring with ⟨_, rfl⟩ | ⟨_, _, _, _, _, _, _, rfl⟩ <;> rfl

/-- Superseding writes no map but that of the versions. -/
theorem superseded_eq {identity : DocumentVersionIdentity} {store superseded : Store}
    (superseding : supersedePrevious document identity store = some (.ok superseded)) :
    superseded = { store with versions := superseded.versions } := by
  rcases supersede_cases superseding with ⟨rfl, _⟩ | ⟨_, _, _, _, _, _, _, _, rfl⟩ <;> rfl

theorem supersede_unpublished
    (identity : DocumentVersionIdentity) (store : Store) (state : document.state ≠ .active) :
    supersedePrevious document identity store = some (.ok store) := by
  have falsy : ¬ truthy document.activeVersionId = true := fun named =>
    state (document.pointer_iff.mpr named)
  unfold supersedePrevious
  cases pointer : document.activeVersionId with
  | none => rfl
  | some =>
    rw [pointer] at falsy
    simp [falsy]

end BackendHandbook.Ingestion
