import BackendHandbook.Ingestion.Calls

/-! One call at a time: a call reports a durable transition exactly when it makes one. -/

namespace BackendHandbook.Ingestion

open Text InMemoryIngestionLifecycleStore IngestionCommitter

def Quiet (store : Store) (call : Call) : Prop :=
  durable call (perform call store).1 = false ∧ (perform call store).2 = store

def Moves (store : Store) (call : Call) : Prop :=
  durable call (perform call store).1 = true ∧ Change store call (perform call store).2

private theorem intakeOfKnownOperation_quiet (operation : IngestionOperationIdentity)
    (version : DocumentVersionDefinition) (source : SourceArtifactReference)
    (existing : IngestionOperationRecord) (store : Store) :
    (intakeOfKnownOperation operation version source existing store).durableTransition = false := by
  unfold intakeOfKnownOperation
  dsimp only
  split <;> rfl

private theorem intakeOfKnownFingerprint_quiet (version : DocumentVersionDefinition)
    (holder : String) (store : Store) (result : IngestionIntakeResult)
    (answered : intakeOfKnownFingerprint version holder store = .ok result) :
    result.durableTransition = false := by
  unfold intakeOfKnownFingerprint at answered
  split at answered
  · cases answered
  · split at answered
    · cases answered; rfl
    · cases answered

theorem registerIntake_step (store : Store) (operation : IngestionOperationIdentity)
    (version : DocumentVersionDefinition) (source : SourceArtifactReference) :
    Quiet store (.registerIntake operation version source) ∨
      Moves store (.registerIntake operation version source) := by
  unfold Quiet Moves
  simp only [perform, registerIntake]
  by_cases bound : intakeBindingConflict operation version source
  · simp [bound, durable]
  rw [if_neg bound]
  cases newOperation : store.operation? operation.operationId with
  | some existing =>
    left
    exact ⟨intakeOfKnownOperation_quiet operation version source existing store, rfl⟩
  | none =>
  cases newKey : store.idempotencyOperations.lookup
      (operation.tenantId, operation.idempotencyKey) with
  | some holder => cases held : store.operation? holder <;> simp [held, durable]
  | none =>
  cases newFingerprint : store.documentFingerprints.lookup
      (operation.tenantId, operation.documentId, fingerprint version source) with
  | some duplicate =>
    left
    refine ⟨?_, rfl⟩
    dsimp only
    cases answered : intakeOfKnownFingerprint version duplicate store with
    | error raised => rfl
    | ok => exact intakeOfKnownFingerprint_quiet version duplicate store _ answered
  | none =>
  simp only [intakeOfNewVersion]
  by_cases buried : (store.document? version.identity.document).any (·.state = .tombstoned)
  · simp [buried, durable]
  simp only [buried]
  cases newVersion : store.version? version.identity with
  | some existing => simp [durable]
  | none =>
  cases newSource : store.sourceArtifacts.lookup source.sourceArtifactId with
  | some existing => simp [durable]
  | none =>
    right
    refine ⟨by simp [durable], ?_⟩
    have living : ∀ document, store.document? version.identity.document = some document →
        document.state ≠ .tombstoned := by
      intro document found dead
      simp [found, dead] at buried
    simpa using Change.intake operation version source bound newOperation newKey
      newFingerprint newVersion newSource living

variable (store : Store) (identity : IngestionOperationIdentity) (attempt : ParserAttemptIdentity)
  (expectedState : IngestionOperationState) (expectedStateVersion expectedFence : Int)

/-- A dispatch claim is refused as it stands, or admitted by every guard and recorded, unless its
record cannot be built. -/
theorem claim_cases :
    (∃ claim, claimParseDispatch identity attempt expectedState expectedStateVersion
        expectedFence store = (.ok claim, store) ∧ claim.durableTransition = false ∧
        claim.outcome ≠ .claimed) ∨
      ∃ current, ClaimAdmitted store identity attempt expectedState expectedStateVersion
          expectedFence current ∧
        ((∃ raised, claimParseDispatch identity attempt expectedState expectedStateVersion
          expectedFence store = (.error raised, store)) ∨
        ∃ claimed, current.advance .parseDispatchStarted (some attempt)
            (IngestionOperationRecord.remember current.rememberCurrent attempt) = .ok claimed ∧
          claimParseDispatch identity attempt expectedState expectedStateVersion expectedFence
              store =
            (.ok { outcome := .claimed, record := some claimed, durableTransition := true },
              store.putOperation identity.operationId claimed)) := by
  unfold claimParseDispatch
  cases found : store.operation? identity.operationId with
  | none => exact .inl ⟨_, rfl, rfl, nofun⟩
  | some current =>
  dsimp only
  by_cases other : current.identity ≠ identity
  · rw [if_pos other]
    exact .inl ⟨_, rfl, rfl, nofun⟩
  rw [if_neg other]
  by_cases foreign : attempt.operationId ≠ identity.operationId ∨
      attempt.idempotencyKey ≠ identity.idempotencyKey
  · rw [if_pos foreign]
    exact .inl ⟨_, rfl, rfl, nofun⟩
  rw [if_neg foreign]
  by_cases claimed : current.state = .parseDispatchStarted ∧ current.attempt = some attempt
  · rw [if_pos claimed]
    exact .inl ⟨_, rfl, rfl, nofun⟩
  rw [if_neg claimed]
  by_cases state : current.state ≠ expectedState
  · rw [if_pos state]
    exact .inl ⟨_, rfl, rfl, nofun⟩
  rw [if_neg state]
  by_cases version : (current.stateVersion : Int) ≠ expectedStateVersion
  · rw [if_pos version]
    exact .inl ⟨_, rfl, rfl, nofun⟩
  rw [if_neg version]
  by_cases fence : (current.fenceToken : Int) ≠ expectedFence
  · rw [if_pos fence]
    exact .inl ⟨_, rfl, rfl, nofun⟩
  rw [if_neg fence]
  by_cases follows : ¬ attemptFollows current attempt
  · rw [if_pos follows]
    exact .inl ⟨_, rfl, rfl, nofun⟩
  rw [if_neg follows]
  push Not at foreign
  refine .inr ⟨current, ⟨found, not_not.mp other, foreign, claimed, not_not.mp state,
    not_not.mp version, not_not.mp fence, not_not.mp follows⟩, ?_⟩
  cases moved : current.advance .parseDispatchStarted (some attempt)
      (IngestionOperationRecord.remember current.rememberCurrent attempt) with
  | error raised => exact .inl ⟨raised, rfl⟩
  | ok next => exact .inr ⟨next, rfl, rfl⟩

theorem claimParseDispatch_step :
    Quiet store (.claimParseDispatch identity attempt expectedState expectedStateVersion
        expectedFence) ∨
      Moves store (.claimParseDispatch identity attempt expectedState expectedStateVersion
        expectedFence) := by
  unfold Quiet Moves
  simp only [perform]
  rcases claim_cases store identity attempt expectedState expectedStateVersion expectedFence with
    ⟨claim, same, calm, _⟩ | ⟨current, admitted, ⟨raised, same⟩ | ⟨claimed, moved, same⟩⟩
  · left
    rw [same]
    exact ⟨calm, rfl⟩
  · left
    rw [same]
    exact ⟨rfl, rfl⟩
  · right
    rw [same]
    exact ⟨rfl, Change.claim identity attempt expectedState expectedStateVersion expectedFence
      current claimed admitted moved⟩

private theorem transition_step (store : Store) (identity : IngestionOperationIdentity)
    (source target : IngestionOperationState) (expectedStateVersion expectedFence : Int)
    (admits : IngestionOperationRecord → Bool)
    (history : IngestionOperationRecord → List ParserAttemptIdentity)
    (eventId : IngestionOperationRecord → String) (eventType : String) :
    (∃ answer, transition identity source target expectedStateVersion expectedFence admits
        history eventId eventType store = (answer, store) ∧
        ∀ result, answer = .ok result → result.durableTransition = false) ∨
      ∃ current next, MoveAdmitted store identity source expectedStateVersion expectedFence
          current ∧ current.advance target current.attempt (history current) = .ok next ∧
        transition identity source target expectedStateVersion expectedFence admits history
            eventId eventType store =
          (.ok { outcome := .committed, record := some next, durableTransition := true },
            (store.putOperation identity.operationId next).emit
              (operationEvent identity (eventId next) eventType)) := by
  unfold transition
  cases found : store.operation? identity.operationId with
  | none => left; exact ⟨_, rfl, by rintro result ⟨rfl⟩; rfl⟩
  | some current =>
  dsimp only
  split_ifs with other already stale
  all_goals first | (left; exact ⟨_, rfl, by rintro result ⟨rfl⟩; rfl⟩) | skip
  push Not at stale
  cases moved : current.advance target current.attempt (history current) with
  | error raised => left; exact ⟨_, rfl, by intro result answered; cases answered⟩
  | ok next =>
    right
    exact ⟨current, next, ⟨found, not_not.mp other, stale.1, stale.2.1, stale.2.2.1⟩, moved, rfl⟩

theorem transition_of_admitted {store : Store} {identity : IngestionOperationIdentity}
    {source target : IngestionOperationState} {expectedStateVersion expectedFence : Int}
    {admits : IngestionOperationRecord → Bool}
    {history : IngestionOperationRecord → List ParserAttemptIdentity}
    {eventId : IngestionOperationRecord → String} {eventType : String}
    {current next : IngestionOperationRecord}
    (admitted : MoveAdmitted store identity source expectedStateVersion expectedFence current)
    (other : source ≠ target) (admissible : admits current = true)
    (moved : current.advance target current.attempt (history current) = .ok next) :
    transition identity source target expectedStateVersion expectedFence admits history eventId
        eventType store =
      (.ok { outcome := .committed, record := some next, durableTransition := true },
        (store.putOperation identity.operationId next).emit
          (operationEvent identity (eventId next) eventType)) := by
  simp [transition, admitted.found, admitted.identity_eq, admitted.state_eq, other,
    admitted.version_eq, admitted.fence_eq, admissible, moved]

variable (store : Store) (identity : IngestionOperationIdentity)

theorem prepareProvenNotExecutedRetry_step (expectedStateVersion expectedFence : Int) :
    Quiet store (.prepareProvenNotExecutedRetry identity expectedStateVersion expectedFence) ∨
      Moves store (.prepareProvenNotExecutedRetry identity expectedStateVersion expectedFence) := by
  unfold Quiet Moves
  simp only [perform, prepareProvenNotExecutedRetry]
  rcases transition_step store identity _ _ expectedStateVersion expectedFence _ _ _ _ with
    ⟨answer, same, calm⟩ | ⟨current, next, admitted, moved, same⟩
  · left
    rw [same]
    cases answer with
    | error raised => exact ⟨rfl, rfl⟩
    | ok result => exact ⟨calm result rfl, rfl⟩
  · right
    rw [same]
    exact ⟨rfl, Change.move _ identity _ _ _ _ current next _ rfl admitted (.inr rfl) moved⟩

theorem markPendingReconciliation_step (expectedStateVersion expectedFence : Int) :
    Quiet store (.markPendingReconciliation identity expectedStateVersion expectedFence) ∨
      Moves store (.markPendingReconciliation identity expectedStateVersion expectedFence) := by
  unfold Quiet Moves
  simp only [perform, markPendingReconciliation]
  rcases transition_step store identity _ _ expectedStateVersion expectedFence _ _ _ _ with
    ⟨answer, same, calm⟩ | ⟨current, next, admitted, moved, same⟩
  · left
    rw [same]
    cases answer with
    | error raised => exact ⟨rfl, rfl⟩
    | ok result => exact ⟨calm result rfl, rfl⟩
  · right
    rw [same]
    exact ⟨rfl, Change.move _ identity _ _ _ _ current next _ rfl admitted (.inl rfl) moved⟩

theorem commitAuthoritativeReconciliation_step (target : IngestionOperationState)
    (expectedStateVersion expectedFence : Int) :
    Quiet store (.commitAuthoritativeReconciliation identity target expectedStateVersion
        expectedFence) ∨
      Moves store (.commitAuthoritativeReconciliation identity target expectedStateVersion
        expectedFence) := by
  unfold Quiet Moves
  simp only [perform, commitAuthoritativeReconciliation]
  by_cases unsupported : target ≠ .failed ∧ target ≠ .provenNotExecuted
  · simp [unsupported, durable]
  rw [if_neg unsupported]
  have supported : target = .failed ∨ target = .provenNotExecuted := by
    by_contra neither
    exact unsupported (not_or.mp neither)
  rcases transition_step store identity _ target expectedStateVersion expectedFence _ _ _ _ with
    ⟨answer, same, calm⟩ | ⟨current, next, admitted, moved, same⟩
  · left
    rw [same]
    cases answer with
    | error raised => exact ⟨rfl, rfl⟩
    | ok result => exact ⟨calm result rfl, rfl⟩
  · right
    rw [same]
    exact ⟨rfl, Change.move _ identity _ _ _ _ current next _ (if_pos supported) admitted
      (.inl rfl) moved⟩

theorem markQuarantined_step (expectedStateVersion expectedFence : Int) :
    Quiet store (.markQuarantined identity expectedStateVersion expectedFence) ∨
      Moves store (.markQuarantined identity expectedStateVersion expectedFence) := by
  unfold Quiet Moves
  simp only [perform, markQuarantined]
  cases found : store.operation? identity.operationId with
  | none => left; exact ⟨rfl, rfl⟩
  | some current =>
  dsimp only
  split_ifs with other already stale
  all_goals first | (left; exact ⟨rfl, rfl⟩) | skip
  push Not at stale
  cases moved : current.advance .quarantined current.attempt current.attemptHistory with
  | error raised => left; exact ⟨rfl, rfl⟩
  | ok quarantined =>
  cases version_found : store.version? identity.version with
  | none => left; exact ⟨rfl, rfl⟩
  | some version =>
  dsimp only
  split_ifs with unregistered
  · left; exact ⟨rfl, rfl⟩
  cases isolated : version.advance .quarantined version.parsedArtifactId
      version.activationCommitId with
  | error raised => left; exact ⟨rfl, rfl⟩
  | ok quarantinedVersion =>
    right
    exact ⟨rfl, Change.quarantine identity expectedStateVersion expectedFence current
      quarantined version quarantinedVersion
      ⟨found, not_not.mp other, stale.1, stale.2.1, stale.2.2⟩ moved version_found
      (not_not.mp unregistered) isolated⟩

theorem tombstoneDocument_step (store : Store) (identity : DocumentIdentity)
    (expectedState : DocumentHeadState) (expectedStateVersion expectedFence : Int) :
    Quiet store (.tombstoneDocument identity expectedState expectedStateVersion expectedFence) ∨
      Moves store (.tombstoneDocument identity expectedState expectedStateVersion
        expectedFence) := by
  unfold Quiet Moves
  simp only [perform, tombstoneDocument]
  cases found : store.document? identity with
  | none => left; exact ⟨rfl, rfl⟩
  | some document =>
  dsimp only
  split_ifs with dead stale
  all_goals first | (left; exact ⟨rfl, rfl⟩) | skip
  cases retiring : retireActiveVersion identity document store with
  | none => left; exact ⟨rfl, rfl⟩
  | some outcome =>
  cases outcome with
  | error raised => left; exact ⟨rfl, rfl⟩
  | ok retirement =>
  rcases retirement with ⟨activeVersion, retired⟩
  -- Dropping the pointer together with the state is always a valid head.
  obtain ⟨tombstoned, moved⟩ := document.advance_succeeds .tombstoned none (by decide)
  rw [moved]
  right
  push Not at stale
  exact ⟨rfl, Change.tombstone identity expectedState expectedStateVersion expectedFence
    document tombstoned activeVersion retired found dead stale retiring moved⟩

section Activation

variable (sha256 : String → String)

/-- Activation decisions of a run come from the candidate validator. -/
def Legal : Call → Prop
  | .commit decision _ => Validated sha256 decision
  | _ => True

variable {sha256}

theorem activation_succeeds {store : Store} {decision : CandidateValidationDecision}
    {guard : IngestionActivationGuard} {proposal : IngestionActivationProposal}
    {document : DocumentHeadSnapshot} {version : DocumentVersionLifecycleRecord}
    {operation : IngestionOperationRecord} (validated : Validated sha256 decision)
    (admitted : CommitAdmitted store decision guard proposal document version operation) :
    ∃ committedVersion committedDocument committedOperation,
      version.advance .active (some proposal.parsedArtifact.parsedArtifactId)
        (some (commitId proposal.operation document)) = .ok committedVersion ∧
      document.advance .active (some proposal.operation.documentVersionId) = .ok committedDocument ∧
      operation.advance .completed operation.attempt operation.attemptHistory =
        .ok committedOperation := by
  have named := validated_artifact_id sha256 decision proposal validated admitted.proposed
  have signed : truthy (some (commitId proposal.operation document)) = true := by
    unfold commitId
    rw [String.append_assoc, String.append_assoc]
    exact truthy_append _ _ (by decide)
  obtain ⟨committedVersion, first⟩ := version.advance_succeeds .active
    (some proposal.parsedArtifact.parsedArtifactId)
    (some (commitId proposal.operation document))
    (by simp [DocumentVersionLifecycleRecord.postInit, named, signed])
  obtain ⟨committedDocument, second⟩ := document.advance_succeeds .active
    (some proposal.operation.documentVersionId)
    (by simp [DocumentHeadSnapshot.postInit,
          show truthy (some proposal.operation.documentVersionId) = true
          from proposal.operation.version.version_truthy])
  obtain ⟨committedOperation, third⟩ := operation.advance_succeeds .completed
    (by intro _; rw [admitted.bindings.2.2.2.2.1]; rfl)
  exact ⟨committedVersion, committedDocument, committedOperation, first, second, third⟩

variable {store superseded : Store} {decision : CandidateValidationDecision}
  {guard : IngestionActivationGuard} {proposal : IngestionActivationProposal}
  {document : DocumentHeadSnapshot} {version : DocumentVersionLifecycleRecord}
  {operation : IngestionOperationRecord}

theorem commit_of_admitted
    (admitted : CommitAdmitted store decision guard proposal document version operation)
    (superseding : supersedePrevious document proposal.operation.version store =
      some (.ok superseded)) :
    commit decision guard store = activate document version operation proposal superseded := by
  simp [commit, admitted.proposed, admitted.document_found, admitted.version_found,
    admitted.operation_found, admitted.bindings, admitted.fresh, admitted.document_guard,
    admitted.version_guard, admitted.operation_guard, admitted.artifact, superseding]

theorem activate_succeeds (validated : Validated sha256 decision)
    (admitted : CommitAdmitted store decision guard proposal document version operation)
    (superseding : supersedePrevious document proposal.operation.version store =
      some (.ok superseded)) : ∃ committedDocument committedVersion committedOperation result,
      result.outcome = .committed ∧ result.durableTransition = true ∧
      document.advance .active (some proposal.operation.documentVersionId) = .ok committedDocument ∧
      version.advance .active (some proposal.parsedArtifact.parsedArtifactId)
        (some (commitId proposal.operation document)) = .ok committedVersion ∧
      operation.advance .completed operation.attempt operation.attemptHistory =
        .ok committedOperation ∧ perform (.commit decision guard) store = (.ok result,
        publish proposal committedDocument committedVersion committedOperation superseded) ∧
      Change store (.commit decision guard)
        (publish proposal committedDocument committedVersion committedOperation
          superseded) := by
  rcases activation_succeeds validated admitted with
    ⟨committedVersion, committedDocument, committedOperation, first, second, third⟩
  have performed : perform (.commit decision guard) store =
      activate document version operation proposal superseded :=
    commit_of_admitted admitted superseding
  rw [performed]
  simp only [activate, first, second, third]
  exact ⟨committedDocument, committedVersion, committedOperation, _, rfl, rfl, rfl, rfl, rfl,
    rfl, Change.activation decision guard proposal document committedDocument version
      committedVersion operation committedOperation superseded admitted superseding first
      second third⟩

theorem refused_commit {refused : IngestionCommitResult}
    (quiet : refused.durableTransition = false) (uncommitted : refused.outcome ≠ .committed) :
    ∀ result, (.ok refused : Except Raised IngestionCommitResult) = .ok result →
      result.durableTransition = false ∧ result.outcome ≠ .committed := by
  rintro _ ⟨rfl⟩
  exact ⟨quiet, uncommitted⟩

variable (store : Store) (decision : CandidateValidationDecision) (guard : IngestionActivationGuard)

theorem commit_cases :
    (∃ answer, commit decision guard store = (answer, store) ∧ ∀ result, answer = .ok result →
        result.durableTransition = false ∧ result.outcome ≠ .committed) ∨
      ∃ proposal document version operation superseded,
        CommitAdmitted store decision guard proposal document version operation ∧
        supersedePrevious document proposal.operation.version store = some (.ok superseded) := by
  unfold commit
  cases proposed : decision.proposal with
  | none => left; exact ⟨_, rfl, refused_commit rfl nofun⟩
  | some proposal =>
  dsimp only
  cases document_found : store.document? proposal.operation.version.document with
  | none => left; exact ⟨_, rfl, refused_commit rfl nofun⟩
  | some document =>
  cases version_found : store.version? proposal.operation.version with
  | none => left; exact ⟨_, rfl, refused_commit rfl nofun⟩
  | some version =>
  cases operation_found : store.operation? proposal.operation.operationId with
  | none => left; exact ⟨_, rfl, refused_commit rfl nofun⟩
  | some operation =>
  dsimp only
  by_cases bound : ¬ bindingsMatch document version operation proposal.operation proposal.attempt
      proposal.parsedArtifact
  · rw [if_pos bound]
    exact .inl ⟨_, rfl, refused_commit rfl nofun⟩
  rw [if_neg bound]
  by_cases already : alreadyCommitted document version operation proposal.parsedArtifact
  · rw [if_pos already]
    exact .inl ⟨_, rfl, refused_commit rfl nofun⟩
  rw [if_neg already]
  by_cases documentGuard : ¬ documentGuardMatches document guard
  · rw [if_pos documentGuard]
    exact .inl ⟨_, rfl, refused_commit rfl nofun⟩
  rw [if_neg documentGuard]
  by_cases versionGuard : ¬ versionGuardMatches version guard
  · rw [if_pos versionGuard]
    exact .inl ⟨_, rfl, refused_commit rfl nofun⟩
  rw [if_neg versionGuard]
  by_cases operationGuard : ¬ operationGuardMatches operation guard
  · rw [if_pos operationGuard]
    exact .inl ⟨_, rfl, refused_commit rfl nofun⟩
  rw [if_neg operationGuard]
  by_cases conflict : artifactConflicts proposal.parsedArtifact store
  · rw [if_pos conflict]
    exact .inl ⟨_, rfl, refused_commit rfl nofun⟩
  rw [if_neg conflict]
  cases superseding : supersedePrevious document proposal.operation.version store with
  | none => left; exact ⟨_, rfl, refused_commit rfl nofun⟩
  | some outcome =>
  cases outcome with
  | error raised => left; exact ⟨_, rfl, by intro result answered; cases answered⟩
  | ok superseded =>
    right
    exact ⟨proposal, document, version, operation, superseded,
      ⟨proposed, document_found, version_found, operation_found, not_not.mp bound,
        already, not_not.mp documentGuard, not_not.mp versionGuard, not_not.mp operationGuard,
        by simpa using conflict⟩, superseding⟩

theorem commit_step (validated : Validated sha256 decision) :
    Quiet store (.commit decision guard) ∨ Moves store (.commit decision guard) := by
  rcases commit_cases store decision guard with
    ⟨answer, same, calm⟩ | ⟨_, _, _, _, _, admitted, superseding⟩
  · left
    have refused : perform (.commit decision guard) store = (answer, store) := same
    unfold Quiet
    rw [refused]
    cases answer with
    | error raised => exact ⟨rfl, rfl⟩
    | ok result => exact ⟨(calm result rfl).1, rfl⟩
  · right
    rcases activate_succeeds validated admitted superseding with
      ⟨_, _, _, _, _, moved, _, _, _, performed, change⟩
    unfold Moves
    rw [performed]
    exact ⟨moved, change⟩

theorem perform_step (store : Store) (call : Call) (legal : Legal sha256 call) :
    Quiet store call ∨ Moves store call := by
  cases call with
  | registerIntake => exact registerIntake_step store _ _ _
  | claimParseDispatch => exact claimParseDispatch_step store _ _ _ _ _
  | prepareProvenNotExecutedRetry => exact prepareProvenNotExecutedRetry_step store _ _ _
  | markPendingReconciliation => exact markPendingReconciliation_step store _ _ _
  | markQuarantined => exact markQuarantined_step store _ _ _
  | commitAuthoritativeReconciliation => exact commitAuthoritativeReconciliation_step store _ _ _ _
  | tombstoneDocument => exact tombstoneDocument_step store _ _ _ _
  | commit => exact commit_step store _ _ legal
  | readDocument identity =>
    cases found : store.document? identity <;> simp [Quiet, perform, readDocument, found, durable]
  | readVersion identity =>
    cases found : store.version? identity <;> simp [Quiet, perform, readVersion, found, durable]
  | readOperation operationId =>
    cases found : store.operation? operationId <;>
      simp [Quiet, perform, readOperation, found, durable]

end Activation

end BackendHandbook.Ingestion
