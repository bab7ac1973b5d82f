import BackendHandbook.Ingestion.Steps

/-! What one durable transition does to one document head, one operation record and one
version record. Everything that later modules say about runs goes through these lemmas. -/

namespace BackendHandbook.Ingestion

open Text InMemoryIngestionLifecycleStore IngestionCommitter IngestionOperationRecord
  DocumentVersionLifecycleRecord

section Heads

theorem document?_publish (proposal : IngestionActivationProposal)
    (document : DocumentHeadSnapshot) (version : DocumentVersionLifecycleRecord)
    (operation : IngestionOperationRecord) (store : Store) (identity : DocumentIdentity) :
    (publish proposal document version operation store).document? identity =
      if identity = proposal.operation.version.document then some document
      else store.document? identity := by
  simp only [publish, document?_emit, document?_putOperation, document?_putDocument]
  rfl

theorem document?_registerFacts (operation : IngestionOperationIdentity)
    (version : DocumentVersionDefinition) (source : SourceArtifactReference)
    (document : DocumentHeadSnapshot) (store : Store) (identity : DocumentIdentity) :
    (registerFacts operation version source document store).document? identity =
      if identity = version.identity.document then some document else store.document? identity := by
  simp [registerFacts, document?, Dict.lookup_insert_eq, documentKey_inj]

variable {store after : Store} {call : Call}

theorem document_after (change : Change store call after) (identity : DocumentIdentity) :
    after.document? identity = store.document? identity ∨ (store.document? identity = none ∧
        after.document? identity = some (registeredDocument identity)) ∨
      (∃ current tombstoned, store.document? identity = some current ∧
        after.document? identity = some tombstoned ∧ tombstoned.identity = current.identity ∧
        tombstoned.stateVersion = current.stateVersion + 1 ∧
        tombstoned.state = .tombstoned ∧ tombstoned.activeVersionId = none) ∨
      ∃ decision guard proposal document version operation committed,
        call = .commit decision guard ∧
        CommitAdmitted store decision guard proposal document version operation ∧
        identity = proposal.operation.version.document ∧
        after.document? identity = some committed ∧ committed.identity = document.identity ∧
        committed.stateVersion = document.stateVersion + 1 ∧ committed.state = .active := by
  cases change with
  | intake _ version =>
      rw [document?_registerFacts]
      split
      · next same =>
        subst same
        cases found : store.document? version.identity.document with
        | none => exact .inr (.inl ⟨rfl, rfl⟩)
        | some => exact .inl rfl
      · exact .inl rfl
  | claim => exact .inl rfl
  | move => exact .inl rfl
  | quarantine => exact .inl rfl
  | tombstone _ _ _ _ document tombstoned _ _ found _ _ retiring moved =>
      rw [document?_emit, document?_putDocument, retired_eq retiring]
      rcases DocumentHeadSnapshot.advance_ok moved with ⟨kept, state, pointer, number, _⟩
      split
      · next same =>
        subst same
        exact .inr (.inr (.inl ⟨document, tombstoned, found, rfl, kept, number, state, pointer⟩))
      · exact .inl rfl
  | activation decision guard proposal document committedDocument version _
      operation _ _ admitted superseding _
      document_moved =>
      rw [document?_publish, superseded_eq superseding]
      rcases DocumentHeadSnapshot.advance_ok document_moved with ⟨kept, state, _, number, _⟩
      split
      · next same =>
        exact .inr (.inr (.inr ⟨decision, guard, proposal, document, version, operation,
          committedDocument, rfl, admitted, same, rfl, kept, number, state⟩))
      · exact .inl rfl

theorem document_stays (change : Change store call after)
    (identity : DocumentIdentity) (document : DocumentHeadSnapshot)
    (found : store.document? identity = some document) :
    ∃ next, after.document? identity = some next ∧ document.stateVersion ≤ next.stateVersion := by
  rcases document_after change identity with
    same | ⟨absent, _⟩ | ⟨_, tombstoned, held, placed, _, _, _⟩ |
      ⟨_, _, _, _, _, _, committed, _, admitted, owner, placed, _, _, _⟩
  · exact ⟨document, same.trans found, le_refl _⟩
  · rw [found] at absent; cases absent
  · cases Option.some.inj (held.symm.trans found)
    exact ⟨tombstoned, placed, by omega⟩
  · have held := admitted.document_found
    rw [← owner, found] at held
    cases Option.some.inj held
    exact ⟨committed, placed, by omega⟩

end Heads

section Operations

theorem operation?_publish (proposal : IngestionActivationProposal)
    (document : DocumentHeadSnapshot) (version : DocumentVersionLifecycleRecord)
    (operation : IngestionOperationRecord) (store : Store) (operationId : String) :
    (publish proposal document version operation store).operation? operationId =
      if operationId = proposal.operation.operationId then some operation
      else store.operation? operationId := by
  simp only [publish, operation?_emit, operation?_putOperation]
  rfl

/-- The lifecycle graph of one operation, each edge labelled with the call that takes it. -/
inductive Lifecycle (store : Store) (operationId : String) :
    Call → IngestionOperationState → IngestionOperationState → Prop
  | claim (identity : IngestionOperationIdentity) (attempt : ParserAttemptIdentity)
      (expectedState : IngestionOperationState) (expectedStateVersion expectedFence : Int)
      (current claimed : IngestionOperationRecord)
      (named : identity.operationId = operationId)
      (admitted : ClaimAdmitted store identity attempt expectedState expectedStateVersion
        expectedFence current)
      (moved : current.advance .parseDispatchStarted (some attempt)
        (remember current.rememberCurrent attempt) = .ok claimed) :
      Lifecycle store operationId
        (.claimParseDispatch identity attempt expectedState expectedStateVersion expectedFence)
        expectedState .parseDispatchStarted
  | ready (identity : IngestionOperationIdentity) (expectedStateVersion expectedFence : Int)
      (named : identity.operationId = operationId) :
      Lifecycle store operationId
        (.prepareProvenNotExecutedRetry identity expectedStateVersion expectedFence)
        .provenNotExecuted .readyForDispatch
  | pend (identity : IngestionOperationIdentity) (expectedStateVersion expectedFence : Int)
      (named : identity.operationId = operationId) :
      Lifecycle store operationId
        (.markPendingReconciliation identity expectedStateVersion expectedFence)
        .parseDispatchStarted .pendingReconciliation
  | reconcile (identity : IngestionOperationIdentity) (target : IngestionOperationState)
      (expectedStateVersion expectedFence : Int)
      (named : identity.operationId = operationId)
      (supported : target = .failed ∨ target = .provenNotExecuted) :
      Lifecycle store operationId
        (.commitAuthoritativeReconciliation identity target expectedStateVersion expectedFence)
        .pendingReconciliation target
  | quarantine (identity : IngestionOperationIdentity)
      (expectedStateVersion expectedFence : Int)
      (named : identity.operationId = operationId) :
      Lifecycle store operationId
        (.markQuarantined identity expectedStateVersion expectedFence)
        .parseDispatchStarted .quarantined
  | complete (decision : CandidateValidationDecision) (guard : IngestionActivationGuard)
      (proposal : IngestionActivationProposal) (document : DocumentHeadSnapshot)
      (version : DocumentVersionLifecycleRecord) (operation : IngestionOperationRecord)
      (named : proposal.operation.operationId = operationId)
      (admitted : CommitAdmitted store decision guard proposal document version operation) :
      Lifecycle store operationId (.commit decision guard) guard.expectedOperationState
        .completed

theorem operation_after {store after : Store} {call : Call} (change : Change store call after)
    (operationId : String) : after.operation? operationId = store.operation? operationId ∨
      (∃ operation version source, call = .registerIntake operation version source ∧
        operation.operationId = operationId ∧ store.operation? operationId = none ∧
        after.operation? operationId = some (readyOperation operation)) ∨
      ∃ current next, store.operation? operationId = some current ∧
        after.operation? operationId = some next ∧ next.identity = current.identity ∧
        next.stateVersion = current.stateVersion + 1 ∧
        Lifecycle store operationId call current.state next.state := by
  cases change with
  | intake operation version source _ newOperation =>
      simp only [registerFacts, operation?, Dict.lookup_insert_eq]
      split
      · next same =>
        subst same
        exact .inr (.inl ⟨operation, version, source, rfl, rfl, newOperation, rfl⟩)
      · exact .inl rfl
  | claim identity attempt expectedState expectedVersion expectedFence current claimed admitted
      moved =>
      rw [operation?_putOperation]
      rcases advance_ok moved with ⟨kept, state, version, _⟩
      split
      · next same =>
        subst same
        refine .inr (.inr ⟨current, claimed, admitted.found, rfl, kept, version, ?_⟩)
        rw [state, admitted.state_eq]
        exact .claim identity attempt expectedState expectedVersion expectedFence current
          claimed rfl admitted moved
      · exact .inl rfl
  | move _ _ _ _ _ _ current next _ moves admitted _ moved =>
      rw [operation?_emit, operation?_putOperation]
      rcases advance_ok moved with ⟨kept, state, version, _⟩
      split
      · next same =>
        subst same
        refine .inr (.inr ⟨current, next, admitted.found, rfl, kept, version, ?_⟩)
        rw [state, admitted.state_eq]
        unfold Call.move at moves
        split at moves
        · cases moves; exact .ready _ _ _ rfl
        · cases moves; exact .pend _ _ _ rfl
        · split_ifs at moves with supported
          cases moves
          exact .reconcile _ _ _ _ rfl supported
        · cases moves
      · exact .inl rfl
  | quarantine _ _ _ current quarantined _ _ admitted moved =>
      rw [operation?_emit, operation?_putVersion, operation?_putOperation]
      rcases advance_ok moved with ⟨kept, state, number, _⟩
      split
      · next same =>
        subst same
        refine .inr (.inr ⟨current, quarantined, admitted.found, rfl, kept, number, ?_⟩)
        rw [state, admitted.state_eq]
        exact .quarantine _ _ _ rfl
      · exact .inl rfl
  | tombstone _ _ _ _ _ _ _ _ _ _ _ retiring =>
      rw [operation?_emit, operation?_putDocument, retired_eq retiring]
      exact .inl rfl
  | activation decision guard proposal document _ version _
      operation committedOperation _ admitted superseding _
      _ operation_moved =>
      rw [operation?_publish, superseded_eq superseding]
      rcases advance_ok operation_moved with ⟨kept, state, number, _⟩
      split
      · next same =>
        subst same
        refine .inr (.inr ⟨operation, committedOperation, admitted.operation_found, rfl, kept,
          number, ?_⟩)
        rw [state, admitted.operation_guard.1]
        exact .complete decision guard proposal document version operation rfl admitted
      · exact .inl rfl

end Operations

section Versions

def DocumentVersionLifecycleRecord.publication (version : DocumentVersionLifecycleRecord) :
    Option String × Option String :=
  (version.parsedArtifactId, version.activationCommitId)

theorem versions_publish (proposal : IngestionActivationProposal)
    (document : DocumentHeadSnapshot) (version : DocumentVersionLifecycleRecord)
    (operation : IngestionOperationRecord) (store : Store) (key : String × String × String) :
    (publish proposal document version operation store).versions.lookup key =
      if key = versionKey proposal.operation.version then some version
      else store.versions.lookup key := by
  simp [publish, lookup_putVersion]

inductive Demotes : DocumentVersionLifecycle → DocumentVersionLifecycle → Prop
  | quarantine : Demotes .registered .quarantined
  | tombstone : Demotes .active .tombstoned
  | supersede : Demotes .active .superseded

variable {source target : DocumentVersionLifecycle}

theorem Demotes.not_active (demoted : Demotes source target) : target ≠ .active := by
  cases demoted <;> decide

theorem Demotes.not_registered (demoted : Demotes source target) : target ≠ .registered := by
  cases demoted <;> decide

theorem advance_keeps {current next : DocumentVersionLifecycleRecord}
    {state : DocumentVersionLifecycle}
    (moved : current.advance state current.parsedArtifactId current.activationCommitId = .ok next)
    (demotes : Demotes current.state state) :
    next.definition = current.definition ∧ next.publication = current.publication ∧
      Demotes current.state next.state := by
  rcases DocumentVersionLifecycleRecord.advance_ok moved with ⟨kept, same, artifact, commit, _⟩
  refine ⟨kept, ?_, ?_⟩
  · rw [publication, artifact, commit]
    rfl
  · rw [same]
    exact demotes

theorem version_after {store after : Store} {call : Call} (change : Change store call after)
    (key : String × String × String) : after.versions.lookup key = store.versions.lookup key ∨
      (∃ operation version source, call = .registerIntake operation version source ∧
        key = versionKey version.identity ∧ store.versions.lookup key = none ∧
        after.versions.lookup key = some (registeredVersion version)) ∨
      (∃ current next, store.versions.lookup key = some current ∧
        after.versions.lookup key = some next ∧ next.definition = current.definition ∧
        next.publication = current.publication ∧ Demotes current.state next.state) ∨
      ∃ decision guard proposal document current operation next, call = .commit decision guard ∧
        CommitAdmitted store decision guard proposal document current operation ∧
        key = versionKey proposal.operation.version ∧ store.versions.lookup key = some current ∧
        after.versions.lookup key = some next ∧ next.definition = current.definition ∧
        next.state = .active ∧ next.publication = (some proposal.parsedArtifact.parsedArtifactId,
          some (commitId proposal.operation document)) := by
  cases change with
  | intake operation version source _ _ _ _ newVersion =>
      simp only [registerFacts, Dict.lookup_insert_eq]
      split
      · next same =>
        subst same
        exact .inr (.inl ⟨operation, version, source, rfl, rfl, newVersion, rfl⟩)
      · exact .inl rfl
  | claim => exact .inl rfl
  | move => exact .inl rfl
  | quarantine _ _ _ _ _ version quarantinedVersion _ _ version_found registered isolated =>
      rw [versions_emit, lookup_putVersion]
      split
      · next same =>
        subst same
        refine .inr (.inr (.inl ⟨version, quarantinedVersion, version_found, rfl,
          advance_keeps isolated ?_⟩))
        rw [registered]
        exact .quarantine
      · exact .inl rfl
  | tombstone _ _ _ _ _ _ _ _ _ _ _ retiring =>
      rw [versions_emit, versions_putDocument]
      rcases retire_cases retiring with
        ⟨_, rfl⟩ | ⟨_, active, next, _, active_found, active_state, demoted, rfl⟩
      · exact .inl rfl
      rw [lookup_putVersion]
      split
      · next same =>
        subst same
        refine .inr (.inr (.inl ⟨active, next, active_found, rfl, advance_keeps demoted ?_⟩))
        rw [active_state]
        exact .tombstone
      · exact .inl rfl
  | activation decision guard proposal document _ version committedVersion
      operation _ _ admitted superseding version_moved =>
      rw [versions_publish]
      split
      · next same =>
        subst same
        rcases DocumentVersionLifecycleRecord.advance_ok version_moved with
          ⟨kept, state, artifact, commit, _⟩
        exact .inr (.inr (.inr ⟨decision, guard, proposal, document, version, operation,
          committedVersion, rfl, admitted, rfl, admitted.version_found, rfl, kept, state,
          by rw [publication, artifact, commit]⟩))
      · next other =>
        rcases supersede_cases superseding with
          ⟨rfl, _⟩ | ⟨_, previous, next, _, _, previous_found, previous_state, demoted, rfl⟩
        · exact .inl rfl
        rw [lookup_putVersion]
        split
        · next same =>
          subst same
          refine .inr (.inr (.inl ⟨previous, next, previous_found, rfl, advance_keeps demoted ?_⟩))
          rw [previous_state]
          exact .supersede
        · exact .inl rfl

end Versions

section Artifacts

theorem artifact_after {store after : Store} {call : Call} (change : Change store call after)
    (artifactId : String) (artifact : ParsedArtifactDefinition)
    (found : store.parsedArtifacts.lookup artifactId = some artifact) :
    after.parsedArtifacts.lookup artifactId = some artifact := by
  cases change with
  | intake | claim | move | quarantine => exact found
  | tombstone _ _ _ _ _ _ _ _ _ _ _ retiring =>
      rw [retired_eq retiring]
      exact found
  | activation _ _ _ _ _ _ _ _ _ _ _ superseding =>
      rw [superseded_eq superseding]
      exact Dict.lookup_setdefault_of_some _ _ _ _ _ found

theorem artifact_published {store : Store} {proposal : IngestionActivationProposal}
    {document : DocumentHeadSnapshot} {version : DocumentVersionLifecycleRecord}
    {operation : IngestionOperationRecord} :
    ∃ artifact, (publish proposal document version operation store).parsedArtifacts.lookup
      proposal.parsedArtifact.parsedArtifactId = some artifact := by
  simp only [publish, parsedArtifacts_emit, parsedArtifacts_putOperation,
    parsedArtifacts_putDocument, parsedArtifacts_putVersion, Dict.lookup_setdefault]
  exact ⟨_, rfl⟩

end Artifacts

end BackendHandbook.Ingestion
