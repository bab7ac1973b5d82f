import BackendHandbook.Ingestion.Recovery

/-! The agreement of document heads, version records and parsed artifacts, and the
eligibility decision that reads all of them. -/

namespace BackendHandbook.Ingestion

open Text InMemoryIngestionLifecycleStore IngestionCommitter Run Sample DocumentVersionLifecycleRecord

inductive ChunkingEligibilityOutcome
  | eligible | documentNotActive | activePointerMismatch | versionNotActive | parsedArtifactMissing
  | ingestionNotCompleted | identityConflict
  deriving DecidableEq

structure ChunkingEligibilityDecision where
  outcome : ChunkingEligibilityOutcome
  safeReason : String
  parsedArtifactId : Option String := none

variable (document : DocumentHeadSnapshot) (version : DocumentVersionLifecycleRecord)
  (operation : IngestionOperationRecord)

def evaluateDay96ChunkingEligibility : ChunkingEligibilityDecision :=
  if document.identity ≠ version.definition.identity.document ∨
      operation.identity.version ≠ version.definition.identity ∨
      operation.identity.sourceArtifactId ≠ version.definition.sourceArtifactId then
    { outcome := .identityConflict, safeReason := "DOCUMENT_VERSION_OPERATION_BINDING_CONFLICT" }
  else if document.state ≠ .active then
    { outcome := .documentNotActive, safeReason := "DOCUMENT_HEAD_IS_NOT_ACTIVE" }
  else if document.activeVersionId ≠
      some version.definition.identity.documentVersionId then
    { outcome := .activePointerMismatch
      safeReason := "VERSION_IS_NOT_THE_DOCUMENT_ACTIVE_POINTER" }
  else if version.state ≠ .active then
    { outcome := .versionNotActive, safeReason := "DOCUMENT_VERSION_IS_NOT_ACTIVE" }
  else if version.parsedArtifactId = none then
    { outcome := .parsedArtifactMissing
      safeReason := "ACTIVE_VERSION_REQUIRES_IMMUTABLE_PARSED_ARTIFACT" }
  else if operation.state ≠ .completed then
    { outcome := .ingestionNotCompleted
      safeReason := "INGESTION_OPERATION_IS_NOT_DURABLY_COMPLETED" }
  else
    { outcome := .eligible, safeReason := "ACTIVE_VALIDATED_PARSED_ARTIFACT_READY_FOR_DAY96"
      parsedArtifactId := version.parsedArtifactId }

theorem eligible_iff :
    (evaluateDay96ChunkingEligibility document version operation).outcome = .eligible ↔
      (document.identity = version.definition.identity.document ∧
        operation.identity.version = version.definition.identity ∧
        operation.identity.sourceArtifactId = version.definition.sourceArtifactId) ∧
      document.state = .active ∧
      document.activeVersionId = some version.definition.identity.documentVersionId ∧
      version.state = .active ∧ version.parsedArtifactId ≠ none ∧ operation.state = .completed := by
  unfold evaluateDay96ChunkingEligibility
  split_ifs with binding <;> simp_all
  tauto

def DocumentIdentity.versionKey (identity : DocumentIdentity) (versionId : String) :
    String × String × String :=
  (identity.tenantId, identity.documentId, versionId)

theorem DocumentIdentity.versionKey_inj (first second : DocumentIdentity)
    (firstId secondId : String) : first.versionKey firstId = second.versionKey secondId ↔
      first = second ∧ firstId = secondId := by
  cases first
  cases second
  simp [versionKey, and_assoc]

variable (store : Store)
variable (identity : DocumentIdentity) (versionId : String)

def HeadPoints : Prop :=
  ∃ document, store.document? identity = some document ∧ document.state = .active ∧
    document.activeVersionId = some versionId

def VersionActive : Prop :=
  ∃ version, store.versions.lookup (identity.versionKey versionId) = some version ∧
    version.state = .active

/-- Records carry the identity they are stored under. -/
structure Keyed : Prop where
  document : ∀ identity document, store.document? identity = some document →
    document.identity = identity
  version : ∀ key version, store.versions.lookup key = some version →
    versionKey version.definition.identity = key

def Founded : Prop :=
  ∀ key version, store.versions.lookup key = some version →
    (∃ document, store.document? version.definition.identity.document = some document) ∧
    ∃ operation, store.operation? version.definition.createdByOperationId = some operation ∧
      operation.identity.version = version.definition.identity ∧
      operation.identity.sourceArtifactId = version.definition.sourceArtifactId

def Agreement : Prop :=
  ∀ identity versionId, HeadPoints store identity versionId ↔ VersionActive store identity versionId

def ArtifactsPresent : Prop :=
  ∀ key version, store.versions.lookup key = some version → version.state = .active →
    ∃ artifactId artifact, version.parsedArtifactId = some artifactId ∧
      store.parsedArtifacts.lookup artifactId = some artifact

def PointersCleared : Prop :=
  ∀ identity document, store.document? identity = some document → document.state ≠ .active →
    document.activeVersionId = none

structure PointerIntegrity : Prop where
  keyed : Keyed store
  cleared : PointersCleared store
  founded : Founded store
  agreement : Agreement store
  artifacts : ArtifactsPresent store

theorem key_identity {store : Store} (keyed : Keyed store) {identity : DocumentIdentity}
    {versionId : String} {version : DocumentVersionLifecycleRecord}
    (found : store.versions.lookup (identity.versionKey versionId) = some version) :
    version.definition.identity.document = identity ∧
      version.definition.identity.documentVersionId = versionId := by
  have located : version.definition.identity.document.versionKey
      version.definition.identity.documentVersionId = identity.versionKey versionId :=
    keyed.version _ version found
  exact (DocumentIdentity.versionKey_inj _ _ _ _).mp located

theorem pointerIntegrity_empty : PointerIntegrity {} where
  keyed :=
    { document := by intro identity document found; simp [document?] at found
      version := by intro key version found; simp at found }
  cleared := by intro identity document found; simp [document?] at found
  founded := by intro key version found; simp at found
  agreement := by intro identity versionId; simp [HeadPoints, VersionActive, document?]
  artifacts := by intro key version found; simp at found

section Preservation

variable {store after : Store} {call : Call}

theorem keyed_change (change : Change store call after) (keyed : Keyed store) : Keyed after where
  document := by
    intro identity document found
    rcases document_after change identity with
      same | ⟨_, fresh⟩ | ⟨current, _, held, placed, kept, _⟩ |
        ⟨_, _, _, current, _, _, _, _, admitted, owner, placed, kept, _⟩
    · exact keyed.document identity document (same ▸ found)
    · cases Option.some.inj (fresh.symm.trans found); rfl
    · cases Option.some.inj (placed.symm.trans found)
      rw [kept]; exact keyed.document identity current held
    · cases Option.some.inj (placed.symm.trans found)
      rw [kept, owner]; exact keyed.document _ current admitted.document_found
  version := by
    intro key version found
    rcases version_after change key with
      same | ⟨_, _, _, _, located, _, placed⟩ |
        ⟨current, _, held, placed, kept, _, _⟩ |
        ⟨_, _, _, _, current, _, _, _, _, _, held, placed, kept, _⟩
    · exact keyed.version key version (same ▸ found)
    · cases Option.some.inj (placed.symm.trans found)
      exact located.symm
    · cases Option.some.inj (placed.symm.trans found)
      rw [kept]; exact keyed.version key current held
    · cases Option.some.inj (placed.symm.trans found)
      rw [kept]; exact keyed.version key current held

theorem cleared_change (change : Change store call after) (cleared : PointersCleared store) :
    PointersCleared after := by
  intro identity document found inactive
  rcases document_after change identity with
    same | ⟨_, fresh⟩ | ⟨_, _, _, placed, _, _, _, pointer⟩ |
      ⟨_, _, _, _, _, _, _, _, _, _, placed, _, _, active⟩
  · exact cleared identity document (same ▸ found) inactive
  · cases Option.some.inj (fresh.symm.trans found); rfl
  · cases Option.some.inj (placed.symm.trans found); exact pointer
  · cases Option.some.inj (placed.symm.trans found); exact absurd active inactive

theorem operation_stays (change : Change store call after) (operationId : String)
    (operation : IngestionOperationRecord) (found : store.operation? operationId = some operation) :
    ∃ next, after.operation? operationId = some next ∧ next.identity = operation.identity := by
  rcases operation_after change operationId with
    same | ⟨_, _, _, _, _, absent, _⟩ | ⟨_, next, held, placed, kept, _⟩
  · exact ⟨operation, same.trans found, rfl⟩
  · rw [found] at absent; cases absent
  · cases Option.some.inj (held.symm.trans found)
    exact ⟨next, placed, kept⟩

theorem intake_founds (operation : IngestionOperationIdentity)
    (version : DocumentVersionDefinition) (source : SourceArtifactReference)
    (document : DocumentHeadSnapshot) (bound : ¬ intakeBindingConflict operation version source) :
    (∃ head, (registerFacts operation version source document store).document?
        version.identity.document = some head) ∧
      ∃ record, (registerFacts operation version source document store).operation?
          version.createdByOperationId = some record ∧ record.identity.version = version.identity ∧
        record.identity.sourceArtifactId = version.sourceArtifactId := by
  simp only [intakeBindingConflict, not_or, not_not] at bound
  rcases bound with ⟨versions, _, operationSource, versionSource, creator⟩
  refine ⟨⟨document, by rw [document?_registerFacts, if_pos rfl]⟩, readyOperation operation, ?_,
    versions, operationSource.trans versionSource.symm⟩
  simp [registerFacts, operation?, Dict.lookup_insert_eq, creator]

theorem founded_change (change : Change store call after) (founded : Founded store) :
    Founded after := by
  intro key version found
  have carried : ∀ current, store.versions.lookup key = some current →
      version.definition = current.definition →
      (∃ document, after.document? version.definition.identity.document = some document) ∧
      ∃ operation, after.operation? version.definition.createdByOperationId = some operation ∧
        operation.identity.version = version.definition.identity ∧
        operation.identity.sourceArtifactId = version.definition.sourceArtifactId := by
    intro current held kept
    rcases founded key current held with ⟨⟨document, head⟩, operation, creator, versions, sources⟩
    rcases document_stays change _ document head with ⟨later, present, _⟩
    rcases operation_stays change _ operation creator with ⟨next, placed, identity⟩
    rw [kept]
    exact ⟨⟨later, present⟩, next, placed, by rw [identity]; exact versions,
      by rw [identity]; exact sources⟩
  rcases version_after change key with
    same | ⟨operation, registered, source, called, _, _, placed⟩ |
      ⟨current, _, held, placed, kept, _, _⟩ |
      ⟨_, _, _, _, current, _, _, _, _, _, held, placed, kept, _⟩
  · exact carried version (same ▸ found) rfl
  · subst called
    cases change with
    | intake _ _ _ bound =>
      cases Option.some.inj (placed.symm.trans found)
      exact intake_founds operation registered source _ bound
    | move _ _ _ _ _ _ _ _ _ moves => simp [Call.move] at moves
  · cases Option.some.inj (placed.symm.trans found)
    exact carried current held kept
  · cases Option.some.inj (placed.symm.trans found)
    exact carried current held kept

theorem artifacts_change (change : Change store call after) (artifacts : ArtifactsPresent store) :
    ArtifactsPresent after := by
  intro key version found active
  rcases version_after change key with
    same | ⟨_, _, _, _, _, _, placed⟩ | ⟨_, _, _, placed, _, _, demoted⟩ |
      ⟨_, _, proposal, _, _, _, _, rfl, admitted, _, _, placed, _, _, publication⟩
  · rcases artifacts key version (same ▸ found) active with ⟨artifactId, artifact, named, stored⟩
    exact ⟨artifactId, artifact, named, artifact_after change artifactId artifact stored⟩
  · cases Option.some.inj (placed.symm.trans found)
    cases active
  · cases Option.some.inj (placed.symm.trans found)
    exact absurd active demoted.not_active
  · cases Option.some.inj (placed.symm.trans found)
    cases change with
    | activation _ _ _ _ _ _ _ _ _ _ passed =>
      cases Option.some.inj (admitted.proposed.symm.trans passed.proposed)
      rcases artifact_published with ⟨artifact, stored⟩
      exact ⟨proposal.parsedArtifact.parsedArtifactId, artifact,
        congrArg Prod.fst publication, stored⟩
    | move _ _ _ _ _ _ _ _ _ moves => simp [Call.move] at moves

theorem agreement_untouched (agreement : Agreement store) {identity : DocumentIdentity}
    {versionId : String} (head : after.document? identity = store.document? identity)
    (version : after.versions.lookup (identity.versionKey versionId) =
      store.versions.lookup (identity.versionKey versionId)) :
    HeadPoints after identity versionId ↔ VersionActive after identity versionId := by
  rw [HeadPoints, VersionActive, head, version]
  exact agreement identity versionId

theorem pointed_of_active (agreement : Agreement store) {identity : DocumentIdentity}
    {document : DocumentHeadSnapshot} {versionId : String}
    (found : store.document? identity = some document)
    (active : VersionActive store identity versionId) :
    document.state = .active ∧ document.activeVersionId = some versionId := by
  rcases (agreement identity versionId).mpr active with ⟨_, located, state, pointer⟩
  rw [found] at located
  cases Option.some.inj located
  exact ⟨state, pointer⟩

variable {event : IngestionLifecycleOutboxIntent}

theorem agreement_tombstone {owner : DocumentIdentity} {document tombstoned : DocumentHeadSnapshot}
    {activeVersion : Option DocumentVersionLifecycleRecord} {retired : Store}
    (agreement : Agreement store) (found : store.document? owner = some document)
    (retiring : retireActiveVersion owner document store = some (.ok (activeVersion, retired)))
    (moved : document.advance .tombstoned none = .ok tombstoned) :
    Agreement ((retired.putDocument owner tombstoned).emit event) := by
  intro identity versionId
  have state := (DocumentHeadSnapshot.advance_ok moved).2.1
  by_cases same : identity = owner
  · subst same
    constructor
    · rintro ⟨_, placed, active, _⟩
      rw [document?_emit, document?_putDocument, if_pos rfl] at placed
      cases Option.some.inj placed
      rw [state] at active
      cases active
    · rintro ⟨version, placed, active⟩
      rw [versions_emit, versions_putDocument] at placed
      rcases retire_cases retiring with
        ⟨cleared, rfl⟩ | ⟨activeId, _, next, pointer, _, _, demoted, rfl⟩
      · rw [(pointed_of_active agreement found ⟨version, placed, active⟩).2] at cleared
        cases cleared
      rw [lookup_putVersion] at placed
      split_ifs at placed with key
      · cases Option.some.inj placed
        rw [(advance_ok demoted).2.1] at active
        cases active
      · have named := (pointed_of_active agreement found ⟨version, placed, active⟩).2
        rw [pointer] at named
        exact absurd (by rw [Option.some.inj named]; rfl) key
  · apply agreement_untouched agreement
    · rw [document?_emit, document?_putDocument, if_neg same, retired_eq retiring]
      rfl
    · rw [versions_emit, versions_putDocument]
      rcases retire_cases retiring with ⟨_, rfl⟩ | ⟨activeId, _, _, _, _, _, _, rfl⟩
      · rfl
      · rw [lookup_putVersion, if_neg]
        intro key
        exact same ((DocumentIdentity.versionKey_inj identity owner versionId activeId).mp key).1

/-- Superseding takes the old record down, so the new version is the only active one. -/
theorem agreement_activation {document committedDocument : DocumentHeadSnapshot}
    {committedVersion : DocumentVersionLifecycleRecord}
    {committedOperation : IngestionOperationRecord} {proposal : IngestionActivationProposal}
    {superseded : Store} (agreement : Agreement store)
    (found : store.document? proposal.operation.version.document = some document)
    (superseding : supersedePrevious document proposal.operation.version store =
      some (.ok superseded)) (activated : committedVersion.state = .active)
    (moved : document.advance .active (some proposal.operation.documentVersionId) =
      .ok committedDocument) :
    Agreement (publish proposal committedDocument committedVersion committedOperation
      superseded) := by
  intro identity versionId
  rcases DocumentHeadSnapshot.advance_ok moved with ⟨_, state, pointer, _⟩
  have key : versionKey proposal.operation.version =
      proposal.operation.version.document.versionKey proposal.operation.documentVersionId := rfl
  by_cases same : identity = proposal.operation.version.document
  · subst same
    have points : HeadPoints (publish proposal committedDocument committedVersion
        committedOperation superseded) proposal.operation.version.document versionId ↔
        versionId = proposal.operation.documentVersionId := by
      unfold HeadPoints
      rw [document?_publish, if_pos rfl]
      constructor
      · rintro ⟨_, placed, _, named⟩
        cases Option.some.inj placed
        rw [pointer] at named
        exact (Option.some.inj named).symm
      · rintro rfl
        exact ⟨committedDocument, rfl, state, pointer⟩
    rw [points]
    simp only [VersionActive, versions_publish, key, DocumentIdentity.versionKey_inj, true_and]
    constructor
    · rintro rfl
      rw [if_pos rfl]
      exact ⟨committedVersion, rfl, activated⟩
    · rintro ⟨version, placed, active⟩
      by_contra other
      rw [if_neg other] at placed
      rcases supersede_cases superseding with
        ⟨rfl, only⟩ | ⟨previousId, _, next, previous, _, _, _, demoted, rfl⟩
      · rcases pointed_of_active agreement found ⟨version, placed, active⟩ with ⟨living, named⟩
        exact other (only versionId named (named ▸ document.pointer_iff.mp living))
      rw [lookup_putVersion] at placed
      split_ifs at placed with same
      · cases Option.some.inj placed
        rw [(advance_ok demoted).2.1] at active
        cases active
      · have named := (pointed_of_active agreement found ⟨version, placed, active⟩).2
        rw [previous] at named
        exact same (by rw [Option.some.inj named]; rfl)
  · apply agreement_untouched agreement
    · rw [document?_publish, if_neg same, superseded_eq superseding]
      rfl
    · rw [versions_publish, key, if_neg (by
        rw [DocumentIdentity.versionKey_inj]; exact fun both => same both.1)]
      rcases supersede_cases superseding with
        ⟨rfl, _⟩ | ⟨previousId, _, _, _, _, _, _, _, rfl⟩
      · rfl
      · rw [lookup_putVersion, if_neg]
        intro located
        exact same ((DocumentIdentity.versionKey_inj identity
          proposal.operation.version.document versionId previousId).mp located).1

theorem agreement_intake {operation : IngestionOperationIdentity}
    {version : DocumentVersionDefinition} {source : SourceArtifactReference}
    (agreement : Agreement store) (newVersion : store.version? version.identity = none) :
    Agreement (registerFacts operation version source
      ((store.document? version.identity.document).getD
        (registeredDocument version.identity.document)) store) := by
  intro identity versionId
  have heads : HeadPoints (registerFacts operation version source
      ((store.document? version.identity.document).getD
        (registeredDocument version.identity.document)) store) identity versionId ↔
      HeadPoints store identity versionId := by
    unfold HeadPoints
    rw [document?_registerFacts]
    split
    · next same =>
      subst same
      cases held : store.document? version.identity.document with
      | some => rfl
      | none => simp [registeredDocument]
    · rfl
  have versions : VersionActive (registerFacts operation version source
      ((store.document? version.identity.document).getD
        (registeredDocument version.identity.document)) store) identity versionId ↔
      VersionActive store identity versionId := by
    unfold VersionActive
    simp only [registerFacts, Dict.lookup_insert_eq]
    split
    · next same =>
      have absent : store.versions.lookup (identity.versionKey versionId) = none := by
        rw [same]; exact newVersion
      simp [registeredVersion, absent]
    · rfl
  rw [heads, versions]
  exact agreement identity versionId

theorem agreement_quarantine {key : String × String × String} {operationId : String}
    {quarantined : IngestionOperationRecord} {version next : DocumentVersionLifecycleRecord}
    (agreement : Agreement store)
    (found : store.versions.lookup key = some version) (registered : version.state = .registered)
    (isolated : next.state = .quarantined) :
    Agreement (((store.putOperation operationId quarantined).putVersion key next).emit event) := by
  intro identity versionId
  refine Iff.trans (show HeadPoints _ identity versionId ↔ HeadPoints store identity versionId
    from Iff.rfl) ((agreement identity versionId).trans ?_)
  unfold VersionActive
  rw [versions_emit, lookup_putVersion]
  split
  · next same => rw [same, found]; simp [registered, isolated]
  · rfl

theorem agreement_change (change : Change store call after) (agreement : Agreement store) :
    Agreement after := by
  cases change with
  | intake _ _ _ _ _ _ _ newVersion => exact agreement_intake agreement newVersion
  | claim | move => exact agreement
  | quarantine _ _ _ _ _ _ _ _ _ found registered isolated =>
    exact agreement_quarantine agreement found registered
      (advance_ok isolated).2.1
  | tombstone _ _ _ _ _ _ _ _ found _ _ retiring moved =>
    exact agreement_tombstone agreement found retiring moved
  | activation _ _ _ _ _ _ _ _ _ _ admitted superseding version_moved document_moved =>
    exact agreement_activation agreement admitted.document_found superseding
      (advance_ok version_moved).2.1 document_moved

theorem pointerIntegrity_change (change : Change store call after)
    (integrity : PointerIntegrity store) : PointerIntegrity after where
  keyed := keyed_change change integrity.keyed
  cleared := cleared_change change integrity.cleared
  founded := founded_change change integrity.founded
  agreement := agreement_change change integrity.agreement
  artifacts := artifacts_change change integrity.artifacts

end Preservation

section Binding

variable {store : Store}

theorem retire_succeeds (integrity : PointerIntegrity store) {identity : DocumentIdentity}
    {document : DocumentHeadSnapshot} (found : store.document? identity = some document) :
    ∃ activeVersion retired,
      retireActiveVersion identity document store = some (.ok (activeVersion, retired)) := by
  unfold retireActiveVersion
  cases pointer : document.activeVersionId with
  | none => exact ⟨none, store, rfl⟩
  | some activeId =>
    have state : document.state = .active := by
      by_contra inactive
      rw [integrity.cleared identity document found inactive] at pointer
      cases pointer
    rcases (integrity.agreement identity activeId).mp ⟨document, found, state, pointer⟩ with
      ⟨version, held, active⟩
    rcases version.advance_succeeds .tombstoned _ _ version.retirable with ⟨_, moved⟩
    rw [DocumentIdentity.versionKey] at held
    simp only [held, active, moved]
    exact ⟨_, _, rfl⟩

theorem supersede_succeeds (integrity : PointerIntegrity store)
    {version : DocumentVersionIdentity} {document : DocumentHeadSnapshot}
    (found : store.document? version.document = some document) :
    ∃ superseded, supersedePrevious document version store = some (.ok superseded) := by
  unfold supersedePrevious
  cases pointer : document.activeVersionId with
  | none => exact ⟨store, rfl⟩
  | some previousId =>
    dsimp only
    split_ifs with other
    · have state : document.state = .active := document.pointer_iff.mpr (pointer ▸ other.1)
      rcases (integrity.agreement version.document previousId).mp
        ⟨document, found, state, pointer⟩ with ⟨previous, held, active⟩
      rcases previous.published (.inl active) with ⟨artifact, commit⟩
      obtain ⟨_, moved⟩ := previous.advance_succeeds .superseded
        previous.parsedArtifactId previous.activationCommitId (by
          simp [postInit, artifact, commit])
      have key : version.document.versionKey previousId =
        (version.tenantId, version.documentId, previousId) := rfl
      rw [key] at held
      simp only [held, active, moved]
      exact ⟨_, rfl⟩
    · exact ⟨store, rfl⟩

end Binding

section Reachable

variable {sha256 : String → String}

theorem pointerIntegrity_perform (store : Store) (call : Call) (legal : Legal sha256 call)
    (integrity : PointerIntegrity store) : PointerIntegrity (perform call store).2 := by
  rcases perform_step store call legal with quiet | moves
  · rw [quiet.2]; exact integrity
  · exact pointerIntegrity_change moves.2 integrity

theorem pointerIntegrity_reachable (calls : List Call) (legal : ∀ call ∈ calls, Legal sha256 call) :
    PointerIntegrity (final perform {} calls) :=
  invariant_final perform PointerIntegrity (Legal sha256) pointerIntegrity_perform {} calls legal
    pointerIntegrity_empty

theorem eligible_iff_pointed {store : Store} (integrity : PointerIntegrity store)
    {identity : DocumentIdentity} {versionId : String} {document : DocumentHeadSnapshot}
    {version : DocumentVersionLifecycleRecord} {operation : IngestionOperationRecord}
    (document_found : store.document? identity = some document)
    (version_found : store.versions.lookup (identity.versionKey versionId) = some version)
    (operation_found : store.operation? version.definition.createdByOperationId = some operation) :
    (evaluateDay96ChunkingEligibility document version operation).outcome = .eligible ↔
      HeadPoints store identity versionId ∧ operation.state = .completed := by
  rcases integrity.founded _ version version_found with ⟨_, _, created, versions, sources⟩
  cases Option.some.inj (created.symm.trans operation_found)
  have same := key_identity integrity.keyed version_found
  have owner : document.identity = version.definition.identity.document := by
    rw [same.1]; exact integrity.keyed.document identity document document_found
  rw [eligible_iff]
  constructor
  · rintro ⟨_, active, pointer, _, _, completed⟩
    exact ⟨⟨document, document_found, active, by rw [pointer, same.2]⟩, completed⟩
  · rintro ⟨points, completed⟩
    rcases points with ⟨_, located, active, pointer⟩
    cases Option.some.inj (located.symm.trans document_found)
    rcases (integrity.agreement identity versionId).mp
      ⟨document, document_found, active, pointer⟩ with ⟨_, held, published⟩
    cases Option.some.inj (held.symm.trans version_found)
    rcases integrity.artifacts _ version version_found published with ⟨_, _, named, _⟩
    exact ⟨⟨owner, versions, sources⟩, active, by rw [pointer, same.2], published,
      by simp [named], completed⟩

/-- What a reader of one document can rely on in every reachable store. -/
structure DocumentIntegrity (store : Store) (identity : DocumentIdentity) : Prop where
  agreement : ∀ versionId,
    HeadPoints store identity versionId ↔ VersionActive store identity versionId
  single : ∀ first second, VersionActive store identity first →
    VersionActive store identity second → first = second
  artifact : ∀ versionId version,
    store.versions.lookup (identity.versionKey versionId) = some version →
    version.state = .active → ∃ artifactId artifact, version.parsedArtifactId = some artifactId ∧
      store.parsedArtifacts.lookup artifactId = some artifact
  eligible : ∀ versionId version,
    store.versions.lookup (identity.versionKey versionId) = some version →
    ∃ document operation, store.document? identity = some document ∧
      store.operation? version.definition.createdByOperationId = some operation ∧
      operation.identity.version = version.definition.identity ∧
      ((evaluateDay96ChunkingEligibility document version operation).outcome = .eligible ↔
        HeadPoints store identity versionId ∧ operation.state = .completed)

theorem active_pointer_integrity (calls : List Call)
    (legal : ∀ call ∈ calls, Legal sha256 call) (identity : DocumentIdentity) :
    DocumentIntegrity (final perform {} calls) identity := by
  have integrity := pointerIntegrity_reachable calls legal
  refine ⟨integrity.agreement identity, ?_, fun versionId => integrity.artifacts _, ?_⟩
  · intro first second one two
    rcases (integrity.agreement identity first).mpr one with ⟨document, found, _, pointer⟩
    have other := (pointed_of_active integrity.agreement found two).2
    exact Option.some.inj (pointer.symm.trans other)
  · intro versionId version found
    rcases integrity.founded _ version found with
      ⟨⟨document, head⟩, operation, created, versions, _⟩
    rw [(key_identity integrity.keyed found).1] at head
    exact ⟨document, operation, head, created, versions,
      eligible_iff_pointed integrity head found created⟩

end Reachable

/-- Intake, dispatch claim, parser answer and commit. -/
def publishing : List Action :=
  let parsed := oracle
    (Sample.parsed (candidate (attempt 1) "controlled evidence"))
  [Sample.intake, .resume 0 parsed,
    .enter (.run capability (request (attempt 1) .readyForDispatch 0)),
    .resume 1 parsed, .resume 1 parsed, .resume 1 parsed, .resume 1 parsed, .resume 1 parsed]

theorem active_pointer_integrity_publishing :
    ((final perform {} (storeCalls digest publishing)).document?
        Sample.operation.version.document).map (·.activeVersionId) = some (some "report-42-v2") ∧
    DocumentIntegrity (final perform {} (storeCalls digest publishing))
      Sample.operation.version.document :=
  ⟨by decide, active_pointer_integrity _ (storeCalls_legal publishing) _⟩

end BackendHandbook.Ingestion
