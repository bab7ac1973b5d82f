import BackendHandbook.Ingestion.Recovery

/-! Intake: the seven maps of the store agree on every registered operation, whatever
ids the callers of different tenants choose. -/

namespace BackendHandbook.Ingestion

open IngestionCommitter InMemoryIngestionLifecycleStore Run

/-- The keyword arguments of one `register_intake` call. -/
structure IntakeRequest where
  operation : IngestionOperationIdentity
  version : DocumentVersionDefinition
  source : SourceArtifactReference

namespace IntakeRequest

def register (request : IntakeRequest) (store : Store) :
    Except Raised IngestionIntakeResult × Store :=
  registerIntake request.operation request.version request.source store

def fingerprintKey (request : IntakeRequest) : String × String × Fingerprint :=
  (request.operation.tenantId, request.operation.documentId,
    fingerprint request.version request.source)

end IntakeRequest

structure Registration (store : Store) (record : IngestionOperationRecord)
    (version : DocumentVersionLifecycleRecord) (source : SourceArtifactReference) : Prop where
  operation_found : store.operation? record.identity.operationId = some record
  version_found : store.version? record.identity.version = some version
  source_found : store.sourceArtifacts.lookup record.identity.sourceArtifactId = some source
  bound : ¬ intakeBindingConflict record.identity version.definition source
  key_found : store.idempotencyOperations.lookup
    (record.identity.tenantId, record.identity.idempotencyKey) = some record.identity.operationId
  evidence_found : store.operationSourceFingerprints.lookup record.identity.operationId =
    some (fingerprint version.definition source)
  fingerprint_found : store.documentFingerprints.lookup (record.identity.tenantId,
    record.identity.documentId, fingerprint version.definition source) =
      some record.identity.operationId

/-- Every entry of every map belongs to a registration, under the key that names it. -/
structure Consistent (store : Store) : Prop where
  operations : ∀ operationId record, store.operation? operationId = some record →
    operationId = record.identity.operationId ∧
      ∃ version source, Registration store record version source
  versions : ∀ key version, store.versions.lookup key = some version →
    ∃ record source, Registration store record version source ∧
      key = versionKey record.identity.version
  sources : ∀ sourceId source, store.sourceArtifacts.lookup sourceId = some source →
    ∃ record version, Registration store record version source ∧
      sourceId = record.identity.sourceArtifactId
  keys : ∀ key operationId, store.idempotencyOperations.lookup key = some operationId →
    ∃ record version source, Registration store record version source ∧
      key = (record.identity.tenantId, record.identity.idempotencyKey) ∧
      operationId = record.identity.operationId
  fingerprints : ∀ key operationId, store.documentFingerprints.lookup key = some operationId →
    ∃ record version source, Registration store record version source ∧
      key = (record.identity.tenantId, record.identity.documentId,
        fingerprint version.definition source) ∧
      operationId = record.identity.operationId
  documents : ∀ key document, store.documents.lookup key = some document →
    key = documentKey document.identity

theorem consistent_empty : Consistent {} := by
  constructor <;> (intros; rename_i found; cases found)

section Bindings

variable {operation : IngestionOperationIdentity} {version : DocumentVersionDefinition}
  {source : SourceArtifactReference}

theorem bound_iff : ¬ intakeBindingConflict operation version source ↔
    version.identity = operation.version ∧ source.version = operation.version ∧
      source.sourceArtifactId = operation.sourceArtifactId ∧
      version.sourceArtifactId = operation.sourceArtifactId ∧
      version.createdByOperationId = operation.operationId := by
  unfold intakeBindingConflict
  push Not
  constructor
  · rintro ⟨identity, sourced, artifact, definition, creator⟩
    exact ⟨identity.symm, sourced.trans identity.symm, artifact.symm,
      definition.trans artifact.symm, creator⟩
  · rintro ⟨identity, sourced, artifact, definition, creator⟩
    exact ⟨identity.symm, sourced.trans identity.symm, artifact.symm,
      definition.trans artifact.symm, creator⟩

end Bindings

namespace Registration

variable {store : Store} {record : IngestionOperationRecord}
  {version : DocumentVersionLifecycleRecord} {source : SourceArtifactReference}

section

variable (registration : Registration store record version source)
include registration

theorem createdBy : version.definition.createdByOperationId = record.identity.operationId :=
  (bound_iff.mp registration.bound).2.2.2.2

theorem version_identity : version.definition.identity = record.identity.version :=
  (bound_iff.mp registration.bound).1

theorem source_version : source.version = record.identity.version :=
  (bound_iff.mp registration.bound).2.1

end

variable {other : IngestionOperationRecord} {otherVersion : DocumentVersionLifecycleRecord}
  {otherSource : SourceArtifactReference}

section

variable (first : Registration store record version source)
  (second : Registration store other otherVersion otherSource)
include first second

theorem unique (same : record.identity.operationId = other.identity.operationId) :
    record = other ∧ version = otherVersion ∧ source = otherSource := by
  have records : record = other := by
    have found := first.operation_found
    rw [same, second.operation_found] at found
    exact (Option.some.inj found).symm
  subst records
  exact ⟨rfl, Option.some.inj (first.version_found.symm.trans second.version_found),
    Option.some.inj (first.source_found.symm.trans second.source_found)⟩

theorem unique_of_version (same : record.identity.version = other.identity.version) :
    record = other ∧ version = otherVersion ∧ source = otherSource := by
  have versions : version = otherVersion := by
    have found := first.version_found
    rw [same, second.version_found] at found
    exact (Option.some.inj found).symm
  apply first.unique second
  rw [← first.createdBy, ← second.createdBy, versions]

end

end Registration

section Register

variable {store : Store} {operation : IngestionOperationIdentity}
  {definition : DocumentVersionDefinition} {artifact : SourceArtifactReference}

/-- The keys of an intake are free in all the maps it writes. -/
structure Fresh (store : Store) (operation : IngestionOperationIdentity)
    (definition : DocumentVersionDefinition) (artifact : SourceArtifactReference) : Prop where
  operation_free : store.operation? operation.operationId = none
  key_free : store.idempotencyOperations.lookup
    (operation.tenantId, operation.idempotencyKey) = none
  fingerprint_free : store.documentFingerprints.lookup
    (operation.tenantId, operation.documentId, fingerprint definition artifact) = none
  version_free : store.version? definition.identity = none
  source_free : store.sourceArtifacts.lookup artifact.sourceArtifactId = none

private theorem apart {κ α : Type} [DecidableEq κ] {dict : Dict κ α} {key free : κ} {value : α}
    (found : dict.lookup key = some value) (absent : dict.lookup free = none) : key ≠ free := by
  rintro rfl
  rw [absent] at found
  cases found

theorem Registration.kept {record : IngestionOperationRecord}
    {version : DocumentVersionLifecycleRecord} {source : SourceArtifactReference}
    (registration : Registration store record version source)
    (fresh : Fresh store operation definition artifact) (document : DocumentHeadSnapshot) :
    Registration (registerFacts operation definition artifact document store) record version
      source := by
  have otherId : record.identity.operationId ≠ operation.operationId :=
    apart registration.operation_found fresh.operation_free
  constructor
  · rw [← registration.operation_found]
    exact AList.lookup_insert_ne otherId
  · rw [← registration.version_found]
    exact AList.lookup_insert_ne (apart registration.version_found fresh.version_free)
  · rw [← registration.source_found]
    exact AList.lookup_insert_ne (apart registration.source_found fresh.source_free)
  · exact registration.bound
  · rw [← registration.key_found]
    exact AList.lookup_insert_ne (apart registration.key_found fresh.key_free)
  · rw [← registration.evidence_found]
    exact AList.lookup_insert_ne otherId
  · rw [← registration.fingerprint_found]
    exact AList.lookup_insert_ne
      (apart registration.fingerprint_found fresh.fingerprint_free)

theorem Registration.added (bound : ¬ intakeBindingConflict operation definition artifact)
    (document : DocumentHeadSnapshot) :
    Registration (registerFacts operation definition artifact document store)
      (readyOperation operation) (registeredVersion definition) artifact := by
  have parts := bound_iff.mp bound
  constructor
  · exact AList.lookup_insert _
  · show AList.lookup (versionKey operation.version) (store.versions.insert _ _) = _
    rw [← parts.1]
    exact AList.lookup_insert _
  · show AList.lookup operation.sourceArtifactId (store.sourceArtifacts.insert _ _) = _
    rw [← parts.2.2.1]
    exact AList.lookup_insert _
  · exact bound
  · exact AList.lookup_insert _
  · exact AList.lookup_insert _
  · exact AList.lookup_insert _

private theorem written_or_kept {κ α : Type} [DecidableEq κ] {dict : Dict κ α} {key other : κ}
    {value stored : α} (found : (dict.insert key value).lookup other = some stored) :
    (other = key ∧ stored = value) ∨ dict.lookup other = some stored := by
  rw [Dict.lookup_insert_eq] at found
  split at found
  · next same => exact .inl ⟨same, (Option.some.inj found).symm⟩
  · exact .inr found

theorem Consistent.register (consistent : Consistent store)
    (bound : ¬ intakeBindingConflict operation definition artifact)
    (fresh : Fresh store operation definition artifact) (document : DocumentHeadSnapshot)
    (headed : document.identity = definition.identity.document) :
    Consistent (registerFacts operation definition artifact document store) := by
  have parts := bound_iff.mp bound
  have added : Registration (registerFacts operation definition artifact document store)
      (readyOperation operation) (registeredVersion definition) artifact :=
    Registration.added bound document
  constructor
  · intro operationId record found
    rcases written_or_kept found with ⟨rfl, rfl⟩ | old
    · exact ⟨rfl, _, _, added⟩
    · rcases consistent.operations _ _ old with ⟨named, version, source, registration⟩
      exact ⟨named, version, source, registration.kept fresh document⟩
  · intro key version found
    rcases written_or_kept found with ⟨rfl, rfl⟩ | old
    · exact ⟨_, _, added, congrArg versionKey parts.1⟩
    · rcases consistent.versions _ _ old with ⟨record, source, registration, named⟩
      exact ⟨record, source, registration.kept fresh document, named⟩
  · intro sourceId source found
    rcases written_or_kept found with ⟨rfl, rfl⟩ | old
    · exact ⟨_, _, added, parts.2.2.1⟩
    · rcases consistent.sources _ _ old with ⟨record, version, registration, named⟩
      exact ⟨record, version, registration.kept fresh document, named⟩
  · intro key operationId found
    rcases written_or_kept found with ⟨rfl, rfl⟩ | old
    · exact ⟨_, _, _, added, rfl, rfl⟩
    · rcases consistent.keys _ _ old with ⟨record, version, source, registration, named⟩
      exact ⟨record, version, source, registration.kept fresh document, named⟩
  · intro key operationId found
    rcases written_or_kept found with ⟨rfl, rfl⟩ | old
    · exact ⟨_, _, _, added, rfl, rfl⟩
    · rcases consistent.fingerprints _ _ old with ⟨record, version, source, registration, named⟩
      exact ⟨record, version, source, registration.kept fresh document, named⟩
  · intro key head found
    rcases written_or_kept found with ⟨rfl, rfl⟩ | old
    · rw [headed]
    · exact consistent.documents _ _ old

end Register

variable (request : IntakeRequest) (store : Store)

theorem register_cases : (request.register store).2 = store ∨
      ¬ intakeBindingConflict request.operation request.version request.source ∧
        Fresh store request.operation request.version request.source ∧
        (request.register store).2 = registerFacts request.operation request.version
          request.source ((store.document? request.version.identity.document).getD
            (registeredDocument request.version.identity.document)) store := by
  rcases registerIntake_step store request.operation request.version request.source with
    ⟨_, same⟩ | ⟨_, change⟩
  · exact .inl same
  · right
    have written : (request.register store).2 = (perform (.registerIntake request.operation
      request.version request.source) store).2 := rfl
    rw [written]
    generalize (perform (.registerIntake request.operation request.version request.source)
      store).2 = after at change
    cases change with
    | intake _ _ _ bound newOperation newKey newFingerprint newVersion newSource =>
      exact ⟨bound, ⟨newOperation, newKey, newFingerprint, newVersion, newSource⟩, rfl⟩
    | move _ _ _ _ _ _ _ _ _ moves => cases moves

theorem register_consistent
    (consistent : Consistent store) : Consistent (request.register store).2 := by
  rcases register_cases request store with same | ⟨bound, fresh, same⟩
  · rw [same]; exact consistent
  · rw [same]
    apply consistent.register bound fresh
    cases found : store.document? request.version.identity.document with
    | none => rfl
    | some =>
      have named := consistent.documents _ _ found
      exact ((documentKey_inj _ _).mp named).symm

/-- Every record that the result carries belongs to the tenant. -/
structure IngestionIntakeResult.Within (result : IngestionIntakeResult) (tenantId : String) :
    Prop where
  document : ∀ document ∈ result.document, document.identity.tenantId = tenantId
  version : ∀ version ∈ result.version, version.definition.identity.tenantId = tenantId
  operation : ∀ operation ∈ result.operation, operation.identity.tenantId = tenantId
  source : ∀ source ∈ result.source, source.version.tenantId = tenantId

def Crosses (store : Store) (request : IntakeRequest) : Prop :=
  ¬ intakeBindingConflict request.operation request.version request.source ∧
    ∃ existing, store.operation? request.operation.operationId = some existing ∧
      existing.identity.tenantId ≠ request.operation.tenantId

section Isolation

variable {store : Store}

theorem Registration.within {record : IngestionOperationRecord}
    {version : DocumentVersionLifecycleRecord} {source : SourceArtifactReference}
    (registration : Registration store record version source) {tenantId : String}
    (home : record.identity.tenantId = tenantId) (result : IngestionIntakeResult)
    (heads : ∀ document ∈ result.document, document.identity.tenantId = tenantId)
    (versioned : result.version = some version) (operated : result.operation = some record)
    (sourced : result.source = some source) : result.Within tenantId := by
  constructor
  · exact heads
  · rw [versioned]
    rintro _ ⟨rfl⟩
    rw [registration.version_identity]
    exact home
  · rw [operated]
    rintro _ ⟨rfl⟩
    exact home
  · rw [sourced]
    rintro _ ⟨rfl⟩
    rw [registration.source_version]
    exact home

theorem Consistent.document_tenant (consistent : Consistent store)
    (version : DocumentVersionIdentity) : ∀ document ∈ store.document? version.document,
      document.identity.tenantId = version.tenantId := by
  intro document found
  have named := consistent.documents _ _ (Option.mem_def.mp found)
  exact (congrArg Prod.fst named).symm

theorem absent_within {A : Type} {P : A → Prop} : ∀ value ∈ (none : Option A), P value := by
  intro value absent
  cases absent

theorem knownOperation_within (consistent : Consistent store) (request : IntakeRequest)
    (bound : ¬ intakeBindingConflict request.operation request.version request.source)
    (existing : IngestionOperationRecord)
    (found : store.operation? request.operation.operationId = some existing)
    (home : existing.identity.tenantId = request.operation.tenantId) :
    (intakeOfKnownOperation request.operation request.version request.source existing
      store).Within request.operation.tenantId := by
  rcases consistent.operations _ _ found with ⟨_, _, _, registration⟩
  have parts := bound_iff.mp bound
  unfold intakeOfKnownOperation
  dsimp only
  split_ifs with exact
  · rw [parts.1, registration.version_found, registration.source_found]
    exact registration.within home _ (consistent.document_tenant request.operation.version)
      rfl rfl rfl
  · refine ⟨absent_within, absent_within, ?_, absent_within⟩
    rintro _ ⟨rfl⟩
    exact home

theorem knownFingerprint_within (consistent : Consistent store) (request : IntakeRequest)
    (bound : ¬ intakeBindingConflict request.operation request.version request.source)
    (holder : String)
    (found : store.documentFingerprints.lookup request.fingerprintKey = some holder) :
    ∃ result, intakeOfKnownFingerprint request.version holder store = .ok result ∧
      result.Within request.operation.tenantId := by
  rcases consistent.fingerprints _ _ found with ⟨record, _, _, registration, key, rfl⟩
  have parts := bound_iff.mp bound
  have home : request.operation.tenantId = record.identity.tenantId := congrArg Prod.fst key
  unfold intakeOfKnownFingerprint
  rw [registration.operation_found]
  dsimp only
  rw [registration.version_found, registration.source_found]
  rw [parts.1]
  exact ⟨_, rfl, registration.within home.symm _
    (consistent.document_tenant request.operation.version) rfl rfl rfl⟩

theorem newVersion_within (consistent : Consistent store) (request : IntakeRequest)
    (bound : ¬ intakeBindingConflict request.operation request.version request.source) :
    (intakeOfNewVersion request.operation request.version request.source store).1.Within
      request.operation.tenantId := by
  have parts := bound_iff.mp bound
  have heads := consistent.document_tenant request.operation.version
  unfold intakeOfNewVersion
  rw [parts.1]
  by_cases buried : (store.document? request.operation.version.document).any
      (·.state = .tombstoned)
  · rw [if_pos buried]
    exact ⟨heads, absent_within, absent_within, absent_within⟩
  rw [if_neg buried]
  cases existing : store.version? request.operation.version with
  | some =>
    refine ⟨heads, ?_, absent_within, absent_within⟩
    rintro _ ⟨rfl⟩
    rcases consistent.versions _ _ existing with ⟨_, _, registration, key⟩
    rw [registration.version_identity, ← (versionKey_inj _ _).mp key]
    rfl
  | none =>
  by_cases taken : (store.sourceArtifacts.lookup request.source.sourceArtifactId).isSome
  · rw [if_pos taken]
    exact ⟨heads, absent_within, absent_within, absent_within⟩
  rw [if_neg taken]
  constructor
  · rintro _ ⟨rfl⟩
    cases found : store.document? request.operation.version.document with
    | none => rfl
    | some => exact heads _ found
  · rintro _ ⟨rfl⟩
    exact congrArg DocumentVersionIdentity.tenantId parts.1
  · rintro _ ⟨rfl⟩
    rfl
  · rintro _ ⟨rfl⟩
    exact congrArg DocumentVersionIdentity.tenantId parts.2.1

/-- A consistent store answers a call with the caller's own records, unless the call
crosses tenants. -/
theorem register_within (consistent : Consistent store) (request : IntakeRequest)
    (home : ¬ Crosses store request) : ∃ result, (request.register store).1 = .ok result ∧
      result.Within request.operation.tenantId := by
  unfold IntakeRequest.register registerIntake
  by_cases bound : intakeBindingConflict request.operation request.version request.source
  · rw [if_pos bound]
    exact ⟨_, rfl, absent_within, absent_within, absent_within, absent_within⟩
  rw [if_neg bound]
  cases found : store.operation? request.operation.operationId with
  | some existing =>
    have own : existing.identity.tenantId = request.operation.tenantId := by
      by_contra foreign
      exact home ⟨bound, existing, found, foreign⟩
    exact ⟨_, rfl, knownOperation_within consistent request bound existing found own⟩
  | none =>
  cases keyed : store.idempotencyOperations.lookup
      (request.operation.tenantId, request.operation.idempotencyKey) with
  | some =>
    rcases consistent.keys _ _ keyed with ⟨_, _, _, registration, key, rfl⟩
    dsimp only
    rw [registration.operation_found]
    refine ⟨_, rfl, absent_within, absent_within, ?_, absent_within⟩
    rintro _ ⟨rfl⟩
    exact (congrArg Prod.fst key).symm
  | none =>
  cases known : store.documentFingerprints.lookup (request.operation.tenantId,
      request.operation.documentId, fingerprint request.version request.source) with
  | some => exact knownFingerprint_within consistent request bound _ known
  | none => exact ⟨_, rfl, newVersion_within consistent request bound⟩

theorem crosses_not_within (request : IntakeRequest) (crosses : Crosses store request) :
    ∃ result, (request.register store).1 = .ok result ∧
      ¬ result.Within request.operation.tenantId := by
  rcases crosses with ⟨bound, existing, found, foreign⟩
  unfold IntakeRequest.register registerIntake
  rw [if_neg bound, found]
  refine ⟨_, rfl, fun within => foreign (within.operation existing ?_)⟩
  unfold intakeOfKnownOperation
  dsimp only
  split <;> rfl

end Isolation

/-- No two stored operations share an idempotency key, or a source under one document. -/
def Unshared (store : Store) : Prop :=
  ∀ first second one other, store.operation? first = some one →
    store.operation? second = some other → one.identity.tenantId = other.identity.tenantId →
    (one.identity.idempotencyKey = other.identity.idempotencyKey ∨
      one.identity.documentId = other.identity.documentId ∧
        store.operationSourceFingerprints.lookup first =
          store.operationSourceFingerprints.lookup second) →
    first = second

/-- One version, one source and one fingerprint are stored for the operation. -/
structure OwnFacts (store : Store) (operationId : String) (record : IngestionOperationRecord) :
    Prop where
  version : ∃! entry : (String × String × String) × DocumentVersionLifecycleRecord,
    store.versions.lookup entry.1 = some entry.2 ∧
      entry.2.definition.createdByOperationId = operationId
  source : ∃! entry : String × SourceArtifactReference,
    store.sourceArtifacts.lookup entry.1 = some entry.2 ∧ entry.2.version = record.identity.version
  fingerprint : ∃ facts, store.operationSourceFingerprints.lookup operationId = some facts ∧
    ∀ key, store.documentFingerprints.lookup key = some operationId ↔
      key = (record.identity.tenantId, record.identity.documentId, facts)

section Ownership

variable {store : Store}

theorem Consistent.unshared (consistent : Consistent store) : Unshared store := by
  intro first second one other found known tenant shared
  rcases consistent.operations _ _ found with ⟨rfl, _, _, left⟩
  rcases consistent.operations _ _ known with ⟨rfl, _, _, right⟩
  rcases shared with key | ⟨document, facts⟩
  · have holder := left.key_found
    rw [tenant, key, right.key_found] at holder
    exact (Option.some.inj holder).symm
  · rw [left.evidence_found, right.evidence_found] at facts
    have holder := left.fingerprint_found
    rw [tenant, document, Option.some.inj facts, right.fingerprint_found] at holder
    exact (Option.some.inj holder).symm

theorem Consistent.ownFacts (consistent : Consistent store) (operationId : String)
    (record : IngestionOperationRecord) (found : store.operation? operationId = some record) :
    OwnFacts store operationId record := by
  rcases consistent.operations _ _ found with ⟨rfl, version, source, registration⟩
  constructor
  · refine ⟨(versionKey record.identity.version, version),
      ⟨registration.version_found, registration.createdBy⟩, ?_⟩
    rintro ⟨key, other⟩ ⟨stored, created⟩
    rcases consistent.versions _ _ stored with ⟨holder, otherSource, held, named⟩
    rcases held.unique registration (held.createdBy.symm.trans created) with ⟨rfl, rfl, _⟩
    exact Prod.ext named rfl
  · refine ⟨(record.identity.sourceArtifactId, source),
      ⟨registration.source_found, registration.source_version⟩, ?_⟩
    rintro ⟨key, _⟩ ⟨stored, versioned⟩
    rcases consistent.sources _ _ stored with ⟨holder, otherVersion, held, named⟩
    rcases held.unique_of_version registration (held.source_version.symm.trans versioned) with
      ⟨rfl, _, rfl⟩
    exact Prod.ext named rfl
  · refine ⟨fingerprint version.definition source, registration.evidence_found, ?_⟩
    intro key
    constructor
    · intro stored
      rcases consistent.fingerprints _ _ stored with
        ⟨_, _, _, held, named, same⟩
      rcases registration.unique held same with ⟨rfl, rfl, rfl⟩
      exact named
    · rintro rfl
      exact registration.fingerprint_found

end Ownership

def Registered (request : IntakeRequest) (store : Store) : Prop :=
  ∃ record version, Registration store record version request.source ∧
    record.identity = request.operation ∧ version.definition = request.version

def registers (answer : Except Raised IngestionIntakeResult) : Prop :=
  ∃ result, answer = .ok result ∧
    (result.outcome = .created ∨ result.outcome = .newImmutableVersion)

theorem intakeOfNewVersion_registers (operation : IngestionOperationIdentity)
    (version : DocumentVersionDefinition) (source : SourceArtifactReference) (store : Store)
    (created : (intakeOfNewVersion operation version source store).1.outcome = .created ∨
      (intakeOfNewVersion operation version source store).1.outcome = .newImmutableVersion) :
    ∃ document, (intakeOfNewVersion operation version source store).2 =
      registerFacts operation version source document store := by
  unfold intakeOfNewVersion at created ⊢
  by_cases buried : (store.document? version.identity.document).any (·.state = .tombstoned)
  · rw [if_pos buried] at created
    rcases created with impossible | impossible <;> cases impossible
  rw [if_neg buried] at created ⊢
  cases existing : store.version? version.identity with
  | some =>
    rw [existing] at created
    rcases created with impossible | impossible <;> cases impossible
  | none =>
  rw [existing] at created
  by_cases taken : (store.sourceArtifacts.lookup source.sourceArtifactId).isSome
  · rw [if_pos taken] at created
    rcases created with impossible | impossible <;> cases impossible
  rw [if_neg taken]
  exact ⟨_, rfl⟩

theorem registered_of_registers (request : IntakeRequest) (store : Store)
    (created : registers (request.register store).1) :
    Registered request (request.register store).2 := by
  rcases created with ⟨_, answered, outcome⟩
  unfold IntakeRequest.register registerIntake at answered ⊢
  by_cases bound : intakeBindingConflict request.operation request.version request.source
  · rw [if_pos bound] at answered
    cases answered
    rcases outcome with impossible | impossible <;> cases impossible
  rw [if_neg bound] at answered ⊢
  cases found : store.operation? request.operation.operationId with
  | some =>
    rw [found] at answered
    cases answered
    unfold intakeOfKnownOperation at outcome
    dsimp only at outcome
    split at outcome <;> rcases outcome with impossible | impossible <;> cases impossible
  | none =>
  rw [found] at answered
  cases keyed : store.idempotencyOperations.lookup
      (request.operation.tenantId, request.operation.idempotencyKey) with
  | some holder =>
    rw [keyed] at answered
    dsimp only at answered
    cases held : store.operation? holder with
    | none => rw [held] at answered; cases answered
    | some =>
      rw [held] at answered
      cases answered
      rcases outcome with impossible | impossible <;> cases impossible
  | none =>
  rw [keyed] at answered
  cases known : store.documentFingerprints.lookup (request.operation.tenantId,
      request.operation.documentId, fingerprint request.version request.source) with
  | some =>
    rw [known] at answered
    dsimp only at answered
    unfold intakeOfKnownFingerprint at answered
    split at answered
    · cases answered
    · split at answered
      · cases answered
        rcases outcome with impossible | impossible <;> cases impossible
      · cases answered
  | none =>
  rw [known] at answered
  cases answered
  rcases intakeOfNewVersion_registers _ _ _ _ outcome with ⟨document, written⟩
  rw [written]
  exact ⟨_, _, Registration.added bound document, rfl, rfl⟩

theorem registered_kept (request other : IntakeRequest) (store : Store)
    (registered : Registered request store) : Registered request (other.register store).2 := by
  rcases register_cases other store with same | ⟨_, fresh, same⟩
  · rw [same]; exact registered
  · rcases registered with ⟨record, version, registration, identity, definition⟩
    rw [same]
    exact ⟨record, version, registration.kept fresh _, identity, definition⟩

theorem register_registered (request : IntakeRequest) (store : Store)
    (registered : Registered request store) :
    ∃ result, request.register store = (.ok result, store) ∧
      result.outcome = .exactDuplicate ∧ result.durableTransition = false := by
  rcases registered with ⟨record, _, registration, identity, definition⟩
  have bound := registration.bound
  have found := registration.operation_found
  have evidence := registration.evidence_found
  rw [identity, definition] at bound
  rw [identity] at found
  rw [identity, definition] at evidence
  unfold IntakeRequest.register registerIntake
  rw [if_neg bound, found]
  refine ⟨_, rfl, ?_⟩
  have exact : record.identity = request.operation ∧
      store.operationSourceFingerprints.lookup request.operation.operationId =
        some (fingerprint request.version request.source) ∧
      (store.version? record.identity.version).map (·.definition) = some request.version ∧
      store.sourceArtifacts.lookup record.identity.sourceArtifactId = some request.source := by
    refine ⟨identity, evidence, ?_, registration.source_found⟩
    rw [registration.version_found]
    exact congrArg some definition
  unfold intakeOfKnownOperation
  rw [if_pos exact]
  exact ⟨rfl, rfl⟩

variable (requests : List IntakeRequest)

open IntakeRequest in
/-- What intake promises over a run of calls from the empty store. -/
structure IntakeSound : Prop where
  unshared : Unshared (final register {} requests)
  owned : ∀ operationId record,
    (final register {} requests).operation? operationId = some record →
      OwnFacts (final register {} requests) operationId record
  replayed : ∀ front request middle back, requests = front ++ request :: (middle ++ back) →
    registers (request.register (final register {} front)).1 →
      ∃ result, request.register
          (final register {} (front ++ request :: middle)) =
        (.ok result, final register {} (front ++ request :: middle)) ∧
        result.outcome = .exactDuplicate ∧ result.durableTransition = false
  isolated : ∀ e ∈ trace register {} requests,
    ∃ result, e.response = .ok result ∧ result.Within e.call.operation.tenantId

theorem consistent_final : Consistent (final IntakeRequest.register {} requests) := by
  apply kept_final IntakeRequest.register Consistent _ _ _ consistent_empty
  intro e member consistent
  rw [(mem_trace_performed member).2]
  exact register_consistent e.call e.before consistent

theorem consistent_before :
    ∀ e ∈ trace IntakeRequest.register {} requests, Consistent e.before := by
  intro e member
  rcases mem_trace_split IntakeRequest.register _ _ e member with ⟨front, _, _, same⟩
  have before : e.before = final IntakeRequest.register {} front := congrArg Run.Event.before same
  rw [before]
  exact consistent_final front

theorem replayed_run (front : List IntakeRequest) (request : IntakeRequest)
    (middle : List IntakeRequest)
    (created : registers (request.register (final IntakeRequest.register {} front)).1) :
    Registered request (final IntakeRequest.register {} (front ++ request :: middle)) := by
  rw [final_append]
  apply kept_final IntakeRequest.register (Registered request) _ middle _
    (registered_of_registers request _ created)
  intro e member registered
  rw [(mem_trace_performed member).2]
  exact registered_kept request e.call e.before registered

/-- Intake is sound over a run exactly when no call of the run names an operation that
another tenant has registered: identities and replays hold in every run, but the answer to
such a call carries the other tenant's operation. -/
theorem intake_sound_iff (requests : List IntakeRequest) : IntakeSound requests ↔
      ∀ e ∈ trace IntakeRequest.register {} requests, ¬ Crosses e.before e.call := by
  constructor
  · intro sound e member crosses
    rcases sound.isolated e member with ⟨_, answered, within⟩
    rcases crosses_not_within e.call crosses with ⟨_, known, foreign⟩
    have performed := (mem_trace_performed member).1
    rw [performed, known] at answered
    cases answered
    exact foreign within
  · intro home
    constructor
    · exact (consistent_final requests).unshared
    · exact (consistent_final requests).ownFacts
    · intro front request middle back _ created
      exact register_registered request _ (replayed_run front request middle created)
    · intro e member
      have performed := (mem_trace_performed member).1
      rw [performed]
      exact register_within (consistent_before requests e member) e.call (home e member)

/-! Two tenants that choose one operation id. -/

namespace Sample

def reportIntake : IntakeRequest := { operation, version, source }

def otherVersion : DocumentVersionIdentity :=
  { tenantId := "tenant-b", documentId := "memo-7", documentVersionId := "memo-7-v1"
    nonEmpty := by decide }

/-- Another tenant registers its own document under the operation id of `reportIntake`. -/
def collidingIntake : IntakeRequest :=
  { operation :=
      { tenantId := "tenant-b", documentId := "memo-7", documentVersionId := "memo-7-v1"
        sourceArtifactId := operation.sourceArtifactId, operationId := operation.operationId
        idempotencyKey := "idem-ingest-memo-7", nonEmpty := by decide }
    version := { version with identity := otherVersion }
    source := { source with version := otherVersion } }

theorem collision_not_isolated : ¬ IntakeSound [reportIntake, collidingIntake] := by
  intro sound
  rcases sound.isolated _ (List.mem_cons_of_mem _ List.mem_cons_self) with
    ⟨result, answered, within⟩
  have leaked : (collidingIntake.register (reportIntake.register {}).2).1.toOption.bind
      (·.operation) = some (readyOperation operation) := by decide +kernel
  have same : (collidingIntake.register (reportIntake.register {}).2).1 = .ok result := answered
  rw [same] at leaked
  have carried : readyOperation operation ∈ result.operation := leaked
  have foreign := within.operation _ carried
  revert foreign
  decide

end Sample
end BackendHandbook.Ingestion
