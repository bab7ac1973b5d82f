import BackendHandbook.Authorization.Provenance
import Mathlib.Data.Finset.Basic

/-! The contracts of metadata projection: operations, attempts, assertions, and the snapshots they
become. -/

namespace BackendHandbook.Metadata

open Ingestion Chunking

inductive MetadataOrigin
  | system | derived | parser | sourceDeclared
  deriving DecidableEq

def MetadataOrigin.value : MetadataOrigin → String
  | .system => "SYSTEM"
  | .derived => "DERIVED"
  | .parser => "PARSER"
  | .sourceDeclared => "SOURCE_DECLARED"

inductive MetadataSensitivity
  | public_ | internal | protected_

inductive MetadataValueType
  | string | integer | boolean | stringList

inductive MetadataValue
  | str (value : String)
  | int (value : Int)
  | bool (value : Bool)
  | strings (values : List String)
  deriving DecidableEq

/-- A value as `==` sees it: a truth value is the number that it equals. -/
def MetadataValue.comparand : MetadataValue → MetadataValue
  | .bool value => .int value.toNat
  | value => value

structure MetadataFieldDefinition where
  (fieldNamespace name : String)
  valueType : MetadataValueType
  allowedOrigins : Finset MetadataOrigin
  sensitivity : MetadataSensitivity
  filterable : Bool := false
  complete : fieldNamespace ≠ "" ∧ name ≠ "" ∧ allowedOrigins ≠ ∅
  no_filter : filterable = true → sensitivity ≠ .protected_

def MetadataFieldDefinition.qualifiedName (field : MetadataFieldDefinition) : String :=
  field.fieldNamespace ++ "." ++ field.name

structure MetadataContract where
  version : String
  fields : List MetadataFieldDefinition
  complete : version ≠ "" ∧ fields ≠ []
  unique : (fields.map (·.qualifiedName)).Nodup

structure MetadataAssertion where
  qualifiedName : String
  value : MetadataValue
  origin : MetadataOrigin
  originReference : String
  complete : qualifiedName ≠ "" ∧ originReference ≠ ""

@[ext]
structure MetadataProjectionOperation where
  version : DocumentVersionIdentity
  (chunkSetId operationId idempotencyKey contractFingerprint : String)
  (expectedSelectionRevision expectedDocumentStateVersion expectedDocumentFence : Nat)
  expectedSnapshotId : Option String := none
  expectedSnapshotRevision : Nat := 0
  nonEmpty : chunkSetId ≠ "" ∧ operationId ≠ "" ∧ idempotencyKey ≠ "" ∧ contractFingerprint ≠ ""
  baseline : expectedSnapshotId = none ↔ expectedSnapshotRevision = 0

instance : DecidableEq MetadataProjectionOperation := fun _ _ =>
  decidable_of_iff _ MetadataProjectionOperation.ext_iff.symm

@[ext]
structure MetadataProjectionAttempt where
  operationId : String
  attemptNumber : Nat
  requestId : String
  generation : Nat
  nonEmpty : operationId ≠ "" ∧ requestId ≠ ""
  attempt_pos : 0 < attemptNumber ∧ 0 < generation

instance : DecidableEq MetadataProjectionAttempt := fun _ _ =>
  decidable_of_iff _ MetadataProjectionAttempt.ext_iff.symm

structure MetadataProjectionCandidate where
  operation : MetadataProjectionOperation
  attempt : MetadataProjectionAttempt
  assertions : List MetadataAssertion

structure MetadataSnapshot where
  snapshotId : String
  version : DocumentVersionIdentity
  (chunkSetId contractVersion contractFingerprint : String)
  assertions : List MetadataAssertion
  createdByOperationId : String
  (selectionRevision documentStateVersion documentFence : Nat)
  nonEmpty : snapshotId ≠ "" ∧ chunkSetId ≠ "" ∧ contractVersion ≠ "" ∧
    contractFingerprint ≠ "" ∧ createdByOperationId ≠ ""

structure MetadataSnapshotPointer where
  (tenantId documentId documentVersionId chunkSetId snapshotId : String)
  revision : Nat

abbrev PointerKey := String × String × String × String

abbrev AssertionMaterial := String × MetadataValue × String × String

/-- The digests of the identities that the writer gives out, one for each shape. -/
structure MetadataHashing where
  contract : MetadataContract → String
  resultKey : String × String × String × String × String × String → String
  snapshot : String × List AssertionMaterial → String
  event : PointerKey × Nat × String → String

section Identities

variable (identities : MetadataHashing)

def MetadataContract.fingerprint (contract : MetadataContract) : String :=
  stableHash (identities.contract contract)

def resultKeyOf (version : DocumentVersionIdentity) (chunkSetId operationId fingerprint : String) :
    String :=
  stableHash (identities.resultKey (version.tenantId, version.documentId,
    version.documentVersionId, chunkSetId, operationId, fingerprint))

def MetadataProjectionOperation.stableResultKey (operation : MetadataProjectionOperation) :
    String :=
  resultKeyOf identities operation.version operation.chunkSetId operation.operationId
    operation.contractFingerprint

def materialOf (assertions : List MetadataAssertion) : List AssertionMaterial :=
  assertions.map fun item =>
    (item.qualifiedName, item.value, item.origin.value, item.originReference)

variable (resultKey : String) (assertions : List MetadataAssertion)

def snapshotIdOf : String :=
  "metadata:" ++ Text.removeprefix "sha256:"
    (stableHash (identities.snapshot (resultKey, materialOf assertions)))

theorem snapshotIdOf_nonEmpty : snapshotIdOf identities resultKey assertions ≠ "" := by
  intro empty
  have texts := congrArg String.toList empty
  rw [snapshotIdOf] at texts
  simp at texts

variable {identities}

theorem resultKey_of_snapshotId (injective : Function.Injective identities.snapshot)
    {first second : String} {assertions others : List MetadataAssertion}
    (same : snapshotIdOf identities first assertions = snapshotIdOf identities second others) :
    first = second := by
  have texts := congrArg String.toList same
  simp only [snapshotIdOf, removeprefix_stableHash, String.toList_append] at texts
  have digests := injective (String.toList_injective (List.append_cancel_left texts))
  exact congrArg Prod.fst digests

end Identities

/-! The writer of metadata snapshots, over the six maps of its store and whatever the lifecycle and
the chunk sets are at each call. -/

open Authorization

inductive MetadataCommitOutcome
  | committed | alreadyCommitted | notReady | identityConflict | staleAttempt | staleInput
  | stalePointer

inductive MetadataRefreshOutcome
  | applied | duplicate | stale | notFound

structure MetadataProjectionClaim where
  operation : MetadataProjectionOperation
  attempt : MetadataProjectionAttempt
  (revision fence : Nat)

structure MetadataRefreshOutboxIntent where
  (eventId tenantId documentId documentVersionId chunkSetId snapshotId : String)
  snapshotRevision : Nat
  state : String := "PENDING"

structure MetadataCommitResult where
  outcome : MetadataCommitOutcome
  safeReason : String
  snapshot : Option MetadataSnapshot := none
  pointer : Option MetadataSnapshotPointer := none
  durableTransition : Bool := false

structure InMemoryMetadataStore where
  operations : Dict String MetadataProjectionOperation := ∅
  idempotency : Dict (String × String) String := ∅
  claims : Dict String MetadataProjectionClaim := ∅
  snapshots : Dict String MetadataSnapshot := ∅
  resultKeys : Dict String String := ∅
  pointers : Dict PointerKey MetadataSnapshotPointer := ∅
  outbox : Dict String MetadataRefreshOutboxIntent := ∅
  appliedEvents : Finset String := ∅

inductive MetadataValidationOutcome
  | readyForCommit | correlationConflict | contractConflict | unknownField | authorityFieldRejected
  | originRejected | typeRejected | duplicateFieldConflict

/-- A decision carries a candidate just when it is ready. -/
structure MetadataValidationDecision where
  outcome : MetadataValidationOutcome
  safeReason : String
  candidate : Option MetadataProjectionCandidate := none
  ready_iff : outcome = .readyForCommit ↔ candidate.isSome = true

/-- What a call of the writer raises: a lookup without an entry, or what the provenance raises. -/
inductive MetadataRaised
  | keyError
  | provenance (raised : ProvenanceRaised)

def pointerKey (operation : MetadataProjectionOperation) : PointerKey :=
  (operation.version.tenantId, operation.version.documentId, operation.version.documentVersionId,
    operation.chunkSetId)

def MetadataSnapshotPointer.key (pointer : MetadataSnapshotPointer) : PointerKey :=
  (pointer.tenantId, pointer.documentId, pointer.documentVersionId, pointer.chunkSetId)

def MetadataRefreshOutboxIntent.key (intent : MetadataRefreshOutboxIntent) : PointerKey :=
  (intent.tenantId, intent.documentId, intent.documentVersionId, intent.chunkSetId)

namespace InMemoryMetadataStore

def Current (store : InMemoryMetadataStore) (intent : MetadataRefreshOutboxIntent) : Prop :=
  ∃ pointer ∈ store.pointers.lookup intent.key, pointer.snapshotId = intent.snapshotId ∧
    pointer.revision = intent.snapshotRevision

instance (store : InMemoryMetadataStore) (intent : MetadataRefreshOutboxIntent) :
    Decidable (store.Current intent) :=
  inferInstanceAs (Decidable (∃ pointer ∈ store.pointers.lookup intent.key, _))

def applyRefresh (eventId : String) (store : InMemoryMetadataStore) :
    MetadataRefreshOutcome × InMemoryMetadataStore :=
  match store.outbox.lookup eventId with
  | none => (.notFound, store)
  | some intent =>
    if eventId ∈ store.appliedEvents then (.duplicate, store)
    else if ¬ store.Current intent then (.stale, store)
    else
      (.applied, { store with
        appliedEvents := insert eventId store.appliedEvents
        outbox := store.outbox.insert eventId { intent with state := "DISPATCHED" } })

end InMemoryMetadataStore

namespace MetadataCommitter

def operationMatchesCurrent (operation : MetadataProjectionOperation)
    (provenance : ProvenanceDecision) : Prop :=
  provenance.outcome = .valid ∧ ∃ binding ∈ provenance.binding,
    binding.version = operation.version ∧ binding.chunkSetId = operation.chunkSetId ∧
    binding.selectionRevision = operation.expectedSelectionRevision ∧
    binding.documentStateVersion = operation.expectedDocumentStateVersion ∧
    binding.documentFence = operation.expectedDocumentFence

instance (operation : MetadataProjectionOperation) (provenance : ProvenanceDecision) :
    Decidable (operationMatchesCurrent operation provenance) :=
  inferInstanceAs (Decidable (_ ∧ ∃ binding ∈ provenance.binding, _))

def attemptAdmissible (previous : Option MetadataProjectionClaim)
    (attempt : MetadataProjectionAttempt) : Prop :=
  match previous with
  | none => attempt.attemptNumber = 1 ∧ attempt.generation = 1
  | some claim => attempt.attemptNumber = claim.attempt.attemptNumber + 1 ∧
      attempt.generation = claim.attempt.generation + 1 ∧
      attempt.requestId ≠ claim.attempt.requestId

instance (previous : Option MetadataProjectionClaim) (attempt : MetadataProjectionAttempt) :
    Decidable (attemptAdmissible previous attempt) := by
  cases previous with
  | none => exact inferInstanceAs (Decidable (_ ∧ _))
  | some => exact inferInstanceAs (Decidable (_ ∧ _ ∧ _))

variable (operation : MetadataProjectionOperation)

def nextClaim (attempt : MetadataProjectionAttempt)
    (previous : Option MetadataProjectionClaim) : MetadataProjectionClaim :=
  { operation, attempt, revision := (previous.map (·.revision)).getD 0 + 1
    fence := (previous.map (·.fence)).getD 0 + 1 }

def idempotencyKeyOf : String × String := (operation.version.tenantId, operation.idempotencyKey)

def claimLocked (attempt : MetadataProjectionAttempt) (store : InMemoryMetadataStore) :
    Option MetadataProjectionClaim × InMemoryMetadataStore :=
  let existing := store.operations.lookup operation.operationId
  let priorOperation := store.idempotency.lookup (idempotencyKeyOf operation)
  let previous := store.claims.lookup operation.operationId
  if existing ≠ none ∧ existing ≠ some operation then (none, store)
  else if priorOperation ≠ none ∧ priorOperation ≠ some operation.operationId then (none, store)
  else if previous ≠ none ∧ previous.map (·.attempt) = some attempt then (previous, store)
  else if ¬ attemptAdmissible previous attempt then (none, store)
  else
    (some (nextClaim operation attempt previous), { store with
      operations := store.operations.insert operation.operationId operation
      idempotency := store.idempotency.insert (idempotencyKeyOf operation) operation.operationId
      claims := store.claims.insert operation.operationId (nextClaim operation attempt previous) })

section Writer

variable (hashing : Hashing) (identities : MetadataHashing)

def claim (day95 : Ingestion.Store) (chunks : InMemoryChunkSetStore)
    (operation : MetadataProjectionOperation) (attempt : MetadataProjectionAttempt)
    (store : InMemoryMetadataStore) :
    Except MetadataRaised (Option MetadataProjectionClaim) × InMemoryMetadataStore :=
  if attempt.operationId ≠ operation.operationId then (.ok none, store)
  else
    match CurrentRAGProvenanceValidator.evaluate hashing day95 chunks operation.version.document
        (some operation.chunkSetId) with
    | .error raised => (.error (.provenance raised), store)
    | .ok provenance =>
      if ¬ operationMatchesCurrent operation provenance then (.ok none, store)
      else ((.ok (claimLocked operation attempt store).1), (claimLocked operation attempt store).2)

def refused (outcome : MetadataCommitOutcome) (safeReason : String) : MetadataCommitResult :=
  { outcome, safeReason }

/-- The checks of a candidate before its result key is looked at: what refuses it, if anything. -/
def refusal (day95 : Ingestion.Store) (chunks : InMemoryChunkSetStore) (contract : MetadataContract)
    (candidate : MetadataProjectionCandidate) (store : InMemoryMetadataStore) :
    Except MetadataRaised (Option MetadataCommitResult) :=
  let operation := candidate.operation
  if (store.claims.lookup operation.operationId).map (·.attempt) ≠ some candidate.attempt then
    .ok (some (refused .staleAttempt "METADATA_ATTEMPT_GENERATION_STALE"))
  else if operation.contractFingerprint ≠ contract.fingerprint identities then
    .ok (some (refused .identityConflict "METADATA_CONTRACT_IDENTITY_CONFLICT"))
  else
    match CurrentRAGProvenanceValidator.evaluate hashing day95 chunks operation.version.document
        (some operation.chunkSetId) with
    | .error raised => .error (.provenance raised)
    | .ok provenance =>
      if ¬ operationMatchesCurrent operation provenance then
        .ok (some (refused .staleInput "DAY95_OR_DAY96_CURRENT_INPUT_CHANGED"))
      else .ok none

/-- Assertions as `==` compares them. -/
def comparands (assertions : List MetadataAssertion) :
    List (String × MetadataValue × MetadataOrigin × String) :=
  assertions.map fun item =>
    (item.qualifiedName, item.value.comparand, item.origin, item.originReference)

/-- The answer to a candidate whose result key is bound already. -/
def replay (existingId : String) (contract : MetadataContract)
    (candidate : MetadataProjectionCandidate) (store : InMemoryMetadataStore) :
    Except MetadataRaised MetadataCommitResult :=
  match store.snapshots.lookup existingId with
  | none => .error .keyError
  | some existing =>
    if comparands existing.assertions ≠ comparands candidate.assertions ∨
        existing.contractFingerprint ≠ contract.fingerprint identities then
      .ok (refused .identityConflict "SAME_METADATA_OPERATION_HAS_DIFFERENT_RESULT")
    else
      match store.pointers.lookup (pointerKey candidate.operation) with
      | none => .error .keyError
      | some pointer => .ok
          { outcome := .alreadyCommitted
            safeReason := "EXACT_METADATA_SNAPSHOT_ALREADY_COMMITTED", snapshot := some existing
            pointer := some pointer }

/-- The snapshot that a candidate becomes. -/
def snapshotOf (contract : MetadataContract) (candidate : MetadataProjectionCandidate) :
    MetadataSnapshot :=
  let operation := candidate.operation
  { snapshotId :=
      snapshotIdOf identities (operation.stableResultKey identities) candidate.assertions
    version := operation.version, chunkSetId := operation.chunkSetId
    contractVersion := contract.version, contractFingerprint := contract.fingerprint identities
    assertions := candidate.assertions, createdByOperationId := operation.operationId
    selectionRevision := operation.expectedSelectionRevision
    documentStateVersion := operation.expectedDocumentStateVersion
    documentFence := operation.expectedDocumentFence
    nonEmpty := ⟨snapshotIdOf_nonEmpty _ _ _, operation.nonEmpty.1, contract.complete.1,
      stableHash_ne_empty _, operation.nonEmpty.2.1⟩ }

def pointerOf (operation : MetadataProjectionOperation) (snapshotId : String) (revision : Nat) :
    MetadataSnapshotPointer :=
  { tenantId := operation.version.tenantId, documentId := operation.version.documentId
    documentVersionId := operation.version.documentVersionId, chunkSetId := operation.chunkSetId
    snapshotId
    revision }

def refreshEventId (key : PointerKey) (revision : Nat) (snapshotId : String) : String :=
  stableHash (identities.event (key, revision, snapshotId))

def intentOf (key : PointerKey) (pointer : MetadataSnapshotPointer) : MetadataRefreshOutboxIntent :=
  { eventId := refreshEventId identities key pointer.revision pointer.snapshotId
    tenantId := pointer.tenantId, documentId := pointer.documentId
    documentVersionId := pointer.documentVersionId, chunkSetId := pointer.chunkSetId
    snapshotId := pointer.snapshotId, snapshotRevision := pointer.revision }

/-- The four writes of a commit. -/
def write (snapshot : MetadataSnapshot) (pointer : MetadataSnapshotPointer)
    (operation : MetadataProjectionOperation) (store : InMemoryMetadataStore) :
    InMemoryMetadataStore :=
  { store with
    snapshots := store.snapshots.insert snapshot.snapshotId snapshot
    resultKeys := store.resultKeys.insert (operation.stableResultKey identities) snapshot.snapshotId
    pointers := store.pointers.insert (pointerKey operation) pointer
    outbox := store.outbox.insert
      (refreshEventId identities (pointerKey operation) pointer.revision pointer.snapshotId)
      (intentOf identities (pointerKey operation) pointer) }

/-- The commit of a candidate that no check refuses: the pointer moves on from its baseline. -/
def commit (contract : MetadataContract) (candidate : MetadataProjectionCandidate)
    (store : InMemoryMetadataStore) :
    Except MetadataRaised MetadataCommitResult × InMemoryMetadataStore :=
  let operation := candidate.operation
  match store.resultKeys.lookup (operation.stableResultKey identities) with
  | some existingId => (replay identities existingId contract candidate store, store)
  | none =>
    let previous := store.pointers.lookup (pointerKey operation)
    let actualId := previous.map (·.snapshotId)
    let actualRevision := (previous.map (·.revision)).getD 0
    if actualId ≠ operation.expectedSnapshotId ∨
        actualRevision ≠ operation.expectedSnapshotRevision then
      (.ok { refused .stalePointer "METADATA_SNAPSHOT_BASELINE_CHANGED" with pointer := previous },
        store)
    else
      let snapshot := snapshotOf identities contract candidate
      let pointer := pointerOf operation snapshot.snapshotId (actualRevision + 1)
      (.ok
        { outcome := .committed
          safeReason := "IMMUTABLE_METADATA_SNAPSHOT_COMMITTED", snapshot := some snapshot
          pointer := some pointer
          durableTransition := true },
        write identities snapshot pointer operation store)

def persist (day95 : Ingestion.Store) (chunks : InMemoryChunkSetStore)
    (decision : MetadataValidationDecision) (contract : MetadataContract)
    (store : InMemoryMetadataStore) :
    Except MetadataRaised MetadataCommitResult × InMemoryMetadataStore :=
  match decision.candidate with
  | none => (.ok (refused .notReady "METADATA_CANDIDATE_NOT_READY"), store)
  | some candidate =>
    match refusal hashing identities day95 chunks contract candidate store with
    | .error raised => (.error raised, store)
    | .ok (some result) => (.ok result, store)
    | .ok none => commit identities contract candidate store

end Writer

end MetadataCommitter

end BackendHandbook.Metadata
