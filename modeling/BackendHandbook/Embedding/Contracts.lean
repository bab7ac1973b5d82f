import BackendHandbook.Authorization.Acl
import BackendHandbook.Authorization.Provenance

/-! Embedding identities and value contracts: the contract a tenant selects, the operations and
their attempts, and the immutable records and sets. -/

namespace BackendHandbook.Embedding

open Authorization Chunking Ingestion

inductive DeploymentKind
  | hosted | selfHosted

inductive InputRole
  | document | query

inductive OverflowPolicy
  | reject

inductive NumericType
  | float32
  deriving DecidableEq

inductive NormalizationPolicy
  | unitL2 | none
  deriving DecidableEq

inductive Raised
  | valueError (message : String)
  | keyError | overflowError

structure ModelIdentity where
  (provider modelId immutableRevision : String)
  deployment : DeploymentKind
  nonEmpty : provider ≠ "" ∧ modelId ≠ "" ∧ immutableRevision ≠ ""
  immutable : Text.lower immutableRevision ∉ ["latest", "main", "unknown"]

structure TokenizerIdentity where
  (name version immutableRevision : String)
  nonEmpty : name ≠ "" ∧ version ≠ "" ∧ immutableRevision ≠ ""

structure BatchLimits where
  (maxItems maxTokens maxUtf8Bytes : Nat)
  limits_pos : 0 < maxItems ∧ 0 < maxTokens ∧ 0 < maxUtf8Bytes

structure EgressPolicy where
  allowed : Bool
  (destination retention : String)
  zeroDataRetentionRequired : Bool
  nonEmpty : destination ≠ "" ∧ retention ≠ ""
  stays_local : allowed = false → destination = "local-only"

structure EmbeddingContract where
  contractVersion : String
  model : ModelIdentity
  tokenizer : TokenizerIdentity
  preprocessingVersion : String
  inputRole : InputRole
  inputPrefix : String
  hardMaxTokens : Nat
  overflowPolicy : OverflowPolicy
  dimensions : Nat
  numericType : NumericType
  normalization : NormalizationPolicy
  (apiVersion responseSchemaVersion : String)
  batchLimits : BatchLimits
  egress : EgressPolicy
  zeroVectorAllowed : Bool := false
  normTolerance : ℚ := 1 / 100000
  versions_nonEmpty : contractVersion ≠ "" ∧ preprocessingVersion ≠ "" ∧ apiVersion ≠ "" ∧
    responseSchemaVersion ≠ ""
  limits_pos : 0 < hardMaxTokens ∧ 0 < dimensions
  document_role : inputRole = .document
  egress_approved : model.deployment = .hosted → egress.allowed = true
  zero_vector : ¬ (zeroVectorAllowed = true ∧ normalization = .unitL2)
  tolerance_pos : 0 < normTolerance

@[ext]
structure EmbeddingOperationIdentity where
  (operationId idempotencyKey tenantId principalSubject authorizationDecisionId : String)
  authorizationRevisions : AuthorizationRevisionVector
  (documentId documentVersionId chunkSetId : String)
  authorizedChunkIds : List String
  (selectionRevision documentStateVersion documentFence : Int)
  contractFingerprint : String
  contractSelectionRevision : Nat
  nonEmpty : operationId ≠ "" ∧ idempotencyKey ≠ "" ∧ tenantId ≠ "" ∧ principalSubject ≠ "" ∧
    authorizationDecisionId ≠ "" ∧ documentId ≠ "" ∧ documentVersionId ≠ "" ∧ chunkSetId ≠ "" ∧
    contractFingerprint ≠ ""
  chunks_nonEmpty : authorizedChunkIds ≠ []
  revision_pos : 0 < contractSelectionRevision

instance : DecidableEq EmbeddingOperationIdentity := fun _ _ =>
  decidable_of_iff _ EmbeddingOperationIdentity.ext_iff.symm

@[ext]
structure EmbeddingAttemptIdentity where
  operationId : String
  attemptNumber : Nat
  requestId : String
  generation : Nat
  nonEmpty : operationId ≠ "" ∧ requestId ≠ ""
  attempt_pos : 0 < attemptNumber ∧ 0 < generation

instance : DecidableEq EmbeddingAttemptIdentity := fun _ _ =>
  decidable_of_iff _ EmbeddingAttemptIdentity.ext_iff.symm

structure AuthorizedChunkView where
  (chunkId text contentHash : String)
  sourceSegments : List SourceSegment
  deriving DecidableEq

/-- What the guarded reader hands over for embedding. -/
structure AuthorizedEmbeddingInput where
  (tenantId principalSubject action : String)
  permitExpiresAt : Int
  (documentId documentVersionId chunkSetId : String)
  authorizedChunkIds : List String
  chunks : List AuthorizedChunkView
  authorizationDecisionId : String
  authorizationRevisions : AuthorizationRevisionVector
  (selectionRevision documentStateVersion documentFence : Int)
  exact_action : action = "chunk:read_for_embedding"
  expiry_pos : 0 < permitExpiresAt
  chunks_ordered : chunks.map (·.chunkId) = authorizedChunkIds ∧ authorizedChunkIds ≠ []
  chunks_unique : authorizedChunkIds.Nodup

/-- What the code does with a number of a vector: `math.isfinite`, and `struct.pack("!f", ..)` in
hexadecimal, which overflows on a number too large for its format. -/
structure Floats (F : Type) where
  isFinite : F → Bool
  pack : F → Option String

section Vectors

variable {F : Type}

structure ProviderEmbeddingItem (F : Type) where
  itemId : String
  vector : List F

structure ProviderEmbeddingCandidate (F : Type) where
  items : List (ProviderEmbeddingItem F)

structure ValidatedEmbeddingBatch (F : Type) where
  candidate : ProviderEmbeddingCandidate F

structure EmbeddingRecord (F : Type) where
  (embeddingId embeddingSetId tenantId chunkId : String)
  ordinal : Nat
  contentHash : String
  sourceSegments : List SourceSegment
  contractFingerprint : String
  vector : List F

structure EmbeddingSet (F : Type) where
  embeddingSetId : String
  operation : EmbeddingOperationIdentity
  contract : EmbeddingContract
  records : List (EmbeddingRecord F)
  manifestChecksum : String

structure EmbeddingSelection where
  (tenantId documentId chunkSetId embeddingSetId : String)
  revision : Nat

structure EmbeddingOutboxIntent where
  (eventId tenantId documentId chunkSetId embeddingSetId : String)
  selectionRevision : Nat
  state : String := "PENDING"

/-- The digests of the embedding code, one function for each shape that is hashed. -/
structure EmbeddingHashing where
  contract : EmbeddingContract → String
  resultKey : String × String × String × String × List String × String → String
  manifest : List String × List (List String) × String → String
  embeddingId : String × Nat × String → String
  event : (String × String × String) × Nat × String → String

variable (hashing : EmbeddingHashing) (floats : Floats F)

def EmbeddingContract.fingerprint (contract : EmbeddingContract) : String :=
  stableHash (hashing.contract contract)

def EmbeddingOperationIdentity.stableResultKey (operation : EmbeddingOperationIdentity) : String :=
  stableHash (hashing.resultKey (operation.tenantId, operation.documentId,
    operation.documentVersionId, operation.chunkSetId, operation.authorizedChunkIds,
    operation.contractFingerprint))

def canonicalFloat32Vector (vector : List F) : Except Raised (List String) :=
  vector.mapM fun value =>
    match floats.pack value with
    | some packed => .ok packed
    | none => .error .overflowError

def vectorManifestChecksum (chunkIds : List String) (vectors : List (List F))
    (contractFingerprint : String) : Except Raised String := do
  let canonicalVectors ← vectors.mapM (canonicalFloat32Vector floats)
  .ok (stableHash (hashing.manifest (chunkIds, canonicalVectors, contractFingerprint)))

def EmbeddingRecord.checked (record : EmbeddingRecord F) : Except Raised (EmbeddingRecord F) :=
  if record.vector = [] ∨ record.vector.all floats.isFinite = false then
    .error (.valueError "durable embedding vector must be finite and non-empty")
  else .ok record

/-- The constructor of a set with its checks. -/
def EmbeddingSet.checked (set : EmbeddingSet F) : Except Raised (EmbeddingSet F) :=
  if set.records.map (·.ordinal) ≠ List.range set.records.length then
    .error (.valueError "embedding records must preserve exact Chunk order")
  else if ∃ record ∈ set.records, record.embeddingSetId ≠ set.embeddingSetId ∨
      record.tenantId ≠ set.operation.tenantId ∨
      record.contractFingerprint ≠ set.contract.fingerprint hashing ∨
      record.vector.length ≠ set.contract.dimensions then
    .error (.valueError "EmbeddingSet must be homogeneous")
  else .ok set

end Vectors

end BackendHandbook.Embedding
