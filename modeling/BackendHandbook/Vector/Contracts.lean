import BackendHandbook.Embedding.Contracts

/-! Vector generation contracts: the index contract of a tenant, the retrieval policies it
accepts, build operations and their attempts, and the immutable generations with their evidence. -/

namespace BackendHandbook.Vector

open Authorization Chunking Embedding

inductive IndexAlgorithm
  | flat | hnsw | ivfflat
  deriving DecidableEq

inductive DistanceMetric
  | cosineDistance
  deriving DecidableEq

inductive ThresholdOperator
  | greaterThanOrEqual | greaterThan

inductive EvidenceState
  | pass | fail | notRun | unknown | stale
  deriving DecidableEq

inductive EvidenceGate
  | contentReadback | scoreSemantics | exactParity | tenantFilter | annRecall | latencyCapacity
  | recovery | realProvider
  deriving DecidableEq

inductive GenerationState
  | sealed | productionReady | activated | failed
  deriving DecidableEq

inductive ProductionReadiness
  | moreEvidenceNeeded | productionReady
  deriving DecidableEq

inductive Raised
  | valueError (message : String)
  | keyError
  deriving DecidableEq

@[ext]
structure VectorProviderIdentity where
  (provider apiVersion immutableEngineRevision : String)
  complete : provider ≠ "" ∧ apiVersion ≠ "" ∧ immutableEngineRevision ≠ ""
  immutable : Text.lower immutableEngineRevision ∉ ["latest", "main", "unknown"]

instance : DecidableEq VectorProviderIdentity := fun _ _ =>
  decidable_of_iff _ VectorProviderIdentity.ext_iff.symm

/-- A parameter that is given and positive. -/
def given (parameter : Option Nat) : Prop := 0 < parameter.getD 0
  deriving Decidable

def IndexAlgorithm.takes (m efConstruction lists : Option Nat) : IndexAlgorithm → Prop
  | .flat => m = none ∧ efConstruction = none ∧ lists = none
  | .hnsw => given m ∧ given efConstruction ∧ lists = none
  | .ivfflat => given lists ∧ m = none ∧ efConstruction = none

@[ext]
structure IndexBuildParameters where
  algorithm : IndexAlgorithm
  m : Option Nat := none
  efConstruction : Option Nat := none
  lists : Option Nat := none
  taken : algorithm.takes m efConstruction lists

instance : DecidableEq IndexBuildParameters := fun _ _ =>
  decidable_of_iff _ IndexBuildParameters.ext_iff.symm

@[ext]
structure VectorIndexContract where
  contractVersion : String
  provider : VectorProviderIdentity
  (tenantId embeddingSetId embeddingContractFingerprint : String)
  dimensions : Nat
  numericType : NumericType
  normalization : NormalizationPolicy
  metric : DistanceMetric
  build : IndexBuildParameters
  (namespaceSchemaVersion pointIdentityVersion payloadSchemaVersion quantizationPolicy
   tenantIsolationStrategy : String)
  (batchMaxItems batchMaxBytes : Nat)
  (durabilityExpectation backupPolicyVersion updatePolicyVersion protectedDataPolicy : String)
  bindings : contractVersion ≠ "" ∧ tenantId ≠ "" ∧ embeddingSetId ≠ "" ∧
    embeddingContractFingerprint ≠ "" ∧ namespaceSchemaVersion ≠ "" ∧ pointIdentityVersion ≠ "" ∧
    payloadSchemaVersion ≠ "" ∧ quantizationPolicy ≠ "" ∧ tenantIsolationStrategy ≠ "" ∧
    durabilityExpectation ≠ "" ∧ backupPolicyVersion ≠ "" ∧ updatePolicyVersion ≠ "" ∧
    protectedDataPolicy ≠ ""
  dimensions_pos : 0 < dimensions
  batch_pos : 0 < batchMaxItems ∧ 0 < batchMaxBytes
  unit_vectors : normalization = .unitL2

instance : DecidableEq VectorIndexContract := fun _ _ =>
  decidable_of_iff _ VectorIndexContract.ext_iff.symm

structure RetrievalPolicyRevision where
  (policyVersion generationContractFingerprint : String)
  topK : Nat
  minimumSimilarity : ℚ
  thresholdOperator : ThresholdOperator
  efSearch : Option Nat := none
  probes : Option Nat := none
  bindings : policyVersion ≠ "" ∧ generationContractFingerprint ≠ ""
  limits : 0 < topK ∧ -1 ≤ minimumSimilarity ∧ minimumSimilarity ≤ 1
  search_pos : efSearch ≠ some 0 ∧ probes ≠ some 0

@[ext]
structure VectorBuildOperation where
  (operationId idempotencyKey tenantId documentId documentVersionId chunkSetId embeddingSetId
   : String)
  embeddingSelectionRevision : Nat
  embeddingSetChecksum : String
  embeddingRecordIds : List String
  authorizationDecisionId : String
  authorizationRevisions : AuthorizationRevisionVector
  contractFingerprint : String
  contractSelectionRevision : Nat
  bindings : operationId ≠ "" ∧ idempotencyKey ≠ "" ∧ tenantId ≠ "" ∧ documentId ≠ "" ∧
    documentVersionId ≠ "" ∧ chunkSetId ≠ "" ∧ embeddingSetId ≠ "" ∧ embeddingSetChecksum ≠ "" ∧
    authorizationDecisionId ≠ "" ∧ contractFingerprint ≠ ""
  revisions_pos : 0 < embeddingSelectionRevision ∧ 0 < contractSelectionRevision
  records_unique : embeddingRecordIds ≠ [] ∧ embeddingRecordIds.Nodup

instance : DecidableEq VectorBuildOperation := fun _ _ =>
  decidable_of_iff _ VectorBuildOperation.ext_iff.symm

@[ext]
structure VectorBuildAttempt where
  operationId : String
  attemptNumber : Nat
  requestId : String
  correlated : operationId ≠ "" ∧ requestId ≠ ""
  attempt_pos : 0 < attemptNumber

instance : DecidableEq VectorBuildAttempt := fun _ _ =>
  decidable_of_iff _ VectorBuildAttempt.ext_iff.symm

@[ext]
structure GenerationManifest where
  pointCount : Nat
  (pointIdsDigest vectorDigest payloadDigest embeddingSetId contractFingerprint : String)
  count_pos : 0 < pointCount
  bindings : pointIdsDigest ≠ "" ∧ vectorDigest ≠ "" ∧ payloadDigest ≠ "" ∧ embeddingSetId ≠ "" ∧
    contractFingerprint ≠ ""

instance : DecidableEq GenerationManifest := fun _ _ =>
  decidable_of_iff _ GenerationManifest.ext_iff.symm

structure GateEvidence where
  gate : EvidenceGate
  state : EvidenceState
  (scope safeDetail : String)
  deriving DecidableEq

@[ext]
structure GenerationEvidence where
  gates : List GateEvidence
  unique : (gates.map (·.gate)).Nodup

instance : DecidableEq GenerationEvidence := fun _ _ =>
  decidable_of_iff _ GenerationEvidence.ext_iff.symm

def EvidenceGate.required : List EvidenceGate :=
  [.contentReadback, .scoreSemantics, .exactParity, .tenantFilter, .annRecall, .latencyCapacity,
    .recovery, .realProvider]

theorem EvidenceGate.mem_required (gate : EvidenceGate) : gate ∈ required := by
  cases gate <;> decide

namespace GenerationEvidence

variable (evidence : GenerationEvidence)

def stateFor (gate : EvidenceGate) : EvidenceState :=
  ((evidence.gates.find? (·.gate == gate)).map (·.state)).getD .notRun

def readiness : ProductionReadiness :=
  if EvidenceGate.required.all (fun gate =>
      (evidence.gates.find? (·.gate == gate)).map (·.state) == some .pass) then
    .productionReady
  else .moreEvidenceNeeded

theorem ready_iff :
    evidence.readiness = .productionReady ↔ ∀ gate, evidence.stateFor gate = .pass := by
  have same : ∀ gate, evidence.stateFor gate = .pass ↔
      (evidence.gates.find? (·.gate == gate)).map (·.state) = some .pass := by
    intro gate
    unfold stateFor
    cases (evidence.gates.find? (·.gate == gate)) <;> simp
  unfold readiness
  constructor
  · intro ready gate
    split at ready
    · next passed =>
      rw [same]
      exact beq_iff_eq.mp (List.all_eq_true.mp passed gate gate.mem_required)
    · cases ready
  · intro passed
    rw [if_pos]
    exact List.all_eq_true.mpr fun gate _ => beq_iff_eq.mpr ((same gate).mp (passed gate))

end GenerationEvidence

/-- What an outbox intent is about, as its identity digests it. -/
inductive VectorEvent
  | generationSealed (generationId : String) (manifest : GenerationManifest)
  | bundleSelected (tenantId : String) (revision : Nat)
      (generationId retrievalPolicyFingerprint : String)

/-- The digests of the vector code, one function for each shape that is hashed. -/
structure VectorHashing where
  contract : VectorIndexContract → String
  policy : RetrievalPolicyRevision → String
  resultKey : (String × String × String × String × String) × Nat × String × List String × String ×
    Nat → String
  event : VectorEvent → String

section Fingerprints

variable (hashing : VectorHashing)

def VectorIndexContract.fingerprint (contract : VectorIndexContract) : String :=
  stableHash (hashing.contract contract)

def RetrievalPolicyRevision.fingerprint (policy : RetrievalPolicyRevision) : String :=
  stableHash (hashing.policy policy)

def VectorEvent.eventId (event : VectorEvent) : String := stableHash (hashing.event event)

def VectorBuildOperation.stableResultKey (operation : VectorBuildOperation) : String :=
  stableHash (hashing.resultKey ((operation.tenantId, operation.documentId,
    operation.documentVersionId, operation.chunkSetId, operation.embeddingSetId),
    operation.embeddingSelectionRevision, operation.embeddingSetChecksum,
    operation.embeddingRecordIds, operation.contractFingerprint,
    operation.contractSelectionRevision))

namespace VectorIndexContract

def accepts {F : Type} (embeddingHashing : EmbeddingHashing) (contract : VectorIndexContract)
    (embeddingSet : EmbeddingSet F) : Prop :=
  embeddingSet.embeddingSetId = contract.embeddingSetId ∧
    embeddingSet.operation.tenantId = contract.tenantId ∧
    embeddingSet.contract.fingerprint embeddingHashing = contract.embeddingContractFingerprint ∧
    embeddingSet.contract.dimensions = contract.dimensions ∧
    embeddingSet.contract.numericType = contract.numericType ∧
    embeddingSet.contract.normalization = contract.normalization
  deriving Decidable

def acceptsPolicy (contract : VectorIndexContract) (policy : RetrievalPolicyRevision) : Bool :=
  if policy.generationContractFingerprint ≠ contract.fingerprint hashing then false
  else
    match contract.build.algorithm with
    | .flat => policy.efSearch.isNone && policy.probes.isNone
    | .hnsw => policy.efSearch.isSome && policy.probes.isNone
    | .ivfflat => policy.probes.isSome && policy.efSearch.isNone

end VectorIndexContract

structure VectorGeneration where
  generationId : String
  operation : VectorBuildOperation
  contract : VectorIndexContract
  manifest : GenerationManifest
  providerCheckpoint : String
  evidence : GenerationEvidence
  state : GenerationState
  contract_bound : manifest.contractFingerprint = contract.fingerprint hashing
  embeddingSet_bound : manifest.embeddingSetId = contract.embeddingSetId
  serving_ready : state ∈ [.productionReady, .activated] → evidence.readiness = .productionReady

end Fingerprints

structure SelectedVectorBundle where
  (tenantId generationId generationContractFingerprint retrievalPolicyFingerprint : String)
  revision : Nat

inductive VectorEventType
  | generationSealed | bundleSelected

structure VectorOutboxIntent where
  eventId : String
  eventType : VectorEventType
  (tenantId generationId : String)
  revision : Nat
  state : String := "PENDING"

end BackendHandbook.Vector
