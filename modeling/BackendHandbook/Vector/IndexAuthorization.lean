import BackendHandbook.Embedding.Committer
import BackendHandbook.Vector.Contracts

/-! The authorization of one index build: the signed input, and the guard that rereads every
current fact it was bound to. -/

namespace BackendHandbook.Vector

open Authorization Chunking Embedding Ingestion

def indexBuildAction : String := "embedding_set:read_for_indexing"

def indexBuildAudience : String := "vector-index-builder"

def indexBuildPurpose : String := "day99-vector-index-build"

structure AuthorizedIndexBuildInput where
  permit : SignedPermit
  (tenantId principalSubject action audience purpose : String)
  permitExpiresAt : Int
  authorizationDecisionId : String
  authorizationRevisions : AuthorizationRevisionVector
  (documentId documentVersionId chunkSetId : String)
  chunkIds : List String
  chunkSelectionRevision : Nat
  (documentStateVersion documentFence : Int)
  (embeddingSetId embeddingSetChecksum : String)
  embeddingRecordIds : List String
  embeddingContractFingerprint : String
  embeddingSelectionRevision : Nat
  vectorContractFingerprint : String
  vectorContractSelectionRevision : Nat
  protectedDataClassification : String
  exact_context : action = indexBuildAction ∧ audience = indexBuildAudience ∧
    purpose = indexBuildPurpose
  expiry_pos : 0 < permitExpiresAt
  chunks_unique : chunkIds ≠ [] ∧ chunkIds.Nodup
  records_unique : embeddingRecordIds ≠ [] ∧ embeddingRecordIds.Nodup
  revisions_pos : 0 < embeddingSelectionRevision ∧ 0 < chunkSelectionRevision ∧
    0 < vectorContractSelectionRevision
  classified : protectedDataClassification ≠ ""

/-- The current state around the control plane that the guard and the commit reread. -/
structure Surroundings (F : Type) where
  authorization : InMemoryAuthorizationStateStore
  day95 : Ingestion.Store
  chunkStore : InMemoryChunkSetStore
  embeddings : InMemoryEmbeddingStore F
  readContractSelection : String → Option (String × Nat)
  now : Int

section Readers

variable {F : Type}
variable (embeddings : InMemoryEmbeddingStore F)

def readSelection (tenantId documentId chunkSetId : String) : Option EmbeddingSelection :=
  embeddings.selections.lookup (tenantId, documentId, chunkSetId)

def readSet (embeddingSetId : String) : Option (EmbeddingSet F) :=
  embeddings.sets.lookup embeddingSetId

end Readers

namespace IndexBuildAuthorizationGuard

def contextMatches (claims : PermitClaims) (handoff : AuthorizedIndexBuildInput) : Prop :=
  claims.subject = handoff.principalSubject ∧ claims.decisionId = handoff.authorizationDecisionId ∧
    claims.action = indexBuildAction ∧
    claims.audience = indexBuildAudience ∧
    claims.purpose = indexBuildPurpose ∧
    claims.tenantId = handoff.tenantId ∧
    claims.documentId = handoff.documentId ∧
    claims.documentVersionId = handoff.documentVersionId ∧
    claims.chunkSetId = handoff.chunkSetId ∧
    claims.chunkIds = handoff.chunkIds ∧
    claims.expiresAt = handoff.permitExpiresAt ∧
    claims.revisions = handoff.authorizationRevisions ∧
    claims.selectionRevision = handoff.chunkSelectionRevision ∧
    claims.documentStateVersion = handoff.documentStateVersion ∧
    claims.documentFence = handoff.documentFence
  deriving Decidable

/-- The entries of the policy that apply to the resource allow the build, and none denies it. -/
def grantAllowed (policy : AuthorizationPolicySnapshot) (handoff : AuthorizedIndexBuildInput)
    (resource : ResourceRef) : Bool :=
  let entries := policy.entries.filter fun entry =>
    entry.principalSubject == handoff.principalSubject && entry.action == indexBuildAction &&
      entry.resource.isAncestorOf resource
  policy.supportedActions.contains indexBuildAction &&
    !entries.any (·.effect == .deny) && entries.any (·.effect == .allow)

/-- What refuses the principal of the build, as the current membership and policy have it. -/
def principalError (surroundings : InMemoryAuthorizationStateStore)
    (handoff : AuthorizedIndexBuildInput) : Except Raised (Option String) :=
  match surroundings.readMembership handoff.tenantId handoff.principalSubject,
      surroundings.readPolicy handoff.tenantId handoff.documentId with
  | .ok (some membership), .ok (some policy) =>
    if membership.active = false ∨ membership.principalKind ≠ .service then
      .ok (some "INDEX_BUILD_PRINCIPAL_NOT_ACTIVE")
    else if AuthorizationRevisionVector.current policy membership ≠
        handoff.authorizationRevisions then
      .ok (some "INDEX_BUILD_AUTHORIZATION_REVISIONS_CHANGED")
    else
      match ResourceRef.chunkSet handoff.tenantId handoff.documentId handoff.documentVersionId
          handoff.chunkSetId with
      | .error _ => .error (.valueError "resource requires tenant identity")
      | .ok resource =>
        if grantAllowed policy handoff resource = false then
          .ok (some "CURRENT_EXACT_INDEX_BUILD_GRANT_NOT_ALLOWED")
        else .ok none
  | .ok _, .ok _ => .ok (some "INDEX_BUILD_PRINCIPAL_NOT_ACTIVE")
  | _, _ => .ok (some "INDEX_BUILD_AUTHORIZATION_UNAVAILABLE")

def bindingMatches (binding : CurrentRAGBinding) (handoff : AuthorizedIndexBuildInput) : Prop :=
  binding.version.documentVersionId = handoff.documentVersionId ∧
    binding.chunkSetId = handoff.chunkSetId ∧
    binding.chunkIds = handoff.chunkIds ∧
    binding.selectionRevision = handoff.chunkSelectionRevision ∧
    (binding.documentStateVersion : Int) = handoff.documentStateVersion ∧
    (binding.documentFence : Int) = handoff.documentFence
  deriving Decidable

section Check

variable {F : Type} (issuer : PermitIssuer) (hashing : VectorHashing)
  (embeddingHashing : EmbeddingHashing) (chunkHashing : Hashing)

def provenanceError (surroundings : Surroundings F) (handoff : AuthorizedIndexBuildInput) :
    Except Raised (Option String) :=
  if named : Text.requireNonEmpty [handoff.tenantId, handoff.documentId] = true then
    match CurrentRAGProvenanceValidator.evaluate chunkHashing surroundings.day95
        surroundings.chunkStore ⟨handoff.tenantId, handoff.documentId, named⟩
        (some handoff.chunkSetId) with
    | .error (.valueError message) => .error (.valueError message)
    | .ok current =>
      match current.binding with
      | none => .ok (some "CURRENT_INDEX_BUILD_PROVENANCE_INVALID")
      | some binding =>
        if current.outcome ≠ .valid then .ok (some "CURRENT_INDEX_BUILD_PROVENANCE_INVALID")
        else if ¬ bindingMatches binding handoff then
          .ok (some "CURRENT_INDEX_BUILD_PROVENANCE_CHANGED")
        else .ok none
  else .error (.valueError "identity and contract values must not be empty")

def embeddingSetMatches (embeddingSet : EmbeddingSet F) (handoff : AuthorizedIndexBuildInput)
    (contract : VectorIndexContract) : Prop :=
  embeddingSet.manifestChecksum = handoff.embeddingSetChecksum ∧
    embeddingSet.records.map (·.embeddingId) = handoff.embeddingRecordIds ∧
    embeddingSet.contract.fingerprint embeddingHashing = handoff.embeddingContractFingerprint ∧
    contract.accepts embeddingHashing embeddingSet
  deriving Decidable

variable (surroundings : Surroundings F) (handoff : AuthorizedIndexBuildInput)
  (contract : VectorIndexContract)

/-- What refuses the build, as the selected embedding set and the selected contract have it. -/
def selectionError : Option String :=
  match readSelection surroundings.embeddings handoff.tenantId handoff.documentId
      handoff.chunkSetId, readSet surroundings.embeddings handoff.embeddingSetId with
  | some selection, some embeddingSet =>
    if selection.embeddingSetId ≠ handoff.embeddingSetId ∨
        selection.revision ≠ handoff.embeddingSelectionRevision ∨
        ¬ embeddingSetMatches embeddingHashing embeddingSet handoff contract then
      some "CURRENT_INDEX_BUILD_EMBEDDING_SET_CHANGED"
    else if surroundings.readContractSelection handoff.tenantId ≠
          some (handoff.vectorContractFingerprint, handoff.vectorContractSelectionRevision) ∨
        contract.fingerprint hashing ≠ handoff.vectorContractFingerprint then
      some "CURRENT_VECTOR_INDEX_CONTRACT_CHANGED"
    else none
  | _, _ => some "CURRENT_INDEX_BUILD_EMBEDDING_SET_CHANGED"

/-- The first fact that is no longer as the permit bound it, if there is one. -/
def check : Except Raised (Option String) :=
  if issuer.verifySignature handoff.permit = false then
    .ok (some "INDEX_BUILD_PERMIT_SIGNATURE_INVALID")
  else if ¬ contextMatches handoff.permit.claims handoff then
    .ok (some "INDEX_BUILD_PERMIT_CONTEXT_CHANGED")
  else if handoff.permit.claims.expiresAt ≤ surroundings.now then
    .ok (some "INDEX_BUILD_PERMIT_EXPIRED")
  else do
    let principal ← principalError surroundings.authorization handoff
    match principal with
    | some reason => .ok (some reason)
    | none => do
        let provenance ← provenanceError chunkHashing surroundings handoff
        match provenance with
        | some reason => .ok (some reason)
        | none => .ok (selectionError hashing embeddingHashing surroundings handoff contract)

end Check

end IndexBuildAuthorizationGuard

end BackendHandbook.Vector
