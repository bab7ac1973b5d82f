import BackendHandbook.Vector.IndexAuthorization

/-! The sole writer of vector generations: claims, the sealing of a generation under its result
key, and the activation of a generation as the bundle of its tenant. -/

namespace BackendHandbook.Vector

open Authorization Chunking Embedding

inductive VectorCommitOutcome
  | sealed | alreadySealed | identityConflict | notReady | staleAttempt | staleEmbeddingSelection
  | staleAuthorization | staleContract
  deriving DecidableEq

inductive ActivationOutcome
  | activated | alreadyActivated | notReady | staleSelection | staleFence | notFound

inductive VectorOutboxHintOutcome
  | current | stale | notFound

structure VectorBuildClaim where
  operation : VectorBuildOperation
  attempt : VectorBuildAttempt
  (revision fence : Nat)
  deriving DecidableEq

section Records

variable (hashing : VectorHashing)

structure VectorCommitResult where
  outcome : VectorCommitOutcome
  safeReason : String
  generation : Option (VectorGeneration hashing) := none
  durableTransition : Bool := false

structure ActivationResult where
  outcome : ActivationOutcome
  safeReason : String
  selectedBundle : Option SelectedVectorBundle := none
  durableTransition : Bool := false

structure InMemoryVectorControlPlane where
  operations : Dict String VectorBuildOperation := ∅
  idempotency : Dict (String × String) String := ∅
  claims : Dict String VectorBuildClaim := ∅
  resultFences : Dict String Nat := ∅
  unknownOperations : List String := []
  generations : Dict String (VectorGeneration hashing) := ∅
  resultKeys : Dict String String := ∅
  selected : Dict String SelectedVectorBundle := ∅
  activationFences : Dict String Int := ∅
  outbox : Dict String VectorOutboxIntent := ∅

end Records

variable {hashing : VectorHashing}

namespace InMemoryVectorControlPlane

def markOutboxDispatched (eventId : String) (store : InMemoryVectorControlPlane hashing) :
    Bool × InMemoryVectorControlPlane hashing :=
  match store.outbox.lookup eventId with
  | none => (false, store)
  | some current =>
    (true, { store with
      outbox := store.outbox.insert eventId { current with state := "DISPATCHED" } })

def classifyOutboxHint (store : InMemoryVectorControlPlane hashing) (eventId : String) :
    VectorOutboxHintOutcome :=
  match store.outbox.lookup eventId with
  | none => .notFound
  | some intent =>
    match intent.eventType with
    | .generationSealed =>
      if (store.generations.lookup intent.generationId).isSome then .current else .stale
    | .bundleSelected =>
      match store.selected.lookup intent.tenantId with
      | none => .stale
      | some current =>
        if current.generationId = intent.generationId ∧ current.revision = intent.revision
        then .current
        else .stale

end InMemoryVectorControlPlane

namespace VectorGenerationCommitter

def attemptAdmissible (previous : Option VectorBuildClaim) (attempt : VectorBuildAttempt) : Bool :=
  match previous with
  | none => attempt.attemptNumber == 1
  | some claim => attempt.attemptNumber == claim.attempt.attemptNumber + 1 &&
      attempt.requestId != claim.attempt.requestId

def claim (operation : VectorBuildOperation) (attempt : VectorBuildAttempt)
    (store : InMemoryVectorControlPlane hashing) :
    Option VectorBuildClaim × InMemoryVectorControlPlane hashing :=
  let previousOperation := store.operations.lookup operation.operationId
  let idemKey := (operation.tenantId, operation.idempotencyKey)
  let priorId := store.idempotency.lookup idemKey
  let previous := store.claims.lookup operation.operationId
  if attempt.operationId ≠ operation.operationId then (none, store)
  else if previousOperation ≠ none ∧ previousOperation ≠ some operation then (none, store)
  else if priorId ≠ none ∧ priorId ≠ some operation.operationId then (none, store)
  else if previous ≠ none ∧ previous.map (·.attempt) = some attempt then (previous, store)
  else if operation.operationId ∈ store.unknownOperations then (none, store)
  else if attemptAdmissible previous attempt = false then (none, store)
  else
    let resultKey := operation.stableResultKey hashing
    let nextFence := (store.resultFences.lookup resultKey).getD 0 + 1
    let claim : VectorBuildClaim :=
      { operation, attempt, revision := (previous.map (·.revision)).getD 0 + 1, fence := nextFence }
    (some claim, { store with
      operations := store.operations.insert operation.operationId operation
      idempotency := store.idempotency.insert idemKey operation.operationId
      claims := store.claims.insert operation.operationId claim
      resultFences := store.resultFences.insert resultKey nextFence })

def markUnknown (claim : VectorBuildClaim) (store : InMemoryVectorControlPlane hashing) :
    InMemoryVectorControlPlane hashing :=
  if store.claims.lookup claim.operation.operationId = some claim then
    { store with
      unknownOperations := store.unknownOperations.insert claim.operation.operationId }
  else store

/-- The commit settles what the attempts of the operation have left unknown. -/
def discardUnknown (operationId : String) (store : InMemoryVectorControlPlane hashing) :
    InMemoryVectorControlPlane hashing :=
  { store with unknownOperations := store.unknownOperations.filter (· ≠ operationId) }

def currentEmbeddingMatches {F : Type} (embeddingHashing : EmbeddingHashing)
    (embeddings : InMemoryEmbeddingStore F) (operation : VectorBuildOperation)
    (contract : VectorIndexContract) : Bool :=
  match readSelection embeddings operation.tenantId operation.documentId operation.chunkSetId,
      readSet embeddings operation.embeddingSetId with
  | some selection, some embeddingSet =>
    decide (selection.embeddingSetId = operation.embeddingSetId ∧
      selection.revision = operation.embeddingSelectionRevision ∧
      contract.accepts embeddingHashing embeddingSet)
  | _, _ => false

/-- One physical result, whichever operation it was built for. -/
def equivalentGeneration (left right : VectorGeneration hashing) : Prop :=
  left.generationId = right.generationId ∧ left.contract = right.contract ∧
    left.manifest = right.manifest ∧
    left.providerCheckpoint ≠ "" ∧
    right.providerCheckpoint ≠ "" ∧
    left.evidence = right.evidence ∧
    left.state = right.state
  deriving Decidable

section Persist

variable {F : Type} (issuer : PermitIssuer) (embeddingHashing : EmbeddingHashing)
  (chunkHashing : Hashing)

def refused (outcome : VectorCommitOutcome) (safeReason : String) : VectorCommitResult hashing :=
  { outcome, safeReason }

def authorizationOutcome (reason : String) : VectorCommitOutcome :=
  if reason = "CURRENT_VECTOR_INDEX_CONTRACT_CHANGED" then .staleContract
  else if reason = "CURRENT_INDEX_BUILD_EMBEDDING_SET_CHANGED" then .staleEmbeddingSelection
  else .staleAuthorization

/-- The checks of a commit before its result key is looked at: what refuses it, if anything. -/
def refusal (surroundings : Surroundings F) (claim : VectorBuildClaim)
    (contract : VectorIndexContract) (generation : VectorGeneration hashing)
    (authorization : AuthorizedIndexBuildInput) (store : InMemoryVectorControlPlane hashing) :
    Except Raised (Option (VectorCommitResult hashing)) :=
  if store.claims.lookup claim.operation.operationId ≠ some claim then
    .ok (some (refused .staleAttempt "VECTOR_BUILD_FENCE_STALE"))
  else if claim.operation ≠ generation.operation then
    .ok (some (refused .identityConflict "GENERATION_OPERATION_BINDING_MISMATCH"))
  else if contract ≠ generation.contract then
    .ok (some (refused .identityConflict "GENERATION_CONTRACT_BINDING_MISMATCH"))
  else do
    let authorizationError ← IndexBuildAuthorizationGuard.check issuer hashing embeddingHashing
      chunkHashing surroundings authorization contract
    match authorizationError with
    | some reason => .ok (some (refused (authorizationOutcome reason) reason))
    | none =>
      if currentEmbeddingMatches embeddingHashing surroundings.embeddings claim.operation
          contract = false then
        .ok (some (refused .staleEmbeddingSelection "CURRENT_EMBEDDING_SELECTION_CHANGED"))
      else .ok none

variable (claim : VectorBuildClaim)

def replay (existing generation : VectorGeneration hashing)
    (store : InMemoryVectorControlPlane hashing) :
    VectorCommitResult hashing × InMemoryVectorControlPlane hashing :=
  if equivalentGeneration existing generation then
    ({ outcome := .alreadySealed, safeReason := "EXACT_GENERATION_REPLAY_CONVERGED"
       generation := some existing },
      discardUnknown claim.operation.operationId store)
  else (refused .identityConflict "STABLE_GENERATION_IDENTITY_CONTENT_CONFLICT", store)

def sealGeneration (generation : VectorGeneration hashing)
    (store : InMemoryVectorControlPlane hashing) :
    VectorCommitResult hashing × InMemoryVectorControlPlane hashing :=
  let eventId := (VectorEvent.generationSealed generation.generationId
    generation.manifest).eventId hashing
  ({ outcome := .sealed, safeReason := "IMMUTABLE_VECTOR_GENERATION_SEALED_WITH_OUTBOX"
     generation := some generation, durableTransition := true },
    discardUnknown claim.operation.operationId { store with
      generations := store.generations.insert generation.generationId generation
      resultKeys :=
        store.resultKeys.insert (claim.operation.stableResultKey hashing) generation.generationId
      outbox := store.outbox.insert eventId
        { eventId, eventType := .generationSealed, tenantId := claim.operation.tenantId
          generationId := generation.generationId, revision := 1 } })

/-- The commit that no check refuses. -/
def commit (generation : VectorGeneration hashing) (store : InMemoryVectorControlPlane hashing) :
    Except Raised (VectorCommitResult hashing) × InMemoryVectorControlPlane hashing :=
  match store.resultKeys.lookup (claim.operation.stableResultKey hashing) with
  | some existingId =>
    match store.generations.lookup existingId with
    | none => (.error .keyError, store)
    | some existing =>
      let (result, after) := replay claim existing generation store
      (.ok result, after)
  | none =>
    if generation.providerCheckpoint = "" then
      (.ok (refused .notReady "PROVIDER_READBACK_CHECKPOINT_REQUIRED"), store)
    else
      let (result, after) := sealGeneration claim generation store
      (.ok result, after)

def persist (surroundings : Surroundings F) (claim : VectorBuildClaim)
    (contract : VectorIndexContract) (generation : VectorGeneration hashing)
    (authorization : AuthorizedIndexBuildInput) (store : InMemoryVectorControlPlane hashing) :
    Except Raised (VectorCommitResult hashing) × InMemoryVectorControlPlane hashing :=
  match refusal issuer embeddingHashing chunkHashing surroundings claim contract generation
      authorization store with
  | .error raised => (.error raised, store)
  | .ok (some result) => (.ok result, store)
  | .ok none => commit claim generation store

end Persist

section Activate

def blocked (outcome : ActivationOutcome) (safeReason : String)
    (selectedBundle : Option SelectedVectorBundle := none) : ActivationResult :=
  { outcome, safeReason, selectedBundle }

variable (generation : VectorGeneration hashing)
  (ready : generation.evidence.readiness = .productionReady)

/-- The generation in its serving state, once its evidence is complete. -/
def activatedGeneration : VectorGeneration hashing :=
  { generation with state := .activated, serving_ready := fun _ => ready }

variable (generationId : String) (policy : RetrievalPolicyRevision)

/-- The writes of an activation: the bundle, its fence, the serving state and the intent. -/
def selectBundle (revision : Nat) (activationFence : Int)
    (store : InMemoryVectorControlPlane hashing) :
    ActivationResult × InMemoryVectorControlPlane hashing :=
  let tenantId := generation.operation.tenantId
  let bundle : SelectedVectorBundle :=
    { tenantId, generationId
      generationContractFingerprint := generation.contract.fingerprint hashing
      retrievalPolicyFingerprint := policy.fingerprint hashing
      revision }
  let eventId := (VectorEvent.bundleSelected tenantId revision generationId
    (policy.fingerprint hashing)).eventId hashing
  ({ outcome := .activated, safeReason := "SELECTED_BUNDLE_AND_OUTBOX_COMMITTED_ATOMICALLY"
     selectedBundle := some bundle, durableTransition := true },
    { store with
      selected := store.selected.insert tenantId bundle
      activationFences := store.activationFences.insert tenantId activationFence
      generations := store.generations.insert generationId (activatedGeneration generation ready)
      outbox := store.outbox.insert eventId
        { eventId, eventType := .bundleSelected, tenantId, generationId, revision } })

def activate (expectedGenerationId : Option String) (expectedRevision activationFence : Int)
    (store : InMemoryVectorControlPlane hashing) :
    ActivationResult × InMemoryVectorControlPlane hashing :=
  match store.generations.lookup generationId with
  | none => (blocked .notFound "GENERATION_NOT_FOUND", store)
  | some generation =>
    let tenantId := generation.operation.tenantId
    let previousFence := (store.activationFences.lookup tenantId).getD 0
    let current := store.selected.lookup tenantId
    let actualRevision : Nat := (current.map (·.revision)).getD 0
    if current.map (fun bundle => (bundle.generationId, bundle.retrievalPolicyFingerprint)) =
          some (generationId, policy.fingerprint hashing) ∧
        activationFence = previousFence then
      (blocked .alreadyActivated "EXACT_ACTIVATION_REPLAY_CONVERGED" current, store)
    else if activationFence ≤ previousFence then
      (blocked .staleFence "ACTIVATION_FENCE_NOT_CURRENT", store)
    else if current.map (·.generationId) ≠ expectedGenerationId ∨
        (actualRevision : Int) ≠ expectedRevision then
      (blocked .staleSelection "SELECTED_BUNDLE_CAS_MISMATCH" current, store)
    else if ready : generation.evidence.readiness = .productionReady ∧
        generation.contract.acceptsPolicy hashing policy = true then
      selectBundle generation ready.1 generationId policy (actualRevision + 1) activationFence
        store
    else (blocked .notReady "GENERATION_OR_POLICY_HARD_GATES_NOT_READY" current, store)

end Activate

end VectorGenerationCommitter

end BackendHandbook.Vector
