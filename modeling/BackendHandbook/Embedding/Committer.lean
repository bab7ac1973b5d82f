import BackendHandbook.Embedding.Contracts
import BackendHandbook.Foundation.Fallible

/-! The sole writer of embedding sets: contract selection, claims, and the one step that writes
an immutable set, its result key, the selection and the outbox intent. -/

namespace BackendHandbook.Embedding

open Authorization Chunking Ingestion

inductive EmbeddingCommitOutcome
  | committed | alreadyCommitted | identityConflict | notReady | staleAttempt | staleAuthorization
  | staleProvenance | staleSelection | staleContract
  deriving DecidableEq

structure EmbeddingClaim where
  operation : EmbeddingOperationIdentity
  attempt : EmbeddingAttemptIdentity
  (revision fence : Nat)
  deriving DecidableEq

structure EmbeddingCommitResult (F : Type) where
  outcome : EmbeddingCommitOutcome
  safeReason : String
  embeddingSet : Option (EmbeddingSet F) := none
  selection : Option EmbeddingSelection := none
  durableTransition : Bool := false

structure InMemoryEmbeddingStore (F : Type) where
  operations : Dict String EmbeddingOperationIdentity := ∅
  idempotency : Dict (String × String) String := ∅
  claims : Dict String EmbeddingClaim := ∅
  sets : Dict String (EmbeddingSet F) := ∅
  resultKeys : Dict String String := ∅
  selections : Dict (String × String × String) EmbeddingSelection := ∅
  outbox : Dict String EmbeddingOutboxIntent := ∅
  contractSelections : Dict String (String × Nat) := ∅

def EmbeddingOperationIdentity.selectionKey (operation : EmbeddingOperationIdentity) :
    String × String × String :=
  (operation.tenantId, operation.documentId, operation.chunkSetId)

/-- The current state around the store that a commit rereads. -/
structure Surroundings where
  authorization : InMemoryAuthorizationStateStore
  day95 : Ingestion.Store
  chunkStore : InMemoryChunkSetStore
  now : Int

section Store

variable {F : Type}

def selectContract (tenantId fingerprint : String) (store : InMemoryEmbeddingStore F) :
    Except Raised Nat × InMemoryEmbeddingStore F :=
  if tenantId = "" ∨ fingerprint = "" then
    (.error (.valueError "tenant and contract fingerprint are required"), store)
  else
    match store.contractSelections.lookup tenantId with
    | none =>
      (.ok 1, { store with
        contractSelections := store.contractSelections.insert tenantId (fingerprint, 1) })
    | some current =>
      if current.1 = fingerprint then (.ok current.2, store)
      else
        (.ok (current.2 + 1), { store with
          contractSelections :=
            store.contractSelections.insert tenantId (fingerprint, current.2 + 1) })

/-- The attempt may be the next one behind the claim. -/
def attemptAdmissible (previous : Option EmbeddingClaim) (attempt : EmbeddingAttemptIdentity) :
    Bool :=
  match previous with
  | none => attempt.attemptNumber == 1 && attempt.generation == 1
  | some claim => attempt == claim.attempt ||
      (attempt.attemptNumber == claim.attempt.attemptNumber + 1 &&
        attempt.generation == claim.attempt.generation + 1 &&
        attempt.requestId != claim.attempt.requestId)

def claim (operation : EmbeddingOperationIdentity) (attempt : EmbeddingAttemptIdentity)
    (store : InMemoryEmbeddingStore F) : Option EmbeddingClaim × InMemoryEmbeddingStore F :=
  let previousOperation := store.operations.lookup operation.operationId
  let idemKey := (operation.tenantId, operation.idempotencyKey)
  let priorId := store.idempotency.lookup idemKey
  let previous := store.claims.lookup operation.operationId
  if attempt.operationId ≠ operation.operationId then (none, store)
  else if previousOperation ≠ none ∧ previousOperation ≠ some operation then (none, store)
  else if priorId ≠ none ∧ priorId ≠ some operation.operationId then (none, store)
  else if attemptAdmissible previous attempt = false then (none, store)
  else if previous ≠ none ∧ previous.map (·.attempt) = some attempt then (previous, store)
  else
    let claim : EmbeddingClaim :=
      { operation, attempt, revision := (previous.map (·.revision)).getD 0 + 1
        fence := (previous.map (·.fence)).getD 0 + 1 }
    (some claim, { store with
      operations := store.operations.insert operation.operationId operation
      idempotency := store.idempotency.insert idemKey operation.operationId
      claims := store.claims.insert operation.operationId claim })

end Store

namespace EmbeddingCommitter

section Checks

variable (hashing : EmbeddingHashing) (chunkHashing : Hashing)

def bindingsMatch (operation : EmbeddingOperationIdentity) (handoff : AuthorizedEmbeddingInput)
    (contract : EmbeddingContract) : Prop :=
  operation.tenantId = handoff.tenantId ∧ operation.principalSubject = handoff.principalSubject ∧
    operation.authorizationDecisionId = handoff.authorizationDecisionId ∧
    operation.authorizationRevisions = handoff.authorizationRevisions ∧
    operation.documentId = handoff.documentId ∧
    operation.documentVersionId = handoff.documentVersionId ∧
    operation.chunkSetId = handoff.chunkSetId ∧
    operation.authorizedChunkIds = handoff.authorizedChunkIds ∧
    operation.selectionRevision = handoff.selectionRevision ∧
    operation.documentStateVersion = handoff.documentStateVersion ∧
    operation.documentFence = handoff.documentFence ∧
    operation.contractFingerprint = contract.fingerprint hashing
  deriving Decidable

/-- The decision of the entries of a policy that apply to the resource. -/
def grantError (policy : AuthorizationPolicySnapshot) (handoff : AuthorizedEmbeddingInput)
    (resource : ResourceRef) : Option String :=
  let applicable := policy.entries.filter fun entry =>
    entry.principalSubject == handoff.principalSubject && entry.action == handoff.action &&
      entry.resource.isAncestorOf resource
  if handoff.action ∉ policy.supportedActions ∨ (∃ entry ∈ applicable, entry.effect = .deny) ∨
      ¬ ∃ entry ∈ applicable, entry.effect = .allow then
    some "CURRENT_EXACT_EMBEDDING_GRANT_NOT_ALLOWED"
  else none

variable (surroundings : Surroundings) (handoff : AuthorizedEmbeddingInput)

def authorizationError : Except Raised (Option String) :=
  if handoff.action ≠ "chunk:read_for_embedding" then
    .ok (some "EXACT_EMBEDDING_ACTION_REQUIRED")
  else if handoff.permitExpiresAt ≤ surroundings.now then
    .ok (some "PERMIT_EXPIRED_BEFORE_COMMIT")
  else
    match surroundings.authorization.readMembership handoff.tenantId handoff.principalSubject,
        surroundings.authorization.readPolicy handoff.tenantId handoff.documentId with
    | .ok (some membership), .ok (some policy) =>
      if membership.active = false then .ok (some "CURRENT_AUTHORIZATION_NOT_ACCESSIBLE")
      else if AuthorizationRevisionVector.current policy membership ≠
          handoff.authorizationRevisions then
        .ok (some "AUTHORIZATION_REVISIONS_CHANGED")
      else
        match ResourceRef.chunkSet handoff.tenantId handoff.documentId
            handoff.documentVersionId handoff.chunkSetId with
        | .ok resource => .ok (grantError policy handoff resource)
        | .error _ => .error (.valueError "resource requires tenant identity")
    | .ok _, .ok _ => .ok (some "CURRENT_AUTHORIZATION_NOT_ACCESSIBLE")
    | _, _ => .ok (some "AUTHORIZATION_STATE_UNAVAILABLE")

def provenanceError (operation : EmbeddingOperationIdentity) : Except Raised (Option String) :=
  if named : Text.requireNonEmpty [handoff.tenantId, handoff.documentId] = true then
    match CurrentRAGProvenanceValidator.evaluate chunkHashing surroundings.day95
        surroundings.chunkStore ⟨handoff.tenantId, handoff.documentId, named⟩
        (some handoff.chunkSetId) with
    | .error (.valueError message) => .error (.valueError message)
    | .ok current =>
      match current.binding with
      | none => .ok (some "CURRENT_PROVENANCE_NOT_VALID")
      | some binding =>
        if current.outcome ≠ .valid then .ok (some "CURRENT_PROVENANCE_NOT_VALID")
        else if binding.version.documentVersionId ≠ handoff.documentVersionId ∨
            binding.chunkSetId ≠ handoff.chunkSetId ∨
            (∃ chunkId ∈ handoff.authorizedChunkIds, chunkId ∉ binding.chunkIds) ∨
            operation.authorizedChunkIds ≠ handoff.authorizedChunkIds ∨
            (binding.selectionRevision : Int) ≠ handoff.selectionRevision ∨
            (binding.documentStateVersion : Int) ≠ handoff.documentStateVersion ∨
            (binding.documentFence : Int) ≠ handoff.documentFence ∨
            operation.contractFingerprint = "" then
          .ok (some "CURRENT_PROVENANCE_OR_FENCE_CHANGED")
        else .ok none
  else .error (.valueError "identity and contract values must not be empty")

end Checks

section Persist

variable {F : Type} (hashing : EmbeddingHashing) (chunkHashing : Hashing) (floats : Floats F)

def result (outcome : EmbeddingCommitOutcome) (safeReason : String) : EmbeddingCommitResult F :=
  { outcome, safeReason }

/-- The checks of a commit before its vectors are looked at: what refuses it, if anything. -/
def refusal (store : InMemoryEmbeddingStore F) (surroundings : Surroundings)
    (claim : EmbeddingClaim) (handoff : AuthorizedEmbeddingInput) (contract : EmbeddingContract)
    (batches : List (ValidatedEmbeddingBatch F)) :
    Except Raised (Option (EmbeddingCommitResult F)) :=
  if batches = [] then .ok (some (result .notReady "NO_VALIDATED_BATCHES"))
  else if store.claims.lookup claim.operation.operationId ≠ some claim then
    .ok (some (result .staleAttempt "EMBEDDING_ATTEMPT_FENCE_STALE"))
  else if ¬ bindingsMatch hashing claim.operation handoff contract then
    .ok (some (result .identityConflict "OPERATION_HANDOFF_OR_CONTRACT_BINDING_MISMATCH"))
  else if store.contractSelections.lookup claim.operation.tenantId ≠
      some (claim.operation.contractFingerprint, claim.operation.contractSelectionRevision) then
    .ok (some (result .staleContract "SELECTED_EMBEDDING_CONTRACT_CHANGED"))
  else do
    let authError ← authorizationError surroundings handoff
    match authError with
    | some reason => .ok (some (result .staleAuthorization reason))
    | none => do
        let provenance ← provenanceError chunkHashing surroundings handoff claim.operation
        match provenance with
        | some reason => .ok (some (result .staleProvenance reason))
        | none => .ok none

/-- The vectors of all batches by item, unless an item comes twice. -/
def itemsById (batches : List (ValidatedEmbeddingBatch F)) : Option (Dict String (List F)) :=
  (batches.flatMap (·.candidate.items)).foldlM
    (fun byId item =>
      if (byId.lookup item.itemId).isSome then none else some (byId.insert item.itemId item.vector))
    ∅

def itemAt (byId : Dict String (List F)) (chunkId : String) : Except Raised (List F) :=
  match byId.lookup chunkId with
  | some vector => .ok vector
  | none => .error .keyError

def viewAt (chunks : List AuthorizedChunkView) (chunkId : String) :
    Except Raised AuthorizedChunkView :=
  -- of two views with one identity the later one is in the dictionary
  match chunks.reverse.find? (·.chunkId == chunkId) with
  | some view => .ok view
  | none => .error .keyError

variable (operation : EmbeddingOperationIdentity)

def embeddingSetId : String :=
  "embedding-set:" ++ Text.removeprefix "sha256:" (operation.stableResultKey hashing)

def recordOf (handoff : AuthorizedEmbeddingInput)
    (contract : EmbeddingContract) (byId : Dict String (List F)) (entry : String × Nat) :
    Except Raised (EmbeddingRecord F) := do
  let (chunkId, ordinal) := entry
  let view ← viewAt handoff.chunks chunkId
  let vector ← itemAt byId chunkId
  EmbeddingRecord.checked floats
    { embeddingId := "embedding:" ++ Text.removeprefix "sha256:"
        (stableHash (hashing.embeddingId (embeddingSetId hashing operation, ordinal, chunkId)))
      embeddingSetId := embeddingSetId hashing operation, tenantId := operation.tenantId
      chunkId
      ordinal
      contentHash := view.contentHash, sourceSegments := view.sourceSegments
      contractFingerprint := contract.fingerprint hashing
      vector }

def setOf (handoff : AuthorizedEmbeddingInput)
    (contract : EmbeddingContract) (byId : Dict String (List F)) (manifest : String) :
    Except Raised (EmbeddingSet F) := do
  let records ← operation.authorizedChunkIds.zipIdx.mapM
    (recordOf hashing floats operation handoff contract byId)
  EmbeddingSet.checked hashing
    { embeddingSetId := embeddingSetId hashing operation, operation, contract, records
      manifestChecksum := manifest }

/-- The writes of a commit: the set, its result key, the selection and the outbox intent. -/
def write (revision : Nat) (embeddingSet : EmbeddingSet F)
    (store : InMemoryEmbeddingStore F) : EmbeddingCommitResult F × InMemoryEmbeddingStore F :=
  let setId := embeddingSetId hashing operation
  let selection : EmbeddingSelection :=
    { tenantId := operation.tenantId, documentId := operation.documentId
      chunkSetId := operation.chunkSetId, embeddingSetId := setId, revision }
  let eventId := stableHash (hashing.event (operation.selectionKey, revision, setId))
  let outbox : EmbeddingOutboxIntent :=
    { eventId, tenantId := selection.tenantId, documentId := selection.documentId
      chunkSetId := selection.chunkSetId, embeddingSetId := selection.embeddingSetId
      selectionRevision := selection.revision }
  ({ outcome := .committed, safeReason := "IMMUTABLE_EMBEDDING_SET_SELECTED_WITH_OUTBOX"
     embeddingSet := some embeddingSet, selection := some selection, durableTransition := true },
    { store with
      sets := store.sets.insert setId embeddingSet
      resultKeys := store.resultKeys.insert (operation.stableResultKey hashing) setId
      selections := store.selections.insert operation.selectionKey selection
      outbox := store.outbox.insert eventId outbox })

def manifestOf (contract : EmbeddingContract)
    (byId : Dict String (List F)) : Except Raised String := do
  let ordered ← operation.authorizedChunkIds.mapM (itemAt byId)
  vectorManifestChecksum hashing floats operation.authorizedChunkIds ordered
    (contract.fingerprint hashing)

def wholeOperation (byId : Dict String (List F)) : Prop :=
  (∀ itemId ∈ byId.keys, itemId ∈ operation.authorizedChunkIds) ∧
    ∀ chunkId ∈ operation.authorizedChunkIds, chunkId ∈ byId.keys
  deriving Decidable

variable (claim : EmbeddingClaim) (handoff : AuthorizedEmbeddingInput)
  (contract : EmbeddingContract) (byId : Dict String (List F)) (manifest : String)
  (expectedSelectedId : Option String) (expectedSelectionRevision : Int)
  (store : InMemoryEmbeddingStore F)

def persistNew : Except Raised (EmbeddingCommitResult F) × InMemoryEmbeddingStore F :=
  let previous := store.selections.lookup claim.operation.selectionKey
  let actualId := previous.map (·.embeddingSetId)
  let actualRevision : Nat := (previous.map (·.revision)).getD 0
  if actualId ≠ expectedSelectedId ∨ (actualRevision : Int) ≠ expectedSelectionRevision then
    (.ok { outcome := .staleSelection, safeReason := "EMBEDDING_SELECTION_BASELINE_CHANGED"
           selection := previous }, store)
  else
    match setOf hashing floats claim.operation handoff contract byId manifest with
    | .error raised => (.error raised, store)
    | .ok embeddingSet =>
      let (committed, after) :=
        write hashing claim.operation (actualRevision + 1) embeddingSet store
      (.ok committed, after)

/-- The commit of a manifest: the set of its result key if there is one, else a new set. -/
def persistManifest : Except Raised (EmbeddingCommitResult F) × InMemoryEmbeddingStore F :=
  match store.resultKeys.lookup (claim.operation.stableResultKey hashing) with
  | some priorSetId =>
    match store.sets.lookup priorSetId with
    | none => (.error .keyError, store)
    | some prior =>
      if prior.manifestChecksum ≠ manifest then
        (.ok (result .identityConflict
          "SAME_RESULT_IDENTITY_HAS_DIFFERENT_VECTOR_MANIFEST"), store)
      else
        (.ok { outcome := .alreadyCommitted
               safeReason := "EXACT_EMBEDDING_SET_ALREADY_COMMITTED", embeddingSet := some prior
               selection := store.selections.lookup claim.operation.selectionKey }, store)
  | none =>
    persistNew hashing floats claim handoff contract byId manifest expectedSelectedId
      expectedSelectionRevision store

def persist (surroundings : Surroundings) (claim : EmbeddingClaim)
    (handoff : AuthorizedEmbeddingInput) (contract : EmbeddingContract)
    (batches : List (ValidatedEmbeddingBatch F)) (expectedSelectedId : Option String)
    (expectedSelectionRevision : Int) (store : InMemoryEmbeddingStore F) :
    Except Raised (EmbeddingCommitResult F) × InMemoryEmbeddingStore F :=
  match refusal hashing chunkHashing store surroundings claim handoff contract batches with
  | .error raised => (.error raised, store)
  | .ok (some refused) => (.ok refused, store)
  | .ok none =>
    match itemsById batches with
    | none => (.ok (result .notReady "DUPLICATE_ITEM_ACROSS_BATCHES"), store)
    | some byId =>
      if ¬ wholeOperation claim.operation byId then
        (.ok (result .notReady "WHOLE_OPERATION_ITEM_SET_MISMATCH"), store)
      else
        match manifestOf hashing floats claim.operation contract byId with
        | .error raised => (.error raised, store)
        | .ok manifest =>
          persistManifest hashing floats claim handoff contract byId manifest
            expectedSelectedId expectedSelectionRevision store

end Persist

end EmbeddingCommitter
end BackendHandbook.Embedding
