import BackendHandbook.Embedding.Rollback
import BackendHandbook.Vector.Runs

/-! Whether the sealing of a generation can be repeated: what a later state must have kept for
the same commit to find its generation there. -/

namespace BackendHandbook.Vector

open Authorization Chunking Fallible Run VectorGenerationCommitter IndexBuildAuthorizationGuard
open Embedding (EmbeddingHashing)

section Sealing

variable {hashing : VectorHashing} {F : Type}

/-- Generations stand under their own identity, read back, and result keys lead to them. -/
structure GenerationsStored (store : InMemoryVectorControlPlane hashing) : Prop where
  keyed : ∀ generationId generation, store.generations.lookup generationId = some generation →
    generation.generationId = generationId ∧ generation.providerCheckpoint ≠ ""
  results : ∀ key generationId, store.resultKeys.lookup key = some generationId →
    (store.generations.lookup generationId).isSome

def Kept (generation : VectorGeneration hashing) (store : InMemoryVectorControlPlane hashing) :
    Prop :=
  ∃ stored, store.generations.lookup generation.generationId = some stored ∧
    stored.contract = generation.contract ∧ stored.manifest = generation.manifest ∧
    stored.evidence = generation.evidence ∧ stored.state = generation.state

theorem generationsStored_empty : GenerationsStored ({} : InMemoryVectorControlPlane hashing) := by
  constructor
  · intro generationId generation found
    simp at found
  · intro key generationId found
    simp at found

theorem GenerationsStored.write {store : InMemoryVectorControlPlane hashing}
    (stored : GenerationsStored store) {generation : VectorGeneration hashing}
    (read : generation.providerCheckpoint ≠ "") (resultKeys : Dict String String)
    (bound : ∀ key generationId, resultKeys.lookup key = some generationId →
      generationId = generation.generationId ∨ store.resultKeys.lookup key = some generationId) :
    GenerationsStored { store with
      generations := store.generations.insert generation.generationId generation
      resultKeys } := by
  constructor
  · exact Dict.forall_insert ⟨rfl, read⟩ stored.keyed
  · intro key generationId found
    rw [Dict.lookup_insert_eq]
    rcases bound key generationId found with written | before
    · rw [if_pos written]
      rfl
    · split
      · rfl
      · exact stored.results key generationId before

section Runs

variable {issuer : PermitIssuer} {embeddingHashing : EmbeddingHashing} {chunkHashing : Hashing}
variable {call : Call hashing F} {store after : InMemoryVectorControlPlane hashing}

theorem generationsStored_change (stored : GenerationsStored store)
    (change : Change issuer embeddingHashing chunkHashing store call after) :
    GenerationsStored after := by
  cases change with
  | quiet same =>
    constructor
    · rw [same.generations]
      exact stored.keyed
    · rw [same.generations, same.resultKeys]
      exact stored.results
  | @sealed _ claim _ generation _ admitted fresh read =>
    have wrote := stored.write read
      (store.resultKeys.insert (claim.operation.stableResultKey hashing) generation.generationId)
      (Dict.forall_insert (.inl rfl) fun _ _ => .inr)
    exact ⟨wrote.keyed, wrote.results⟩
  | @activated generationId _ _ _ _ generation ready found newer accepted =>
    rcases stored.keyed generationId generation found with ⟨named, read⟩
    subst named
    have readAgain : (activatedGeneration generation ready).providerCheckpoint ≠ "" := read
    have wrote := stored.write readAgain store.resultKeys (fun _ _ bound => .inr bound)
    exact ⟨wrote.keyed, wrote.results⟩
  | dispatched => exact ⟨stored.keyed, stored.results⟩

theorem resultKey_change {key generationId : String}
    (bound : store.resultKeys.lookup key = some generationId)
    (change : Change issuer embeddingHashing chunkHashing store call after) :
    after.resultKeys.lookup key = some generationId := by
  cases change with
  | quiet same => rw [same.resultKeys, bound]
  | sealed _ fresh =>
    have different : key ≠ _ := fun same => nomatch (same ▸ bound).symm.trans fresh
    exact (AList.lookup_insert_ne different).trans bound
  | activated | dispatched => exact bound

theorem generationsStored_reachable (calls : List (Call hashing F)) :
    GenerationsStored (final (perform issuer embeddingHashing chunkHashing) {} calls) := by
  apply invariant_final (perform issuer embeddingHashing chunkHashing) GenerationsStored
    (fun _ => True) _ {} calls (fun _ _ => trivial) generationsStored_empty
  intro store call _ stored
  exact generationsStored_change stored (perform_change call store)

theorem discardUnknown_eq_self {operationId : String} :
    discardUnknown operationId store = store ↔ operationId ∉ store.unknownOperations := by
  constructor
  · intro same inside
    have filtered := congrArg InMemoryVectorControlPlane.unknownOperations same
    have passes := List.filter_eq_self.mp filtered operationId inside
    simp at passes
  · intro known
    have filtered : store.unknownOperations.filter (· ≠ operationId) = store.unknownOperations := by
      apply List.filter_eq_self.mpr
      intro other inside
      have different : other ≠ operationId := fun same => known (same ▸ inside)
      simpa using different
    unfold discardUnknown
    rw [filtered]

variable {surroundings : Surroundings F} {claim : VectorBuildClaim} {contract : VectorIndexContract}
  {generation : VectorGeneration hashing} {authorization : AuthorizedIndexBuildInput}
  {store : InMemoryVectorControlPlane hashing}

theorem sealed_of_outcome {result : VectorCommitResult hashing}
    (answered : (persist issuer embeddingHashing chunkHashing surroundings claim contract
      generation authorization store).1 = .ok result) (outcome : result.outcome = .sealed) :
    claim.operation = generation.operation ∧ contract = generation.contract ∧
      generation.providerCheckpoint ≠ "" ∧
      (persist issuer embeddingHashing chunkHashing surroundings claim contract generation
        authorization store).2.resultKeys.lookup (claim.operation.stableResultKey hashing) =
          some generation.generationId := by
  rcases persist_cases issuer embeddingHashing chunkHashing surroundings claim contract generation
      authorization store with ⟨_, other⟩ | ⟨_, _, _, _, _, replayed⟩ | ⟨admitted, _, read, written⟩
  · exact absurd outcome (other result answered).1
  · rw [replayed] at answered
    cases answered
    cases outcome
  · rcases refusal_none admitted with ⟨_, operation, same⟩
    rw [written]
    exact ⟨operation, same, read, AList.lookup_insert _⟩

theorem refusal_admits (current : store.claims.lookup claim.operation.operationId = some claim)
    (operation : claim.operation = generation.operation) (same : contract = generation.contract)
    (authorized : check issuer hashing embeddingHashing chunkHashing
      surroundings authorization contract = .ok none)
    (selected : currentEmbeddingMatches embeddingHashing surroundings.embeddings claim.operation
      contract = true) :
    refusal issuer embeddingHashing chunkHashing surroundings claim contract generation
      authorization store = .ok none := by
  unfold refusal
  rw [if_neg (not_not_intro current), if_neg (not_not_intro operation),
    if_neg (not_not_intro same), authorized]
  simp only [selected]
  rfl

/-- The repetition of a commit that sealed its generation converges without a change just when the
stored generation is as it was sealed and its operation is not marked unknown. -/
theorem sealing_idempotent_iff (early middle : List (Call hashing F))
    (surroundings later : Surroundings F) (claim : VectorBuildClaim)
    (contract : VectorIndexContract) (generation : VectorGeneration hashing)
    (authorization : AuthorizedIndexBuildInput) (result : VectorCommitResult hashing)
    (store : InMemoryVectorControlPlane hashing)
    (answered : (perform issuer embeddingHashing chunkHashing
      (.persist surroundings claim contract generation authorization)
      (final (perform issuer embeddingHashing chunkHashing) {} early)).1 = .ok result)
    (outcome : result.outcome = .sealed)
    (reached : store = final (perform issuer embeddingHashing chunkHashing) {}
      (early ++ .persist surroundings claim contract generation authorization :: middle))
    (current : store.claims.lookup claim.operation.operationId = some claim)
    (authorized : check issuer hashing embeddingHashing chunkHashing
      later authorization contract = .ok none)
    (selected : currentEmbeddingMatches embeddingHashing later.embeddings claim.operation
      contract = true) : (∃ repeated : VectorCommitResult hashing,
      perform issuer embeddingHashing chunkHashing
          (.persist later claim contract generation authorization) store = (.ok repeated, store) ∧
        repeated.outcome = .alreadySealed) ↔
      Kept generation store ∧ claim.operation.operationId ∉ store.unknownOperations := by
  rcases sealed_of_outcome answered outcome with ⟨operation, same, read, bound⟩
  have stored : GenerationsStored store := by
    rw [reached]
    exact generationsStored_reachable _
  have key : store.resultKeys.lookup (claim.operation.stableResultKey hashing) =
      some generation.generationId := by
    rw [reached, final_append]
    apply kept_final (perform issuer embeddingHashing chunkHashing)
      (fun later => later.resultKeys.lookup (claim.operation.stableResultKey hashing) =
        some generation.generationId) _ middle _ bound
    intro e member kept
    rw [(mem_trace_performed member).2]
    exact resultKey_change kept (perform_change e.call e.before)
  rcases Option.isSome_iff_exists.mp (stored.results _ _ key) with ⟨existing, found⟩
  rcases stored.keyed _ _ found with ⟨named, existingRead⟩
  have commits : perform issuer embeddingHashing chunkHashing
      (.persist later claim contract generation authorization) store =
        (.ok (replay claim existing generation store).1,
          (replay claim existing generation store).2) := by
    simp only [perform, persist, refusal_admits current operation same authorized selected, commit,
      key, found]
    rfl
  have equivalent : equivalentGeneration existing generation ↔ Kept generation store := by
    constructor
    · rintro ⟨_, contracts, manifests, _, _, evidence, states⟩
      exact ⟨existing, found, contracts, manifests, evidence, states⟩
    · rintro ⟨_, there, contracts, manifests, evidence, states⟩
      cases there.symm.trans found
      exact ⟨named, contracts, manifests, existingRead, read, evidence, states⟩
  rw [commits, ← equivalent, ← discardUnknown_eq_self]
  unfold replay
  by_cases replays : equivalentGeneration existing generation
  · simp only [if_pos replays]
    constructor
    · rintro ⟨repeated, converges, _⟩
      exact ⟨replays, congrArg Prod.snd converges⟩
    · rintro ⟨_, unmarked⟩
      exact ⟨_, by rw [unmarked], rfl⟩
  · simp only [if_neg replays]
    constructor
    · rintro ⟨_, converges, already⟩
      cases converges
      cases already
    · rintro ⟨kept, _⟩
      exact absurd kept replays

end Runs

end Sealing

open Embedding.Sample

namespace Sample

def hashing : VectorHashing :=
  { contract := fun contract => contract.contractVersion
    policy := fun policy => policy.policyVersion
    resultKey := fun (_, _, checksum, recordIds, fingerprint, revision) =>
      String.intercalate "/" (checksum :: fingerprint :: toString revision :: recordIds)
    event := fun
      | .generationSealed generationId manifest =>
        Text.record ["sealed", generationId, toString manifest.pointCount,
          manifest.pointIdsDigest, manifest.vectorDigest, manifest.payloadDigest,
          manifest.embeddingSetId, manifest.contractFingerprint]
      | .bundleSelected tenantId revision generationId retrievalPolicyFingerprint =>
        Text.record ["selected", tenantId, toString revision, generationId,
          retrievalPolicyFingerprint] }

theorem version_named : "v1" ≠ "" := by decide

def embeddingSet : Embedding.EmbeddingSet Int :=
  { embeddingSetId := "embedding-set-1", operation := first
    contract := Embedding.Sample.contract "v1" version_named
    records := Embedding.Sample.chunkIds.zipIdx.map fun (chunkId, ordinal) =>
      { embeddingId := "embedding:" ++ chunkId, embeddingSetId := "embedding-set-1"
        tenantId := "tenant-a", chunkId, ordinal, contentHash := chunkId, sourceSegments := []
        contractFingerprint := "sha256:v1", vector := [1, 0] }
    manifestChecksum := "sha256:manifest" }

def recordIds : List String := embeddingSet.records.map (·.embeddingId)

def embeddings : Embedding.InMemoryEmbeddingStore Int :=
  { sets := AList.insert "embedding-set-1" embeddingSet ∅
    selections := AList.insert ("tenant-a", "report-42", "chunk-set-1")
      { tenantId := "tenant-a", documentId := "report-42", chunkSetId := "chunk-set-1"
        embeddingSetId := "embedding-set-1", revision := 1 } ∅ }

def grants : AuthorizationPolicySnapshot :=
  { tenantId := "tenant-a", documentId := "report-42", policyRevision := 1, aclRevision := 1
    roleVersion := "roles-v1", actionCatalogVersion := "actions-v1", authorizationEpoch := 1
    supportedActions := [indexBuildAction]
    entries :=
      [{ entryId := "entry-1", principalSubject := "worker"
         resource :=
           { resourceType := .documentVersion, tenantId := "tenant-a"
             documentId := some "report-42", documentVersionId := some "report-42-v2"
             tenant_nonEmpty := membership.nonEmpty.1, bound := by decide }
         action := indexBuildAction, effect := .allow, nonEmpty := by decide }]
    nonEmpty := Embedding.Sample.policy.nonEmpty
    revisions_pos := Embedding.Sample.policy.revisions_pos
    versions_nonEmpty := Embedding.Sample.policy.versions_nonEmpty
    actions_nonEmpty := by decide, entries_bound := by decide }

def surroundings : Surroundings Int :=
  { authorization :=
      { memberships := AList.insert ("tenant-a", "worker") membership ∅
        policies := AList.insert ("tenant-a", "report-42") grants ∅ }
    day95 := Embedding.Sample.day95, chunkStore := Embedding.Sample.chunkStore, embeddings
    readContractSelection := fun _ => some ("sha256:index-v1", 1), now := 10 }

def claims : PermitClaims :=
  { permitId := "permit-1", decisionId := "decision-1", issuer := "classroom", subject := "worker"
    tenantId := "tenant-a", audience := indexBuildAudience, action := indexBuildAction
    purpose := indexBuildPurpose, documentId := "report-42", documentVersionId := "report-42-v2"
    chunkSetId := "chunk-set-1", chunkIds := Embedding.Sample.chunkIds, issuedAt := 1
    expiresAt := 20, revisions := AuthorizationRevisionVector.current grants membership
    selectionRevision := 1, documentStateVersion := 2, documentFence := 2 }

def issuer : PermitIssuer := { issuer := "classroom", sign := fun claims => claims.permitId }

def handoff : AuthorizedIndexBuildInput :=
  { permit := ⟨claims, "permit-1"⟩, tenantId := "tenant-a", principalSubject := "worker"
    action := indexBuildAction, audience := indexBuildAudience, purpose := indexBuildPurpose
    permitExpiresAt := 20, authorizationDecisionId := "decision-1"
    authorizationRevisions := claims.revisions, documentId := "report-42"
    documentVersionId := "report-42-v2", chunkSetId := "chunk-set-1"
    chunkIds := Embedding.Sample.chunkIds, chunkSelectionRevision := 1, documentStateVersion := 2
    documentFence := 2, embeddingSetId := "embedding-set-1"
    embeddingSetChecksum := "sha256:manifest", embeddingRecordIds := recordIds
    embeddingContractFingerprint := "sha256:v1", embeddingSelectionRevision := 1
    vectorContractFingerprint := "sha256:index-v1", vectorContractSelectionRevision := 1
    protectedDataClassification := "PROTECTED_VECTOR", exact_context := ⟨rfl, rfl, rfl⟩
    expiry_pos := Embedding.Sample.handoff.expiry_pos, chunks_unique := by decide
    records_unique := by decide +kernel, revisions_pos := Embedding.Sample.policy.revisions_pos
    classified := by decide }

def contract : VectorIndexContract :=
  { contractVersion := "index-v1"
    provider :=
      { provider := "classroom-fake", apiVersion := "v1"
        immutableEngineRevision := "sha256:day99-fake-engine-v1", complete := by decide
        immutable := by decide +kernel }
    tenantId := "tenant-a", embeddingSetId := "embedding-set-1"
    embeddingContractFingerprint := "sha256:v1", dimensions := 2, numericType := .float32
    normalization := .unitL2, metric := .cosineDistance
    build := { algorithm := .flat, taken := ⟨rfl, rfl, rfl⟩ }
    namespaceSchemaVersion := "namespace-v1", pointIdentityVersion := "point-v1"
    payloadSchemaVersion := "payload-v1", quantizationPolicy := "none"
    tenantIsolationStrategy := "namespace", batchMaxItems := 2, batchMaxBytes := 64000
    durabilityExpectation := "readback", backupPolicyVersion := "backup-v1"
    updatePolicyVersion := "update-v1", protectedDataPolicy := "protected-v1"
    bindings := by decide, dimensions_pos := Nat.two_pos, batch_pos := by decide
    unit_vectors := rfl }

def operation : VectorBuildOperation :=
  { operationId := "build-1", idempotencyKey := "build-1", tenantId := "tenant-a"
    documentId := "report-42", documentVersionId := "report-42-v2", chunkSetId := "chunk-set-1"
    embeddingSetId := "embedding-set-1", embeddingSelectionRevision := 1
    embeddingSetChecksum := "sha256:manifest", embeddingRecordIds := recordIds
    authorizationDecisionId := "decision-1", authorizationRevisions := claims.revisions
    contractFingerprint := "sha256:index-v1", contractSelectionRevision := 1
    bindings := by decide, revisions_pos := Chunking.Sample.attempt.attempt_pos
    records_unique := handoff.records_unique }

def attempt : VectorBuildAttempt :=
  { operationId := "build-1", attemptNumber := 1, requestId := "request-1"
    correlated := by decide, attempt_pos := Nat.one_pos }

def evidence : GenerationEvidence :=
  { gates := EvidenceGate.required.map fun gate => ⟨gate, .pass, "classroom", "ok"⟩
    unique := by decide }

def manifest : GenerationManifest :=
  { pointCount := 2, pointIdsDigest := "sha256:ids", vectorDigest := "sha256:vectors"
    payloadDigest := "sha256:payloads", embeddingSetId := "embedding-set-1"
    contractFingerprint := "sha256:index-v1", count_pos := Nat.two_pos, bindings := by decide }

def generation : VectorGeneration hashing :=
  { generationId := "vector-generation:1", operation, contract, manifest
    providerCheckpoint := "checkpoint-1", evidence, state := .sealed
    contract_bound := by decide, embeddingSet_bound := rfl, serving_ready := by decide }

def policy : RetrievalPolicyRevision :=
  { policyVersion := "policy-v1", generationContractFingerprint := "sha256:index-v1", topK := 5
    minimumSimilarity := 0, thresholdOperator := .greaterThanOrEqual, bindings := by decide
    limits := by decide +kernel, search_pos := by decide }

def built : VectorBuildClaim := ⟨operation, attempt, 1, 1⟩

def persisted : Call hashing Int := .persist surroundings built contract generation handoff

def activated (activationFence : Int) : Call hashing Int :=
  .activate "vector-generation:1" policy none 0 activationFence

def performed : (call : Call hashing Int) → InMemoryVectorControlPlane hashing →
    Response hashing Int call × InMemoryVectorControlPlane hashing :=
  perform issuer Embedding.Sample.hashing Chunking.Sample.hashing

def claimed : List (Call hashing Int) := [.claim operation attempt]

def behind (middle : List (Call hashing Int)) : InMemoryVectorControlPlane hashing :=
  final performed {} (claimed ++ persisted :: middle)

theorem first_sealed :
    (performed persisted (final performed {} claimed)).1.toOption.map (·.outcome) = some .sealed ∧
      check issuer hashing Embedding.Sample.hashing
        Chunking.Sample.hashing surroundings handoff contract = .ok none ∧
      currentEmbeddingMatches Embedding.Sample.hashing surroundings.embeddings built.operation
        contract = true := by
  decide +kernel

/-- Once its generation is activated, the same commit is refused as a conflict. -/
theorem activated_not_replayed : ¬ ∀ middle,
      (performed persisted (final performed {} claimed)).1.toOption.map (·.outcome) = some .sealed →
      check issuer hashing Embedding.Sample.hashing
        Chunking.Sample.hashing surroundings handoff contract = .ok none →
      currentEmbeddingMatches Embedding.Sample.hashing surroundings.embeddings built.operation
        contract = true → (behind middle).claims.lookup built.operation.operationId = some built →
      ∃ repeated, performed persisted (behind middle) = (.ok repeated, behind middle) ∧
        repeated.outcome = .alreadySealed := by
  intro replays
  have ran : (behind [activated 1]).claims.lookup built.operation.operationId = some built ∧
      (performed persisted (behind [activated 1])).1.toOption.map (·.outcome) =
        some .identityConflict := by
    decide +kernel
  rcases first_sealed with ⟨outcome, authorized, selected⟩
  rcases replays _ outcome authorized selected ran.1 with ⟨_, answered, outcome⟩
  have conflict := ran.2
  rw [answered] at conflict
  cases outcome.symm.trans (Option.some.inj conflict)

/-- Repeated at once, the commit converges. -/
theorem sealing_idempotent_at_once :
    ∃ repeated, performed persisted (behind []) = (.ok repeated, behind []) ∧
      repeated.outcome = .alreadySealed := by
  rcases first_sealed with ⟨outcome, authorized, selected⟩
  rcases exists_of_toOption outcome with ⟨result, answered, outcome⟩
  have ran : (behind []).claims.lookup built.operation.operationId = some built ∧
      ((behind []).generations.lookup generation.generationId).map (fun stored =>
          (stored.contract, stored.manifest, stored.evidence, stored.state)) =
        some (contract, manifest, evidence, .sealed) ∧
      built.operation.operationId ∉ (behind []).unknownOperations := by
    decide +kernel
  rcases ran with ⟨current, same, unmarked⟩
  rcases Option.map_eq_some_iff.mp same with ⟨stored, found, same⟩
  rcases Prod.mk.inj same with ⟨contracts, same⟩
  rcases Prod.mk.inj same with ⟨manifests, same⟩
  rcases Prod.mk.inj same with ⟨evidence, states⟩
  exact (sealing_idempotent_iff claimed [] surroundings surroundings built contract generation
    handoff result (behind []) answered outcome rfl current authorized selected).mpr
    ⟨⟨stored, found, contracts, manifests, evidence, states⟩, unmarked⟩

end Sample

end BackendHandbook.Vector
