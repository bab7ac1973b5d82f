import BackendHandbook.Vector.Committer

/-! Runs of the vector control plane, and what each of its calls can do. -/

namespace BackendHandbook.Vector

open Authorization Chunking Fallible Run VectorGenerationCommitter
open Embedding (EmbeddingHashing)

section Calls

variable (hashing : VectorHashing) (F : Type)

inductive Call
  | claim (operation : VectorBuildOperation) (attempt : VectorBuildAttempt)
  | markUnknown (claim : VectorBuildClaim)
  | persist (surroundings : Surroundings F) (claim : VectorBuildClaim)
      (contract : VectorIndexContract) (generation : VectorGeneration hashing)
      (authorization : AuthorizedIndexBuildInput)
  | activate (generationId : String) (policy : RetrievalPolicyRevision)
      (expectedGenerationId : Option String) (expectedRevision activationFence : Int)
  | markOutboxDispatched (eventId : String)

def Response : Call hashing F → Type
  | .claim _ _ => Option VectorBuildClaim
  | .markUnknown _ => Unit
  | .persist _ _ _ _ _ => Except Raised (VectorCommitResult hashing)
  | .activate _ _ _ _ _ => ActivationResult
  | .markOutboxDispatched _ => Bool

end Calls

variable {hashing : VectorHashing} {F : Type} (issuer : PermitIssuer)
  (embeddingHashing : EmbeddingHashing) (chunkHashing : Hashing)

def perform : (call : Call hashing F) → InMemoryVectorControlPlane hashing →
    Response hashing F call × InMemoryVectorControlPlane hashing
  | .claim operation attempt, store => VectorGenerationCommitter.claim operation attempt store
  | .markUnknown claim, store => ((), markUnknown claim store)
  | .persist surroundings claim contract generation authorization, store =>
    persist issuer embeddingHashing chunkHashing surroundings claim contract generation
      authorization store
  | .activate generationId policy expectedGenerationId expectedRevision activationFence, store =>
    activate generationId policy expectedGenerationId expectedRevision activationFence store
  | .markOutboxDispatched eventId, store => store.markOutboxDispatched eventId

variable {issuer embeddingHashing chunkHashing}

theorem authorizationOutcome_refuses (reason : String) :
    authorizationOutcome reason ≠ .sealed ∧ authorizationOutcome reason ≠ .alreadySealed := by
  unfold authorizationOutcome
  split
  · exact ⟨nofun, nofun⟩
  · split
    · exact ⟨nofun, nofun⟩
    · exact ⟨nofun, nofun⟩

section Persist

variable {surroundings : Surroundings F} {claim : VectorBuildClaim}
  {contract : VectorIndexContract} {generation : VectorGeneration hashing}
  {authorization : AuthorizedIndexBuildInput} {store : InMemoryVectorControlPlane hashing}

theorem refusal_refuses {result : VectorCommitResult hashing}
    (answered : refusal issuer embeddingHashing chunkHashing surroundings claim contract generation
      authorization store = .ok (some result)) :
    result.outcome ≠ .sealed ∧ result.outcome ≠ .alreadySealed := by
  have met : Meets (fun answer : Option (VectorCommitResult hashing) => ∀ result ∈ answer,
      result.outcome ≠ .sealed ∧ result.outcome ≠ .alreadySealed) (fun _ => True)
      (refusal issuer embeddingHashing chunkHashing surroundings claim contract generation
        authorization store) := by
    have here : ∀ outcome reason, outcome ≠ .sealed ∧ outcome ≠ .alreadySealed →
        ∀ result ∈ some (refused outcome reason : VectorCommitResult hashing),
          result.outcome ≠ .sealed ∧ result.outcome ≠ .alreadySealed := by
      rintro _ reason other _ ⟨⟩
      exact other
    refine meets_ite (fun _ => here .staleAttempt _ ⟨nofun, nofun⟩) fun _ => ?_
    refine meets_ite (fun _ => here .identityConflict _ ⟨nofun, nofun⟩) fun _ => ?_
    refine meets_ite (fun _ => here .identityConflict _ ⟨nofun, nofun⟩) fun _ => ?_
    apply meets_bind (meets_self fun _ _ => trivial)
    intro authorizationError _
    cases authorizationError with
    | some reason => exact here _ _ (authorizationOutcome_refuses reason)
    | none =>
      refine meets_ite (fun _ => here .staleEmbeddingSelection _ ⟨nofun, nofun⟩) fun _ => ?_
      exact fun result member => nomatch member
  exact met.of_ok answered result rfl

theorem refusal_none
    (admitted : refusal issuer embeddingHashing chunkHashing surroundings claim contract generation
      authorization store = .ok none) :
    store.claims.lookup claim.operation.operationId = some claim ∧
      claim.operation = generation.operation ∧ contract = generation.contract := by
  rcases passed admitted nofun with ⟨current, admitted⟩
  rcases passed admitted nofun with ⟨operation, admitted⟩
  rcases passed admitted nofun with ⟨contracts, _⟩
  exact ⟨Decidable.not_not.mp current, Decidable.not_not.mp operation,
    Decidable.not_not.mp contracts⟩

variable (issuer embeddingHashing chunkHashing) in
/-- Everything a commit can do: change nothing and report neither seal nor replay, find its
generation stored, or store it. -/
theorem persist_cases (surroundings : Surroundings F) (claim : VectorBuildClaim)
    (contract : VectorIndexContract) (generation : VectorGeneration hashing)
    (authorization : AuthorizedIndexBuildInput) (store : InMemoryVectorControlPlane hashing) :
    ((persist issuer embeddingHashing chunkHashing surroundings claim contract generation
          authorization store).2 = store ∧
      ∀ result, (persist issuer embeddingHashing chunkHashing surroundings claim contract
          generation authorization store).1 = .ok result →
        result.outcome ≠ .sealed ∧ result.outcome ≠ .alreadySealed) ∨ (∃ existingId existing,
      store.resultKeys.lookup (claim.operation.stableResultKey hashing) = some existingId ∧
      store.generations.lookup existingId = some existing ∧
      equivalentGeneration existing generation ∧
      persist issuer embeddingHashing chunkHashing surroundings claim contract generation
          authorization store =
        (.ok { outcome := .alreadySealed, safeReason := "EXACT_GENERATION_REPLAY_CONVERGED"
               generation := some existing },
          discardUnknown claim.operation.operationId store)) ∨
    (refusal issuer embeddingHashing chunkHashing surroundings claim contract generation
        authorization store = .ok none ∧
      store.resultKeys.lookup (claim.operation.stableResultKey hashing) = none ∧
      generation.providerCheckpoint ≠ "" ∧
      persist issuer embeddingHashing chunkHashing surroundings claim contract generation
          authorization store =
        (.ok (sealGeneration claim generation store).1,
          (sealGeneration claim generation store).2)) := by
  unfold persist
  cases admitted : refusal issuer embeddingHashing chunkHashing surroundings claim contract
      generation authorization store with
  | error raised => exact .inl ⟨rfl, fun _ answers => nomatch answers⟩
  | ok answer =>
    cases answer with
    | some =>
      refine .inl ⟨rfl, ?_⟩
      rintro _ ⟨⟩
      exact refusal_refuses admitted
    | none =>
      dsimp only
      unfold commit
      cases bound : store.resultKeys.lookup (claim.operation.stableResultKey hashing) with
      | none =>
        by_cases unread : generation.providerCheckpoint = ""
        · simp only [if_pos unread]
          refine .inl ⟨trivial, ?_⟩
          rintro _ ⟨⟩
          exact ⟨nofun, nofun⟩
        · simp only [if_neg unread]
          exact .inr (.inr ⟨trivial, trivial, unread, trivial⟩)
      | some existingId =>
        dsimp only
        cases found : store.generations.lookup existingId with
        | none => exact .inl ⟨rfl, fun _ answers => nomatch answers⟩
        | some existing =>
          unfold replay
          by_cases same : equivalentGeneration existing generation
          · simp only [if_pos same]
            exact .inr (.inl ⟨existingId, existing, rfl, found, same, rfl⟩)
          · simp only [if_neg same]
            refine .inl ⟨trivial, ?_⟩
            rintro _ ⟨⟩
            exact ⟨nofun, nofun⟩

end Persist

/-- Everything an activation can do: change nothing, or select a generation that is ready, behind
its fence and the bundle it expects. -/
theorem activate_cases (generationId : String) (policy : RetrievalPolicyRevision)
    (expectedGenerationId : Option String) (expectedRevision activationFence : Int)
    (store : InMemoryVectorControlPlane hashing) :
    ((activate generationId policy expectedGenerationId expectedRevision activationFence
          store).2 = store ∧
      (activate generationId policy expectedGenerationId expectedRevision activationFence
          store).1.outcome ≠ .activated) ∨
    ∃ generation, ∃ ready : generation.evidence.readiness = .productionReady,
      store.generations.lookup generationId = some generation ∧
      (store.activationFences.lookup generation.operation.tenantId).getD 0 < activationFence ∧
      generation.contract.acceptsPolicy hashing policy = true ∧
      activate generationId policy expectedGenerationId expectedRevision activationFence store =
        selectBundle generation ready generationId policy
          (((store.selected.lookup generation.operation.tenantId).map (·.revision)).getD 0 + 1)
          activationFence store := by
  unfold activate
  cases found : store.generations.lookup generationId with
  | none => exact .inl ⟨rfl, nofun⟩
  | some generation =>
    dsimp only
    split
    · exact .inl ⟨rfl, nofun⟩
    · split
      · exact .inl ⟨rfl, nofun⟩
      · next newer =>
        split
        · exact .inl ⟨rfl, nofun⟩
        · split
          · next ready =>
            exact .inr ⟨generation, ready.1, rfl, Int.not_le.mp newer, ready.2, rfl⟩
          · exact .inl ⟨rfl, nofun⟩

structure SameFacts (store after : InMemoryVectorControlPlane hashing) : Prop where
  generations : after.generations = store.generations
  resultKeys : after.resultKeys = store.resultKeys
  selected : after.selected = store.selected
  activationFences : after.activationFences = store.activationFences
  outbox : after.outbox = store.outbox

theorem SameFacts.refl (store : InMemoryVectorControlPlane hashing) : SameFacts store store :=
  ⟨rfl, rfl, rfl, rfl, rfl⟩

variable (issuer embeddingHashing chunkHashing)

/-- What a call does to the facts of the store: leave them, seal, activate, or note that an intent
was dispatched. -/
inductive Change (store : InMemoryVectorControlPlane hashing) :
    Call hashing F → InMemoryVectorControlPlane hashing → Prop
  | quiet {call : Call hashing F} {after : InMemoryVectorControlPlane hashing}
      (same : SameFacts store after) : Change store call after
  | sealed {surroundings : Surroundings F} {claim : VectorBuildClaim}
      {contract : VectorIndexContract} {generation : VectorGeneration hashing}
      {authorization : AuthorizedIndexBuildInput}
      (admitted : refusal issuer embeddingHashing chunkHashing surroundings claim contract
        generation authorization store = .ok none)
      (fresh : store.resultKeys.lookup (claim.operation.stableResultKey hashing) = none)
      (read : generation.providerCheckpoint ≠ "") :
      Change store (.persist surroundings claim contract generation authorization)
        (sealGeneration claim generation store).2
  | activated {generationId : String} {policy : RetrievalPolicyRevision}
      {expectedGenerationId : Option String} {expectedRevision activationFence : Int}
      {generation : VectorGeneration hashing}
      (ready : generation.evidence.readiness = .productionReady)
      (found : store.generations.lookup generationId = some generation)
      (newer : (store.activationFences.lookup generation.operation.tenantId).getD 0 <
        activationFence)
      (accepted : generation.contract.acceptsPolicy hashing policy = true) :
      Change store
        (.activate generationId policy expectedGenerationId expectedRevision activationFence)
        (selectBundle generation ready generationId policy
          (((store.selected.lookup generation.operation.tenantId).map (·.revision)).getD 0 + 1)
          activationFence store).2
  | dispatched {eventId : String} {intent : VectorOutboxIntent}
      (found : store.outbox.lookup eventId = some intent) :
      Change store (.markOutboxDispatched eventId)
        { store with outbox := store.outbox.insert eventId { intent with state := "DISPATCHED" } }

variable {issuer embeddingHashing chunkHashing}

theorem claim_quiet (operation : VectorBuildOperation) (attempt : VectorBuildAttempt)
    (store : InMemoryVectorControlPlane hashing) :
    SameFacts store (claim operation attempt store).2 := by
  unfold claim
  dsimp only
  repeat' split
  all_goals exact ⟨rfl, rfl, rfl, rfl, rfl⟩

theorem perform_change (call : Call hashing F) (store : InMemoryVectorControlPlane hashing) :
    Change issuer embeddingHashing chunkHashing store call
      (perform issuer embeddingHashing chunkHashing call store).2 := by
  cases call with
  | claim operation attempt => exact .quiet (claim_quiet operation attempt store)
  | markUnknown claim =>
    apply Change.quiet
    change SameFacts store (markUnknown claim store)
    unfold markUnknown
    split
    · exact ⟨rfl, rfl, rfl, rfl, rfl⟩
    · exact SameFacts.refl store
  | persist surroundings claim contract generation authorization =>
    simp only [perform]
    rcases persist_cases issuer embeddingHashing chunkHashing surroundings claim contract
        generation authorization store
      with ⟨same, _⟩ | ⟨_, _, _, _, _, written⟩ | ⟨admitted, fresh, read, written⟩
    · rw [same]
      exact .quiet (SameFacts.refl store)
    · rw [written]
      exact .quiet ⟨rfl, rfl, rfl, rfl, rfl⟩
    · rw [written]
      exact .sealed admitted fresh read
  | activate generationId policy expectedGenerationId expectedRevision activationFence =>
    simp only [perform]
    rcases activate_cases generationId policy expectedGenerationId expectedRevision
        activationFence store with ⟨same, _⟩ | ⟨_, ready, found, newer, accepted, written⟩
    · rw [same]
      exact .quiet (SameFacts.refl store)
    · rw [written]
      exact .activated ready found newer accepted
  | markOutboxDispatched eventId =>
    simp only [perform, InMemoryVectorControlPlane.markOutboxDispatched]
    cases found : store.outbox.lookup eventId with
    | none => exact .quiet (SameFacts.refl store)
    | some => exact .dispatched found

end BackendHandbook.Vector
