import BackendHandbook.Chunking.Committer

/-! Runs of the chunk set writer over any lifecycle: what a selection names, how its revision and
its intents grow, and what a superseded claim can still do. -/

namespace BackendHandbook.Chunking

open Ingestion Run ChunkSetCommitter ChunkSetCandidateValidator

inductive Call
  | claim (day95 : Ingestion.Store) (operation : ChunkingOperationIdentity)
      (attempt : ChunkingAttemptIdentity)
  | persist (day95 : Ingestion.Store) (decision : ChunkValidationDecision)
      (contract : ChunkingContract)
  | select (day95 : Ingestion.Store) (chunkSetId : String) (expectedSelectedId : Option String)
      (expectedSelectionRevision expectedDocumentStateVersion expectedDocumentFence : Int)
      (claim : ChunkingClaim)
  | markOutboxDispatched (eventId : String)

def Call.IsSelect : Call → Prop
  | .select _ _ _ _ _ _ _ => True
  | _ => False

def Response : Call → Type
  | .claim _ _ _ => Option ChunkingClaim
  | .persist _ _ _ => Except CommitRaised ChunkCommitResult
  | .select _ _ _ _ _ _ _ => ChunkSelectionResult
  | .markOutboxDispatched _ => Bool

section Selection

variable (hashing : Hashing) (tokenizer : TokenizerPort) (identities : IdentityHashing)

def perform : (call : Call) → InMemoryChunkSetStore → Response call × InMemoryChunkSetStore
  | .claim day95 operation attempt, store =>
    ChunkSetCommitter.claim hashing.text day95 operation attempt store
  | .persist day95 decision contract, store =>
    persist hashing tokenizer identities day95 decision contract store
  | .select day95 chunkSetId expectedSelectedId expectedSelectionRevision
      expectedDocumentStateVersion expectedDocumentFence claim, store =>
      select hashing.text identities day95 chunkSetId expectedSelectedId expectedSelectionRevision
        expectedDocumentStateVersion expectedDocumentFence claim store
  | .markOutboxDispatched eventId, store => store.markOutboxDispatched eventId

namespace InMemoryChunkSetStore

def revisionOf (store : InMemoryChunkSetStore) (key : String × String) : Nat :=
  ((store.selections.lookup key).map (·.revision)).getD 0

end InMemoryChunkSetStore

/-- What a call does to the store: nothing, claim an attempt, commit a set, select one, or note
that an intent was dispatched. -/
inductive Change (store : InMemoryChunkSetStore) : Call → InMemoryChunkSetStore → Prop
  | same {call : Call} : Change store call store
  | claimed {day95 : Ingestion.Store} {operation : ChunkingOperationIdentity}
      {attempt : ChunkingAttemptIdentity}
      {operations : Dict String ChunkingOperationIdentity}
      {idempotency : Dict (String × String) String}
      (admissible : attemptAdmissible (store.claims.lookup operation.operationId) attempt = true) :
      Change store (.claim day95 operation attempt)
        { store with
          operations, idempotency
          claims := store.claims.insert operation.operationId
            (nextClaim operation attempt (store.claims.lookup operation.operationId)) }
  | committed {day95 : Ingestion.Store} {decision : ChunkValidationDecision}
      {contract : ChunkingContract} {candidate : ChunkSetCandidate}
      (given : decision.candidate = some candidate)
      (admitted : refusal hashing tokenizer day95 contract candidate store = none)
      (fresh : store.resultKeys.lookup (candidate.operation.stableResultKey identities) = none) :
      Change store (.persist day95 decision contract)
        { store with
          sets := store.sets.insert (chunkSetIdOf identities candidate.operation)
            (chunkSetOf identities candidate)
          resultKeys := store.resultKeys.insert (candidate.operation.stableResultKey identities)
            (chunkSetIdOf identities candidate.operation) }
  | selected {day95 : Ingestion.Store} {chunkSetId : String} {expectedSelectedId : Option String}
      {expectedSelectionRevision expectedDocumentStateVersion expectedDocumentFence : Int}
      {claim : ChunkingClaim} {chunkSet : ChunkSet}
      (found : store.sets.lookup chunkSetId = some chunkSet)
      (current : store.claims.lookup claim.operation.operationId = some claim) :
      Change store
        (.select day95 chunkSetId expectedSelectedId expectedSelectionRevision
          expectedDocumentStateVersion expectedDocumentFence claim)
        (writeSelection identities chunkSet.operation chunkSetId
          (store.revisionOf chunkSet.operation.selectionKey + 1) claim.fence store).2
  | dispatched {eventId : String} {intent : ChunkSelectionOutboxIntent}
      (found : store.outbox.lookup eventId = some intent) :
      Change store (.markOutboxDispatched eventId)
        { store with outbox := store.outbox.insert eventId { intent with state := "DISPATCHED" } }

variable {hashing tokenizer identities}

theorem claim_cases (textHash : String → String) (day95 : Ingestion.Store)
    (operation : ChunkingOperationIdentity) (attempt : ChunkingAttemptIdentity)
    (store : InMemoryChunkSetStore) : ((claim textHash day95 operation attempt store).2 = store ∧
      ∀ claimed, (claim textHash day95 operation attempt store).1 = some claimed →
        store.claims.lookup operation.operationId = some claimed) ∨
    (attemptAdmissible (store.claims.lookup operation.operationId) attempt = true ∧
      claim textHash day95 operation attempt store =
        (some (nextClaim operation attempt (store.claims.lookup operation.operationId)),
          { store with
            operations := store.operations.insert operation.operationId operation
            idempotency := store.idempotency.insert
              (operation.version.tenantId, operation.idempotencyKey) operation.operationId
            claims := store.claims.insert operation.operationId
              (nextClaim operation attempt (store.claims.lookup operation.operationId)) })) := by
  unfold claim
  dsimp only
  split
  · exact .inl ⟨rfl, nofun⟩
  · split
    · exact .inl ⟨rfl, nofun⟩
    · split
      · exact .inl ⟨rfl, nofun⟩
      · split
        · exact .inl ⟨rfl, nofun⟩
        · split
          · exact .inl ⟨rfl, fun _ answered => answered⟩
          · split
            · exact .inl ⟨rfl, nofun⟩
            · next admissible =>
              exact .inr ⟨Bool.eq_true_of_not_eq_false admissible, rfl⟩

theorem persist_change (day95 : Ingestion.Store) (decision : ChunkValidationDecision)
    (contract : ChunkingContract) (store : InMemoryChunkSetStore) :
    Change hashing tokenizer identities store (.persist day95 decision contract)
      (persist hashing tokenizer identities day95 decision contract store).2 := by
  unfold persist
  cases given : decision.candidate with
  | none => exact .same
  | some candidate =>
    dsimp only
    cases admitted : refusal hashing tokenizer day95 contract candidate store with
    | some => exact .same
    | none =>
      unfold commit
      dsimp only
      cases bound :
          store.resultKeys.lookup (candidate.operation.stableResultKey identities) with
      | none => exact .committed given admitted bound
      | some existingId =>
        dsimp only
        cases store.sets.lookup existingId with
        | none => exact .same
        | some =>
          dsimp only
          split
          · exact .same
          · exact .same

/-- What a selection has passed before it writes: its claim, the lifecycle, and the selection it
expects to replace. -/
structure Admitted (textHash : String → String) (identities : IdentityHashing)
    (day95 : Ingestion.Store) (chunkSetId : String) (expectedSelectedId : Option String)
    (expectedSelectionRevision expectedDocumentStateVersion expectedDocumentFence : Int)
    (claim : ChunkingClaim) (store : InMemoryChunkSetStore) (chunkSet : ChunkSet) : Prop where
  found : store.sets.lookup chunkSetId = some chunkSet
  sameResult : claim.operation.stableResultKey identities =
    chunkSet.operation.stableResultKey identities
  current : store.claims.lookup claim.operation.operationId = some claim
  lifecycle : ∃ document version ingestion,
    lifecycleOf day95 chunkSet.operation.version = some (document, version, ingestion) ∧
      selectable textHash day95 chunkSet.operation expectedDocumentStateVersion
        expectedDocumentFence document version ingestion = true
  other : (store.selections.lookup chunkSet.operation.selectionKey).map (·.chunkSetId) ≠
    some chunkSetId
  expected : (store.selections.lookup chunkSet.operation.selectionKey).map (·.chunkSetId) =
      expectedSelectedId ∧
    (store.revisionOf chunkSet.operation.selectionKey : Int) = expectedSelectionRevision

section Select

variable (textHash : String → String) (identities : IdentityHashing) (day95 : Ingestion.Store)
  (chunkSetId : String) (expectedSelectedId : Option String)
  (expectedSelectionRevision expectedDocumentStateVersion expectedDocumentFence : Int)
  (claim : ChunkingClaim) (store : InMemoryChunkSetStore)

/-- Everything a selection can do: change nothing and not report a selection, or write the next
revision of the document. -/
theorem select_cases :
    ((select textHash identities day95 chunkSetId expectedSelectedId expectedSelectionRevision
          expectedDocumentStateVersion expectedDocumentFence claim store).2 = store ∧
      (select textHash identities day95 chunkSetId expectedSelectedId expectedSelectionRevision
          expectedDocumentStateVersion expectedDocumentFence claim store).1.outcome ≠ .selected) ∨
    ∃ chunkSet, Admitted textHash identities day95 chunkSetId expectedSelectedId
        expectedSelectionRevision expectedDocumentStateVersion expectedDocumentFence claim store
        chunkSet ∧
      select textHash identities day95 chunkSetId expectedSelectedId expectedSelectionRevision
          expectedDocumentStateVersion expectedDocumentFence claim store =
        writeSelection identities chunkSet.operation chunkSetId
          (store.revisionOf chunkSet.operation.selectionKey + 1) claim.fence store := by
  unfold select
  cases found : store.sets.lookup chunkSetId with
  | none => exact .inl ⟨rfl, nofun⟩
  | some chunkSet =>
    dsimp only
    split
    · exact .inl ⟨rfl, nofun⟩
    · next current =>
      rcases not_or.mp current with ⟨sameResult, current⟩
      cases facts : lifecycleOf day95 chunkSet.operation.version with
      | none => exact .inl ⟨rfl, nofun⟩
      | some =>
        dsimp only
        split
        · exact .inl ⟨rfl, nofun⟩
        · next passes =>
          unfold selectCurrent
          dsimp only
          split
          · exact .inl ⟨rfl, nofun⟩
          · next other =>
            split
            · exact .inl ⟨rfl, nofun⟩
            · next expected =>
              rcases not_or.mp expected with ⟨sameId, sameRevision⟩
              refine .inr ⟨chunkSet, ⟨found, Decidable.not_not.mp sameResult,
                Decidable.not_not.mp current, ?_, other,
                Decidable.not_not.mp sameId, Decidable.not_not.mp sameRevision⟩, rfl⟩
              exact ⟨_, _, _, facts, Bool.eq_true_of_not_eq_false passes⟩

variable {textHash identities day95 chunkSetId expectedSelectedId expectedSelectionRevision
  expectedDocumentStateVersion expectedDocumentFence claim store}

theorem select_of_admitted {chunkSet : ChunkSet}
    (admitted : Admitted textHash identities day95 chunkSetId expectedSelectedId
      expectedSelectionRevision expectedDocumentStateVersion expectedDocumentFence claim store
      chunkSet) :
    select textHash identities day95 chunkSetId expectedSelectedId expectedSelectionRevision
        expectedDocumentStateVersion expectedDocumentFence claim store =
      writeSelection identities chunkSet.operation chunkSetId
        (store.revisionOf chunkSet.operation.selectionKey + 1) claim.fence store := by
  rcases admitted with
    ⟨found, sameResult, current, ⟨_, _, _, facts, passes⟩, other, sameId, sameRevision⟩
  have claims : ¬ (claim.operation.stableResultKey identities ≠
      chunkSet.operation.stableResultKey identities ∨
      store.claims.lookup claim.operation.operationId ≠ some claim) :=
    not_or.mpr ⟨not_not_intro sameResult, not_not_intro current⟩
  unfold select
  rw [found]
  dsimp only
  rw [if_neg claims, facts]
  dsimp only
  rw [passes]
  unfold selectCurrent
  rw [if_neg other]
  exact if_neg (not_or.mpr ⟨not_not_intro sameId, not_not_intro sameRevision⟩)

end Select

theorem perform_change (call : Call) (store : InMemoryChunkSetStore) :
    Change hashing tokenizer identities store call
      (perform hashing tokenizer identities call store).2 := by
  cases call with
  | claim day95 operation attempt =>
    simp only [perform]
    rcases claim_cases hashing.text day95 operation attempt store
      with ⟨same, _⟩ | ⟨admissible, written⟩
    · rw [same]
      exact .same
    · rw [written]
      exact .claimed admissible
  | persist => exact persist_change _ _ _ store
  | select day95 chunkSetId expectedSelectedId expectedSelectionRevision
      expectedDocumentStateVersion expectedDocumentFence claim =>
      simp only [perform]
      rcases select_cases hashing.text identities day95 chunkSetId expectedSelectedId
          expectedSelectionRevision expectedDocumentStateVersion expectedDocumentFence claim store
        with ⟨same, _⟩ | ⟨_, admitted, written⟩
      · rw [same]
        exact .same
      · rw [written]
        exact .selected admitted.found admitted.current
  | markOutboxDispatched eventId =>
    simp only [perform, InMemoryChunkSetStore.markOutboxDispatched]
    cases found : store.outbox.lookup eventId with
    | none => exact .same
    | some =>
      dsimp only
      split
      · exact .same
      · exact .dispatched found

end Selection

end BackendHandbook.Chunking
