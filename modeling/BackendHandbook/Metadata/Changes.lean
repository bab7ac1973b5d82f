import BackendHandbook.Metadata.Committer

/-! The calls of the metadata writer, and what each of them can do to its store. -/

namespace BackendHandbook.Metadata

open Ingestion Chunking MetadataCommitter

inductive Call
  | claim (day95 : Ingestion.Store) (chunks : InMemoryChunkSetStore)
      (operation : MetadataProjectionOperation) (attempt : MetadataProjectionAttempt)
  | persist (day95 : Ingestion.Store) (chunks : InMemoryChunkSetStore)
      (decision : MetadataValidationDecision) (contract : MetadataContract)
  | applyRefresh (eventId : String)

def Response : Call → Type
  | .claim .. => Except MetadataRaised (Option MetadataProjectionClaim)
  | .persist .. => Except MetadataRaised MetadataCommitResult
  | .applyRefresh _ => MetadataRefreshOutcome

section Calls

variable (hashing : Hashing) (identities : MetadataHashing)

def perform : (call : Call) → InMemoryMetadataStore → Response call × InMemoryMetadataStore
  | .claim day95 chunks operation attempt, store =>
    MetadataCommitter.claim hashing day95 chunks operation attempt store
  | .persist day95 chunks decision contract, store =>
    persist hashing identities day95 chunks decision contract store
  | .applyRefresh eventId, store => store.applyRefresh eventId

end Calls

def InMemoryMetadataStore.revisionOf (store : InMemoryMetadataStore) (key : PointerKey) : Nat :=
  ((store.pointers.lookup key).map (·.revision)).getD 0

section Changes

variable {hashing : Hashing} {identities : MetadataHashing} {store after : InMemoryMetadataStore}
variable {call : Call}

/-- What a call does to the store: nothing, claim an attempt, commit a snapshot, or apply an
event. -/
inductive Change (identities : MetadataHashing) (store : InMemoryMetadataStore) :
    Call → InMemoryMetadataStore → Prop
  | same {call : Call} : Change identities store call store
  | claimed {day95 : Ingestion.Store} {chunks : InMemoryChunkSetStore}
      {operation : MetadataProjectionOperation} {attempt : MetadataProjectionAttempt}
      (existing : store.operations.lookup operation.operationId = none ∨
        store.operations.lookup operation.operationId = some operation)
      (prior : store.idempotency.lookup (idempotencyKeyOf operation) = none ∨
        store.idempotency.lookup (idempotencyKeyOf operation) = some operation.operationId)
      (admissible : attemptAdmissible (store.claims.lookup operation.operationId) attempt) :
      Change identities store (.claim day95 chunks operation attempt)
        { store with
          operations := store.operations.insert operation.operationId operation
          idempotency := store.idempotency.insert (idempotencyKeyOf operation) operation.operationId
          claims := store.claims.insert operation.operationId
            (nextClaim operation attempt (store.claims.lookup operation.operationId)) }
  | committed {day95 : Ingestion.Store} {chunks : InMemoryChunkSetStore}
      {decision : MetadataValidationDecision} {contract : MetadataContract}
      {candidate : MetadataProjectionCandidate}
      (given : decision.candidate = some candidate)
      (current : (store.claims.lookup candidate.operation.operationId).map (·.attempt) =
        some candidate.attempt)
      (fingerprint : candidate.operation.contractFingerprint = contract.fingerprint identities)
      (fresh : store.resultKeys.lookup (candidate.operation.stableResultKey identities) = none) :
      Change identities store (.persist day95 chunks decision contract)
        (write identities (snapshotOf identities contract candidate)
          (pointerOf candidate.operation (snapshotOf identities contract candidate).snapshotId
            (store.revisionOf (pointerKey candidate.operation) + 1))
          candidate.operation store)
  | applied {eventId : String} {intent : MetadataRefreshOutboxIntent}
      (found : store.outbox.lookup eventId = some intent) :
      Change identities store (.applyRefresh eventId)
        { store with
          appliedEvents := insert eventId store.appliedEvents
          outbox := store.outbox.insert eventId { intent with state := "DISPATCHED" } }

theorem claimLocked_cases (operation : MetadataProjectionOperation)
    (attempt : MetadataProjectionAttempt) (store : InMemoryMetadataStore) :
    ((claimLocked operation attempt store).2 = store ∧
      ∀ claimed, (claimLocked operation attempt store).1 = some claimed →
        store.claims.lookup operation.operationId = some claimed) ∨
    ((store.operations.lookup operation.operationId = none ∨
        store.operations.lookup operation.operationId = some operation) ∧
      (store.idempotency.lookup (idempotencyKeyOf operation) = none ∨
        store.idempotency.lookup (idempotencyKeyOf operation) = some operation.operationId) ∧
      attemptAdmissible (store.claims.lookup operation.operationId) attempt ∧
      claimLocked operation attempt store =
        (some (nextClaim operation attempt (store.claims.lookup operation.operationId)),
          { store with
            operations := store.operations.insert operation.operationId operation
            idempotency :=
              store.idempotency.insert (idempotencyKeyOf operation) operation.operationId
            claims := store.claims.insert operation.operationId
              (nextClaim operation attempt (store.claims.lookup operation.operationId)) })) := by
  unfold claimLocked
  dsimp only
  split
  · exact .inl ⟨rfl, nofun⟩
  next existing =>
  split
  · exact .inl ⟨rfl, nofun⟩
  next prior =>
  split
  · exact .inl ⟨rfl, fun _ answered => answered⟩
  split
  · exact .inl ⟨rfl, nofun⟩
  next admissible =>
  refine .inr ⟨?_, ?_, not_not.mp admissible, rfl⟩
  · rw [not_and_or, not_not, not_not] at existing
    exact existing
  · rw [not_and_or, not_not, not_not] at prior
    exact prior

theorem claim_cases (day95 : Ingestion.Store) (chunks : InMemoryChunkSetStore)
    (operation : MetadataProjectionOperation) (attempt : MetadataProjectionAttempt)
    (store : InMemoryMetadataStore) :
    ((MetadataCommitter.claim hashing day95 chunks operation attempt store).2 = store ∧
      ∀ claimed, (MetadataCommitter.claim hashing day95 chunks operation attempt store).1 =
        .ok (some claimed) → store.claims.lookup operation.operationId = some claimed) ∨
    ((store.operations.lookup operation.operationId = none ∨
        store.operations.lookup operation.operationId = some operation) ∧
      (store.idempotency.lookup (idempotencyKeyOf operation) = none ∨
        store.idempotency.lookup (idempotencyKeyOf operation) = some operation.operationId) ∧
      attemptAdmissible (store.claims.lookup operation.operationId) attempt ∧
      MetadataCommitter.claim hashing day95 chunks operation attempt store =
        (.ok (some (nextClaim operation attempt (store.claims.lookup operation.operationId))),
          { store with
            operations := store.operations.insert operation.operationId operation
            idempotency :=
              store.idempotency.insert (idempotencyKeyOf operation) operation.operationId
            claims := store.claims.insert operation.operationId
              (nextClaim operation attempt (store.claims.lookup operation.operationId)) })) := by
  unfold MetadataCommitter.claim
  split
  · exact .inl ⟨rfl, nofun⟩
  split
  · exact .inl ⟨rfl, nofun⟩
  split
  · exact .inl ⟨rfl, nofun⟩
  rcases claimLocked_cases operation attempt store with
    ⟨same, answered⟩ | ⟨existing, prior, admissible, written⟩
  · exact .inl ⟨same, fun claimed found => answered claimed (Except.ok.inj found)⟩
  · refine .inr ⟨existing, prior, admissible, ?_⟩
    rw [written]

variable {candidate : MetadataProjectionCandidate} {contract : MetadataContract}

variable {chunks : InMemoryChunkSetStore} {day95 : Ingestion.Store}

theorem refusal_none
    (admitted : refusal hashing identities day95 chunks contract candidate store = .ok none) :
    (store.claims.lookup candidate.operation.operationId).map (·.attempt) = some candidate.attempt ∧
      candidate.operation.contractFingerprint = contract.fingerprint identities := by
  unfold refusal at admitted
  dsimp only at admitted
  split at admitted
  · cases admitted
  next current =>
  split at admitted
  · cases admitted
  next fingerprint =>
  exact ⟨not_not.mp current, not_not.mp fingerprint⟩

def nextPointer (identities : MetadataHashing) (store : InMemoryMetadataStore)
    (contract : MetadataContract) (candidate : MetadataProjectionCandidate) :
    MetadataSnapshotPointer :=
  pointerOf candidate.operation (snapshotOf identities contract candidate).snapshotId
    (store.revisionOf (pointerKey candidate.operation) + 1)

variable {result : MetadataCommitResult}

theorem replay_outcome {existingId : String}
    (answered : replay identities existingId contract candidate store = .ok result) :
    result.outcome ≠ .committed := by
  unfold replay at answered
  split at answered
  · cases answered
  split at answered
  · cases answered
    nofun
  split at answered
  · cases answered
  · cases answered
    nofun

theorem refusal_some (turned : refusal hashing identities day95 chunks contract candidate store =
      .ok (some result)) : result.outcome ≠ .committed ∧ result.outcome ≠ .alreadyCommitted := by
  unfold refusal at turned
  dsimp only at turned
  split at turned
  · cases turned
    exact ⟨nofun, nofun⟩
  split at turned
  · cases turned
    exact ⟨nofun, nofun⟩
  split at turned
  · cases turned
  split at turned
  · cases turned
    exact ⟨nofun, nofun⟩
  · cases turned

theorem commit_cases (contract : MetadataContract) (candidate : MetadataProjectionCandidate)
    (store : InMemoryMetadataStore) : ((commit identities contract candidate store).2 = store ∧
      ∀ result, (commit identities contract candidate store).1 = .ok result →
        result.outcome ≠ .committed) ∨
    (store.resultKeys.lookup (candidate.operation.stableResultKey identities) = none ∧
      (∃ result, (commit identities contract candidate store).1 = .ok result ∧
        result.outcome = .committed ∧
        result.pointer = some (nextPointer identities store contract candidate)) ∧
      (commit identities contract candidate store).2 =
        write identities (snapshotOf identities contract candidate)
          (nextPointer identities store contract candidate) candidate.operation store) := by
  unfold commit
  dsimp only
  split
  · exact .inl ⟨rfl, fun _ answered => replay_outcome answered⟩
  next fresh =>
  split
  · refine .inl ⟨rfl, fun result answered => ?_⟩
    cases answered
    nofun
  · exact .inr ⟨fresh, ⟨_, rfl, rfl, rfl⟩, rfl⟩

theorem persist_cases (day95 : Ingestion.Store) (chunks : InMemoryChunkSetStore)
    (decision : MetadataValidationDecision) (contract : MetadataContract)
    (store : InMemoryMetadataStore) :
    ((persist hashing identities day95 chunks decision contract store).2 = store ∧
      ∀ result, (persist hashing identities day95 chunks decision contract store).1 = .ok result →
        result.outcome ≠ .committed) ∨ ∃ candidate, decision.candidate = some candidate ∧
      (store.claims.lookup candidate.operation.operationId).map (·.attempt) =
        some candidate.attempt ∧
      candidate.operation.contractFingerprint = contract.fingerprint identities ∧
      store.resultKeys.lookup (candidate.operation.stableResultKey identities) = none ∧ (∃ result,
        (persist hashing identities day95 chunks decision contract store).1 = .ok result ∧
        result.outcome = .committed ∧
        result.pointer = some (nextPointer identities store contract candidate)) ∧
      (persist hashing identities day95 chunks decision contract store).2 =
        write identities (snapshotOf identities contract candidate)
          (nextPointer identities store contract candidate) candidate.operation store := by
  unfold persist
  split
  · refine .inl ⟨rfl, fun result answered => ?_⟩
    cases answered
    nofun
  next candidate given =>
  split
  · exact .inl ⟨rfl, nofun⟩
  · next turned =>
    refine .inl ⟨rfl, fun other answered => ?_⟩
    cases answered
    exact (refusal_some turned).1
  next admitted =>
  rcases refusal_none admitted with ⟨current, fingerprint⟩
  rcases commit_cases contract candidate store with same | ⟨fresh, answered, written⟩
  · exact .inl same
  · exact .inr ⟨candidate, given, current, fingerprint, fresh, answered, written⟩

theorem applyRefresh_cases (eventId : String) (store : InMemoryMetadataStore) :
    ((store.applyRefresh eventId).2 = store ∧ (store.applyRefresh eventId).1 ≠ .applied) ∨
    ∃ intent, store.outbox.lookup eventId = some intent ∧ eventId ∉ store.appliedEvents ∧
      store.Current intent ∧ store.applyRefresh eventId = (.applied, { store with
        appliedEvents := insert eventId store.appliedEvents
        outbox := store.outbox.insert eventId { intent with state := "DISPATCHED" } }) := by
  unfold InMemoryMetadataStore.applyRefresh
  split
  · exact .inl ⟨rfl, nofun⟩
  next intent found =>
  split
  · exact .inl ⟨rfl, nofun⟩
  next unapplied =>
  split
  · exact .inl ⟨rfl, nofun⟩
  next current =>
  exact .inr ⟨intent, found, unapplied, not_not.mp current, rfl⟩

theorem perform_change (call : Call) (store : InMemoryMetadataStore) :
    Change identities store call (perform hashing identities call store).2 := by
  cases call with
  | claim day95 chunks operation attempt =>
    simp only [perform]
    rcases @claim_cases hashing day95 chunks operation attempt store with
      ⟨same, _⟩ | ⟨existing, prior, admissible, written⟩
    · rw [same]
      exact .same
    · rw [written]
      exact .claimed existing prior admissible
  | persist day95 chunks decision contract =>
    simp only [perform]
    rcases persist_cases day95 chunks decision contract store with
      ⟨same, _⟩ | ⟨_, given, current, fingerprint, fresh, _, written⟩
    · rw [same]
      exact .same
    · rw [written]
      exact .committed given current fingerprint fresh
  | applyRefresh eventId =>
    simp only [perform]
    rcases applyRefresh_cases eventId store with ⟨same, _⟩ | ⟨_, found, _, _, written⟩
    · rw [same]
      exact .same
    · rw [written]
      exact .applied found

end Changes

end BackendHandbook.Metadata
