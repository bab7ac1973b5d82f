import BackendHandbook.Chunking.SelectionHistory

/-! The fence of a document's selection: it is the fence of the claim that selected, which counts
the attempts of one operation. -/

namespace BackendHandbook.Chunking

open Ingestion Run ChunkSetCommitter InMemoryChunkSetStore

section Fence

variable {hashing : Hashing} {tokenizer : TokenizerPort} {identities : IdentityHashing}

def InMemoryChunkSetStore.fenceOf (store : InMemoryChunkSetStore) (key : String × String) : Nat :=
  ((store.selections.lookup key).map (·.fence)).getD 0

def FenceKept (e : Event InMemoryChunkSetStore Call Response) : Prop :=
  ∀ key, e.before.fenceOf key ≤ e.after.fenceOf key

/-- A selection that passes every check replaces one that was made under more attempts than the
claimed operation has had. -/
def Undercuts (textHash : String → String) (identities : IdentityHashing) :
    Call → InMemoryChunkSetStore → Prop
  | .select day95 chunkSetId expectedSelectedId expectedSelectionRevision
      expectedDocumentStateVersion expectedDocumentFence claim, store =>
      ∃ chunkSet previous, Admitted textHash identities day95 chunkSetId expectedSelectedId
          expectedSelectionRevision expectedDocumentStateVersion expectedDocumentFence claim store
          chunkSet ∧
        store.selections.lookup chunkSet.operation.selectionKey = some previous ∧
        claim.attempt.attemptNumber < previous.fence
  | _, _ => False

def FencesCount (store : InMemoryChunkSetStore) : Prop :=
  ∀ operationId claim, store.claims.lookup operationId = some claim →
    claim.fence = claim.attempt.attemptNumber

variable {store : InMemoryChunkSetStore}

theorem fencesCount_change {call : Call} {after : InMemoryChunkSetStore}
    (counts : FencesCount store)
    (change : Change hashing tokenizer identities store call after) : FencesCount after := by
  cases change with
  | same | committed | selected | dispatched => exact counts
  | @claimed _ operation attempt _ _ admissible =>
    intro operationId claim found
    rw [Dict.lookup_insert_eq] at found
    split at found
    · cases found
      cases previous : store.claims.lookup operation.operationId with
      | none =>
        rw [previous] at admissible
        simp only [attemptAdmissible, Bool.and_eq_true, beq_iff_eq] at admissible
        exact admissible.1.symm
      | some before =>
        rw [previous] at admissible
        simp only [attemptAdmissible, Bool.and_eq_true, beq_iff_eq] at admissible
        have count := counts _ before previous
        change before.fence + 1 = attempt.attemptNumber
        omega
    · exact counts operationId claim found

theorem fenceOf_writeSelection {operation : ChunkingOperationIdentity} {chunkSetId : String}
    {revision fence : Nat} (key : String × String) :
    (writeSelection identities operation chunkSetId revision fence store).2.fenceOf key =
      if key = operation.selectionKey then fence else store.fenceOf key := by
  unfold fenceOf writeSelection
  rw [Dict.lookup_insert_eq]
  split
  · rfl
  · rfl

theorem fenceKept_iff (call : Call) (counts : FencesCount store) :
    FenceKept (event (perform hashing tokenizer identities) store call) ↔
      ¬ Undercuts hashing.text identities call store := by
  have change : Change hashing tokenizer identities store call
      (perform hashing tokenizer identities call store).2 := perform_change call store
  have quiet : (perform hashing tokenizer identities call store).2.selections =
      store.selections → FenceKept (event (perform hashing tokenizer identities) store call) := by
    intro same key
    change store.fenceOf key ≤
      (perform hashing tokenizer identities call store).2.fenceOf key
    unfold fenceOf
    rw [same]
  cases call with
  | claim | persist | markOutboxDispatched =>
    exact iff_of_true (quiet (quiet_change change id).1) id
  | select day95 chunkSetId expectedSelectedId expectedSelectionRevision
      expectedDocumentStateVersion expectedDocumentFence claim =>
      constructor
      · rintro kept ⟨chunkSet, previous, admitted, found, fewer⟩
        have lowered := kept chunkSet.operation.selectionKey
        simp only [event, perform, select_of_admitted admitted] at lowered
        rw [fenceOf_writeSelection, if_pos rfl, counts _ claim admitted.current] at lowered
        unfold fenceOf at lowered
        rw [found] at lowered
        exact absurd lowered (Nat.not_le_of_lt fewer)
      · intro enough
        rcases select_cases hashing.text identities day95 chunkSetId expectedSelectedId
            expectedSelectionRevision expectedDocumentStateVersion expectedDocumentFence claim store
          with ⟨same, _⟩ | ⟨chunkSet, admitted, written⟩
        · exact quiet (congrArg (·.selections) same)
        · intro key
          simp only [event, perform, written]
          rw [fenceOf_writeSelection]
          split
          · next here =>
            subst here
            unfold fenceOf
            cases found : store.selections.lookup chunkSet.operation.selectionKey with
            | none => exact Nat.zero_le _
            | some previous =>
              have fence := counts _ claim admitted.current
              have more : ¬ claim.attempt.attemptNumber < previous.fence :=
                fun fewer => enough ⟨chunkSet, previous, admitted, found, fewer⟩
              change previous.fence ≤ claim.fence
              omega
          · exact le_rfl

/-- Over any run from the empty store, the fence of no document goes backwards just when no
selection undercuts the one it replaces. -/
theorem selection_fence_iff (calls : List Call) :
    (∀ e ∈ trace (perform hashing tokenizer identities) {} calls, FenceKept e) ↔
      ∀ e ∈ trace (perform hashing tokenizer identities) {} calls,
        ¬ Undercuts hashing.text identities e.call e.before := by
  have counts : ∀ e ∈ trace (perform hashing tokenizer identities) {} calls,
      FencesCount e.before := by
    intro e member
    apply (kept_trace (perform hashing tokenizer identities) FencesCount {} calls _ _ e member).1
    · intro other inside count
      rw [(mem_trace_performed inside).2]
      exact fencesCount_change count (perform_change other.call other.before)
    · intro operationId claim found
      simp at found
  constructor
  · intro kept e member
    apply (fenceKept_iff e.call (counts e member)).mp
    rw [← mem_trace_event _ _ _ e member]
    exact kept e member
  · intro enough e member
    rw [mem_trace_event _ _ _ e member]
    exact (fenceKept_iff e.call (counts e member)).mpr (enough e member)

end Fence

namespace Sample

-- Short digests that keep apart what the run below hashes.
def plain : IdentityHashing :=
  { resultKey := fun (_, _, _, _, _, fingerprint) => fingerprint
    chunkId := fun (chunkSetId, _, _) => chunkSetId
    event := fun (_, _, chunkSetId) => chunkSetId }

def second : ChunkingOperationIdentity := chunking "op-chunk-b" (contract .identityV1 2)

def secondClaim : ChunkingClaim := ⟨second, attempted second 1 "request-3", 1, 1⟩

def reselecting : List Call :=
  [.claim day95 first (attempted first 1 "request-1"), .claim day95 first firstClaim.attempt,
   .persist day95 (decision (contract .identityV1 1) firstClaim) (contract .identityV1 1),
   .select day95 (chunkSetIdOf plain first) none 0 2 2 firstClaim,
   .claim day95 second secondClaim.attempt,
   .persist day95 (decision (contract .identityV1 2) secondClaim) (contract .identityV1 2)]

/-- The second operation of the document is selected at its first attempt. -/
def undercutting : Call :=
  .select day95 (chunkSetIdOf plain second) (some (chunkSetIdOf plain first)) 1 2 2 secondClaim

/-- The fence of the document falls from two to one. -/
theorem fence_falls : ¬ ∀ e ∈ trace (perform contractHashing ClassroomTokenizer.port plain) {}
      (reselecting ++ [undercutting]), FenceKept e := by
  intro kept
  have last := event_mem_trace (perform contractHashing ClassroomTokenizer.port plain) {}
    reselecting [] undercutting
  have fences := kept _ last first.selectionKey
  revert fences
  decide +kernel

end Sample

end BackendHandbook.Chunking
