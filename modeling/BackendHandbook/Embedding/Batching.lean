import BackendHandbook.Embedding.Contracts
import BackendHandbook.Foundation.Batching
import Mathlib.Algebra.GroupWithZero.Nat
import Mathlib.Algebra.Order.Monoid.Prod

/-! Provider batches: the items of an embedding run, split between chunks only. -/

namespace BackendHandbook.Embedding

open Chunking Fallible Batching

structure EmbeddingItem where
  chunkId : String
  ordinal : Nat
  (text contentHash : String)
  sourceSegments : List SourceSegment
  (tokenCount utf8Bytes : Nat)
  nonEmpty : chunkId ≠ "" ∧ text ≠ "" ∧ contentHash ≠ ""
  measured : 0 < tokenCount ∧ 0 < utf8Bytes

structure EmbeddingBatch where
  batchId : String
  ordinal : Nat
  items : List EmbeddingItem
  (totalTokens totalUtf8Bytes : Nat)

inductive BatchPlanRaised
  | batchPlanError (message : String)
  | assertionError (message : String)

/-- The tokens and the bytes of an item are measured together: one size is within another when both
are. -/
def BatchLimits.ofItems (limits : BatchLimits) : Batching.Limits EmbeddingItem (Nat × Nat) where
  maxItems := limits.maxItems
  size item := (item.tokenCount, item.utf8Bytes)
  maxSize := (limits.maxTokens, limits.maxUtf8Bytes)

section Model

variable (digest : String × Nat × List String → String)

def closeBatch (operationId : String) (ordinal : Nat) (items : List EmbeddingItem)
    (size : Nat × Nat) : EmbeddingBatch where
  batchId := "embedding-batch:" ++ digest (operationId, ordinal, items.map (·.chunkId))
  ordinal
  items
  totalTokens := size.1
  totalUtf8Bytes := size.2

def planBatches (items : List EmbeddingItem) (limits : BatchLimits) (operationId : String) :
    Except BatchPlanRaised (List EmbeddingBatch) :=
  if items.isEmpty then .error (.batchPlanError "EMPTY_EMBEDDING_INPUT")
  else do
    let batches ← plan limits.ofItems (closeBatch digest operationId)
      (fun item => .batchPlanError ("SINGLE_CHUNK_EXCEEDS_BATCH_LIMIT:" ++ item.chunkId)) items
    if (batches.flatMap (·.items)).map (·.chunkId) ≠ items.map (·.chunkId) then
      .error (.assertionError "batch planner changed exact Chunk order")
    else .ok batches

def WithinLimits (limits : BatchLimits) (items : List EmbeddingItem) : Prop :=
  items.length ≤ limits.maxItems ∧ (items.map (·.tokenCount)).sum ≤ limits.maxTokens ∧
    (items.map (·.utf8Bytes)).sum ≤ limits.maxUtf8Bytes

/-- The planner refuses what cannot be batched, and splits the rest in order into as few batches as
the limits allow. -/
structure EmbeddingBatches (items : List EmbeddingItem) (limits : BatchLimits)
    (operationId : String) : Prop where
  raises : (∃ raised, planBatches digest items limits operationId = .error raised) ↔
    items = [] ∨ ∃ item ∈ items, limits.maxTokens < item.tokenCount ∨
      limits.maxUtf8Bytes < item.utf8Bytes
  packed : ∀ batches, planBatches digest items limits operationId = .ok batches →
    Batching.Packed (WithinLimits limits) items (batches.map (·.items)) ∧
      ∀ batch ∈ batches, batch.totalTokens = (batch.items.map (·.tokenCount)).sum ∧
        batch.totalUtf8Bytes = (batch.items.map (·.utf8Bytes)).sum

end Model

section Plans

variable {digest : String × Nat × List String → String} {items : List EmbeddingItem}
  {limits : BatchLimits} {operationId : String}

theorem total_ofItems (items : List EmbeddingItem) : total limits.ofItems items =
    ((items.map (·.tokenCount)).sum, (items.map (·.utf8Bytes)).sum) := by
  induction items with
  | nil => rfl
  | cons item _ ih =>
    exact congrArg (limits.ofItems.size item + ·) ih

theorem fits_ofItems (limits : BatchLimits) : limits.ofItems.Fits = WithinLimits limits := by
  funext items
  rw [Batching.Limits.Fits, total_ofItems]
  rfl

theorem planBatches_eq_ok {batches : List EmbeddingBatch} :
    planBatches digest items limits operationId = .ok batches ↔
      items ≠ [] ∧ (∀ item ∈ items, limits.ofItems.size item ≤ limits.ofItems.maxSize) ∧
        batches = closeAll limits.ofItems (closeBatch digest operationId)
          (fill limits.ofItems.Fits [] items) := by
  unfold planBatches
  rw [ite_error_eq_ok, List.isEmpty_iff, bind_eq_ok]
  refine and_congr_right fun _ => ?_
  simp only [ite_error_eq_ok, plan_eq_ok]
  constructor
  · rintro ⟨planned, ⟨small, same⟩, _, ⟨⟩⟩
    exact ⟨small, same⟩
  · rintro ⟨small, rfl⟩
    refine ⟨_, ⟨small, rfl⟩, not_not.mpr ?_, rfl⟩
    rw [List.flatMap_def, map_closeAll _ _ fun _ _ _ => rfl, fill_flatten, List.nil_append]

theorem embedding_batches (digest : String × Nat × List String → String)
    (items : List EmbeddingItem) (limits : BatchLimits) (operationId : String) :
    EmbeddingBatches digest items limits operationId := by
  constructor
  · have done : (∃ raised, planBatches digest items limits operationId = .error raised) ↔
        ¬ ∃ batches, planBatches digest items limits operationId = .ok batches := by
      cases planBatches digest items limits operationId <;> simp
    rw [done]
    simp only [planBatches_eq_ok, exists_and_left, exists_eq, and_true]
    rw [not_and_or, not_not, not_forall]
    refine or_congr_right (exists_congr fun item => ?_)
    rw [Classical.not_imp]
    refine and_congr_right fun _ => ?_
    change ¬ (item.tokenCount ≤ limits.maxTokens ∧ item.utf8Bytes ≤ limits.maxUtf8Bytes) ↔ _
    rw [not_and_or, not_le, not_le]
  · intro batches planned
    obtain ⟨_, small, rfl⟩ := planBatches_eq_ok.mp planned
    rw [map_closeAll _ _ fun _ _ _ => rfl, ← fits_ofItems]
    refine ⟨plan_packed limits.limits_pos.1 small, fun batch listed => ?_⟩
    obtain ⟨index, _, rfl⟩ := List.mem_mapIdx.mp listed
    rw [total_ofItems]
    exact ⟨rfl, rfl⟩

end Plans

end BackendHandbook.Embedding
