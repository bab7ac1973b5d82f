import BackendHandbook.Embedding.Batching
import BackendHandbook.Vector.Sealing

/-! Vector write plans: the points of a generation in the order of their identities, in batches of
one tenant and one generation. -/

namespace BackendHandbook.Vector

open Chunking Fallible Sorting Batching

/-- A point, over the finite numbers that its vector may have. -/
structure VectorPoint (F : Type) where
  (pointId generationId tenantId embeddingId chunkId : String)
  vector : List F
  payload : List (String × String)
  identity : pointId ≠ "" ∧ generationId ≠ "" ∧ tenantId ≠ "" ∧ embeddingId ≠ "" ∧ chunkId ≠ ""
  vector_nonEmpty : vector ≠ []
  payload_canonical : (payload.map Prod.fst).Pairwise (· < ·)
  deriving DecidableEq

structure VectorWriteBatch (F : Type) where
  batchId : String
  ordinal : Nat
  (tenantId generationId writeNamespace : String)
  points : List (VectorPoint F)
  estimatedBytes : Nat

structure VectorBatchPlan (F : Type) where
  operationId : String
  batches : List (VectorWriteBatch F)
  pointCount : Nat
  checksum : String

inductive VectorBatchPlanError
  | raised (message : String)

/-- The digests of the planner, one function for each shape that is hashed. -/
structure PlanHashing extends VectorHashing where
  writeNamespace : String × String × String × String → String
  batch : String × Nat × String × List String → String
  checksum : List ((String × Nat × String × String) × String × List String × Nat) → String

section Model

variable {F : Type} (hashing : PlanHashing)

def pointSize (point : VectorPoint F) : Nat :=
  ([point.pointId, point.generationId, point.tenantId, point.embeddingId, point.chunkId].map
      String.utf8ByteSize).sum +
    (point.payload.map fun entry => entry.1.utf8ByteSize + entry.2.utf8ByteSize).sum +
    4 * point.vector.length

def VectorIndexContract.ofPoints (contract : VectorIndexContract) :
    Batching.Limits (VectorPoint F) Nat where
  maxItems := contract.batchMaxItems
  size := pointSize
  maxSize := contract.batchMaxBytes

def closeWrite (contract : VectorIndexContract) (operationId generationId : String) (ordinal : Nat)
    (points : List (VectorPoint F)) (size : Nat) : VectorWriteBatch F where
  batchId := "vector-batch:" ++ hashing.batch
    (operationId, ordinal, contract.fingerprint hashing.toVectorHashing, points.map (·.pointId))
  ordinal
  tenantId := contract.tenantId
  generationId
  writeNamespace := stableHash (hashing.writeNamespace (contract.namespaceSchemaVersion,
    contract.tenantId, generationId, contract.fingerprint hashing.toVectorHashing))
  points
  estimatedBytes := size

def planChecksum (batches : List (VectorWriteBatch F)) : String :=
  stableHash (hashing.checksum (batches.map fun batch =>
    ((batch.batchId, batch.ordinal, batch.tenantId, batch.generationId), batch.writeNamespace,
      batch.points.map (·.pointId), batch.estimatedBytes)))

variable [DecidableEq F]

def validateBatchPlan (plan : VectorBatchPlan F) (expectedPoints : List (VectorPoint F)) :
    Except VectorBatchPlanError Unit :=
  if plan.batches.isEmpty then .error (.raised "MISSING_VECTOR_BATCH")
  else if ¬ (plan.batches.map (·.batchId)).Nodup then
    .error (.raised "DUPLICATE_VECTOR_BATCH_ID")
  else if plan.batches.map (·.ordinal) ≠ List.range plan.batches.length then
    .error (.raised "NON_CANONICAL_VECTOR_BATCH_ORDINAL")
  else if plan.batches.flatMap (·.points) ≠ sortBy (·.pointId) expectedPoints ∨
      plan.pointCount ≠ (sortBy (·.pointId) expectedPoints).length then
    .error (.raised "MISSING_OR_UNKNOWN_VECTOR_BATCH_POINT")
  else if ∃ batch ∈ plan.batches, ∃ point ∈ batch.points,
      point.tenantId ≠ batch.tenantId ∨ point.generationId ≠ batch.generationId then
    .error (.raised "CROSS_TENANT_OR_GENERATION_BATCH")
  else .ok ()

def planVectorBatches (points : List (VectorPoint F)) (contract : VectorIndexContract)
    (operationId : String) : Except VectorBatchPlanError (VectorBatchPlan F) :=
  match sortBy (·.pointId) points with
  | [] => .error (.raised "EMPTY_VECTOR_BUILD_INPUT")
  | first :: rest =>
    if ¬ ((first :: rest).map (·.pointId)).Nodup then
      .error (.raised "DUPLICATE_VECTOR_POINT_ID")
    else if (∃ point ∈ first :: rest, point.tenantId ≠ contract.tenantId) ∨
        ∃ point ∈ first :: rest, point.generationId ≠ first.generationId then
      .error (.raised "CROSS_TENANT_OR_GENERATION_BATCH_INPUT")
    else do
      let batches ← Batching.plan contract.ofPoints
        (closeWrite hashing contract operationId first.generationId)
        (fun point => .raised ("SINGLE_VECTOR_POINT_EXCEEDS_BATCH_LIMIT:" ++ point.pointId))
        (first :: rest)
      let plan := ⟨operationId, batches, (first :: rest).length, planChecksum hashing batches⟩
      validateBatchPlan plan (first :: rest)
      return plan

def WithinBatch (contract : VectorIndexContract) (points : List (VectorPoint F)) : Prop :=
  points.length ≤ contract.batchMaxItems ∧ (points.map pointSize).sum ≤ contract.batchMaxBytes

/-- The points are of the tenant of the contract and of one generation, each with an identity of
its own and small enough for a batch. -/
def Plannable (points : List (VectorPoint F)) (contract : VectorIndexContract) : Prop :=
  points ≠ [] ∧ (points.map (·.pointId)).Nodup ∧
    (∀ point ∈ points, point.tenantId = contract.tenantId) ∧
    (∀ point ∈ points, ∀ other ∈ points, point.generationId = other.generationId) ∧
    ∀ point ∈ points, pointSize point ≤ contract.batchMaxBytes

structure VectorBatches (points : List (VectorPoint F)) (contract : VectorIndexContract)
    (operationId : String) : Prop where
  raises : (∃ raised, planVectorBatches hashing points contract operationId = .error raised) ↔
    ¬ Plannable points contract
  packed : ∀ plan, planVectorBatches hashing points contract operationId = .ok plan →
    Batching.Packed (WithinBatch contract) (sortBy (·.pointId) points)
        (plan.batches.map (·.points)) ∧
      ∀ batch ∈ plan.batches, batch.estimatedBytes = (batch.points.map pointSize).sum
  any_order : ∀ others : List (VectorPoint F), others.Perm points →
    planVectorBatches hashing others contract operationId =
      planVectorBatches hashing points contract operationId
  accepted : ∀ plan, planVectorBatches hashing points contract operationId = .ok plan →
    validateBatchPlan plan points = .ok ()

end Model

section Plans

variable {F : Type} {hashing : PlanHashing} {contract : VectorIndexContract}
  {operationId generationId : String} {points : List (VectorPoint F)}

/-- The plan for points in order that may be written together. -/
def planned (hashing : PlanHashing) (contract : VectorIndexContract)
    (operationId generationId : String) (ordered : List (VectorPoint F)) : VectorBatchPlan F :=
  let batches := closeAll contract.ofPoints
    (closeWrite hashing contract operationId generationId)
    (fill contract.ofPoints.Fits [] ordered)
  ⟨operationId, batches, ordered.length, planChecksum hashing batches⟩

theorem points_planned (ordered : List (VectorPoint F)) :
    (planned hashing contract operationId generationId ordered).batches.map (·.points) =
      fill contract.ofPoints.Fits [] ordered :=
  map_closeAll _ _ (fun _ _ _ => rfl) _

variable {ordered : List (VectorPoint F)}

theorem mem_planned {batch : VectorWriteBatch F}
    (listed : batch ∈ (planned hashing contract operationId generationId ordered).batches) :
    batch = closeWrite hashing contract operationId generationId batch.ordinal batch.points
      (batch.points.map pointSize).sum := by
  obtain ⟨index, _, rfl⟩ := List.mem_mapIdx.mp listed
  rfl

theorem ordinals_planned (ordered : List (VectorPoint F)) :
    (planned hashing contract operationId generationId ordered).batches.map (·.ordinal) =
      List.range (planned hashing contract operationId generationId ordered).batches.length :=
  ordinals_closeAll _ _ (fun _ _ _ => rfl) _

theorem batchIds_planned (injective : Function.Injective hashing.batch)
    (ordered : List (VectorPoint F)) :
    ((planned hashing contract operationId generationId ordered).batches.map
      (·.batchId)).Nodup := by
  have distinct := List.nodup_range (n :=
    (planned hashing contract operationId generationId ordered).batches.length)
  rw [← ordinals_planned] at distinct
  refine List.Nodup.map_on (fun first here second there same => ?_) distinct.of_map
  apply List.inj_on_of_nodup_map distinct here there
  have texts := (congrArg (·.batchId) (mem_planned here)).symm.trans
    (same.trans (congrArg (·.batchId) (mem_planned there)))
  have digests := injective ((String.append_right_inj _).mp texts)
  exact congrArg (·.2.1) digests

variable [DecidableEq F]

theorem planned_accepted (injective : Function.Injective hashing.batch)
    (sorted : sortBy (·.pointId) points = ordered)
    (filled : points ≠ []) (tenant : ∀ point ∈ points, point.tenantId = contract.tenantId)
    (generation : ∀ point ∈ points, point.generationId = generationId) :
    validateBatchPlan (planned hashing contract operationId generationId ordered) points =
      .ok () := by
  have perm := sortBy_perm (·.pointId) points
  rw [sorted] at perm
  have flat : (planned hashing contract operationId generationId ordered).batches.flatMap
      (·.points) = ordered := by
    rw [List.flatMap_def, points_planned, fill_flatten, List.nil_append]
  unfold validateBatchPlan
  rw [if_neg, if_neg, if_neg, if_neg, if_neg]
  · rintro ⟨batch, listed, point, inside, other⟩
    have member : point ∈ points := by
      rw [← perm.mem_iff, ← flat]
      exact List.mem_flatMap.mpr ⟨batch, listed, inside⟩
    rw [mem_planned listed] at other
    rcases other with other | other
    · exact other (tenant point member)
    · exact other (generation point member)
  · rw [sorted]
    rintro (changed | changed)
    · exact changed flat
    · exact changed rfl
  · exact not_not.mpr (ordinals_planned _)
  · exact not_not.mpr (batchIds_planned injective _)
  · intro none
    rw [List.isEmpty_iff.mp none] at flat
    rw [← flat] at perm
    exact filled (List.nil_perm.mp perm)

/-- A plan is made exactly for points that may be written together, and it is the greedy one. -/
theorem planVectorBatches_eq_ok (injective : Function.Injective hashing.batch)
    {plan : VectorBatchPlan F} : planVectorBatches hashing points contract operationId = .ok plan ↔
      Plannable points contract ∧ ∃ first ∈ points,
        plan = planned hashing contract operationId first.generationId
          (sortBy (·.pointId) points) := by
  have perm := sortBy_perm (·.pointId) points
  have ordered : sortBy (·.pointId) (sortBy (·.pointId) points) = sortBy (·.pointId) points :=
    sortBy_of_pairwise _ (pairwise_sortBy _ points)
  have same : Plannable points contract ↔ Plannable (sortBy (·.pointId) points) contract := by
    simp [Plannable, (perm.map (·.pointId)).nodup_iff, ← List.length_pos_iff]
  simp only [same, ← perm.mem_iff]
  unfold planVectorBatches
  generalize sortBy (·.pointId) points = sorted at ordered
  cases sorted with
  | nil => simp
  | cons first =>
    rw [ite_error_eq_ok, ite_error_eq_ok, not_not, not_or, bind_eq_ok]
    constructor
    · rintro ⟨distinct, ⟨tenant, generation⟩, batches, packed, validated⟩
      obtain ⟨small, rfl⟩ := plan_eq_ok.mp packed
      obtain ⟨_, _, same⟩ := bind_eq_ok.mp validated
      cases same
      push Not at tenant generation
      refine ⟨⟨List.cons_ne_nil _ _, distinct, tenant, fun point here other there => ?_, small⟩,
        first, List.mem_cons_self, rfl⟩
      rw [generation point here, generation other there]
    · rintro ⟨⟨filled, distinct, tenant, generation, small⟩, other, listed, rfl⟩
      rw [generation other listed first List.mem_cons_self]
      refine ⟨distinct, ?_, _, plan_eq_ok.mpr ⟨small, rfl⟩, bind_eq_ok.mpr
        ⟨(), ?_, rfl⟩⟩
      · push Not
        exact ⟨tenant, fun point here => generation point here first List.mem_cons_self⟩
      · exact planned_accepted injective ordered filled tenant fun point here =>
          generation point here first List.mem_cons_self

theorem planVectorBatches_duplicate (duplicate : ¬ (points.map (·.pointId)).Nodup) :
    planVectorBatches hashing points contract operationId =
      .error (.raised "DUPLICATE_VECTOR_POINT_ID") := by
  have perm := sortBy_perm (·.pointId) points
  rw [← (perm.map (·.pointId)).nodup_iff] at duplicate
  unfold planVectorBatches
  generalize sortBy (·.pointId) points = sorted at duplicate
  cases sorted with
  | nil => exact absurd List.nodup_nil duplicate
  | cons => exact if_pos duplicate

theorem vector_batches (injective : Function.Injective hashing.batch) :
    VectorBatches hashing points contract operationId := by
  constructor
  · have done : (∃ raised, planVectorBatches hashing points contract operationId = .error raised) ↔
        ¬ ∃ plan, planVectorBatches hashing points contract operationId = .ok plan := by
      cases planVectorBatches hashing points contract operationId <;> simp
    rw [done, not_iff_not]
    simp only [planVectorBatches_eq_ok injective]
    constructor
    · rintro ⟨_, plannable, _⟩
      exact plannable
    · intro plannable
      obtain ⟨first, listed⟩ := List.exists_mem_of_ne_nil _ plannable.1
      exact ⟨_, plannable, first, listed, rfl⟩
  · intro plan done
    obtain ⟨plannable, first, _, rfl⟩ := (planVectorBatches_eq_ok injective).mp done
    rw [points_planned]
    refine ⟨@plan_packed _ _ _ contract.ofPoints _ _ _ _ contract.batch_pos.1
      fun point listed => ?_,
      fun batch listed => congrArg (·.estimatedBytes) (mem_planned listed)⟩
    exact plannable.2.2.2.2 point ((mem_sortBy _ _ _).mp listed)
  · intro others perm
    have same := (perm.map (·.pointId)).nodup_iff
    by_cases distinct : (points.map (·.pointId)).Nodup
    · unfold planVectorBatches
      rw [sortBy_eq_of_perm perm fun _ here _ there =>
        List.inj_on_of_nodup_map distinct here there]
    · rw [planVectorBatches_duplicate distinct, planVectorBatches_duplicate (same.not.mpr distinct)]
  · intro plan done
    obtain ⟨plannable, first, listed, rfl⟩ := (planVectorBatches_eq_ok injective).mp done
    exact planned_accepted injective rfl plannable.1 plannable.2.2.1 fun point here =>
      plannable.2.2.2.1 point here first listed

/-- Both planners are lossless and minimal, with batch identities that tell plans apart. -/
theorem batch_plans {F : Type} [DecidableEq F] (digest : String × Nat × List String → String)
    (hashing : PlanHashing) (injective : Function.Injective hashing.batch) :
    (∀ items limits operationId, Embedding.EmbeddingBatches digest items limits operationId) ∧
      ∀ (points : List (VectorPoint F)) contract operationId,
        VectorBatches hashing points contract operationId :=
  ⟨Embedding.embedding_batches digest, fun _ _ _ => vector_batches injective⟩

end Plans

namespace Sample

def planHashing : PlanHashing :=
  { hashing with
    writeNamespace := fun (version, tenantId, generationId, fingerprint) =>
      Text.record [version, tenantId, generationId, fingerprint]
    batch := fun (operationId, ordinal, fingerprint, pointIds) =>
      Text.record (operationId :: toString ordinal :: fingerprint :: pointIds)
    checksum := fun batches => Text.record (batches.map fun batch => batch.1.1) }

theorem planHashing_injective : Function.Injective planHashing.batch := by
  rintro ⟨operationId, ordinal, fingerprint, pointIds⟩ ⟨_, other, _, _⟩ same
  have fields := Text.record_injective same
  simp only [List.cons.injEq] at fields
  obtain ⟨rfl, texts, rfl, rfl⟩ := fields
  rw [Text.toString_injective texts]

theorem batch_plans_sample : (∀ items limits operationId,
    Embedding.EmbeddingBatches (fun batch => Text.record batch.2.2) items limits operationId) ∧
      ∀ (points : List (VectorPoint Int)) contract operationId,
        VectorBatches planHashing points contract operationId :=
  batch_plans _ planHashing planHashing_injective

def point : VectorPoint Int :=
  { pointId := "point-1", generationId := "generation-1", tenantId := "tenant-a"
    embeddingId := "embedding-1", chunkId := "chunk-1", vector := [1, 0], payload := []
    identity := by decide, vector_nonEmpty := by decide, payload_canonical := .nil }

/-- Two points with one identity are refused, although neither is too large. -/
theorem repeated_point_raises : ¬ ∀ points : List (VectorPoint Int),
    (∃ raised, planVectorBatches planHashing points contract "build-1" = .error raised) ↔
      points = [] ∨ ∃ point ∈ points, contract.batchMaxBytes < pointSize point := by
  intro exactly
  have raises := (exactly [point, point]).mp ⟨_, planVectorBatches_duplicate (by decide)⟩
  exact absurd raises (by decide +kernel)

end Sample

end BackendHandbook.Vector
