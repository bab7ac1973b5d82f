import BackendHandbook.Foundation.Dict
import BackendHandbook.Foundation.Sorting
import BackendHandbook.Ingestion.Contracts
import Mathlib.Algebra.Order.Ring.Rat
import Mathlib.Data.Prod.Lex
import Mathlib.Data.String.Basic

/-! Chunking identities and immutable value contracts: a candidate is a proposal, and its
manifest binds text, source, order and overlap. -/

namespace BackendHandbook.Chunking

open Ingestion Sorting

/-- What the chunking code raises: a refusal with its safe reason, or an error of a value. -/
inductive Raised
  | chunkGenerationError (safeReason : String)
  | valueError (message : String)
  | indexError
  deriving DecidableEq

inductive ChunkStrategy
  | fixedToken | recursive | sectionAware
  deriving DecidableEq

inductive OversizedPolicy
  | failClosed | boundedFallback
  deriving DecidableEq

inductive NormalizationVersion
  | identityV1 | collapseHorizontalSpaceV1

@[ext]
structure TokenizerContract where
  (name version : String)
  nonEmpty : name ≠ "" ∧ version ≠ ""

instance : DecidableEq TokenizerContract := fun _ _ =>
  decidable_of_iff _ TokenizerContract.ext_iff.symm

structure ChunkingContract where
  strategy : ChunkStrategy
  strategyVersion : String
  tokenizer : TokenizerContract
  normalizationVersion : NormalizationVersion
  (softTargetTokens hardMaxTokens minUsefulTokens overlapTokens maxChunkCount maxInputChars
   maxOutputChars : Nat)
  deadlineSeconds : ℚ
  oversizedPolicy : OversizedPolicy
  maxTokenWorkUnits : Nat := 1000000
  maxEstimatedMemoryBytes : Nat := 64000000
  boundaryPolicyVersion : String := "markdown-structure-v1"
  versions_nonEmpty : strategyVersion ≠ "" ∧ boundaryPolicyVersion ≠ ""
  target_pos : 0 < softTargetTokens
  target_le : softTargetTokens ≤ hardMaxTokens
  useful_pos : 0 < minUsefulTokens
  useful_le : minUsefulTokens ≤ hardMaxTokens
  overlap_lt : overlapTokens < softTargetTokens
  budgets_pos : 0 < maxChunkCount ∧ 0 < maxInputChars ∧ 0 < maxOutputChars ∧
    0 < maxTokenWorkUnits ∧ 0 < maxEstimatedMemoryBytes ∧ 0 < deadlineSeconds

@[ext]
structure ChunkingOperationIdentity where
  version : DocumentVersionIdentity
  (sourceArtifactId parsedArtifactId operationId idempotencyKey contractFingerprint : String)
  nonEmpty : sourceArtifactId ≠ "" ∧ parsedArtifactId ≠ "" ∧ operationId ≠ "" ∧
    idempotencyKey ≠ "" ∧ contractFingerprint ≠ ""

instance : DecidableEq ChunkingOperationIdentity := fun _ _ =>
  decidable_of_iff _ ChunkingOperationIdentity.ext_iff.symm

@[ext]
structure ChunkingAttemptIdentity where
  operationId : String
  attemptNumber : Nat
  requestId : String
  generation : Nat
  nonEmpty : operationId ≠ "" ∧ requestId ≠ ""
  attempt_pos : 0 < attemptNumber ∧ 0 < generation

instance : DecidableEq ChunkingAttemptIdentity := fun _ _ =>
  decidable_of_iff _ ChunkingAttemptIdentity.ext_iff.symm

@[ext]
structure SourceSegment where
  (start end_ : Nat)
  role : String
  nonEmpty : start < end_
  role_nonEmpty : role ≠ ""

instance : DecidableEq SourceSegment := fun _ _ => decidable_of_iff _ SourceSegment.ext_iff.symm

structure ChunkCandidate where
  ordinal : Int
  text : String
  sourceSegments : List SourceSegment
  tokenCount : Int
  (contentHash boundaryReason : String)
  overlapLeftTokens : Int := 0
  overlapRightTokens : Int := 0
  joiner : String := ""
  deriving DecidableEq

structure ChunkManifest where
  chunkCount : Int
  (sourceChecksum contractFingerprint chunksChecksum : String)
  deriving DecidableEq

structure ChunkSetCandidate where
  operation : ChunkingOperationIdentity
  attempt : ChunkingAttemptIdentity
  experimentId : String
  chunks : List ChunkCandidate
  manifest : ChunkManifest
  deriving DecidableEq

structure Chunk where
  (chunkId chunkSetId : String)
  candidate : ChunkCandidate

structure ChunkSet where
  chunkSetId : String
  operation : ChunkingOperationIdentity
  experimentId : String
  manifest : ChunkManifest
  chunks : List Chunk

/-- The SHA-256 digests of the code: of a text, and of the JSON of each value it is taken of. -/
structure Hashing where
  text : String → String
  contract : ChunkingContract → String
  chunks : List ChunkCandidate → String

def stableHash (digest : String) : String := "sha256:" ++ digest

theorem stableHash_injective : Function.Injective stableHash := by
  intro first second same
  have texts := congrArg String.toList same
  simp only [stableHash, String.toList_append] at texts
  exact String.toList_injective (List.append_cancel_left texts)

theorem stableHash_ne_empty (digest : String) : stableHash digest ≠ "" := by
  intro empty
  have texts := congrArg String.toList empty
  simp [stableHash] at texts

@[simp] theorem removeprefix_stableHash (digest : String) :
    Text.removeprefix "sha256:" (stableHash digest) = digest := by
  simp [Text.removeprefix, stableHash]

section Fingerprints

variable (hashing : Hashing)

def ChunkingContract.fingerprint (contract : ChunkingContract) : String :=
  stableHash (hashing.contract contract)

def candidateChunksChecksum (chunks : List ChunkCandidate) : String :=
  stableHash (hashing.chunks chunks)

end Fingerprints

namespace SourceSegment

/-- The constructor with its check, as the code calls it. -/
def make (start end_ : Nat) (role : String) : Except Raised SourceSegment :=
  if valid : start < end_ ∧ role ≠ "" then .ok ⟨start, end_, role, valid.1, valid.2⟩
  else .error (.valueError "source segment must be non-empty and non-negative")

theorem make_eq_ok {start end_ : Nat} {role : String} {segment : SourceSegment} :
    make start end_ role = .ok segment ↔
      segment.start = start ∧ segment.end_ = end_ ∧ segment.role = role := by
  unfold make
  constructor
  · intro made
    split at made
    · cases made
      exact ⟨rfl, rfl, rfl⟩
    · cases made
  · rintro ⟨rfl, rfl, rfl⟩
    rw [dif_pos ⟨segment.nonEmpty, segment.role_nonEmpty⟩]

def sortKey (segment : SourceSegment) : ℕ ×ₗ ℕ ×ₗ String :=
  toLex (segment.start, toLex (segment.end_, segment.role))

def sorted (segments : List SourceSegment) : List SourceSegment := sortBy sortKey segments

theorem sortKey_le_of_start_lt {first second : SourceSegment}
    (order : first.start < second.start) : sortKey first ≤ sortKey second := by
  rw [sortKey, sortKey, Prod.Lex.toLex_le_toLex]
  exact .inl order

theorem start_le_of_sortKey_le {first second : SourceSegment}
    (order : sortKey first ≤ sortKey second) : first.start ≤ second.start := by
  rw [sortKey, sortKey, Prod.Lex.toLex_le_toLex] at order
  rcases order with before | ⟨same, _⟩
  · exact Nat.le_of_lt before
  · exact Nat.le_of_eq same

end SourceSegment

/-! The durable facts of chunking: claims, chunk sets, and the selection of a document. -/

structure ChunkingClaim where
  operation : ChunkingOperationIdentity
  attempt : ChunkingAttemptIdentity
  (revision fence : Nat)

structure ChunkSelection where
  (tenantId documentId documentVersionId chunkSetId : String)
  (revision fence : Nat)

structure ChunkSelectionOutboxIntent where
  (eventId tenantId documentId documentVersionId chunkSetId : String)
  selectionRevision : Nat
  state : String := "PENDING"

structure InMemoryChunkSetStore where
  operations : Dict String ChunkingOperationIdentity := ∅
  idempotency : Dict (String × String) String := ∅
  claims : Dict String ChunkingClaim := ∅
  sets : Dict String ChunkSet := ∅
  resultKeys : Dict String String := ∅
  selections : Dict (String × String) ChunkSelection := ∅
  outbox : Dict String ChunkSelectionOutboxIntent := ∅

namespace InMemoryChunkSetStore

def readChunkSet (store : InMemoryChunkSetStore) (chunkSetId : String) : Option ChunkSet :=
  store.sets.lookup chunkSetId

def readSelection (store : InMemoryChunkSetStore) (identity : DocumentIdentity) :
    Option ChunkSelection :=
  store.selections.lookup (identity.tenantId, identity.documentId)

end InMemoryChunkSetStore

end BackendHandbook.Chunking
