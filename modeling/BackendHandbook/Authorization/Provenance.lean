import BackendHandbook.Chunking.Contracts
import BackendHandbook.Ingestion.ActivePointer

/-! The current provenance of a document: the selected chunk set, checked against the lifecycle
records and artifacts it was made from. -/

namespace BackendHandbook.Authorization

open Ingestion Chunking Text

inductive ProvenanceOutcome
  | valid | notAccessible | notCurrent | lineageIncomplete | checksumMismatch
  deriving DecidableEq

structure ChunkProvenance where
  (tenantId documentId documentVersionId sourceArtifactId sourceChecksum parsedArtifactId
   parsedChecksum chunkSetId chunkSetChecksum chunkId chunkContentHash : String)
  sourceSegments : List SourceSegment

structure CurrentRAGBinding where
  version : DocumentVersionIdentity
  (sourceArtifactId parsedArtifactId chunkSetId : String)
  chunkIds : List String
  (documentStateVersion documentFence selectionRevision selectionFence : Nat)

/-- A decision is valid just when it carries the complete current evidence. -/
structure ProvenanceDecision where
  outcome : ProvenanceOutcome
  safeReason : String
  binding : Option CurrentRAGBinding
  records : List ChunkProvenance
  chunkSet : Option ChunkSet
  valid_iff : outcome = .valid ↔ binding.isSome = true ∧ records ≠ [] ∧ chunkSet.isSome = true

/-- What is raised on the way to a decision. -/
inductive ProvenanceRaised
  | valueError (message : String)
  deriving DecidableEq

namespace CurrentRAGProvenanceValidator

def blocked (outcome : ProvenanceOutcome) (reason : String)
    (notValid : outcome ≠ .valid := by decide) : Except ProvenanceRaised ProvenanceDecision :=
  .ok
    { outcome, safeReason := reason, binding := none, records := [], chunkSet := none
      valid_iff := by simp [notValid] }

section Evaluate

variable (hashing : Hashing)

def validChunk (chunk : Chunk) (canonicalText : List Char) : Bool :=
  let candidate := chunk.candidate
  candidate.sourceSegments ≠ [] &&
    SourceSegment.sorted candidate.sourceSegments == candidate.sourceSegments &&
    candidate.sourceSegments.all (fun segment => segment.end_ ≤ canonicalText.length) &&
    sha256Text hashing.text candidate.text == candidate.contentHash

/-- The selected set is the document's, and its version is the one the head points at. -/
def selectionCurrent (document : DocumentIdentity) (head : DocumentHeadSnapshot)
    (selection : ChunkSelection) (operation : ChunkingOperationIdentity) : Prop :=
  operation.version.document = document ∧ selection.tenantId = document.tenantId ∧
    selection.documentId = document.documentId ∧
    selection.documentVersionId = operation.version.documentVersionId ∧
    head.activeVersionId = some operation.version.documentVersionId
  deriving Decidable

def lineageOk (version : DocumentVersionLifecycleRecord) (operation : ChunkingOperationIdentity)
    (parsed : ParsedArtifactDefinition) (source : SourceArtifactReference) : Prop :=
  parsed.version = operation.version ∧ source.version = operation.version ∧
    parsed.sourceArtifactId = source.sourceArtifactId ∧
    parsed.manifest.sourceArtifactId = source.sourceArtifactId ∧
    version.definition.sourceArtifactId = source.sourceArtifactId ∧
    parsed.manifest.sourceChecksumSha256 = source.checksumSha256
  deriving Decidable

def checksumsOk (parsed : ParsedArtifactDefinition) (chunkSet : ChunkSet) : Prop :=
  parsed.outputChecksumSha256 = sha256Text hashing.text parsed.canonicalText ∧
    parsed.manifest.outputChecksumSha256 = parsed.outputChecksumSha256 ∧
    chunkSet.manifest.sourceChecksum = parsed.outputChecksumSha256
  deriving Decidable

def provenanceOf (document : DocumentIdentity) (chunkSet : ChunkSet)
    (parsed : ParsedArtifactDefinition) (source : SourceArtifactReference) (chunk : Chunk) :
    ChunkProvenance :=
  { tenantId := document.tenantId, documentId := document.documentId
    documentVersionId := chunkSet.operation.version.documentVersionId
    sourceArtifactId := source.sourceArtifactId, sourceChecksum := source.checksumSha256
    parsedArtifactId := parsed.parsedArtifactId, parsedChecksum := parsed.outputChecksumSha256
    chunkSetId := chunkSet.chunkSetId, chunkSetChecksum := chunkSet.manifest.chunksChecksum
    chunkId := chunk.chunkId, chunkContentHash := chunk.candidate.contentHash
    sourceSegments := chunk.candidate.sourceSegments }

/-- The checks of the artifacts and chunks of a set that is selected. -/
def evaluateChunks (document : DocumentIdentity) (head : DocumentHeadSnapshot)
    (selection : ChunkSelection) (chunkSet : ChunkSet) (parsed : ParsedArtifactDefinition)
    (source : SourceArtifactReference) : Except ProvenanceRaised ProvenanceDecision :=
  if candidateChunksChecksum hashing (chunkSet.chunks.map (·.candidate)) ≠
      chunkSet.manifest.chunksChecksum then
    blocked .checksumMismatch "CHUNK_SET_MANIFEST_CHECKSUM_MISMATCH"
  else if chunkSet.chunks.any (fun chunk =>
      !validChunk hashing chunk parsed.canonicalText.toList) = true then
    blocked .checksumMismatch "CHUNK_SOURCE_SPAN_OR_CHECKSUM_MISMATCH"
  else
    let records := chunkSet.chunks.map (provenanceOf document chunkSet parsed source)
    if ¬ (records.map (·.chunkId)).Nodup then
      blocked .lineageIncomplete "CHUNK_PROVENANCE_OCCURRENCE_ID_CONFLICT"
    else if complete : records ≠ [] then
      .ok
        { outcome := .valid, safeReason := "CURRENT_SELECTED_CHUNK_PROVENANCE_VALID"
          binding := some
            { version := chunkSet.operation.version, sourceArtifactId := source.sourceArtifactId
              parsedArtifactId := parsed.parsedArtifactId, chunkSetId := chunkSet.chunkSetId
              chunkIds := records.map (·.chunkId), documentStateVersion := head.stateVersion
              documentFence := head.fenceToken, selectionRevision := selection.revision
              selectionFence := selection.fence }
          records
          chunkSet := some chunkSet
          valid_iff := by simp [complete] }
    else .error (.valueError "valid provenance requires complete current evidence")

def evaluate (day95 : Ingestion.Store) (chunks : InMemoryChunkSetStore)
    (document : DocumentIdentity) (expectedChunkSetId : Option String) :
    Except ProvenanceRaised ProvenanceDecision :=
  match day95.document? document with
  | none => blocked .notAccessible "CURRENT_RESOURCE_NOT_ACCESSIBLE"
  | some head =>
  match chunks.readSelection document with
  | none => blocked .notCurrent "CURRENT_CHUNK_SELECTION_MISSING"
  | some selection =>
  if expectedChunkSetId ≠ none ∧ some selection.chunkSetId ≠ expectedChunkSetId then
    blocked .notCurrent "SELECTED_CHUNK_SET_REVISION_CHANGED"
  else
  match chunks.readChunkSet selection.chunkSetId with
  | none => blocked .lineageIncomplete "SELECTED_CHUNK_SET_FACT_MISSING"
  | some chunkSet =>
  let operation := chunkSet.operation
  if ¬ selectionCurrent document head selection operation then
    blocked .notCurrent "DAY95_ACTIVE_VERSION_OR_DAY96_SELECTION_CHANGED"
  else
  match day95.version? operation.version with
  | none => blocked .lineageIncomplete "DAY95_LIFECYCLE_FACT_MISSING"
  | some version =>
  match day95.operation? version.definition.createdByOperationId with
  | none => blocked .lineageIncomplete "DAY95_LIFECYCLE_FACT_MISSING"
  | some ingestion =>
  let eligibility := evaluateDay96ChunkingEligibility head version ingestion
  if eligibility.outcome ≠ .eligible ∨
      eligibility.parsedArtifactId ≠ some operation.parsedArtifactId then
    blocked .notCurrent "DAY95_CURRENT_VERSION_NOT_ELIGIBLE"
  else
  match day95.parsedArtifacts.lookup operation.parsedArtifactId,
      day95.sourceArtifacts.lookup operation.sourceArtifactId with
  | some parsed, some source =>
    if ¬ lineageOk version operation parsed source then
      blocked .lineageIncomplete "SOURCE_PARSED_CHUNK_LINEAGE_BINDING_CONFLICT"
    else if ¬ checksumsOk hashing parsed chunkSet then
      blocked .checksumMismatch "PROVENANCE_ARTIFACT_CHECKSUM_MISMATCH"
    else evaluateChunks hashing document head selection chunkSet parsed source
  | _, _ => blocked .lineageIncomplete "SOURCE_OR_PARSED_ARTIFACT_BINDING_MISSING"

end Evaluate

end CurrentRAGProvenanceValidator

end BackendHandbook.Authorization
