import BackendHandbook.Chunking.Tokenizer
import BackendHandbook.Foundation.Coverage
import BackendHandbook.Foundation.Fallible
import BackendHandbook.Ingestion.ActivePointer
import Mathlib.Algebra.GroupWithZero.Nat

/-! Pure validation of a chunk set candidate against the canonical text: what passes is ready
for commit, and nothing durable is written. -/

namespace BackendHandbook.Chunking

open Ingestion Pieces Text Fallible Coverage SourceSegment

inductive ChunkValidationOutcome
  | readyForCommit | ineligible | bindingConflict | correlationConflict | manifestConflict
  | sourceSpanInvalid | coverageGap | tokenBudgetInvalid | overlapInvalid | contentMismatch
  deriving DecidableEq

/-- Only a ready decision contains a candidate. -/
structure ChunkValidationDecision where
  outcome : ChunkValidationOutcome
  safeReason : String
  candidate : Option ChunkSetCandidate
  ready_iff : outcome = .readyForCommit ↔ candidate.isSome = true

/-- What stops the validation. -/
structure Refusal where
  outcome : ChunkValidationOutcome
  safeReason : String
  notReady : outcome ≠ .readyForCommit := by decide

namespace ChunkSetCandidateValidator

def blocked (refusal : Refusal) : ChunkValidationDecision :=
  { outcome := refusal.outcome, safeReason := refusal.safeReason, candidate := none
    ready_iff := by simp [refusal.notReady] }

/-- The binding of the parsed artifact, its source and its operations to the version. -/
def bindingOk (version : DocumentVersionLifecycleRecord) (ingestion : IngestionOperationRecord)
    (parsed : ParsedArtifactDefinition) (source : SourceArtifactReference)
    (parsedArtifactId : Option String) (operation : ChunkingOperationIdentity) : Prop :=
  parsed.version = version.definition.identity ∧ source.version = parsed.version ∧
    source.sourceArtifactId = parsed.sourceArtifactId ∧
    source.checksumSha256 = parsed.manifest.sourceChecksumSha256 ∧
    parsed.sourceArtifactId = version.definition.sourceArtifactId ∧
    some parsed.parsedArtifactId = parsedArtifactId ∧
    parsed.manifest.tenantId = parsed.version.tenantId ∧
    parsed.manifest.documentId = parsed.version.documentId ∧
    parsed.manifest.documentVersionId = parsed.version.documentVersionId ∧
    parsed.manifest.sourceArtifactId = parsed.sourceArtifactId ∧
    parsed.manifest.operationId = ingestion.identity.operationId ∧
    parsed.manifest.idempotencyKey = ingestion.identity.idempotencyKey ∧
    parsed.manifest.parseContractVersion = version.definition.parseContractVersion ∧
    ingestion.identity.version = parsed.version ∧
    ingestion.identity.sourceArtifactId = parsed.sourceArtifactId ∧
    (∃ attempt ∈ ingestion.attempt, parsed.manifest.attemptNumber = attempt.attemptNumber ∧
      parsed.manifest.parserRequestId = attempt.parserRequestId ∧
      parsed.manifest.parserGeneration = attempt.parserGeneration) ∧
    operation.version = parsed.version ∧
    operation.sourceArtifactId = parsed.sourceArtifactId ∧
    operation.parsedArtifactId = parsed.parsedArtifactId
  deriving Decidable

def manifestOk (hashing : Hashing) (parsed : ParsedArtifactDefinition)
    (contract : ChunkingContract) (candidate : ChunkSetCandidate) : Prop :=
  parsed.outputChecksumSha256 = sha256Text hashing.text parsed.canonicalText ∧
    parsed.manifest.outputChecksumSha256 = parsed.outputChecksumSha256 ∧
    candidate.manifest.sourceChecksum = parsed.outputChecksumSha256 ∧
    candidate.manifest.contractFingerprint = contract.fingerprint hashing ∧
    candidate.manifest.chunkCount = candidate.chunks.length ∧
    candidate.manifest.chunksChecksum = candidateChunksChecksum hashing candidate.chunks
  deriving Decidable

def Separate (segments : List SourceSegment) : Prop :=
  ∀ pair ∈ segments.zip segments.tail, pair.1.end_ ≤ pair.2.start
  deriving Decidable

/-- One body, at the end, behind context of the two kinds, joined by newlines. -/
def roleOk (chunk : ChunkCandidate) (body : SourceSegment) : Prop :=
  body.role = "body" ∧ chunk.sourceSegments.countP (·.role == "body") = 1 ∧
    chunk.joiner = (if 1 < chunk.sourceSegments.length then "\n" else "") ∧
    ∀ segment ∈ chunk.sourceSegments,
      segment.role ∈ ["body", "heading-context", "table-header-context"]
  deriving Decidable

/-- The first body starts the text, and every other one goes on without a gap. -/
def progressOk (previous : Option SourceSegment) (body : SourceSegment) : Prop :=
  match previous with
  | none => body.start = 0
  | some before => body.start ≤ before.end_ ∧ before.end_ < body.end_

instance (previous : Option SourceSegment) (body : SourceSegment) :
    Decidable (progressOk previous body) := by
  unfold progressOk
  split <;> infer_instance

def contextOk (text : List Char) (segment : SourceSegment) : Prop :=
  let sourceText := lstrip (slice text segment.start segment.end_)
  ¬ (segment.role = "heading-context" ∧ sourceText.head? ≠ some '#') ∧
    ¬ (segment.role = "table-header-context" ∧ sourceText.head? ≠ some '|')
  deriving Decidable

def reconstructed (text : List Char) (version : NormalizationVersion) (chunk : ChunkCandidate) :
    List Char :=
  chunk.joiner.toList.intercalate
    (chunk.sourceSegments.map fun segment => segment.normalized text version)

def sharedTokens (tokenizer : TokenizerPort) (text : List Char) (version : NormalizationVersion)
    (previous chunk : ChunkCandidate) : Nat :=
  (previous.sourceSegments.flatMap fun a =>
    (chunk.sourceSegments.filter fun b => a.role == "body" && b.role == "body" &&
        decide (max a.start b.start < min a.end_ b.end_)).map fun b =>
      tokenizer.count
        (normalize (slice text (max a.start b.start) (min a.end_ b.end_)) version).text).sum

/-- The overlap that two neighbours declare is the one they have, within the contract; the
first chunk declares none. -/
def overlapOk (tokenizer : TokenizerPort) (contract : ChunkingContract) (text : List Char)
    (previous : Option ChunkCandidate) (chunk : ChunkCandidate) : Prop :=
  match previous with
  | none => chunk.overlapLeftTokens = 0
  | some before =>
    let overlap := sharedTokens tokenizer text contract.normalizationVersion before chunk
    (overlap : Int) = before.overlapRightTokens ∧ (overlap : Int) = chunk.overlapLeftTokens ∧
      overlap ≤ contract.overlapTokens

instance (tokenizer : TokenizerPort) (contract : ChunkingContract) (text : List Char)
    (previous : Option ChunkCandidate) (chunk : ChunkCandidate) :
    Decidable (overlapOk tokenizer contract text previous chunk) := by
  unfold overlapOk
  split <;> infer_instance

/-- What the loop over the chunks carries. -/
structure ScanState where
  ordinal : Nat := 0
  allSegments : List SourceSegment := []
  outputChars : Nat := 0
  previous : Option ChunkCandidate := none
  previousBody : Option SourceSegment := none

section Evaluate

variable (hashing : Hashing) (tokenizer : TokenizerPort)

def checkChunk (contract : ChunkingContract) (text : List Char) (state : ScanState)
    (chunk : ChunkCandidate) : Except Refusal ScanState :=
  match chunk.sourceSegments.getLast? with
  | none => .error ⟨.sourceSpanInvalid, "CHUNK_ORDINAL_OR_SEGMENTS_INVALID", by decide⟩
  | some body =>
    let actualTokens := tokenizer.count chunk.text.toList
    let outputChars := state.outputChars + chunk.text.toList.length
    if chunk.ordinal ≠ state.ordinal then
      .error ⟨.sourceSpanInvalid, "CHUNK_ORDINAL_OR_SEGMENTS_INVALID", by decide⟩
    else if SourceSegment.sorted chunk.sourceSegments ≠ chunk.sourceSegments then
      .error ⟨.sourceSpanInvalid, "UNSORTED_SOURCE_SEGMENTS", by decide⟩
    else if ¬ Separate chunk.sourceSegments then
      .error ⟨.sourceSpanInvalid, "OVERLAPPING_SEGMENTS_WITHIN_CHUNK", by decide⟩
    else if ¬ roleOk chunk body then
      .error ⟨.sourceSpanInvalid, "SEGMENT_ROLE_OR_JOINER_POLICY_INVALID", by decide⟩
    else if ∃ segment ∈ chunk.sourceSegments, text.length < segment.end_ then
      .error ⟨.sourceSpanInvalid, "SOURCE_SEGMENT_OUT_OF_RANGE", by decide⟩
    else if ¬ progressOk state.previousBody body then
      .error ⟨.sourceSpanInvalid, "BODY_SOURCE_ORDER_OR_PROGRESS_INVALID", by decide⟩
    else if ∃ segment ∈ chunk.sourceSegments.dropLast, ¬ contextOk text segment then
      .error ⟨.sourceSpanInvalid, "STRUCTURAL_CONTEXT_SOURCE_INVALID", by decide⟩
    else if chunk.text.toList ≠ reconstructed text contract.normalizationVersion chunk ∨
        chunk.contentHash ≠ sha256Text hashing.text
          (String.ofList (reconstructed text contract.normalizationVersion chunk)) ∨
        chunk.text.toList = [] then
      .error ⟨.contentMismatch, "CHUNK_TEXT_DOES_NOT_ROUNDTRIP_TO_SOURCE", by decide⟩
    else if (actualTokens : Int) ≠ chunk.tokenCount ∨ contract.hardMaxTokens < actualTokens ∨
        (actualTokens < contract.minUsefulTokens ∧
          contract.minUsefulTokens ≤ tokenizer.count text) ∨
        contract.maxOutputChars < outputChars then
      .error ⟨.tokenBudgetInvalid, "CHUNK_TOKEN_OR_OUTPUT_BUDGET_INVALID", by decide⟩
    else if ¬ overlapOk tokenizer contract text state.previous chunk then
      .error ⟨.overlapInvalid, if state.previous = none then "FIRST_CHUNK_CANNOT_HAVE_LEFT_OVERLAP"
        else "SOURCE_OVERLAP_DOES_NOT_MATCH_CONTRACT", by decide⟩
    else .ok
      { ordinal := state.ordinal + 1, allSegments := state.allSegments ++ chunk.sourceSegments
        outputChars
        previous := some chunk, previousBody := some body }

def checkEnd (text : List Char) (chunks : List ChunkCandidate) (state : ScanState) :
    Except Refusal Unit :=
  if (chunks.getLast?.map (·.overlapRightTokens)).getD 0 ≠ 0 then
    .error ⟨.overlapInvalid, "LAST_CHUNK_CANNOT_HAVE_RIGHT_OVERLAP", by decide⟩
  else if sweep start end_ 0
      (SourceSegment.sorted state.allSegments) ≠ some text.length then
    .error ⟨.coverageGap, "CANONICAL_SOURCE_COVERAGE_GAP", by decide⟩
  else .ok ()

def evaluate (document : DocumentHeadSnapshot) (version : DocumentVersionLifecycleRecord)
    (ingestion : IngestionOperationRecord) (parsed : ParsedArtifactDefinition)
    (source : SourceArtifactReference) (contract : ChunkingContract)
    (candidate : ChunkSetCandidate) : ChunkValidationDecision :=
  let eligibility := evaluateDay96ChunkingEligibility document version ingestion
  let operation := candidate.operation
  let text := parsed.canonicalText.toList
  if eligibility.outcome ≠ .eligible then
    blocked ⟨.ineligible, eligibility.safeReason, by decide⟩
  else if ¬ bindingOk version ingestion parsed source eligibility.parsedArtifactId operation then
    blocked ⟨.bindingConflict, "DAY95_PARSED_ARTIFACT_BINDING_CONFLICT", by decide⟩
  else if candidate.attempt.operationId ≠ operation.operationId ∨ candidate.experimentId = "" then
    blocked ⟨.correlationConflict, "CHUNKING_ATTEMPT_CORRELATION_CONFLICT", by decide⟩
  else if contract.tokenizer ≠ tokenizer.contract ∨
      operation.contractFingerprint ≠ contract.fingerprint hashing then
    blocked ⟨.bindingConflict, "CHUNKING_CONTRACT_BINDING_CONFLICT", by decide⟩
  else if ¬ manifestOk hashing parsed contract candidate then
    blocked ⟨.manifestConflict, "CHUNK_OR_PARSE_MANIFEST_CHECKSUM_MISMATCH", by decide⟩
  else if candidate.chunks = [] ∨ contract.maxChunkCount < candidate.chunks.length then
    blocked ⟨.tokenBudgetInvalid, "CHUNK_COUNT_BUDGET_INVALID", by decide⟩
  else if contract.maxInputChars < text.length then
    blocked ⟨.tokenBudgetInvalid, "INPUT_SIZE_BUDGET_EXCEEDED", by decide⟩
  else
    match candidate.chunks.foldlM (checkChunk hashing tokenizer contract text) {} >>=
        checkEnd text candidate.chunks with
    | .error refusal => blocked refusal
    | .ok _ =>
      { outcome := .readyForCommit, safeReason := "CANDIDATE_SOURCE_AND_BUDGET_VALIDATED"
        candidate := some candidate, ready_iff := by simp }

variable {hashing tokenizer} {contract : ChunkingContract} {text : List Char}

/-- What a chunk must satisfy behind the chunks scanned before it. -/
structure Checked (hashing : Hashing) (tokenizer : TokenizerPort) (contract : ChunkingContract)
    (text : List Char) (state : ScanState) (chunk : ChunkCandidate) (body : SourceSegment) :
    Prop where
  last : chunk.sourceSegments.getLast? = some body
  ordinal : chunk.ordinal = state.ordinal
  sorted : SourceSegment.sorted chunk.sourceSegments = chunk.sourceSegments
  separate : Separate chunk.sourceSegments
  roles : roleOk chunk body
  inRange : ∀ segment ∈ chunk.sourceSegments, segment.end_ ≤ text.length
  progress : progressOk state.previousBody body
  contexts : ∀ segment ∈ chunk.sourceSegments.dropLast, contextOk text segment
  content : chunk.text.toList = reconstructed text contract.normalizationVersion chunk
  contentHash : chunk.contentHash = sha256Text hashing.text chunk.text
  nonempty : chunk.text.toList ≠ []
  tokens : (tokenizer.count chunk.text.toList : Int) = chunk.tokenCount
  tokens_le : tokenizer.count chunk.text.toList ≤ contract.hardMaxTokens
  useful : contract.minUsefulTokens ≤ tokenizer.count text →
    contract.minUsefulTokens ≤ tokenizer.count chunk.text.toList
  chars_le : state.outputChars + chunk.text.toList.length ≤ contract.maxOutputChars
  overlap : overlapOk tokenizer contract text state.previous chunk

/-- The state behind a chunk with the given body. -/
def ScanState.after (state : ScanState) (chunk : ChunkCandidate) (body : SourceSegment) :
    ScanState :=
  { ordinal := state.ordinal + 1, allSegments := state.allSegments ++ chunk.sourceSegments
    outputChars := state.outputChars + chunk.text.toList.length, previous := some chunk
    previousBody := some body }

variable {state : ScanState}

theorem checkChunk_eq_ok {after : ScanState} {chunk : ChunkCandidate} :
    checkChunk hashing tokenizer contract text state chunk = .ok after ↔
      ∃ body, Checked hashing tokenizer contract text state chunk body ∧
        after = state.after chunk body := by
  unfold checkChunk
  constructor
  · intro passed
    cases last : chunk.sourceSegments.getLast? with
    | none =>
      rw [last] at passed
      cases passed
    | some body =>
      rw [last] at passed
      simp only [ite_error_eq_ok, not_not, not_or, not_and, not_exists, Nat.not_lt,
        Except.ok.injEq] at passed
      rcases passed with
        ⟨ordinal, sorted, separate, roles, inRange, progress, contexts, ⟨content, contentHash,
        nonempty⟩, ⟨tokens, tokens_le, useful, chars_le⟩, overlap, rfl⟩
      refine ⟨body, ?_, rfl⟩
      exact
        { last, ordinal, sorted, separate, roles, inRange, progress, contexts, content
          contentHash := by rw [contentHash, ← content, String.ofList_toList]
          nonempty, tokens, tokens_le
          useful := fun enough => Nat.le_of_not_lt fun short => useful short enough
          chars_le, overlap }
  · rintro ⟨_, checked, rfl⟩
    rw [checked.last]
    simp only [ite_error_eq_ok, not_not, not_or, not_and, not_exists, Nat.not_lt]
    refine ⟨checked.ordinal, checked.sorted, checked.separate, checked.roles, checked.inRange,
      checked.progress, checked.contexts, ⟨checked.content, ?_, checked.nonempty⟩,
      ⟨checked.tokens, checked.tokens_le, ?_, checked.chars_le⟩, checked.overlap, rfl⟩
    · rw [← checked.content, String.ofList_toList, checked.contentHash]
    · intro short enough
      exact absurd (checked.useful enough) (Nat.not_le_of_lt short)

inductive Scanned (hashing : Hashing) (tokenizer : TokenizerPort) (contract : ChunkingContract)
    (text : List Char) : ScanState → List ChunkCandidate → List SourceSegment → ScanState → Prop
  | done {state : ScanState} : Scanned hashing tokenizer contract text state [] [] state
  | step {state last : ScanState} {chunk : ChunkCandidate} {chunks : List ChunkCandidate}
      {body : SourceSegment} {bodies : List SourceSegment}
      (checked : Checked hashing tokenizer contract text state chunk body)
      (rest : Scanned hashing tokenizer contract text (state.after chunk body) chunks bodies last) :
      Scanned hashing tokenizer contract text state (chunk :: chunks) (body :: bodies) last

variable {chunks : List ChunkCandidate}

theorem scan_eq_ok {last : ScanState} :
    chunks.foldlM (checkChunk hashing tokenizer contract text) state = .ok last ↔
      ∃ bodies, Scanned hashing tokenizer contract text state chunks bodies last := by
  constructor
  · intro passed
    induction chunks generalizing state with
    | nil =>
      cases passed
      exact ⟨[], .done⟩
    | cons _ _ ih =>
      rcases bind_eq_ok.mp passed with ⟨_, first, rest⟩
      rcases checkChunk_eq_ok.mp first with ⟨body, checked, rfl⟩
      rcases ih rest with ⟨bodies, scanned⟩
      exact ⟨body :: bodies, .step checked scanned⟩
  · rintro ⟨_, scanned⟩
    induction scanned with
    | done => rfl
    | step checked _ ih =>
      exact bind_eq_ok.mpr ⟨_, checkChunk_eq_ok.mpr ⟨_, checked, rfl⟩, ih⟩

theorem checkEnd_eq_ok :
    checkEnd text chunks state = .ok () ↔ (chunks.getLast?.map (·.overlapRightTokens)).getD 0 = 0 ∧
        sweep start end_ 0
          (SourceSegment.sorted state.allSegments) = some text.length := by
  rw [checkEnd, ite_error_eq_ok]
  simp

/-- What a candidate passes before its chunks are scanned. -/
structure Bound (hashing : Hashing) (tokenizer : TokenizerPort)
    (document : DocumentHeadSnapshot) (version : DocumentVersionLifecycleRecord)
    (ingestion : IngestionOperationRecord) (parsed : ParsedArtifactDefinition)
    (source : SourceArtifactReference) (contract : ChunkingContract)
    (candidate : ChunkSetCandidate) : Prop where
  eligible : (evaluateDay96ChunkingEligibility document version ingestion).outcome = .eligible
  binding : bindingOk version ingestion parsed source
    (evaluateDay96ChunkingEligibility document version ingestion).parsedArtifactId
    candidate.operation
  correlated : candidate.attempt.operationId = candidate.operation.operationId
  experiment : candidate.experimentId ≠ ""
  sameTokenizer : contract.tokenizer = tokenizer.contract
  fingerprint : candidate.operation.contractFingerprint = contract.fingerprint hashing
  manifest : manifestOk hashing parsed contract candidate
  nonempty : candidate.chunks ≠ []
  count_le : candidate.chunks.length ≤ contract.maxChunkCount
  size_le : parsed.canonicalText.toList.length ≤ contract.maxInputChars

/-- A candidate is accepted just when it is bound and its chunks pass the loop and the checks
after it. -/
theorem evaluate_ready_iff {document : DocumentHeadSnapshot}
    {version : DocumentVersionLifecycleRecord} {ingestion : IngestionOperationRecord}
    {parsed : ParsedArtifactDefinition} {source : SourceArtifactReference}
    {candidate : ChunkSetCandidate} :
    (evaluate hashing tokenizer document version ingestion parsed source contract
        candidate).outcome = .readyForCommit ↔
      Bound hashing tokenizer document version ingestion parsed source contract candidate ∧
      ∃ state bodies, Scanned hashing tokenizer contract parsed.canonicalText.toList {}
          candidate.chunks bodies state ∧
        checkEnd parsed.canonicalText.toList candidate.chunks state = .ok () := by
  have refused : ∀ (check : Prop) [Decidable check] (refusal : Refusal)
      (rest : ChunkValidationDecision),
      ((if check then blocked refusal else rest).outcome = .readyForCommit ↔
        ¬ check ∧ rest.outcome = .readyForCommit) := by
    intro check _ refusal rest
    by_cases stopped : check
    · rw [if_pos stopped]
      exact ⟨fun ready => absurd ready refusal.notReady, fun ready => absurd stopped ready.1⟩
    · rw [if_neg stopped]
      exact ⟨fun ready => ⟨stopped, ready⟩, fun ready => ready.2⟩
  have scanned : ∀ scan : Except Refusal Unit,
      (match scan with
        | .error refusal => blocked refusal
        | .ok _ =>
          ({ outcome := .readyForCommit, safeReason := "CANDIDATE_SOURCE_AND_BUDGET_VALIDATED"
             candidate := some candidate, ready_iff := by simp } :
            ChunkValidationDecision)).outcome = .readyForCommit ↔ scan = .ok () := by
    intro scan
    cases scan with
    | error refusal => exact ⟨fun ready => absurd ready refusal.notReady, nofun⟩
    | ok => exact ⟨fun _ => rfl, fun _ => rfl⟩
  unfold evaluate
  simp only [refused, scanned, not_not, not_or, Nat.not_lt, bind_eq_ok, scan_eq_ok]
  constructor
  · rintro ⟨eligible, binding, ⟨correlated, experiment⟩, ⟨sameTokenizer, fingerprint⟩, manifest,
      ⟨nonempty, count_le⟩, size_le, state, ⟨bodies, scan⟩, ends⟩
    exact ⟨⟨eligible, binding, correlated, experiment, sameTokenizer, fingerprint, manifest,
      nonempty, count_le, size_le⟩, state, bodies, scan, ends⟩
  · rintro ⟨bound, state, bodies, scan, ends⟩
    exact ⟨bound.eligible, bound.binding, ⟨bound.correlated, bound.experiment⟩,
      ⟨bound.sameTokenizer, bound.fingerprint⟩, bound.manifest, ⟨bound.nonempty, bound.count_le⟩,
      bound.size_le, state, ⟨bodies, scan⟩, ends⟩

end Evaluate

end ChunkSetCandidateValidator
end BackendHandbook.Chunking
