import BackendHandbook.Chunking.Generation
import BackendHandbook.Ingestion.Recovery

/-! With the classroom tokenizer the generated chunks are windows of the normalized text, from
which the whole text can be read back. -/

namespace BackendHandbook.Chunking

open Ingestion Pieces Fallible Windows Ingestion.Sample ClassroomTokenizer

namespace ChunkingStrategyAdapter

section Boundaries

open ClassroomTokenizer Normalization

variable (canonical : List Char) (version : NormalizationVersion)

def normalizedTokens : List (List Char) := tokens (normalize canonical version).text

def boundary (index : Nat) : Nat :=
  cut (pieces canonical version) (cut (normalizedTokens canonical version) index)

@[simp] theorem boundary_zero : boundary canonical version 0 = 0 := rfl

theorem boundary_all :
    boundary canonical version (normalizedTokens canonical version).length = canonical.length := by
  rw [boundary, cut_of_length_le _ (Nat.le_refl _), normalizedTokens, flatten_tokens, cut_length]

theorem boundary_mono {start end_ : Nat} (order : start ≤ end_) :
    boundary canonical version start ≤ boundary canonical version end_ :=
  cut_mono _ (cut_mono _ order)

theorem cut_tokens_le (index : Nat) :
    cut (normalizedTokens canonical version) index ≤ (normalize canonical version).text.length := by
  have within := cut_le (normalizedTokens canonical version) index
  rwa [normalizedTokens, flatten_tokens] at within

variable {start end_ : Nat}

theorem cut_tokens_lt (order : start < end_)
    (within : start < (normalizedTokens canonical version).length) :
    cut (normalizedTokens canonical version) start <
      cut (normalizedTokens canonical version) end_ :=
  cut_lt _ (tokens_nonempty _) order within

theorem boundary_lt (order : start < end_)
    (within : start < (normalizedTokens canonical version).length) :
    boundary canonical version start < boundary canonical version end_ := by
  have before := cut_tokens_lt canonical version order within
  apply cut_lt _ (pieces_nonempty canonical version) before
  rw [← length_text]
  exact Nat.lt_of_lt_of_le before (cut_tokens_le canonical version end_)

theorem normalize_between (order : start ≤ end_) :
    (normalize (slice canonical (boundary canonical version start)
      (boundary canonical version end_)) version).text =
        (slice (normalizedTokens canonical version) start end_).flatten := by
  rw [boundary, boundary, normalize_slice _ _ (cut_mono _ order), normalizedTokens,
    slice_cut_tokens _ order]

theorem tokens_between (order : start ≤ end_) :
    tokens (normalize (slice canonical (boundary canonical version start)
      (boundary canonical version end_)) version).text =
        slice (normalizedTokens canonical version) start end_ := by
  rw [normalize_between canonical version order, normalizedTokens,
    ← slice_cut_tokens _ order, tokens_slice _ order]

theorem count_between (order : start ≤ end_)
    (within : end_ ≤ (normalizedTokens canonical version).length) :
    count (normalize (slice canonical (boundary canonical version start)
      (boundary canonical version end_)) version).text = end_ - start := by
  rw [count_eq, tokens_between canonical version order, length_slice _ within]

end Boundaries

variable (canonical : List Char)

def bodyText (version : NormalizationVersion) (chunk : ChunkCandidate) : List Char :=
  match chunk.sourceSegments.getLast? with
  | some segment => segment.normalized canonical version
  | none => []

/-- The chunk stands for a window of the normalized tokens, behind its context. -/
structure BodyWindow (contract : ChunkingContract)
    (chunk : ChunkCandidate) (window : Nat × Nat) : Prop where
  body : bodyText canonical contract.normalizationVersion chunk =
    (slice (normalizedTokens canonical contract.normalizationVersion) window.1 window.2).flatten
  behind : bodyText canonical contract.normalizationVersion chunk <:+ chunk.text.toList
  counted : chunk.tokenCount = ClassroomTokenizer.count chunk.text.toList
  bounded : chunk.tokenCount ≤ contract.hardMaxTokens

/-- Chunks from which the normalized text can be read back: consecutive windows over all of
its tokens, with a fixed overlap. -/
structure Lossless (contract : ChunkingContract)
    (chunks : List ChunkCandidate) : Prop where
  windows : ∃ windows : List (Nat × Nat),
    List.Forall₂ (BodyWindow canonical contract) chunks windows ∧
    (∀ window ∈ windows, window.1 < window.2) ∧
    windows.head?.map Prod.fst = some 0 ∧
    windows.getLast?.map Prod.snd =
      some (normalizedTokens canonical contract.normalizationVersion).length ∧
    windows.IsChain (Follows contract.overlapTokens)
  rebuilt : (stitch contract.overlapTokens (chunks.map fun chunk =>
      ClassroomTokenizer.tokens (bodyText canonical contract.normalizationVersion chunk))).flatten =
    (normalize canonical contract.normalizationVersion).text

structure ClassroomJob (job : Job) : Prop where
  normalized : job.normalized = normalize job.canonical job.contract.normalizationVersion
  spans : job.spans = ClassroomTokenizer.spans job.normalized.text

section Windows

variable {hashing : Hashing} {job : Job} (prepared : ClassroomJob job)

include prepared

theorem spans_length : job.spans.length =
    (normalizedTokens job.canonical job.contract.normalizationVersion).length := by
  rw [prepared.spans, length_spans, prepared.normalized, normalizedTokens]

variable {index : Nat}

theorem start_of_span (within : index < job.spans.length) : (job.spans.getD index default).start =
      cut (normalizedTokens job.canonical job.contract.normalizationVersion) index := by
  have inside := within
  rw [prepared.spans, length_spans] at inside
  rw [List.getD_eq_getElem?_getD, prepared.spans, getElem?_spans _ inside,
    prepared.normalized]
  rfl

theorem end_of_span (positive : 0 < index) (within : index ≤ job.spans.length) :
    endBefore job.spans index =
      cut (normalizedTokens job.canonical job.contract.normalizationVersion) index := by
  have inside : index - 1 < job.spans.length := by omega
  rw [prepared.spans, length_spans] at inside
  rw [endBefore, List.getD_eq_getElem?_getD, prepared.spans,
    getElem?_spans _ inside, prepared.normalized,
    Nat.sub_add_cancel positive]
  rfl

variable {chunk : ChunkCandidate} {end_ : Nat}

theorem emitted_body {state after : LoopState} {contexts : List SourceSegment}
    (window : Window job.contract job.spans.length state.start end_)
    (emits : Emits hashing port job state contexts end_ chunk after) :
    ∃ body, chunk.sourceSegments = contexts ++ [body] ∧ body.role = "body" ∧
      body.start = boundary job.canonical job.contract.normalizationVersion state.start ∧
      body.end_ = boundary job.canonical job.contract.normalizationVersion end_ ∧
      chunk.text.toList = contextPrefix job.canonical job.contract.normalizationVersion contexts ++
          body.normalized job.canonical job.contract.normalizationVersion := by
  rcases emits.body with ⟨body, segments, role, interval⟩
  have ordered := window.nonempty
  have inside : state.start < job.spans.length := Nat.lt_of_lt_of_le ordered window.within
  have text := emits.text
  rw [start_of_span prepared inside, end_of_span prepared (by omega) window.within] at interval text
  rw [prepared.normalized, Normalization.sourceInterval_eq _ _
    (cut_tokens_lt _ _ ordered (by rwa [← spans_length prepared]))
    (cut_tokens_le _ _ _)] at interval
  rcases Prod.mk.inj (Except.ok.inj interval) with ⟨starts, ends⟩
  refine ⟨body, segments, role, starts.symm, ends.symm, ?_⟩
  rw [text, SourceSegment.normalized, ← starts, ← ends, prepared.normalized,
    Normalization.normalize_slice _ _ (cut_mono _ (Nat.le_of_lt ordered))]

theorem round_window {state after : LoopState}
    (round : Round hashing port job state end_ chunk after) :
    BodyWindow job.canonical job.contract chunk (state.start, end_) := by
  rcases round.emits with ⟨_, _, emits⟩
  rcases emitted_body prepared round.window emits with ⟨body, segments, _, starts, ends, text⟩
  have same : bodyText job.canonical job.contract.normalizationVersion chunk =
      body.normalized job.canonical job.contract.normalizationVersion := by
    rw [bodyText, segments, List.getLast?_concat]
  constructor
  · rw [same, SourceSegment.normalized, starts, ends,
      normalize_between _ _ (Nat.le_of_lt round.window.nonempty)]
  · rw [same, text]
    exact List.suffix_append _ _
  · exact emits.tokenCount
  · rw [emits.tokenCount]
    exact Int.ofNat_le.mpr emits.tokenCount_le

variable {state : LoopState} {chunks : List ChunkCandidate}

theorem produced_windows (produced : Produces hashing port job state chunks) :
    ∃ windows, List.Forall₂ (BodyWindow job.canonical job.contract) chunks windows ∧
      Covers job.contract.overlapTokens job.spans.length state.start windows := by
  induction produced with
  | last round =>
    exact ⟨_, .cons (round_window prepared round) .nil, .last round.window.nonempty⟩
  | @next state after end_ chunk chunks round goesOn rest ih =>
    rcases ih with ⟨_, bodies, covers⟩
    rcases round.emits with ⟨_, _, emits⟩
    rw [emits.start] at covers
    exact ⟨_, .cons (round_window prepared round) bodies,
      .next (round.window.advances goesOn) goesOn covers⟩

theorem produced_lossless (produced : Produces hashing port job state chunks)
    (whole : state.start = 0) : Lossless job.canonical job.contract chunks := by
  rcases produced_windows prepared produced with ⟨windows, bodies, covers⟩
  rw [whole, spans_length prepared] at covers
  refine ⟨⟨windows, bodies, covers.nonempty, covers.starts, covers.ends, covers.chain⟩, ?_⟩
  have retokenized : chunks.map (fun chunk => ClassroomTokenizer.tokens
      (bodyText job.canonical job.contract.normalizationVersion chunk)) =
        windows.map fun window => slice
          (normalizedTokens job.canonical job.contract.normalizationVersion) window.1 window.2 := by
    rw [← List.forall₂_eq_eq_eq, List.forall₂_map_left_iff, List.forall₂_map_right_iff]
    refine bodies.imp fun chunk window same => ?_
    rw [same.body, normalizedTokens, tokens_flatten_slice]
  rw [retokenized, covers.stitched, List.drop_zero, normalizedTokens,
    ClassroomTokenizer.flatten_tokens]

end Windows

theorem Prepared.classroom {hashing : Hashing} {parsed : ParsedArtifactDefinition}
    {contract : ChunkingContract} {operation : ChunkingOperationIdentity}
    {attempt : ChunkingAttemptIdentity} {experimentId : String} {job : Job}
    (prepared : Prepared hashing port parsed contract operation attempt
      experimentId job) : ClassroomJob job :=
  ⟨prepared.normalized, prepared.spans⟩

/-- The generation with the classroom tokenizer ends for every text and contract, never with
the refusal of a round that does not advance, and what it returns has lost nothing. -/
theorem generation_lossless (hashing : Hashing) (clock : Nat → ℚ)
    (parsed : ParsedArtifactDefinition) (contract : ChunkingContract)
    (operation : ChunkingOperationIdentity) (attempt : ChunkingAttemptIdentity)
    (experimentId : String) :
    ∃ outcome, generate hashing ClassroomTokenizer.port clock parsed contract operation attempt
        experimentId = some outcome ∧
      outcome ≠ .error (.chunkGenerationError "NON_ADVANCING_OVERLAP") ∧
      outcome ≠ .error (.chunkGenerationError "INVALID_STRATEGY_BOUNDARY") ∧
      ∀ candidate, outcome = .ok candidate →
        Lossless parsed.canonicalText.toList contract candidate.chunks := by
  rcases @generate_ends hashing ClassroomTokenizer.port clock parsed
    contract operation attempt experimentId with ⟨outcome, done, met⟩
  refine ⟨outcome, done, ?_, ?_, ?_⟩
  · intro refused
    exact (met.of_error refused).1 rfl
  · intro refused
    exact (met.of_error refused).2 rfl
  · intro candidate returned
    rcases (met.of_ok returned).rounds with ⟨_, prepared, produced⟩
    have lossless := produced_lossless prepared.classroom produced rfl
    rwa [prepared.canonical, prepared.sameContract] at lossless

end ChunkingStrategyAdapter

/-! One text of the parsed report, cut under a small contract. -/

namespace Sample

open ChunkingStrategyAdapter

def hashing : Hashing :=
  { text := digest, contract := fun _ => "contract", chunks := fun _ => "chunks" }

def clock : Nat → ℚ := fun _ => 0

def contract (normalizationVersion : NormalizationVersion) (minUsefulTokens : Nat)
    (useful : decide (0 < minUsefulTokens ∧ minUsefulTokens ≤ 5) = true := by exact Eq.refl true) :
    ChunkingContract :=
  { strategy := .fixedToken, strategyVersion := "fixed-v1", tokenizer := ClassroomTokenizer.contract
    normalizationVersion, softTargetTokens := 3, hardMaxTokens := 5, minUsefulTokens
    overlapTokens := 1, maxChunkCount := 8, maxInputChars := 100, maxOutputChars := 100
    deadlineSeconds := 1, oversizedPolicy := .boundedFallback
    versions_nonEmpty := by decide, target_pos := by decide, target_le := by decide
    useful_pos := (of_decide_eq_true useful).1
    useful_le := (of_decide_eq_true useful).2, overlap_lt := by decide, budgets_pos := by decide }

open Ingestion.Sample in
def parsed (text : String) (filled : Text.requireNonEmpty [(attempt 1).operationId,
      (attempt 1).idempotencyKey, (attempt 1).parserRequestId,
      sha256Text digest text] = true := by exact Eq.refl true) :
    ParsedArtifactDefinition :=
  ParsedCandidateValidator.parsedArtifact digest operation
    (candidate (attempt 1) text filled)

def operation (text : String)
    (filled : Text.requireNonEmpty [(Ingestion.Sample.attempt 1).operationId,
      (Ingestion.Sample.attempt 1).idempotencyKey, (Ingestion.Sample.attempt 1).parserRequestId,
      sha256Text digest text] = true := by exact Eq.refl true) :
    ChunkingOperationIdentity :=
  { version := Ingestion.Sample.operation.version
    sourceArtifactId := Ingestion.Sample.operation.sourceArtifactId
    parsedArtifactId := (parsed text filled).parsedArtifactId
    operationId := "op-chunk-report-42-v2", idempotencyKey := "idem-chunk-report-42-v2"
    contractFingerprint := "sha256:contract"
    nonEmpty := ⟨by decide, by simp [parsed, ParsedCandidateValidator.parsedArtifact], by decide,
      by decide, by decide⟩ }

def attempt : ChunkingAttemptIdentity :=
  { operationId := "op-chunk-report-42-v2", attemptNumber := 1, requestId := "chunk-request-96-1"
    generation := 1, nonEmpty := by decide, attempt_pos := by decide }

def body (start end_ : Nat) (nonEmpty : decide (start < end_) = true := by exact Eq.refl true) :
    SourceSegment :=
  ⟨start, end_, "body", of_decide_eq_true nonEmpty, by decide⟩

def chunks : List ChunkCandidate :=
  [{ ordinal := 0, text := "a b", sourceSegments := [body 0 3]
     tokenCount := 3, contentHash := "sha256:a b", boundaryReason := "FIXED_TOKEN_WINDOW"
     overlapRightTokens := 1 },
   { ordinal := 1, text := "b c d", sourceSegments := [body 2 7]
     tokenCount := 5, contentHash := "sha256:b c d", boundaryReason := "SOURCE_END"
     overlapLeftTokens := 1 }]

def candidate : ChunkSetCandidate :=
  candidateOf hashing (parsed "a b c d") (contract .identityV1 1) (operation "a b c d") attempt
    "experiment-96" chunks

theorem generate_candidate : generate hashing port clock (parsed "a b c d") (contract .identityV1 1)
      (operation "a b c d") attempt "experiment-96" = some (.ok candidate) := by
  decide +kernel

theorem two_windows_lossless :
    Lossless "a b c d".toList (contract .identityV1 1) candidate.chunks := by
  rcases generation_lossless hashing clock (parsed "a b c d")
    (contract .identityV1 1) (operation "a b c d") attempt "experiment-96" with
    ⟨_, done, _, _, lossless⟩
  apply lossless candidate
  rw [generate_candidate] at done
  exact (Option.some.inj done).symm

end Sample

end BackendHandbook.Chunking
