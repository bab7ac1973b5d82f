import BackendHandbook.Chunking.Lossless
import BackendHandbook.Chunking.Validator

/-! What the acceptance of a candidate says about its chunks, whoever made it: all but the
order of the body starts, which no check looks at. -/

namespace BackendHandbook.Chunking

open Ingestion Pieces Coverage SourceSegment ClassroomTokenizer List

namespace ChunkSetCandidateValidator

def Before (first second : SourceSegment) : Prop := first.end_ ≤ second.start

instance : Trans Before Before Before where
  trans := by
    intro first second third left right
    have filled := second.nonEmpty
    unfold Before at left right ⊢
    omega

theorem separate_iff {segments : List SourceSegment} :
    Separate segments ↔ segments.Pairwise Before := by
  rw [← isChain_iff_pairwise]
  induction segments with
  | nil => simp [Separate]
  | cons _ segments ih =>
    cases segments with
    | nil => simp [Separate]
    | cons =>
      rw [isChain_cons_cons, ← ih, Separate, Separate]
      simp [Before]

theorem sorted_of_separate {segments : List SourceSegment}
    (separate : segments.Pairwise Before) : sorted segments = segments := by
  apply Sorting.sortBy_of_pairwise
  refine separate.imp fun {first second} before => ?_
  apply sortKey_le_of_start_lt
  exact Nat.lt_of_lt_of_le first.nonEmpty before

theorem sorted_starts (segments : List SourceSegment) :
    (sorted segments).Pairwise fun first second => first.start ≤ second.start := by
  have ordered := Sorting.pairwise_sortBy sortKey segments
  exact ordered.imp fun before => start_le_of_sortKey_le before

structure Shaped (chunk : ChunkCandidate) (contexts : List SourceSegment) (body : SourceSegment) :
    Prop where
  segments : chunk.sourceSegments = contexts ++ [body]
  role : body.role = "body"
  others : ∀ segment ∈ contexts, segment.role ≠ "body"

def bodySegments (chunks : List ChunkCandidate) : List SourceSegment :=
  chunks.flatMap fun chunk => chunk.sourceSegments.filter (·.role == "body")

def commonTokens (tokenizer : TokenizerPort) (text : List Char) (version : NormalizationVersion)
    (a b : SourceSegment) : Nat :=
  if max a.start b.start < min a.end_ b.end_ then
    tokenizer.count
      (normalize (slice text (max a.start b.start) (min a.end_ b.end_)) version).text
  else 0

variable {chunk : ChunkCandidate} {contexts : List SourceSegment} {body : SourceSegment}

theorem Shaped.filter (shaped : Shaped chunk contexts body) :
    chunk.sourceSegments.filter (·.role == "body") = [body] := by
  have none : contexts.filter (·.role == "body") = [] := by
    rw [filter_eq_nil_iff]
    intro segment member
    simpa using shaped.others segment member
  rw [shaped.segments, filter_append, none, nil_append,
    filter_cons_of_pos (by simpa using shaped.role), filter_nil]

theorem Shaped.bodySegments_cons (shaped : Shaped chunk contexts body)
    (chunks : List ChunkCandidate) :
    bodySegments (chunk :: chunks) = body :: bodySegments chunks := by
  rw [bodySegments, flatMap_cons, shaped.filter, singleton_append, bodySegments]

theorem sharedTokens_eq {tokenizer : TokenizerPort} {text : List Char}
    {version : NormalizationVersion} {previous : ChunkCandidate}
    {before after : List SourceSegment} {a b : SourceSegment} (first : Shaped previous before a)
    (second : Shaped chunk after b) : sharedTokens tokenizer text version previous chunk =
      commonTokens tokenizer text version a b := by
  have context : ∀ segment ∈ before, (chunk.sourceSegments.filter fun other =>
      segment.role == "body" && other.role == "body" &&
        decide (max segment.start other.start < min segment.end_ other.end_)) = [] := by
    intro segment member
    simp [first.others segment member]
  have bodies : (chunk.sourceSegments.filter fun other =>
      a.role == "body" && other.role == "body" &&
        decide (max a.start other.start < min a.end_ other.end_)) =
      if max a.start b.start < min a.end_ b.end_ then [b] else [] := by
    have split := congrArg (filter fun other : SourceSegment =>
      decide (max a.start other.start < min a.end_ other.end_)) second.filter
    rw [filter_filter] at split
    simp only [first.role, beq_self_eq_true, Bool.true_and]
    simp only [Bool.and_comm] at split ⊢
    rw [split, filter_singleton]
    simp
  rw [sharedTokens, first.segments, flatMap_append, flatMap_cons, flatMap_nil, bodies, commonTokens]
  have silent : (before.flatMap fun segment => (chunk.sourceSegments.filter fun other =>
      segment.role == "body" && other.role == "body" &&
        decide (max segment.start other.start < min segment.end_ other.end_)).map fun other =>
      tokenizer.count (normalize (slice text (max segment.start other.start)
        (min segment.end_ other.end_)) version).text) = [] := by
    rw [flatMap_eq_nil_iff]
    intro segment member
    rw [context segment member, map_nil]
  rw [silent]
  split <;> simp

section Accepted

variable {hashing : Hashing} {tokenizer : TokenizerPort} {contract : ChunkingContract}
  {text : List Char}
variable {state : ScanState} {chunk : ChunkCandidate} {body : SourceSegment}

theorem Checked.shaped (checked : Checked hashing tokenizer contract text state chunk body) :
    Shaped chunk chunk.sourceSegments.dropLast body := by
  have segments : chunk.sourceSegments = chunk.sourceSegments.dropLast ++ [body] :=
    (dropLast_append_getLast? body checked.last).symm
  rcases checked.roles with ⟨role, single, _, _⟩
  refine ⟨segments, role, fun segment member named => ?_⟩
  -- a second body would be counted
  have counted : 0 < chunk.sourceSegments.dropLast.countP (·.role == "body") :=
    countP_pos_iff.mpr ⟨segment, member, by simpa using named⟩
  rw [segments, countP_append, countP_singleton] at single
  simp only [role, beq_self_eq_true, if_true] at single
  omega

theorem Checked.end_le_body
    (checked : Checked hashing tokenizer contract text state chunk body) {segment : SourceSegment}
    (member : segment ∈ chunk.sourceSegments) : segment.end_ ≤ body.end_ := by
  have separate := separate_iff.mp checked.separate
  have filled := body.nonEmpty
  rw [checked.shaped.segments] at member separate
  rcases mem_append.mp member with inside | inside
  · have before : segment.end_ ≤ body.start :=
      (pairwise_append.mp separate).2.2 segment inside body mem_cons_self
    omega
  · rw [mem_singleton.mp inside]

def ScanState.cursor (state : ScanState) : Nat := (state.previousBody.map (·.end_)).getD 0

theorem Checked.advances (checked : Checked hashing tokenizer contract text state chunk body) :
    body.start ≤ state.cursor ∧ state.cursor < body.end_ := by
  have progress := checked.progress
  have filled := body.nonEmpty
  unfold progressOk at progress
  unfold ScanState.cursor
  cases previous : state.previousBody with
  | none =>
    rw [previous] at progress
    simp only [Option.map_none, Option.getD_none]
    omega
  | some =>
    rw [previous] at progress
    exact progress

variable {state last : ScanState} {chunks : List ChunkCandidate} {bodies : List SourceSegment}

section

variable (scanned : Scanned hashing tokenizer contract text state chunks bodies last)
include scanned

theorem Scanned.bodies_eq : bodies = bodySegments chunks := by
  induction scanned with
  | done => rfl
  | step checked _ ih => rw [checked.shaped.bodySegments_cons, ih]

theorem Scanned.sweeps : sweep start end_ state.cursor bodies = some last.cursor := by
  induction scanned with
  | done => rfl
  | @step state _ chunk _ body _ checked _ ih =>
    rcases checked.advances with ⟨reached, further⟩
    have next : max state.cursor body.end_ = (state.after chunk body).cursor :=
      Nat.max_eq_right (Nat.le_of_lt further)
    rw [sweep_cons, next]
    exact ⟨reached, ih⟩

theorem Scanned.ends_increase : (∀ body ∈ bodies, state.cursor < body.end_) ∧
      bodies.Pairwise fun first second => first.end_ < second.end_ := by
  induction scanned with
  | done => exact ⟨nofun, List.Pairwise.nil⟩
  | @step state _ chunk _ body bodies checked _ ih =>
    have further := checked.advances.2
    refine ⟨fun other member => ?_, pairwise_cons.mpr ih⟩
    rcases mem_cons.mp member with rfl | later
    · exact further
    · exact Nat.lt_trans further (ih.1 other later)

theorem Scanned.segments :
    last.allSegments = state.allSegments ++ chunks.flatMap (·.sourceSegments) ∧
      ∀ segment ∈ chunks.flatMap (·.sourceSegments), segment.end_ ≤ text.length ∧
        ∃ body ∈ bodies, segment.end_ ≤ body.end_ := by
  induction scanned with
  | done => exact ⟨(append_nil _).symm, nofun⟩
  | @step state _ chunk chunks body bodies checked _ ih =>
    rcases ih with ⟨all, inside⟩
    constructor
    · rw [all, flatMap_cons, ← append_assoc]
      rfl
    · intro segment member
      rcases mem_append.mp member with here | later
      · exact ⟨checked.inRange segment here, body, mem_cons_self, checked.end_le_body here⟩
      · rcases inside segment later with ⟨within, other, found, before⟩
        exact ⟨within, other, mem_cons_of_mem _ found, before⟩

end

/-- Two neighbours share exactly the tokens that both declare, and no more than the contract
allows. -/
def SharesDeclared (tokenizer : TokenizerPort) (contract : ChunkingContract) (text : List Char)
    (previous chunk : ChunkCandidate) : Prop :=
  ∀ a ∈ bodySegments [previous], ∀ b ∈ bodySegments [chunk],
    (commonTokens tokenizer text contract.normalizationVersion a b : Int) =
        previous.overlapRightTokens ∧
      previous.overlapRightTokens = chunk.overlapLeftTokens ∧
      chunk.overlapLeftTokens ≤ contract.overlapTokens

theorem Checked.shares {previous : ChunkCandidate} {before : SourceSegment}
    (checked : Checked hashing tokenizer contract text state chunk body)
    (shaped : Shaped previous contexts before) (linked : state.previous = some previous) :
    SharesDeclared tokenizer contract text previous chunk := by
  have overlap := checked.overlap
  simp only [linked, overlapOk] at overlap
  rw [sharedTokens_eq shaped checked.shaped] at overlap
  intro a first b second
  rw [shaped.bodySegments_cons, bodySegments, flatMap_nil, mem_singleton] at first
  rw [checked.shaped.bodySegments_cons, bodySegments, flatMap_nil, mem_singleton] at second
  rw [first, second]
  omega

theorem Scanned.shares (scanned : Scanned hashing tokenizer contract text state chunks bodies
    last) : (∀ previous contexts before, state.previous = some previous →
      Shaped previous contexts before →
        (previous :: chunks).IsChain (SharesDeclared tokenizer contract text)) ∧
      chunks.IsChain (SharesDeclared tokenizer contract text) := by
  induction scanned with
  | done => exact ⟨fun _ _ _ _ _ => isChain_singleton _, isChain_nil⟩
  | step checked _ ih =>
    have next := ih.1 _ _ _ rfl checked.shaped
    refine ⟨fun previous contexts before linked shaped => ?_, next⟩
    exact isChain_cons_cons.mpr ⟨checked.shares shaped linked, next⟩

/-- What is wanted of the chunks of a text, whoever cut it. -/
structure Sound (tokenizer : TokenizerPort) (contract : ChunkingContract) (text : List Char)
    (chunks : List ChunkCandidate) : Prop where
  oneBody : (bodySegments chunks).length = chunks.length
  starts : (bodySegments chunks).Pairwise fun first second => first.start < second.start
  ends : (bodySegments chunks).Pairwise fun first second => first.end_ < second.end_
  first : (bodySegments chunks).head?.map (·.start) = some 0
  covers : ∀ position < text.length, ∃ body ∈ bodySegments chunks,
    body.start ≤ position ∧ position < body.end_
  shares : chunks.IsChain (SharesDeclared tokenizer contract text)

/-- The body of some chunk starts at or before the start of the body of the chunk before it,
so that the later one contains the earlier one. -/
def SwallowsBody (chunks : List ChunkCandidate) : Prop :=
  ∃ pair ∈ (bodySegments chunks).zip (bodySegments chunks).tail, pair.2.start ≤ pair.1.start

def StartsBefore (first second : SourceSegment) : Prop := first.start < second.start

instance : Trans StartsBefore StartsBefore StartsBefore := ⟨Nat.lt_trans⟩

theorem starts_iff (bodies : List SourceSegment) : bodies.Pairwise StartsBefore ↔
      ¬ ∃ pair ∈ bodies.zip bodies.tail, pair.2.start ≤ pair.1.start := by
  rw [← isChain_iff_pairwise]
  induction bodies with
  | nil => simp
  | cons _ bodies ih =>
    cases bodies with
    | nil => simp
    | cons =>
      rw [isChain_cons_cons, ih]
      simp [StartsBefore]

theorem Scanned.length (scanned : Scanned hashing tokenizer contract text state chunks bodies
    last) : bodies.length = chunks.length := by
  induction scanned with
  | done => rfl
  | step _ _ ih => rw [length_cons, ih, length_cons]

theorem Scanned.first (scanned : Scanned hashing tokenizer contract text state chunks bodies last)
    (starts : state.previousBody = none) (nonempty : chunks ≠ []) :
    bodies.head?.map (·.start) = some 0 := by
  cases scanned with
  | done => exact absurd rfl nonempty
  | step checked =>
    have progress := checked.progress
    rw [starts] at progress
    exact congrArg some progress

theorem Scanned.reaches_end
    (scanned : Scanned hashing tokenizer contract text {} chunks bodies last)
    (ends : checkEnd text chunks last = .ok ()) : text.length ≤ last.cursor := by
  rcases scanned.segments with ⟨all, within⟩
  have swept := (checkEnd_eq_ok.mp ends).2
  rcases sweep_attained swept with _ | ⟨segment, member, _⟩
  · omega
  · rw [sorted, all] at member
    obtain ⟨_, body, found, _⟩ := within segment (by simpa using member)
    have passed := (sweep_le scanned.sweeps).2 body found
    omega

theorem Scanned.sound_iff (scanned : Scanned hashing tokenizer contract text {} chunks bodies last)
    (nonempty : chunks ≠ []) (ends : checkEnd text chunks last = .ok ()) :
    Sound tokenizer contract text chunks ↔ ¬ SwallowsBody chunks := by
  constructor
  · intro sound
    exact (starts_iff _).mp sound.starts
  · intro ordered
    have starts := (starts_iff _).mpr ordered
    rw [← scanned.bodies_eq] at starts
    exact
      { oneBody := by rw [← scanned.bodies_eq]; exact scanned.length
        starts := by rw [← scanned.bodies_eq]; exact starts
        ends := by rw [← scanned.bodies_eq]; exact scanned.ends_increase.2
        first := by rw [← scanned.bodies_eq]; exact scanned.first rfl nonempty
        covers := by
          intro position inside
          have passed := Nat.lt_of_lt_of_le inside (scanned.reaches_end ends)
          rw [← scanned.bodies_eq]
          exact sweep_covers scanned.sweeps (Nat.zero_le _) passed
        shares := scanned.shares.2 }

end Accepted

/-- An accepted candidate is sound just when no body swallows the one before it: the order of
the ends, the cover and the overlaps are checked, the order of the starts is not. -/
theorem accepted_sound_iff {hashing : Hashing} {tokenizer : TokenizerPort}
    {document : DocumentHeadSnapshot} {version : DocumentVersionLifecycleRecord}
    {ingestion : IngestionOperationRecord} {parsed : ParsedArtifactDefinition}
    {source : SourceArtifactReference} {contract : ChunkingContract} {candidate : ChunkSetCandidate}
    (accepted : (evaluate hashing tokenizer document version ingestion parsed source contract
      candidate).outcome = .readyForCommit) :
    Sound tokenizer contract parsed.canonicalText.toList candidate.chunks ↔
      ¬ SwallowsBody candidate.chunks := by
  rcases evaluate_ready_iff.mp accepted with ⟨bound, _, _, scanned, ends⟩
  exact scanned.sound_iff bound.nonempty ends

end ChunkSetCandidateValidator

/-! The lifecycle of the parsed report, and two candidates for a text of three tokens. -/

namespace Sample

open ChunkSetCandidateValidator

def document : DocumentHeadSnapshot :=
  { identity := Ingestion.Sample.operation.version.document, state := .active
    activeVersionId := some "report-42-v2", stateVersion := 2, fenceToken := 2
    pointer_iff := by decide }

def version (text : String)
    (filled : Text.requireNonEmpty [(Ingestion.Sample.attempt 1).operationId,
      (Ingestion.Sample.attempt 1).idempotencyKey, (Ingestion.Sample.attempt 1).parserRequestId,
      sha256Text Ingestion.Sample.digest text] = true := by exact Eq.refl true) :
    DocumentVersionLifecycleRecord :=
  { definition := Ingestion.Sample.version, state := .active
    parsedArtifactId := some (parsed text filled).parsedArtifactId
    activationCommitId := some "commit-42", stateVersion := 2, fenceToken := 2
    valid := by
      have named : Text.truthy (some (parsed text filled).parsedArtifactId) = true :=
        Text.truthy_append "parsed:" _ (by decide)
      have committed : Text.truthy (some "commit-42") = true := by decide
      simp [DocumentVersionLifecycleRecord.postInit, named, committed] }

def ingestion : IngestionOperationRecord :=
  { identity := Ingestion.Sample.operation, state := .completed, stateVersion := 4, fenceToken := 4
    attempt := some (Ingestion.Sample.attempt 1), attemptHistory := [], valid := by decide }

/-- Two chunks of the text "a b": the second body starts where the first one does. -/
def swallowing : ChunkSetCandidate :=
  ChunkingStrategyAdapter.candidateOf hashing (parsed "a b") (contract .identityV1 1)
    (operation "a b") attempt "experiment-96"
    [{ ordinal := 0, text := "a", sourceSegments := [body 0 1]
       tokenCount := 1, contentHash := "sha256:a", boundaryReason := "SENTENCE"
       overlapRightTokens := 1 },
     { ordinal := 1, text := "a b", sourceSegments := [body 0 3]
       tokenCount := 3, contentHash := "sha256:a b", boundaryReason := "SOURCE_END"
       overlapLeftTokens := 1 }]

/-- The same text cut so that each body starts behind the one before. -/
def orderly : ChunkSetCandidate :=
  ChunkingStrategyAdapter.candidateOf hashing (parsed "a b") (contract .identityV1 1)
    (operation "a b") attempt "experiment-96"
    [{ ordinal := 0, text := "a ", sourceSegments := [body 0 2]
       tokenCount := 2, contentHash := "sha256:a ", boundaryReason := "SENTENCE"
       overlapRightTokens := 1 },
     { ordinal := 1, text := " b", sourceSegments := [body 1 3]
       tokenCount := 2, contentHash := "sha256: b", boundaryReason := "SOURCE_END"
       overlapLeftTokens := 1 }]

/-- The validator accepts a candidate in which one body contains another. -/
theorem swallowed_body_accepted :
    (evaluate hashing port document (version "a b") ingestion (parsed "a b")
        Ingestion.Sample.source (contract .identityV1 1) swallowing).outcome = .readyForCommit ∧
      ¬ Sound port (contract .identityV1 1) "a b".toList swallowing.chunks := by
  constructor
  · decide +kernel
  · intro sound
    have ordered := (starts_iff _).mp sound.starts
    revert ordered
    decide +kernel

theorem orderly_sound : Sound port (contract .identityV1 1) "a b".toList orderly.chunks := by
  have accepted : (evaluate hashing port document (version "a b") ingestion
      (parsed "a b") Ingestion.Sample.source (contract .identityV1 1) orderly).outcome =
        .readyForCommit := by
    decide +kernel
  apply (accepted_sound_iff accepted).mpr
  unfold SwallowsBody
  decide +kernel

end Sample

end BackendHandbook.Chunking
