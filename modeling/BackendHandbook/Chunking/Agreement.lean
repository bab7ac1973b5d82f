import BackendHandbook.Chunking.Soundness

/-! The generator and the validator agree: what the one returns passes the checks of the other,
as long as both count the tokens of the whole text alike. -/

namespace BackendHandbook.Chunking

open Ingestion Pieces Fallible Coverage ClassroomTokenizer ChunkingStrategyAdapter
  ChunkSetCandidateValidator

section Text

theorem intercalate_concat (separator : List Char) {parts : List (List Char)}
    (nonempty : parts ≠ []) (part : List Char) : separator.intercalate (parts ++ [part]) =
      separator.intercalate parts ++ separator ++ part := by
  induction parts with
  | nil => exact absurd rfl nonempty
  | cons _ parts ih =>
    cases parts with
    | nil => simp
    | cons second parts =>
      have rest := ih (List.cons_ne_nil second parts)
      simp only [List.cons_append, List.intercalate_cons_cons] at rest ⊢
      rw [rest]
      simp

variable (canonical : List Char) (version : NormalizationVersion) (contexts : List SourceSegment)

theorem contextPrefix_append (part : List Char) : contextPrefix canonical version contexts ++ part =
      (if contexts = [] then "" else "\n").toList.intercalate
        ((contexts.map fun segment => segment.normalized canonical version) ++ [part]) := by
  by_cases empty : contexts = []
  · simp [contextPrefix, empty]
  · rw [if_neg empty, intercalate_concat _ (by simpa using empty), contextPrefix, if_neg empty]
    rfl

theorem count_contextPrefix_append (part : List Char) :
    count (contextPrefix canonical version contexts ++ part) =
      count (contextPrefix canonical version contexts) + count part := by
  by_cases empty : contexts = []
  · simp [contextPrefix, empty, count_eq, tokens]
  · have regrouped : ∀ first : List Char, first ++ ['\n'] ++ part = first ++ '\n' :: part := by simp
    rw [contextPrefix, if_neg empty, regrouped, count_eq, count_eq, count_eq,
      tokens_append_break _ _ (by decide), List.length_append]

end Text

section Rounds

variable {hashing : Hashing} {job : Job}

variable {contexts : List SourceSegment}

theorem contextAt_repeatable {start : Nat}
    (prepared : ClassroomJob job) (inside : start < job.spans.length)
    (found : contextAt job start = .ok contexts) :
    Repeatable job.canonical (boundary job.canonical job.contract.normalizationVersion start)
      contexts := by
  have within := inside
  rw [spans_length prepared] at within
  have before := Nat.lt_of_lt_of_le
    (cut_tokens_lt job.canonical job.contract.normalizationVersion (Nat.lt_succ_self start) within)
    (cut_tokens_le job.canonical job.contract.normalizationVersion _)
  rw [contextAt, start_of_span prepared inside, prepared.normalized,
    Normalization.getElem?_sourceOffsets _ _ before] at found
  dsimp only at found
  split at found
  · exact (contextSegments_meets _ _).of_ok found
  · cases found
    exact ⟨nofun, nofun, List.Pairwise.nil⟩

/-- How the loop of the generator and the loop of the validator stand to each other. -/
structure Linked (job : Job) (state : LoopState) (scan : ScanState) : Prop where
  ordinal : scan.ordinal = state.chunks.length
  outputChars : scan.outputChars = state.outputChars
  previous : (state.start = 0 ∧ scan.previous = none ∧ scan.previousBody = none) ∨
    ∃ previous contexts before first, scan.previous = some previous ∧
      scan.previousBody = some before ∧ Shaped previous contexts before ∧
      previous.overlapRightTokens = job.contract.overlapTokens ∧
      before.start = boundary job.canonical job.contract.normalizationVersion first ∧
      before.end_ = boundary job.canonical job.contract.normalizationVersion
        (state.start + job.contract.overlapTokens) ∧
      first < state.start ∧ state.start + job.contract.overlapTokens < job.spans.length

theorem round_shaped {state after : LoopState} {end_ : Nat} {chunk : ChunkCandidate}
    (prepared : ClassroomJob job)
    (round : Round hashing ClassroomTokenizer.port job state end_ chunk after) : ∃ contexts body,
      Repeatable job.canonical
        (boundary job.canonical job.contract.normalizationVersion state.start) contexts ∧
      Emits hashing ClassroomTokenizer.port job state contexts end_ chunk after ∧
      Shaped chunk contexts body ∧
      body.start = boundary job.canonical job.contract.normalizationVersion state.start ∧
      body.end_ = boundary job.canonical job.contract.normalizationVersion end_ ∧
      chunk.text.toList = contextPrefix job.canonical job.contract.normalizationVersion contexts ++
          body.normalized job.canonical job.contract.normalizationVersion := by
  rcases round.emits with ⟨contexts, found, emits⟩
  have inside := Nat.lt_of_lt_of_le round.window.nonempty round.window.within
  have repeatable := contextAt_repeatable prepared inside found
  rcases emitted_body prepared round.window emits with ⟨body, segments, role, starts, ends, text⟩
  refine ⟨contexts, body, repeatable, emits, ⟨segments, role, ?_⟩, starts, ends, text⟩
  intro segment member named
  rcases repeatable.marked segment member with ⟨other, _⟩ | ⟨other, _⟩
  · rw [other] at named
    exact absurd named (by decide)
  · rw [other] at named
    exact absurd named (by decide)

theorem commonTokens_boundary {canonical : List Char} {version : NormalizationVersion}
    {a b : SourceSegment} {first start middle end_ : Nat}
    (aStart : a.start = boundary canonical version first)
    (aEnd : a.end_ = boundary canonical version middle)
    (bStart : b.start = boundary canonical version start)
    (bEnd : b.end_ = boundary canonical version end_) (order : first ≤ start)
    (shared : start ≤ middle) (further : middle ≤ end_)
    (within : middle ≤ (normalizedTokens canonical version).length) :
    commonTokens ClassroomTokenizer.port canonical version a b = middle - start := by
  have starts : max a.start b.start = boundary canonical version start := by
    rw [aStart, bStart]
    exact Nat.max_eq_right (boundary_mono canonical version order)
  have ends : min a.end_ b.end_ = boundary canonical version middle := by
    rw [aEnd, bEnd]
    exact Nat.min_eq_left (boundary_mono canonical version further)
  rw [commonTokens, starts, ends]
  by_cases apart : start = middle
  · subst apart
    rw [if_neg (Nat.lt_irrefl _), Nat.sub_self]
  · have before : start < middle := Nat.lt_of_le_of_ne shared apart
    rw [if_pos (boundary_lt canonical version before (Nat.lt_of_lt_of_le before within))]
    exact count_between canonical version shared within

variable {state after : LoopState} {scan : ScanState} {end_ : Nat} {chunk : ChunkCandidate}

variable {body : SourceSegment}

theorem overlap_checked (prepared : ClassroomJob job) (linked : Linked job state scan)
    (window : Window job.contract job.spans.length state.start end_)
    (emits : Emits hashing ClassroomTokenizer.port job state contexts end_ chunk after)
    (shaped : Shaped chunk contexts body)
    (starts : body.start = boundary job.canonical job.contract.normalizationVersion state.start)
    (ends : body.end_ = boundary job.canonical job.contract.normalizationVersion end_) :
    overlapOk ClassroomTokenizer.port job.contract job.canonical scan.previous chunk := by
  have left := emits.overlapLeft
  rcases linked.previous with ⟨_, none, _⟩ | ⟨_, _, _, _, same, _,
    shapedBefore, right, beforeStart, beforeEnd, earlier, _⟩
  · rw [if_neg (by omega)] at left
    rw [none]
    exact left
  · rw [if_pos (by omega)] at left
    have length := spans_length prepared
    have advances := window.advances
    have common := commonTokens_boundary beforeStart beforeEnd starts ends (Nat.le_of_lt earlier)
      (Nat.le_add_right _ _) (by omega) (by omega)
    simp only [same, overlapOk]
    rw [sharedTokens_eq shapedBefore shaped, common, Nat.add_sub_cancel_left]
    exact ⟨right.symm, left.symm, Nat.le_refl _⟩

/-- A chunk of the generator passes the check of the validator, where a text that is long
enough for the validator is so for the generator. -/
theorem round_checked (prepared : ClassroomJob job) (linked : Linked job state scan)
    (agrees : job.contract.minUsefulTokens ≤ count job.canonical →
      job.contract.minUsefulTokens ≤ job.spans.length)
    (round : Round hashing ClassroomTokenizer.port job state end_ chunk after) :
    ∃ contexts body, Shaped chunk contexts body ∧
      Checked hashing ClassroomTokenizer.port job.contract job.canonical scan chunk body ∧
      body.start = boundary job.canonical job.contract.normalizationVersion state.start ∧
      body.end_ = boundary job.canonical job.contract.normalizationVersion end_ := by
  rcases round_shaped prepared round with
    ⟨contexts, body, repeatable, emits, shaped, starts, ends, text⟩
  have window := round.window
  have length := spans_length prepared
  have separate : chunk.sourceSegments.Pairwise Before := by
    rw [shaped.segments, List.pairwise_append]
    refine ⟨repeatable.ordered, List.pairwise_singleton _ _, ?_⟩
    intro segment member other single
    rw [List.mem_singleton.mp single, Before, starts]
    exact repeatable.above segment member
  have counted : count (body.normalized job.canonical job.contract.normalizationVersion) =
      end_ - state.start := by
    rw [SourceSegment.normalized, starts, ends]
    exact count_between _ _ (Nat.le_of_lt window.nonempty) (by rw [← length]; exact window.within)
  have total : count chunk.text.toList = count (contextPrefix job.canonical
      job.contract.normalizationVersion contexts) + (end_ - state.start) := by
    rw [text, count_contextPrefix_append, counted]
  have bodyInside : body.end_ ≤ job.canonical.length := by
    rw [ends, ← boundary_all job.canonical job.contract.normalizationVersion, ← length]
    exact boundary_mono _ _ window.within
  have filled := body.nonEmpty
  have ordered := window.nonempty
  refine ⟨contexts, body, shaped, ?_, starts, ends⟩
  exact
    { last := by rw [shaped.segments, List.getLast?_concat]
      ordinal := by rw [emits.ordinal, linked.ordinal]
      sorted := sorted_of_separate separate, separate := separate_iff.mpr separate
      roles := by
        refine ⟨shaped.role, ?_, ?_, ?_⟩
        · rw [List.countP_eq_length_filter, shaped.filter, List.length_singleton]
        · rw [emits.joiner, shaped.segments]
          cases contexts <;> simp
        · intro segment member
          rw [shaped.segments] at member
          rcases List.mem_append.mp member with inside | inside
          · rcases repeatable.marked segment inside with ⟨role, _⟩ | ⟨role, _⟩ <;> simp [role]
          · rw [List.mem_singleton.mp inside, shaped.role]
            exact List.mem_cons_self
      inRange := by
        intro segment member
        rw [shaped.segments] at member
        rcases List.mem_append.mp member with inside | inside
        · have above := repeatable.above segment inside
          omega
        · rwa [List.mem_singleton.mp inside]
      progress := by
        rcases linked.previous with ⟨atStart, _, none⟩ | ⟨_, _, _, _, _, same,
          _, _, _, beforeEnd, _, _⟩
        · rw [none, progressOk, starts, atStart, boundary_zero]
        · have advances := window.advances
          simp only [same, progressOk]
          rw [starts, beforeEnd, ends]
          exact ⟨boundary_mono _ _ (Nat.le_add_right _ _), boundary_lt _ _ (by omega) (by omega)⟩
      contexts := by
        intro segment member
        rw [shaped.segments, List.dropLast_concat] at member
        rcases repeatable.marked segment member with ⟨role, marked⟩ | ⟨role, marked⟩
        · refine ⟨fun bad => bad.2 marked, ?_⟩
          simp [role]
        · refine ⟨?_, fun bad => bad.2 marked⟩
          simp [role]
      content := by
        rw [text, contextPrefix_append, reconstructed, emits.joiner, shaped.segments,
          List.map_append, List.map_singleton]
      contentHash := emits.contentHash
      nonempty := by
        intro empty
        rw [empty] at total
        simp [count_eq, tokens] at total
        omega
      tokens := emits.tokenCount.symm, tokens_le := emits.tokenCount_le
      useful := by
        intro enough
        have wide := emits.useful (agrees enough)
        have same : ClassroomTokenizer.port.count chunk.text.toList = count chunk.text.toList := rfl
        omega
      chars_le := by
        rw [linked.outputChars, ← emits.outputChars]
        exact emits.outputChars_le
      overlap := overlap_checked prepared linked window emits shaped starts ends }

theorem linked_after (linked : Linked job state scan)
    (round : Round hashing ClassroomTokenizer.port job state end_ chunk after)
    (goesOn : end_ < job.spans.length) (shaped : Shaped chunk contexts body)
    (starts : body.start = boundary job.canonical job.contract.normalizationVersion state.start)
    (ends : body.end_ = boundary job.canonical job.contract.normalizationVersion end_) :
    Linked job after (scan.after chunk body) := by
  rcases round.emits with ⟨_, _, emits⟩
  have advances := round.window.advances goesOn
  have next := emits.start
  have right := emits.overlapRight
  have restart : after.start + job.contract.overlapTokens = end_ := by omega
  rw [if_pos goesOn] at right
  constructor
  · rw [emits.chunks, List.length_append, List.length_singleton, ScanState.after, linked.ordinal]
  · rw [emits.outputChars, ScanState.after, linked.outputChars]
  · refine .inr ⟨chunk, contexts, body, state.start, rfl, rfl, shaped, right, starts, ?_, ?_, ?_⟩
    · rw [restart]
      exact ends
    · omega
    · omega

variable {chunks : List ChunkCandidate}

theorem produces_scanned
    (prepared : ClassroomJob job) (agrees : job.contract.minUsefulTokens ≤ count job.canonical →
      job.contract.minUsefulTokens ≤ job.spans.length) (linked : Linked job state scan)
    (produced : Produces hashing ClassroomTokenizer.port job state chunks) :
    ∃ bodies last, Scanned hashing ClassroomTokenizer.port job.contract job.canonical scan chunks
        bodies last ∧ last.cursor = job.canonical.length ∧
      (chunks.getLast?.map (·.overlapRightTokens)).getD 0 = 0 := by
  induction produced generalizing scan with
  | last round =>
    rcases round_checked prepared linked agrees round with ⟨_, body, _, checked, _, ends⟩
    rcases round.emits with ⟨_, _, emits⟩
    have right := emits.overlapRight
    rw [if_neg (Nat.lt_irrefl _)] at right
    refine ⟨[body], _, .step checked .done, ?_, right⟩
    rw [spans_length prepared, boundary_all] at ends
    exact ends
  | @next state after end_ chunk chunks round goesOn rest ih =>
    rcases round_checked prepared linked agrees round with
      ⟨_, body, shaped, checked, starts, ends⟩
    rcases ih (linked_after linked round goesOn shaped starts ends) with
      ⟨bodies, last, scanned, cursor, right⟩
    refine ⟨body :: bodies, last, .step checked scanned, cursor, ?_⟩
    cases rest with
    | last | next => exact right

theorem scanned_ends {text : List Char} {contract : ChunkingContract} {bodies : List SourceSegment}
    {last : ScanState}
    (scanned : Scanned hashing ClassroomTokenizer.port contract text {} chunks bodies last)
    (cursor : last.cursor = text.length)
    (right : (chunks.getLast?.map (·.overlapRightTokens)).getD 0 = 0) :
    checkEnd text chunks last = .ok () := by
  rcases scanned.segments with ⟨all, within⟩
  have members : ∀ segment, segment ∈ SourceSegment.sorted last.allSegments ↔
      segment ∈ chunks.flatMap (·.sourceSegments) := by
    intro segment
    rw [SourceSegment.sorted, Sorting.mem_sortBy, all]
    exact Iff.rfl
  refine checkEnd_eq_ok.mpr ⟨right, ?_⟩
  apply sweep_complete (sorted_starts _)
  · intro segment _
    exact segment.nonEmpty
  · intro segment member
    exact (within segment ((members segment).mp member)).1
  · exact Nat.zero_le _
  · intro position after before
    obtain ⟨body, found, holds⟩ := sweep_covers scanned.sweeps after (by rwa [cursor])
    refine ⟨body, (members body).mpr ?_, holds⟩
    rw [scanned.bodies_eq, bodySegments, List.mem_flatMap] at found
    rcases found with ⟨chunk, member, inside⟩
    exact List.mem_flatMap.mpr ⟨chunk, member, List.mem_of_mem_filter inside⟩

theorem produces_room {tokenizer : TokenizerPort}
    (produced : Produces hashing tokenizer job state chunks) :
    chunks ≠ [] ∧ state.chunks.length + chunks.length ≤ job.contract.maxChunkCount := by
  induction produced with
  | last round =>
    have room := round.counted
    exact ⟨List.cons_ne_nil _ _, room⟩
  | next round _ _ ih =>
    rcases round.emits with ⟨_, _, emits⟩
    have later := ih.2
    rw [emits.chunks, List.length_append, List.length_singleton] at later
    rw [List.length_cons]
    exact ⟨List.cons_ne_nil _ _, by omega⟩

theorem short_first_chunk (prepared : ClassroomJob job)
    (atStart : state.start = 0) (short : job.spans.length < job.contract.minUsefulTokens)
    (produced : Produces hashing ClassroomTokenizer.port job state (chunk :: chunks)) :
    count chunk.text.toList = job.spans.length := by
  have whole : ∀ {end_ after}, Round hashing ClassroomTokenizer.port job state end_ chunk after →
      count chunk.text.toList = job.spans.length := by
    intro end_ after round
    rcases round_shaped prepared round with ⟨contexts, body, repeatable, _, _, starts, ends, text⟩
    have length := spans_length prepared
    have reaches : end_ = job.spans.length := by
      apply Nat.le_antisymm round.window.within
      apply Nat.le_of_not_lt
      intro goesOn
      have divided := round.window.divides goesOn
      omega
    -- nothing stands above the first body
    have bare : contexts = [] := by
      rw [List.eq_nil_iff_forall_not_mem]
      intro segment member
      have above := repeatable.above segment member
      have filled := segment.nonEmpty
      rw [atStart, boundary_zero] at above
      omega
    rw [text, bare, count_contextPrefix_append, SourceSegment.normalized, starts, ends, atStart,
      reaches, count_between _ _ (Nat.zero_le _) (Nat.le_of_eq length)]
    simp [contextPrefix, count_eq, tokens]
  cases produced with
  | last round | next round => exact whole round

end Rounds

/-- A generated candidate of bound records is accepted just when the canonical text does not
pass the useful size by blanks alone: the validator counts the tokens of the canonical text,
the generator those of the normalized one. -/
theorem generated_accepted_iff {hashing : Hashing} {clock : Nat → ℚ}
    {document : DocumentHeadSnapshot} {version : DocumentVersionLifecycleRecord}
    {ingestion : IngestionOperationRecord} {parsed : ParsedArtifactDefinition}
    {source : SourceArtifactReference} {contract : ChunkingContract}
    {operation : ChunkingOperationIdentity} {attempt : ChunkingAttemptIdentity}
    {experimentId : String} {candidate : ChunkSetCandidate}
    (eligible : (evaluateDay96ChunkingEligibility document version ingestion).outcome = .eligible)
    (binding : bindingOk version ingestion parsed source
      (evaluateDay96ChunkingEligibility document version ingestion).parsedArtifactId operation)
    (checksum : parsed.manifest.outputChecksumSha256 = parsed.outputChecksumSha256)
    (generated : generate hashing ClassroomTokenizer.port clock parsed contract operation attempt
      experimentId = some (.ok candidate)) :
    (evaluate hashing ClassroomTokenizer.port document version ingestion parsed source contract
        candidate).outcome = .readyForCommit ↔
      ¬ (count (normalize parsed.canonicalText.toList contract.normalizationVersion).text <
          contract.minUsefulTokens ∧
        contract.minUsefulTokens ≤ count parsed.canonicalText.toList) := by
  rcases @generate_ends hashing ClassroomTokenizer.port clock parsed
    contract operation attempt experimentId with ⟨_, done, met⟩
  rw [generated] at done
  rcases met.of_ok (Option.some.inj done).symm with ⟨⟨job, prepared, produced⟩, same⟩
  have room := produces_room produced
  have total : job.spans.length =
      count (normalize parsed.canonicalText.toList contract.normalizationVersion).text := by
    rw [spans_length prepared.classroom, prepared.canonical, prepared.sameContract, count_eq]
    rfl
  rw [← total, evaluate_ready_iff]
  constructor
  · rintro ⟨_, last, bodies, scanned, _⟩ ⟨short, long⟩
    cases chunks : candidate.chunks with
    | nil => exact room.1 chunks
    | cons chunk =>
      rw [chunks] at scanned produced
      cases scanned with
      | step checked =>
        have useful := checked.useful long
        have counted := short_first_chunk prepared.classroom rfl
          (by rwa [prepared.sameContract]) produced
        have port : ClassroomTokenizer.port.count chunk.text.toList = count chunk.text.toList := rfl
        omega
  · intro agrees
    have counts : job.contract.minUsefulTokens ≤ count job.canonical →
        job.contract.minUsefulTokens ≤ job.spans.length := by
      rw [prepared.sameContract, prepared.canonical]
      intro long
      exact Nat.le_of_not_lt fun short => agrees ⟨short, long⟩
    have linked : Linked job { workUnits := job.spans.length } {} :=
      ⟨rfl, rfl, .inl ⟨rfl, rfl, rfl⟩⟩
    rcases produces_scanned prepared.classroom counts linked produced with
      ⟨bodies, last, scanned, cursor, right⟩
    have ends := scanned_ends scanned cursor right
    rw [prepared.canonical, prepared.sameContract] at scanned
    rw [prepared.canonical] at ends
    refine ⟨?_, last, bodies, scanned, ends⟩
    rw [same]
    exact
      { eligible, binding, correlated := prepared.correlated, experiment := prepared.experiment
        sameTokenizer := prepared.sameTokenizer, fingerprint := prepared.fingerprint
        manifest := ⟨prepared.checksum, checksum, rfl, rfl, rfl, rfl⟩, nonempty := room.1
        count_le := by
          rw [← prepared.sameContract]
          exact (Nat.zero_add _).symm.le.trans room.2
        size_le := prepared.size }

namespace Sample

theorem eligible (text : String)
    (filled : Text.requireNonEmpty [(Ingestion.Sample.attempt 1).operationId,
      (Ingestion.Sample.attempt 1).idempotencyKey, (Ingestion.Sample.attempt 1).parserRequestId,
      sha256Text Ingestion.Sample.digest text] = true) :
    (evaluateDay96ChunkingEligibility document (version text filled) ingestion).outcome =
      .eligible := by
  rw [eligible_iff]
  refine ⟨⟨rfl, rfl, rfl⟩, rfl, rfl, rfl, ?_, rfl⟩
  intro absent
  cases absent

/-- The candidate of two windows is accepted. -/
theorem two_windows_accepted :
    (evaluate hashing ClassroomTokenizer.port document (version "a b c d") ingestion
      (parsed "a b c d") Ingestion.Sample.source (contract .identityV1 1) candidate).outcome =
        .readyForCommit := by
  apply (generated_accepted_iff (eligible "a b c d" (by decide)) (by decide +kernel) rfl
    generate_candidate).mpr
  decide +kernel

/-- One chunk of three tokens, cut from six canonical ones. -/
def collapsed : ChunkSetCandidate :=
  candidateOf hashing (parsed "a    b") (contract .collapseHorizontalSpaceV1 5)
    (operation "a    b") attempt "experiment-96"
    [{ ordinal := 0, text := "a b", sourceSegments := [body 0 6]
       tokenCount := 3, contentHash := "sha256:a b", boundaryReason := "SOURCE_END" }]

/-- The generator returns a candidate of eligible, bound records that the validator refuses. -/
theorem collapsed_refused :
    (evaluateDay96ChunkingEligibility document (version "a    b") ingestion).outcome = .eligible ∧
      bindingOk (version "a    b") ingestion (parsed "a    b") Ingestion.Sample.source
        (evaluateDay96ChunkingEligibility document (version "a    b") ingestion).parsedArtifactId
        (operation "a    b") ∧
      (parsed "a    b").manifest.outputChecksumSha256 = (parsed "a    b").outputChecksumSha256 ∧
      generate hashing ClassroomTokenizer.port clock (parsed "a    b")
        (contract .collapseHorizontalSpaceV1 5) (operation "a    b") attempt "experiment-96" =
          some (.ok collapsed) ∧
      (evaluate hashing ClassroomTokenizer.port document (version "a    b") ingestion
        (parsed "a    b") Ingestion.Sample.source (contract .collapseHorizontalSpaceV1 5)
        collapsed).outcome = .tokenBudgetInvalid := by
  refine ⟨eligible "a    b" (by decide), ?_, rfl, ?_, ?_⟩ <;> decide +kernel

end Sample

end BackendHandbook.Chunking
