import BackendHandbook.Chunking.Strategies

/-! The generation loop always advances and ends: what each round chooses, checks and appends,
whatever tokenizer and clock it runs with. -/

namespace BackendHandbook.Chunking

open Ingestion Pieces Fallible

namespace ChunkingStrategyAdapter

/-- Not one of the two refusals that would tell of a round that does not advance. -/
def Blameless (raised : Raised) : Prop :=
  raised ≠ .chunkGenerationError "NON_ADVANCING_OVERLAP" ∧
    raised ≠ .chunkGenerationError "INVALID_STRATEGY_BOUNDARY"

/-- The window of a round: it ends with the tokens, or past the start of the next window. -/
structure Window (contract : ChunkingContract) (total start end_ : Nat) : Prop where
  nonempty : start < end_
  within : end_ ≤ total
  advances : end_ < total → start + contract.overlapTokens < end_
  divides : end_ < total → contract.minUsefulTokens < total

variable {safeReason : String}

theorem blameless_of_reason
    (different : safeReason ≠ "NON_ADVANCING_OVERLAP" ∧ safeReason ≠ "INVALID_STRATEGY_BOUNDARY") :
    Blameless (.chunkGenerationError safeReason) :=
  ⟨fun same => different.1 (Raised.chunkGenerationError.inj same),
    fun same => different.2 (Raised.chunkGenerationError.inj same)⟩

variable {α : Type}

theorem meets_refuse {Q : α → Prop}
    (different : safeReason ≠ "NON_ADVANCING_OVERLAP" ∧ safeReason ≠ "INVALID_STRATEGY_BOUNDARY") :
    Meets Q Blameless (refuse safeReason : Except Raised α) :=
  blameless_of_reason different

theorem meets_guard {Q : α → Prop} {refused : Prop} [Decidable refused] {other : Except Raised α}
    (different : safeReason ≠ "NON_ADVANCING_OVERLAP" ∧ safeReason ≠ "INVALID_STRATEGY_BOUNDARY")
    (passed : ¬ refused → Meets Q Blameless other) :
    Meets Q Blameless (if refused then refuse safeReason else other) :=
  meets_ite (fun _ => meets_refuse different) passed

section ChooseEnd

variable {text : List Char} {spans : List TokenSpan} {contract : ChunkingContract}
  {start bodyBudget : Nat}

theorem mem_choices {lower limit index : Nat} {predicate : List Char → Nat → Bool}
    (member : index ∈ choices text spans lower limit predicate) :
    lower ≤ index ∧ index ≤ limit := by
  have inside := List.mem_of_mem_filter member
  rw [List.mem_range'_1] at inside
  omega

theorem selected_within {target lower limit : Nat} {selected : Nat × String}
    {boundaries : List (String × (List Char → Nat → Bool))}
    (found : boundaries.findSome? (fun priority =>
      (nearest target (choices text spans lower limit priority.2)).map (·, priority.1)) =
        some selected) : lower ≤ selected.1 ∧ selected.1 ≤ limit := by
  rcases List.exists_of_findSome?_eq_some found with ⟨_, _, chosen⟩
  rcases Option.map_eq_some_iff.mp chosen with ⟨_, nearestIs, rfl⟩
  exact mem_choices (List.argmin_mem nearestIs)

/-- Every way of choosing an end leaves a window that advances, whatever the boundaries are:
the target is beyond the overlap, and so is the first boundary that is looked at. -/
theorem chooseEnd_meets (inside : start < spans.length)
    (budget : max contract.minUsefulTokens (contract.overlapTokens + 1) ≤ bodyBudget) :
    Meets (fun choice => Window contract spans.length start choice.1 ∧
      choice.1 - start ≤ bodyBudget) Blameless
      (chooseEnd text spans start contract bodyBudget) := by
  have smaller := contract.overlap_lt
  apply meets_ite
  · intro fits
    have ends : Window contract spans.length start spans.length :=
      { nonempty := inside, within := Nat.le_refl _
        advances := fun absent => absurd absent (Nat.lt_irrefl _)
        divides := fun absent => absurd absent (Nat.lt_irrefl _) }
    exact ⟨ends, fits⟩
  · intro exceeds
    have divides : contract.minUsefulTokens < spans.length := by omega
    have window : ∀ end_, start + contract.overlapTokens < end_ →
        end_ ≤ min (start + bodyBudget) spans.length →
        Window contract spans.length start end_ ∧ end_ - start ≤ bodyBudget := by
      intro end_ beyond below
      have bounds : start < end_ ∧ end_ ≤ spans.length ∧ end_ - start ≤ bodyBudget := by omega
      exact ⟨⟨bounds.1, bounds.2.1, fun _ => beyond, fun _ => divides⟩, bounds.2.2⟩
    apply meets_ite
    · intro _
      apply window <;> omega
    · intro _
      dsimp only
      generalize found : List.findSome? _ (priorities contract) = selected
      cases selected with
      | some selected =>
        rcases selected_within found with ⟨_, below⟩
        exact window selected.1 (by omega) below
      | none =>
        apply meets_guard (by decide)
        · intro _
          apply window <;> omega

end ChooseEnd

section Rounds

variable {hashing : Hashing} {tokenizer : TokenizerPort} {clock : Nat → ℚ} {job : Job}

theorem spendWork_meets (state : LoopState) :
    Meets (fun _ => state.chunks.length < job.contract.maxChunkCount) Blameless
      (spendWork clock job state) := by
  apply meets_guard (by decide)
  · intro _
    apply meets_guard (by decide)
    · intro room
      apply meets_guard (by decide)
      · intro _
        exact Nat.lt_of_not_le room

theorem contextAt_meets (start : Nat) :
    Meets (fun contexts => contextAt job start = .ok contexts) Blameless (contextAt job start) := by
  apply meets_self
  intro raised failed
  unfold contextAt at failed
  split at failed
  · cases failed
    constructor
    · intro same
      cases same
    · intro same
      cases same
  · rename_i offset _
    rcases (contextSegments_meets job.canonical offset.1).answers with ⟨_, found, _⟩
    split at failed
    · rw [found] at failed
      cases failed
    · cases failed

theorem windowEnd_meets {start : Nat} (inside : start < job.spans.length)
    (contexts : List SourceSegment) :
    Meets (fun choice => Window job.contract job.spans.length start choice.1) Blameless
      (windowEnd tokenizer job start contexts) := by
  apply meets_guard (by decide)
  · intro budget
    apply meets_bind (chooseEnd_meets inside (Nat.le_of_not_lt budget))
    rintro ⟨_, _⟩ ⟨window, fits⟩
    apply meets_ite
    · have ordered := window.nonempty
      omega
    · intro _
      exact window

/-- The chunk that a round appends for its window, with the bounds it was held to. -/
structure Emits (hashing : Hashing) (tokenizer : TokenizerPort) (job : Job) (state : LoopState)
    (contexts : List SourceSegment) (end_ : Nat) (chunk : ChunkCandidate) (after : LoopState) :
    Prop where
  start : after.start = end_ - job.contract.overlapTokens
  chunks : after.chunks = state.chunks ++ [chunk]
  outputChars : after.outputChars = state.outputChars + chunk.text.toList.length
  outputChars_le : after.outputChars ≤ job.contract.maxOutputChars
  ordinal : chunk.ordinal = state.chunks.length
  text : chunk.text.toList =
    contextPrefix job.canonical job.contract.normalizationVersion contexts ++
      slice job.normalized.text (job.spans.getD state.start default).start
        (endBefore job.spans end_)
  body : ∃ body, chunk.sourceSegments = contexts ++ [body] ∧ body.role = "body" ∧
    job.normalized.sourceInterval (job.spans.getD state.start default).start
      (endBefore job.spans end_) = .ok (body.start, body.end_)
  tokenCount : chunk.tokenCount = tokenizer.count chunk.text.toList
  tokenCount_le : tokenizer.count chunk.text.toList ≤ job.contract.hardMaxTokens
  useful : job.contract.minUsefulTokens ≤ job.spans.length →
    job.contract.minUsefulTokens ≤ end_ - state.start
  contentHash : chunk.contentHash = sha256Text hashing.text chunk.text
  overlapLeft : chunk.overlapLeftTokens = if 0 < state.start then job.contract.overlapTokens else 0
  overlapRight : chunk.overlapRightTokens =
    if end_ < job.spans.length then job.contract.overlapTokens else 0
  joiner : chunk.joiner = if contexts = [] then "" else "\n"

theorem sourceInterval_meets (normalized : NormalizedText) (start end_ : Nat) :
    Meets (fun interval => normalized.sourceInterval start end_ = .ok interval) Blameless
      (normalized.sourceInterval start end_) := by
  apply meets_self
  intro raised failed
  unfold NormalizedText.sourceInterval at failed
  split at failed
  · cases failed
    constructor
    · intro same
      cases same
    · intro same
      cases same
  · split at failed
    · cases failed
    · cases failed
      exact ⟨nofun, nofun⟩

theorem make_meets (start end_ : Nat) (role : String) :
    Meets (fun segment => SourceSegment.make start end_ role = .ok segment) Blameless
      (SourceSegment.make start end_ role) := by
  apply meets_self
  intro raised failed
  unfold SourceSegment.make at failed
  split at failed
  · cases failed
  · cases failed
    constructor
    · intro same
      cases same
    · intro same
      cases same

theorem emit_meets {state : LoopState} {end_ : Nat}
    (window : Window job.contract job.spans.length state.start end_) (workUnits : Nat)
    (contexts : List SourceSegment) (reason : String) :
    Meets (fun after => ∃ chunk, Emits hashing tokenizer job state contexts end_ chunk after)
      Blameless (emit hashing tokenizer job state workUnits contexts end_ reason) := by
  apply meets_bind (sourceInterval_meets _ _ _)
  rintro ⟨_, _⟩ interval
  apply meets_guard (by decide)
  intro counted
  apply meets_guard (by decide)
  intro written
  apply meets_guard (by decide)
  intro _
  apply meets_guard (by decide)
  intro useful
  apply meets_ite
  · -- the next window starts later: the contract keeps the end beyond the overlap
    rintro ⟨goesOn, _⟩
    have beyond := window.advances goesOn
    omega
  intro _
  apply meets_bind (make_meets _ _ _)
  intro body made
  rcases SourceSegment.make_eq_ok.mp made with ⟨starts, ends, role⟩
  exact ⟨_,
    { start := rfl, chunks := rfl
      outputChars := by rw [String.toList_ofList]
      outputChars_le := Nat.le_of_not_lt written, ordinal := rfl, text := String.toList_ofList
      body := ⟨body, rfl, role, by rw [starts, ends]; exact interval⟩
      tokenCount := by rw [String.toList_ofList]
      tokenCount_le := by rw [String.toList_ofList]; exact Nat.le_of_not_lt counted
      useful := fun enough => Nat.le_of_not_lt fun short => useful ⟨short, enough⟩
      contentHash := rfl
      overlapLeft := by split <;> rfl
      overlapRight := by dsimp only; split <;> rfl
      joiner := rfl }⟩

/-- All that is known of a round that ended well. -/
structure Round (hashing : Hashing) (tokenizer : TokenizerPort) (job : Job) (state : LoopState)
    (end_ : Nat) (chunk : ChunkCandidate) (after : LoopState) : Prop where
  counted : state.chunks.length < job.contract.maxChunkCount
  window : Window job.contract job.spans.length state.start end_
  emits : ∃ contexts, contextAt job state.start = .ok contexts ∧
    Emits hashing tokenizer job state contexts end_ chunk after

theorem iteration_meets {state : LoopState} (inside : state.start < job.spans.length) :
    Meets (fun round => ∃ chunk, Round hashing tokenizer job state round.1 chunk round.2)
      Blameless (iteration hashing tokenizer clock job state) := by
  apply meets_bind (spendWork_meets state)
  intro workUnits counted
  apply meets_bind (contextAt_meets state.start)
  intro contexts found
  apply meets_bind (windowEnd_meets inside contexts)
  rintro ⟨_, reason⟩ window
  apply meets_bind (emit_meets window workUnits contexts reason)
  rintro _ ⟨chunk, emits⟩
  exact ⟨chunk, counted, window, contexts, found, emits⟩

inductive Produces (hashing : Hashing) (tokenizer : TokenizerPort) (job : Job) :
    LoopState → List ChunkCandidate → Prop
  | last {state after : LoopState} {chunk : ChunkCandidate}
      (round : Round hashing tokenizer job state job.spans.length chunk after) :
      Produces hashing tokenizer job state [chunk]
  | next {state after : LoopState} {end_ : Nat} {chunk : ChunkCandidate}
      {chunks : List ChunkCandidate} (round : Round hashing tokenizer job state end_ chunk after)
      (goesOn : end_ < job.spans.length) (rest : Produces hashing tokenizer job after chunks) :
      Produces hashing tokenizer job state (chunk :: chunks)

/-- The loop ends within as many rounds as there are tokens left, since every round but the
last starts its successor later. -/
theorem loop_ends {fuel : Nat} {state : LoopState} (inside : state.start < job.spans.length)
    (enough : job.spans.length - state.start ≤ fuel) :
    ∃ outcome, loop hashing tokenizer clock job fuel state = some outcome ∧
      Meets (fun chunks => ∃ appended, chunks = state.chunks ++ appended ∧
        Produces hashing tokenizer job state appended) Blameless outcome := by
  induction fuel generalizing state with
  | zero => omega
  | succ _ ih =>
    rw [loop, if_pos inside]
    have met : Meets _ _ (iteration hashing tokenizer clock job state) := iteration_meets inside
    cases finished : iteration hashing tokenizer clock job state with
    | error => exact ⟨_, rfl, met.of_error finished⟩
    | ok round =>
      rcases round with ⟨end_, after⟩
      rcases met.of_ok finished with ⟨chunk, round⟩
      rcases round.emits with ⟨_, _, emits⟩
      dsimp only at round emits ⊢
      by_cases ends : end_ = job.spans.length
      · subst ends
        rw [if_pos rfl]
        exact ⟨_, rfl, [chunk], emits.chunks, .last round⟩
      · rw [if_neg ends]
        have goesOn : end_ < job.spans.length := Nat.lt_of_le_of_ne round.window.within ends
        have later := round.window.advances goesOn
        have starts := emits.start
        obtain ⟨outcome, done, rest⟩ := @ih after (by omega) (by omega)
        refine ⟨outcome, done, rest.mono ?_ fun _ blameless => blameless⟩
        rintro _ ⟨appended, rfl, produced⟩
        refine ⟨chunk :: appended, ?_, .next round goesOn produced⟩
        rw [emits.chunks, List.append_assoc, List.singleton_append]

end Rounds

section Generate

variable {hashing : Hashing} {tokenizer : TokenizerPort} {clock : Nat → ℚ}
  {parsed : ParsedArtifactDefinition} {contract : ChunkingContract}
  {operation : ChunkingOperationIdentity} {attempt : ChunkingAttemptIdentity}
  {experimentId : String}

/-- What the checks before the loop have made sure of. -/
structure Prepared (hashing : Hashing) (tokenizer : TokenizerPort)
    (parsed : ParsedArtifactDefinition) (contract : ChunkingContract)
    (operation : ChunkingOperationIdentity) (attempt : ChunkingAttemptIdentity)
    (experimentId : String) (job : Job) : Prop where
  experiment : experimentId ≠ ""
  sameTokenizer : contract.tokenizer = tokenizer.contract
  fingerprint : operation.contractFingerprint = contract.fingerprint hashing
  correlated : attempt.operationId = operation.operationId
  size : parsed.canonicalText.toList.length ≤ contract.maxInputChars
  checksum : parsed.outputChecksumSha256 = sha256Text hashing.text parsed.canonicalText
  canonical : job.canonical = parsed.canonicalText.toList
  sameContract : job.contract = contract
  normalized : job.normalized = normalize job.canonical job.contract.normalizationVersion
  spans : job.spans = tokenizer.spans job.normalized.text
  nonempty : 0 < job.spans.length

theorem prepare_meets :
    Meets (Prepared hashing tokenizer parsed contract operation attempt experimentId) Blameless
      (prepare hashing tokenizer clock parsed contract operation attempt experimentId) := by
  apply meets_guard (by decide)
  intro experiment
  apply meets_guard (by decide)
  intro sameTokenizer
  apply meets_guard (by decide)
  intro fingerprint
  apply meets_guard (by decide)
  intro _
  apply meets_guard (by decide)
  intro correlated
  apply meets_guard (by decide)
  intro size
  apply meets_guard (by decide)
  intro checksum
  apply meets_guard (by decide)
  intro nonempty
  apply meets_guard (by decide)
  intro _
  apply meets_guard (by decide)
  intro _
  exact
    { experiment, sameTokenizer := Decidable.not_not.mp sameTokenizer
      fingerprint := Decidable.not_not.mp fingerprint, correlated := Decidable.not_not.mp correlated
      size := Nat.le_of_not_lt fun long => size (.inr long)
      checksum := Decidable.not_not.mp checksum, canonical := rfl, sameContract := rfl
      normalized := rfl, spans := rfl, nonempty := List.length_pos_iff.mpr nonempty }

/-- The candidate that the generation returns: its checks, and the rounds of its loop. -/
structure Generated (hashing : Hashing) (tokenizer : TokenizerPort)
    (parsed : ParsedArtifactDefinition) (contract : ChunkingContract)
    (operation : ChunkingOperationIdentity) (attempt : ChunkingAttemptIdentity)
    (experimentId : String) (candidate : ChunkSetCandidate) : Prop where
  rounds : ∃ job, Prepared hashing tokenizer parsed contract operation attempt experimentId job ∧
    Produces hashing tokenizer job { workUnits := job.spans.length } candidate.chunks
  candidate : candidate = candidateOf hashing parsed contract operation attempt experimentId
    candidate.chunks

theorem generate_ends :
    ∃ outcome, generate hashing tokenizer clock parsed contract operation attempt experimentId =
        some outcome ∧
      Meets (Generated hashing tokenizer parsed contract operation attempt experimentId) Blameless
        outcome := by
  have met : Meets _ _ (prepare hashing tokenizer clock parsed contract operation attempt
    experimentId) := prepare_meets
  cases finished : prepare hashing tokenizer clock parsed contract operation attempt
    experimentId with
  | error raised =>
    refine ⟨.error raised, ?_, met.of_error finished⟩
    rw [generate, finished]
  | ok job =>
    have prepared := met.of_ok finished
    rcases @loop_ends hashing tokenizer clock job job.spans.length
      { workUnits := job.spans.length } prepared.nonempty (Nat.sub_le _ _) with
      ⟨outcome, done, rounds⟩
    refine ⟨outcome.map (candidateOf hashing parsed contract operation attempt experimentId),
      ?_, ?_⟩
    · rw [generate, finished]
      dsimp only
      rw [done, Option.map_some]
    · cases outcome with
      | error => exact rounds
      | ok =>
        rcases rounds with ⟨_, same, produced⟩
        cases same
        exact ⟨⟨job, prepared, produced⟩, rfl⟩

end Generate

end ChunkingStrategyAdapter
end BackendHandbook.Chunking
