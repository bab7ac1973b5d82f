import BackendHandbook.Foundation.Keyed
import BackendHandbook.Grounding.Contracts

/-! Rechecks of the sources that are current, and the plan of an immutable grounding bundle. -/

namespace BackendHandbook.Grounding

open Text Retrieval Reranking Fallible

structure CurrentGroundingSources where
  acceptedOccurrenceIds : List String
  rejected : List (String × String)
  authorizationScopeFingerprint : String

structure GroundingCurrentnessOracle where
  authorization : InMemoryRetrievalAuthorization
  records : Dict String RetrievalRecord
  provenance : Dict String String
  superseded : List String

namespace GroundingCurrentnessOracle

def ofRecords (authorization : InMemoryRetrievalAuthorization) (records : List RetrievalRecord) :
    GroundingCurrentnessOracle :=
  { authorization
    records := records.foldl
      (fun stored record => stored.insert record.identity.occurrenceId record) ∅
    provenance := records.foldl
      (fun stored record =>
        stored.insert record.identity.occurrenceId record.identity.provenanceFingerprint) ∅
    superseded := [] }

variable (oracle : GroundingCurrentnessOracle)

def changeProvenance (occurrenceId fingerprint : String) : GroundingCurrentnessOracle :=
  { oracle with provenance := oracle.provenance.insert occurrenceId fingerprint }

def markSuperseded (occurrenceId : String) : GroundingCurrentnessOracle :=
  { oracle with superseded := occurrenceId :: oracle.superseded }

def rejection (scope : RetrievalAuthorizationScope)
    (identity : CandidateIdentity) : Option Day102FailureReason :=
  let occurrenceId := identity.occurrenceId
  if occurrenceId ∉ scope.allowedOccurrenceIds then some .staleAuthorization
  else if occurrenceId ∈ oracle.superseded then some .supersededSource
  else if (oracle.records.lookup occurrenceId).map RetrievalRecord.identity ≠ some identity ∨
      oracle.provenance.lookup occurrenceId ≠ some identity.provenanceFingerprint then
    some .staleProvenance
  else none

def recheckIdentities (digests : GroundingDigests) (oracle : GroundingCurrentnessOracle)
    (identities : List CandidateIdentity) (request : GroundingRequest) :
    Except Raised CurrentGroundingSources :=
  match oracle.authorization.read request.scopeKey with
  | .error message => .error (.authorizationUnavailable message)
  | .ok none => .error (.authorizationUnavailable "CURRENT_GROUNDING_AUTHORIZATION_NOT_FOUND")
  | .ok (some scope) => .ok
      { acceptedOccurrenceIds :=
          (identities.filter fun identity => (oracle.rejection scope identity).isNone).map
            CandidateIdentity.occurrenceId
        rejected := identities.filterMap fun identity =>
          (oracle.rejection scope identity).map fun reason =>
            (identity.occurrenceId, reason.value)
        authorizationScopeFingerprint := scope.fingerprint digests.toDigests }

end GroundingCurrentnessOracle

/-- A source the requester may read now, not superseded, and recorded as it was cited. -/
structure Current (oracle : GroundingCurrentnessOracle) (request : GroundingRequest)
    (identity : CandidateIdentity) : Prop where
  authorized : ∃ scope, oracle.authorization.read request.scopeKey = .ok (some scope) ∧
    identity.occurrenceId ∈ scope.allowedOccurrenceIds
  standing : identity.occurrenceId ∉ oracle.superseded
  recorded : ∃ record, oracle.records.lookup identity.occurrenceId = some record ∧
    record.identity = identity
  provenance : oracle.provenance.lookup identity.occurrenceId = some identity.provenanceFingerprint

namespace GroundingCurrentnessOracle

variable {digests : GroundingDigests} {oracle : GroundingCurrentnessOracle}
  {scope : RetrievalAuthorizationScope} {identities : List CandidateIdentity}
  {request : GroundingRequest} {sources : CurrentGroundingSources}

theorem rejection_eq_none {identity : CandidateIdentity} : oracle.rejection scope identity = none ↔
      identity.occurrenceId ∈ scope.allowedOccurrenceIds ∧
        identity.occurrenceId ∉ oracle.superseded ∧
        (oracle.records.lookup identity.occurrenceId).map RetrievalRecord.identity = some identity ∧
        oracle.provenance.lookup identity.occurrenceId = some identity.provenanceFingerprint := by
  unfold rejection
  dsimp only
  split
  · next denied => simp [denied]
  · next allowed =>
    split
    · next superseded => simp [superseded]
    · next standing =>
      split
      · next stale =>
        constructor
        · intro impossible
          cases impossible
        · rintro ⟨_, _, recorded, provenance⟩
          rcases stale with other | other
          · exact absurd recorded other
          · exact absurd provenance other
      · next fresh =>
        rw [not_or, not_not, not_not] at fresh
        exact ⟨fun _ => ⟨not_not.mp allowed, standing, fresh⟩, fun _ => rfl⟩

theorem read_of_recheck
    (checked : oracle.recheckIdentities digests identities request = .ok sources) :
    ∃ scope, oracle.authorization.read request.scopeKey = .ok (some scope) ∧
      sources.acceptedOccurrenceIds =
        (identities.filter fun identity => (oracle.rejection scope identity).isNone).map
          CandidateIdentity.occurrenceId ∧ sources.rejected = identities.filterMap fun identity =>
        (oracle.rejection scope identity).map fun reason =>
          (identity.occurrenceId, reason.value) := by
  unfold recheckIdentities at checked
  cases found : oracle.authorization.read request.scopeKey with
  | error =>
    rw [found] at checked
    cases checked
  | ok held =>
    rw [found] at checked
    cases held with
    | none => cases checked
    | some scope =>
      cases checked
      exact ⟨scope, rfl, rfl, rfl⟩

theorem current_of_accepted
    (checked : oracle.recheckIdentities digests identities request = .ok sources)
    {occurrenceId : String} (accepted : occurrenceId ∈ sources.acceptedOccurrenceIds) :
    ∃ identity ∈ identities, identity.occurrenceId = occurrenceId ∧
      Current oracle request identity := by
  obtain ⟨scope, read, accepts, _⟩ := read_of_recheck checked
  rw [accepts] at accepted
  obtain ⟨identity, kept, same⟩ := List.mem_map.mp accepted
  obtain ⟨listed, none⟩ := List.mem_filter.mp kept
  obtain ⟨allowed, standing, recorded, provenance⟩ :=
    rejection_eq_none.mp (Option.isNone_iff_eq_none.mp none)
  obtain ⟨record, found, identical⟩ := Option.map_eq_some_iff.mp recorded
  exact ⟨identity, listed, same,
    { authorized := ⟨scope, read, allowed⟩, standing, recorded := ⟨record, found, identical⟩
      provenance }⟩

end GroundingCurrentnessOracle

structure DeterministicContextSelector where
  selected : List String
  selected_nodup : selected.Nodup

def DeterministicContextSelector.select (selector : DeterministicContextSelector)
    (hits : List FinalRerankedHit) (limit : Nat) : List String :=
  if selector.selected.isEmpty then (hits.take limit).map FinalRerankedHit.occurrenceId
  else selector.selected.take limit

structure GroundingContextPlanner where
  contract : GroundingContract
  selector : DeterministicContextSelector

namespace GroundingContextPlanner

variable (digests : GroundingDigests) (planner : GroundingContextPlanner)

/-- The window of a hit; its text is never cut. -/
def window (hit : FinalRerankedHit) : Except Raised (SourceWindow digests) :=
  let textDigest := digests.text hit.text
  let windowId := digests.sourceWindow
    { occurrenceId := hit.identity.occurrenceId
      documentVersionId := hit.identity.documentVersionId, sourceReference := hit.sourceReference
      windowPolicyVersion := planner.contract.sourceWindowPolicyVersion
      textDigest }
  if identified : allPresent [windowId, hit.sourceReference, hit.sourceReference,
      planner.contract.sourceWindowPolicyVersion, textDigest, hit.text] = true ∧
      0 < hit.rank then
    .ok
      { windowId, identity := hit.identity, sourceReference := hit.sourceReference
        exactSpan := hit.sourceReference, day101Rank := hit.rank
        windowPolicyVersion := planner.contract.sourceWindowPolicyVersion
        textDigest
        protectedText := hit.text, complete := identified.1, rank_pos := identified.2
        digest_matches := rfl }
  else .error (.other "complete source-window identity is required")

/-- The loop over the selected hits, with the characters taken so far. -/
def windows : Nat → List FinalRerankedHit → Except Raised (List (SourceWindow digests))
  | _, [] => .ok []
  | totalChars, hit :: rest =>
    if planner.contract.maxCharsPerWindow < hit.text.length then
      .error (.plan .groundingPlanInvalid)
    else if planner.contract.maxTotalSourceChars < totalChars + hit.text.length then
      .error (.plan .groundingPlanInvalid)
    else do
      let planned ← planner.window digests hit
      let others ← windows (totalChars + hit.text.length) rest
      .ok (planned :: others)

def bundle (request : GroundingRequest) (response : Day101Response)
    (authorizationScopeFingerprint originalQueryDigest : String)
    (windows : List (SourceWindow digests)) : Except Raised (GroundingBundle digests) :=
  let requestItemsDigest := digests.requestItems (request.requestItems.map fun item =>
    (item.itemId, item.safeLabel, digests.text item.protectedText))
  let upstreamRerankingMode := (response.rerankingMode.map RerankingMode.value).getD "NOT_RUN"
  if identified : allPresent [request.operationId, originalQueryDigest, requestItemsDigest,
      request.day101HandoffDigest, authorizationScopeFingerprint,
      planner.contract.fingerprint digests, response.outcome.value, upstreamRerankingMode,
      response.safeReason] = true ∧ windows ≠ [] then
    if distinct : (windows.map SourceWindow.windowId).Nodup then
      if single : (windows.map SourceWindow.occurrenceId).Nodup then
        .ok
          { operationId := request.operationId, originalQueryDigest, requestItemsDigest
            day101HandoffDigest := request.day101HandoffDigest
            authorizationScopeFingerprint
            contractFingerprint := planner.contract.fingerprint digests
            upstreamOutcome := response.outcome.value
            upstreamRerankingMode
            upstreamSafeReason := response.safeReason
            windows
            identities_present := identified.1, windows_present := identified.2
            windows_nodup := distinct, occurrences_nodup := single }
      else .error (.other "one grounding window per occurrence is required")
    else .error (.other "grounding source-window IDs must be unique")
  else .error (.other "grounding bundle requires frozen identities and windows")

def plan (request : GroundingRequest) (response : Day101Response)
    (currentHits : List FinalRerankedHit) (authorizationScopeFingerprint : String) :
    Except Raised (GroundingBundle digests) :=
  let selectedIds := planner.selector.select currentHits planner.contract.maxSourceWindows
  if selectedIds = [] ∨ ¬ selectedIds.Nodup then .error (.plan .groundingPlanInvalid)
  else
    match selectedIds.mapM (Keyed.get FinalRerankedHit.occurrenceId currentHits) with
    | none => .error (.plan .groundingPlanInvalid)
    | some hits => do
        let windows ← planner.windows digests 0 hits
        match response.originalQueryDigest with
        | none => .error (.plan .invalidDay101Handoff)
        | some originalQueryDigest =>
          planner.bundle digests request response authorizationScopeFingerprint
            originalQueryDigest windows

variable {digests planner} {request : GroundingRequest} {response : Day101Response}
  {scopeFingerprint originalQueryDigest : String}

end GroundingContextPlanner

/-! Fail-closed validation of answers, claims, citations and verification results. -/

structure ClaimValidationReport where
  accepted : List ValidatedClaim
  rejected : List ClaimDecision

namespace GroundingValidator

variable (digests : GroundingDigests)

def validateAnswer (answer : GeneratedAnswer) (expectedAttemptId : String)
    (bundle : GroundingBundle digests) (contract : GroundingContract) : Except Raised Unit :=
  if answer.attemptId ≠ expectedAttemptId ∨ answer.bundleDigest ≠ bundle.digest ∨
      answer.generatorContractFingerprint ≠ contract.fingerprint digests then
    .error (.validation .generatorOutputInvalid)
  else .ok ()

variable {digests} in
def citation (claimId : String) (window : SourceWindow digests) : CitationRecord :=
  { citationId := digests.citation
      { claimId, windowId := window.windowId, documentVersionId := window.identity.documentVersionId
        exactSpan := window.exactSpan, textDigest := window.textDigest }
    windowId := window.windowId, sourceIdentity := window.identity
    sourceReference := window.sourceReference, exactSpan := window.exactSpan
    evidenceDigest := window.textDigest }

/-- The citations of a claim, or why it has none that count. -/
def citations (bundle : GroundingBundle digests) (claim : ExtractedClaim) :
    Except Day102FailureReason (List CitationRecord) :=
  if claim.citationWindowIds = [] then .error .citationRequired
  else
    match claim.citationWindowIds.mapM (Keyed.get SourceWindow.windowId bundle.windows) with
    | none => .error .citationOutOfBundle
    | some windows => .ok (windows.map (citation claim.claimId))

def uncited (claim : ExtractedClaim) (reason : Day102FailureReason) : ClaimDecision :=
  { claimId := claim.claimId
    requestItemId := claim.requestItemId, protectedText := claim.protectedText
    disposition := .rejected, semanticRelation := none, reason := reason.value }

/-- The text of an answer between two positions. -/
def excerpt (answer : GeneratedAnswer) (start end_ : Nat) : String :=
  String.ofList (Pieces.slice answer.answerText.toList start end_)

def claimLoop (answer : GeneratedAnswer) (bundle : GroundingBundle digests)
    (requestItemIds : List String) : Int → List ExtractedClaim → Except Raised ClaimValidationReport
  | _, [] => .ok { accepted := [], rejected := [] }
  | priorEnd, claim :: rest =>
    if answer.answerText.length < claim.answerEnd ∨
        excerpt answer claim.answerStart claim.answerEnd ≠ claim.protectedText ∨
        (claim.answerStart : Int) < priorEnd then
      .error (.validation .claimExtractionInvalid)
    else if claim.requestItemId ∉ requestItemIds then
      .error (.validation .claimExtractionInvalid)
    else do
      let report ← claimLoop answer bundle requestItemIds claim.answerEnd rest
      .ok (match citations digests bundle claim with
        | .error reason => { report with rejected := uncited claim reason :: report.rejected }
        | .ok cited => { report with accepted := ⟨claim, cited⟩ :: report.accepted })

def validateClaims (answer : GeneratedAnswer) (extraction : ClaimExtractionResult)
    (bundle : GroundingBundle digests) (contract : GroundingContract)
    (requestItemIds : List String) : Except Raised ClaimValidationReport :=
  if extraction.attemptId ≠ answer.attemptId ∨
      extraction.answerDigest ≠ answer.answerDigest digests ∨
      extraction.extractorRevision ≠ contract.claimExtractorRevision ∨
      contract.maxClaims < extraction.claims.length then
    .error (.validation .claimExtractionInvalid)
  else if ¬ (extraction.claims.map ExtractedClaim.claimId).Nodup then
    .error (.validation .claimExtractionInvalid)
  else
    claimLoop digests answer bundle requestItemIds (-1)
      (Sorting.sortBy ExtractedClaim.answerStart extraction.claims)

def validateResult (bundle : GroundingBundle digests) (contract : GroundingContract)
    (expectedVerifierRevision : String) (raw : RawVerificationResult) (claim : ValidatedClaim) :
    Except Raised VerificationResult :=
  if raw.claimDigest ≠ claim.claim.digest digests ∨ raw.bundleDigest ≠ bundle.digest ∨
      raw.citationWindowIds ≠ claim.citations.map CitationRecord.windowId ∨
      raw.verifierRevision ≠ expectedVerifierRevision ∨
      raw.verificationPolicyVersion ≠ contract.verificationPolicyVersion ∨ raw.reason = "" then
    .error (.validation .verifierOutputInvalid)
  else .ok
    { claimId := raw.claimId
      claimDigest := raw.claimDigest, bundleDigest := raw.bundleDigest, citations := claim.citations
      verifierRevision := raw.verifierRevision
      verificationPolicyVersion := raw.verificationPolicyVersion, relation := raw.relation
      reason := raw.reason }

def claimIdOf (claim : ValidatedClaim) : String := claim.claim.claimId

/-- The results are those of the claims, one each, whatever their order. -/
def validateVerification (rawResults : List RawVerificationResult) (claims : List ValidatedClaim)
    (bundle : GroundingBundle digests) (contract : GroundingContract)
    (expectedVerifierRevision : String) : Except Raised (List VerificationResult) :=
  let expected := claims.map claimIdOf
  let answered := rawResults.map RawVerificationResult.claimId
  if rawResults.length ≠ expected.dedup.length ∨ ¬ answered.Nodup ∨
      ∃ claimId ∈ expected, claimId ∉ answered then
    .error (.validation .verifierOutputInvalid)
  else
    match answered.mapM (Keyed.get claimIdOf claims) with
    | none => .error (.validation .verifierOutputInvalid)
    | some matched =>
      (rawResults.zip matched).mapM fun pair =>
        validateResult digests bundle contract expectedVerifierRevision pair.1 pair.2

end GroundingValidator

def relationFailureReason : SemanticRelation → String
  | .contradiction => Day102FailureReason.contradictedClaim.value
  | .unsupported => Day102FailureReason.unsupportedClaim.value
  | .supported => Day102FailureReason.none.value

end BackendHandbook.Grounding
