import BackendHandbook.Grounding.Planner

/-! `AuthorizedGroundingOrchestrator.execute`: the accepted handoff, the planned bundle, the
generated answer, its claims, their verification, and the release after a second recheck.

The currentness oracle is read twice; each reading carries the place where it is made, since what
it answers may change in between. -/

namespace BackendHandbook.Grounding

open Text Retrieval Reranking GroundingValidator List

inductive Reading
  | precheck | finalCheck

/-- What calling a provider comes to, and how many calls that took. -/
structure Attempt (α : Type) where
  calls : Nat
  result : Except Raised α

variable (digests : GroundingDigests)

structure AnswerProvider where
  calls : Nat
  generate : String → GroundingBundle digests → GroundingContract → Except Raised GeneratedAnswer

structure EvidenceVerifier where
  calls : Nat
  revision : String
  verify : List ValidatedClaim → GroundingBundle digests → GroundingContract →
    Except Raised (List RawVerificationResult)

structure AuthorizedGroundingOrchestrator where
  contract : GroundingContract
  degradation : GroundingDegradationPolicy
  generatorEgress : GeneratorEgressPolicy
  verifierEgress : VerifierEgressPolicy
  currentness : Reading → GroundingCurrentnessOracle
  planner : GroundingContextPlanner
  generator : AnswerProvider digests
  fallbackGenerator : Option (AnswerProvider digests)
  extract : GeneratedAnswer → GroundingBundle digests → Except Raised ClaimExtractionResult
  verifier : EvidenceVerifier digests
  fallbackVerifier : Option (EvidenceVerifier digests)
  revision_matches : verifier.revision = contract.verifierRevision

structure Finished where
  response : Day102Response
  audit : ContentSafeGroundingAudit

/-- The provider calls that one run has made so far. -/
structure Made where
  generator : Nat := 0
  verifier : Nat := 0

namespace AuthorizedGroundingOrchestrator

variable {digests : GroundingDigests} (orchestrator : AuthorizedGroundingOrchestrator digests)

def generatorCalls (made : Made) : Nat :=
  orchestrator.generator.calls + (orchestrator.fallbackGenerator.map AnswerProvider.calls).getD 0 +
    made.generator

def verifierCalls (made : Made) : Nat :=
  orchestrator.verifier.calls + (orchestrator.fallbackVerifier.map EvidenceVerifier.calls).getD 0 +
    made.verifier

def finish (request : GroundingRequest) (made : Made) (bundle : Option (GroundingBundle digests))
    (response : Day102Response) : Finished :=
  let counted :=
    { response with
      generatorCalls := orchestrator.generatorCalls made
      verifierCalls := orchestrator.verifierCalls made }
  { response := counted
    audit :=
      { operationId := request.operationId
        originalQueryDigest := digests.protectedQuery request.tenantId request.originalQuery
        day101HandoffDigest := request.day101HandoffDigest
        bundleDigest := (bundle.map GroundingBundle.digest).getD "NOT_CREATED"
        upstreamOutcome :=
          if truthy counted.upstreamOutcome then counted.upstreamOutcome.getD "NOT_ACCEPTED"
          else "NOT_ACCEPTED"
        generatorMode := counted.generatorMode.value
        verificationMode := counted.verificationMode.value, outcome := counted.outcome.value
        releasedClaimCount := counted.releasedClaims.length
        rejectedClaimCount := counted.rejectedClaims.length
        abstainedRequestItemCount :=
          counted.requestCoverage.countP fun item => item.status = .abstained
        sourceRejectionCount := counted.sourceRejections.length
        generatorCalls := counted.generatorCalls, verifierCalls := counted.verifierCalls } }

/-- What an empty response still tells. -/
structure Told where
  generatorMode : GeneratorMode := .notRun
  verificationMode : VerificationMode := .notRun
  rejectedClaims : List ClaimDecision := []
  coverage : List RequestCoverage := []
  sourceRejections : List (String × String) := []

def emptyResponse (request : GroundingRequest) (made : Made) (outcome : Day102Outcome)
    (reason : String) (bundle : Option (GroundingBundle digests)) (told : Told) : Finished :=
  let upstream := request.day101Response
  orchestrator.finish request made bundle
    { outcome
      safeReason := reason, answerText := "", bundleDigest := bundle.map GroundingBundle.digest
      upstreamOutcome := some upstream.outcome.value
      upstreamRerankingMode := upstream.rerankingMode.map RerankingMode.value
      upstreamSafeReason := some upstream.safeReason, generatorMode := told.generatorMode
      verificationMode := told.verificationMode, rejectedClaims := told.rejectedClaims
      requestCoverage := told.coverage, sourceRejections := told.sourceRejections }

def validateHandoff (request : GroundingRequest) : Option Day102FailureReason :=
  let response := request.day101Response
  if response.handoffDigest digests.toRerankingDigests ≠ some request.day101HandoffDigest ∨
      response.originalQueryDigest ≠
        some (digests.protectedQuery request.tenantId request.originalQuery) ∨
      response.authorizationScopeFingerprint = none ∨ response.hits = [] ∨
      response.hits.map FinalRerankedHit.rank ≠
        (range response.hits.length).map (fun index : Nat => (index : Int) + 1) ∨
      ¬ (response.hits.map FinalRerankedHit.occurrenceId).Nodup ∨
      ∃ hit ∈ response.hits, hit.identity.tenantId ≠ request.tenantId ∨
        digests.text hit.text ≠ hit.identity.contentHash then
    some .invalidDay101Handoff
  else if response.outcome = .full then none
  else if response.outcome = .degraded ∧ orchestrator.degradation.allowDegradedDay101Handoff then
    none
  else some .upstreamOutcomeNotAllowed

def egressFailure : Option Day102FailureReason :=
  if orchestrator.generatorEgress.policyVersion ≠ orchestrator.contract.egressPolicyVersion ∨
      orchestrator.contract.generatorProvider ∉ orchestrator.generatorEgress.allowedProviders ∨
      !orchestrator.generatorEgress.allowProtectedQueryEgress ∨
      !orchestrator.generatorEgress.allowProtectedSourceEgress then
    some .generatorEgressDenied
  else if orchestrator.contract.verifierProvider ∉ orchestrator.verifierEgress.allowedProviders ∨
      !orchestrator.verifierEgress.allowProtectedClaimEgress ∨
      !orchestrator.verifierEgress.allowProtectedSourceEgress then
    some .verifierEgressDenied
  else none

/-- An answer, the provider it is from, and why the primary one did not give it. -/
structure Generated where
  answer : GeneratedAnswer
  mode : GeneratorMode
  reason : Day102FailureReason

def generatorFallbackAllowed (reason : Day102FailureReason) : Bool :=
  (reason == .generatorTimeout && orchestrator.degradation.allowGeneratorFallbackOnTimeout) ||
    (reason == .generatorFailed && orchestrator.degradation.allowGeneratorFallbackOnFailure)

def runGenerator (attemptId : String) (bundle : GroundingBundle digests) : Attempt Generated :=
  match orchestrator.generator.generate attemptId bundle orchestrator.contract with
  | .ok answer => ⟨1, .ok ⟨answer, .primary, .none⟩⟩
  | .error (.provider reason) =>
    match orchestrator.fallbackGenerator with
    | none => ⟨1, .error (.provider reason)⟩
    | some fallback =>
      if orchestrator.generatorFallbackAllowed reason then
        ⟨2, (fallback.generate attemptId bundle orchestrator.contract).map fun answer =>
          ⟨answer, .fallback, reason⟩⟩
      else ⟨1, .error (.provider reason)⟩
  | .error raised => ⟨1, .error raised⟩

structure Verified where
  results : List RawVerificationResult
  mode : VerificationMode
  revision : String
  reason : Day102FailureReason

def verifierFallbackAllowed (reason : Day102FailureReason) : Bool :=
  (reason == .verifierTimeout && orchestrator.degradation.allowVerifierFallbackOnTimeout) ||
    (reason == .verifierFailed && orchestrator.degradation.allowVerifierFallbackOnFailure)

def runVerifier (claims : List ValidatedClaim) (bundle : GroundingBundle digests) :
    Attempt Verified :=
  match orchestrator.verifier.verify claims bundle orchestrator.contract with
  | .ok results => ⟨1, .ok ⟨results, .primary, orchestrator.verifier.revision, .none⟩⟩
  | .error (.verification reason) =>
    match orchestrator.fallbackVerifier with
    | none => ⟨1, .error (.verification reason)⟩
    | some fallback =>
      if orchestrator.verifierFallbackAllowed reason then
        ⟨2, (fallback.verify claims bundle orchestrator.contract).map fun results =>
          ⟨results, .fallback, fallback.revision, reason⟩⟩
      else ⟨1, .error (.verification reason)⟩
  | .error raised => ⟨1, .error raised⟩

def coverage (request : GroundingRequest) (released : List ClaimDecision) : List RequestCoverage :=
  request.requestItems.map fun item =>
    let claimIds := (released.filter fun claim => claim.requestItemId = item.itemId).map
      ClaimDecision.claimId
    { requestItemId := item.itemId
      status := if claimIds = [] then .abstained else .answered
      releasedClaimIds := claimIds
      reason :=
        if claimIds = [] then Day102FailureReason.requestItemUnanswered.value
        else Day102FailureReason.none.value }

def uncovered (request : GroundingRequest) : List RequestCoverage :=
  request.requestItems.map fun item =>
    { requestItemId := item.itemId, status := .abstained, releasedClaimIds := []
      reason := Day102FailureReason.requestItemUnanswered.value }

def abstention (label : String) : String := "Unable to verify " ++ label ++ " from current sources."

def answerOrder (claims : List ValidatedClaim) (decision : ClaimDecision) : Nat :=
  ((Keyed.get claimIdOf claims decision.claimId).map fun item => item.claim.answerStart).getD 0

def label (request : GroundingRequest) (itemId : String) : String :=
  ((Keyed.get RequestItem.itemId request.requestItems itemId).map RequestItem.safeLabel).getD ""

def assembleAnswer (request : GroundingRequest) (released : List ClaimDecision)
    (coverage : List RequestCoverage) (claims : List ValidatedClaim) : String :=
  " ".intercalate
    ((Sorting.sortBy (answerOrder claims) released).map ClaimDecision.protectedText ++
      (coverage.filter fun item => item.status = .abstained).map fun item =>
        abstention (label request item.requestItemId))

abbrev Judged := ValidatedClaim × VerificationResult

variable (digests) in
def decision (disposition : ClaimDisposition) (reason : String) (judged : Judged) : ClaimDecision :=
  { claimId := judged.1.claim.claimId
    requestItemId := judged.1.claim.requestItemId, protectedText := judged.1.claim.protectedText
    disposition
    semanticRelation := some judged.2.relation
    reason
    citations := judged.2.citations, verificationDigest := some (judged.2.digest digests) }

def judge (claims : List ValidatedClaim) (verification : List VerificationResult) :
    Option (List Judged) :=
  verification.mapM fun result =>
    (Keyed.get claimIdOf claims result.claimId).map fun claim => (claim, result)

def isSupported (judged : Judged) : Bool := judged.2.relation = .supported

def citedIdentities (judged : Judged) : List CandidateIdentity :=
  judged.2.citations.map CitationRecord.sourceIdentity

variable (final : CurrentGroundingSources)

def stale (judged : Judged) : List String :=
  Sorting.sortBy id (((citedIdentities judged).map CandidateIdentity.occurrenceId).dedup.filter
    fun occurrenceId => occurrenceId ∉ final.acceptedOccurrenceIds)

def staleReason (occurrenceId : String) : String :=
  ((Keyed.get Prod.fst final.rejected occurrenceId).map Prod.snd).getD ""

variable (digests) in
def releasedClaims (candidates : List Judged) : List ClaimDecision :=
  (candidates.filter fun judged => stale final judged = []).map
    (decision digests .released Day102FailureReason.none.value)

variable (digests) in
def staleClaims (candidates : List Judged) : List ClaimDecision :=
  candidates.filterMap fun judged =>
    (stale final judged).head?.map fun occurrenceId =>
      decision digests .rejected (staleReason final occurrenceId) judged

variable (digests) in
def unsupportedClaims (judged : List Judged) : List ClaimDecision :=
  (judged.filter fun one => !isSupported one).map fun one =>
    decision digests .rejected (relationFailureReason one.2.relation) one

/-- What has come of a run once its claims are verified. -/
structure Answered (digests : GroundingDigests) where
  precheck : CurrentGroundingSources
  bundle : GroundingBundle digests
  generated : Generated
  report : ClaimValidationReport
  verified : Verified
  made : Made

variable (request : GroundingRequest)

/-- The response after verification: what is released, what is not, and how complete that is. -/
def conclude (answered : Answered digests)
    (released rejected : List ClaimDecision) (sourceRejections : List (String × String)) :
    Finished :=
  let response := request.day101Response
  let covered := coverage request released
  let abstained := covered.any fun item => item.status = .abstained
  let degraded := response.outcome = .degraded ∨ answered.generated.mode = .fallback ∨
    answered.verified.mode = .fallback ∨ sourceRejections ≠ [] ∨
    answered.generated.reason ≠ .none ∨ answered.verified.reason ≠ .none
  let (outcome, safeReason) : Day102Outcome × String :=
    if released = [] then (.abstained, Day102FailureReason.requestItemUnanswered.value)
    else if abstained ∨ rejected ≠ [] then (.partialAnswer, "PARTIAL_VERIFIED_ANSWER")
    else if degraded then (.degraded, "VERIFIED_WITH_EXPLICIT_DEGRADATION")
    else (.full, "FULLY_VERIFIED_GROUNDED_ANSWER")
  orchestrator.finish request answered.made (some answered.bundle)
    { outcome, safeReason
      answerText := assembleAnswer request released covered answered.report.accepted
      bundleDigest := some answered.bundle.digest, upstreamOutcome := some response.outcome.value
      upstreamRerankingMode := response.rerankingMode.map RerankingMode.value
      upstreamSafeReason := some response.safeReason, generatorMode := answered.generated.mode
      verificationMode := answered.verified.mode, releasedClaims := released
      rejectedClaims := rejected, requestCoverage := covered
      sourceRejections := sourceRejections.eraseDups }

/-- The last stage: the sources of the supported claims are checked once more. -/
def release (answered : Answered digests) (judged : List Judged) : Except Raised Finished :=
  let candidates := judged.filter isSupported
  let rejected := answered.report.rejected ++ unsupportedClaims digests judged
  if candidates = [] then
    .ok (orchestrator.conclude request answered [] rejected answered.precheck.rejected)
  else
    let identities := Keyed.values CandidateIdentity.occurrenceId
      (candidates.flatMap citedIdentities)
    match (orchestrator.currentness .finalCheck).recheckIdentities digests identities request with
    | .error (.authorizationUnavailable _) =>
      .ok (orchestrator.emptyResponse request answered.made .unavailable
        Day102FailureReason.staleAuthorization.value (some answered.bundle)
        { generatorMode := answered.generated.mode
          verificationMode := answered.verified.mode, rejectedClaims := rejected
          sourceRejections := answered.precheck.rejected })
    | .error raised => .error raised
    | .ok final =>
      .ok (orchestrator.conclude request answered (releasedClaims digests final candidates)
        (rejected ++ staleClaims digests final candidates)
        (answered.precheck.rejected ++ final.rejected))

def verifyClaims (precheck : CurrentGroundingSources)
    (bundle : GroundingBundle digests) (generated : Generated) (report : ClaimValidationReport)
    (made : Made) : Except Raised Finished :=
  let attempt := orchestrator.runVerifier report.accepted bundle
  let made := { made with verifier := attempt.calls }
  let told : Told :=
    { generatorMode := generated.mode
      rejectedClaims := report.rejected, sourceRejections := precheck.rejected }
  match attempt.result with
  | .error (.verification reason) =>
    .ok (orchestrator.emptyResponse request made .unavailable reason.value (some bundle) told)
  | .error raised => .error raised
  | .ok verified =>
    match validateVerification digests verified.results report.accepted bundle
        orchestrator.contract verified.revision with
    | .error (.validation reason) =>
      .ok (orchestrator.emptyResponse request made .rejected reason.value (some bundle)
        { told with verificationMode := verified.mode })
    | .error raised => .error raised
    | .ok verification =>
      match judge report.accepted verification with
      | none => .error (.other "KeyError")
      | some judged =>
        orchestrator.release request { precheck, bundle, generated, report, verified, made }
          judged

def readClaims (attemptId : String) (bundle : GroundingBundle digests) (answer : GeneratedAnswer) :
    Except Raised (ClaimExtractionResult × ClaimValidationReport) := do
  validateAnswer digests answer attemptId bundle orchestrator.contract
  let extraction ← orchestrator.extract answer bundle
  let report ← validateClaims digests answer extraction bundle orchestrator.contract
    request.itemIds
  .ok (extraction, report)

def checkClaims (attemptId : String)
    (precheck : CurrentGroundingSources) (bundle : GroundingBundle digests)
    (generated : Generated) (made : Made) : Except Raised Finished :=
  let told : Told :=
    { generatorMode := generated.mode, sourceRejections := precheck.rejected }
  match orchestrator.readClaims request attemptId bundle generated.answer with
  | .error (.provider reason) =>
    .ok (orchestrator.emptyResponse request made .rejected reason.value (some bundle) told)
  | .error (.validation reason) =>
    .ok (orchestrator.emptyResponse request made .rejected reason.value (some bundle) told)
  | .error raised => .error raised
  | .ok (_, report) =>
    if report.accepted = [] then
      .ok (orchestrator.emptyResponse request made .abstained
        Day102FailureReason.requestItemUnanswered.value (some bundle)
        { told with
          rejectedClaims := report.rejected, coverage := coverage request [] })
    else orchestrator.verifyClaims request precheck bundle generated report made

def attemptId (bundle : GroundingBundle digests) : String :=
  digests.generationAttempt request.operationId bundle.digest

variable (precheck : CurrentGroundingSources)

def generateAnswer (bundle : GroundingBundle digests) : Except Raised Finished :=
  let told : Told := { sourceRejections := precheck.rejected }
  match orchestrator.egressFailure with
  | some failure =>
    .ok (orchestrator.emptyResponse request {} .rejected failure.value (some bundle) told)
  | none =>
    let attempt := orchestrator.runGenerator (attemptId request bundle) bundle
    let made : Made := { generator := attempt.calls }
    match attempt.result with
    | .error (.provider reason) =>
      .ok (orchestrator.emptyResponse request made .unavailable reason.value (some bundle)
        told)
    | .error raised => .error raised
    | .ok generated =>
      orchestrator.checkClaims request (attemptId request bundle) precheck bundle generated
        made

def currentHits : List FinalRerankedHit :=
  request.day101Response.hits.filter fun hit =>
    hit.occurrenceId ∈ precheck.acceptedOccurrenceIds

def execute : Except Raised Finished :=
  match orchestrator.validateHandoff request with
  | some failure =>
    .ok (orchestrator.emptyResponse request {} .rejected failure.value none {})
  | none =>
    let response := request.day101Response
    match (orchestrator.currentness .precheck).recheckIdentities digests
        (response.hits.map FinalRerankedHit.identity) request with
    | .error (.authorizationUnavailable _) =>
      .ok (orchestrator.emptyResponse request {} .unavailable
        Day102FailureReason.staleAuthorization.value none {})
    | .error raised => .error raised
    | .ok precheck =>
      if currentHits request precheck = [] then
        .ok (orchestrator.emptyResponse request {} .abstained
          Day102FailureReason.noCurrentGroundingSources.value none
          { coverage := uncovered request, sourceRejections := precheck.rejected })
      else
        match orchestrator.planner.plan digests request response
            (currentHits request precheck) precheck.authorizationScopeFingerprint with
        | .error (.plan reason) =>
          .ok (orchestrator.emptyResponse request {} .rejected reason.value none
            { sourceRejections := precheck.rejected })
        | .error raised => .error raised
        | .ok bundle => orchestrator.generateAnswer request precheck bundle

end AuthorizedGroundingOrchestrator

/-! What a validated claim and a validated verification result are, whatever the providers
answered. -/

open Fallible

variable {digests : GroundingDigests} {answer : GeneratedAnswer}
  {bundle : GroundingBundle digests} {contract : GroundingContract} {requestItemIds : List String}

/-- A claim that stands in the answer where it says and is about an item of the request. -/
structure Exact (answer : GeneratedAnswer) (requestItemIds : List String)
    (claim : ExtractedClaim) : Prop where
  within : claim.answerEnd ≤ answer.answerText.length
  reads : excerpt answer claim.answerStart claim.answerEnd = claim.protectedText
  item : claim.requestItemId ∈ requestItemIds

def Before (first second : ExtractedClaim) : Prop := first.answerEnd ≤ second.answerStart

/-- The two spans share no position of the answer. -/
def Apart (first second : ExtractedClaim) : Prop := Before first second ∨ Before second first

theorem Apart.symm {first second : ExtractedClaim} (apart : Apart first second) :
    Apart second first := Or.symm apart

/-- Citations that count: at least one, each made from a window of the bundle, in their order. -/
structure Cited (bundle : GroundingBundle digests) (claim : ExtractedClaim)
    (cited : List CitationRecord) : Prop where
  nonempty : cited ≠ []
  windows : ∃ windows : List (SourceWindow digests), (∀ window ∈ windows, window ∈ bundle.windows) ∧
    windows.map SourceWindow.windowId = claim.citationWindowIds ∧
    cited = windows.map (citation claim.claimId)

variable {claim : ExtractedClaim} {cited : List CitationRecord}

theorem cited_of_citations
    (done : citations digests bundle claim = .ok cited) : Cited bundle claim cited := by
  obtain ⟨present, done⟩ := ite_error_eq_ok.mp done
  split at done
  · cases done
  · next windows found =>
    cases done
    have each := Keyed.mapM_eq_some.mp found
    have ids : windows.map SourceWindow.windowId = claim.citationWindowIds := by
      have same := each.imp fun sought window held => Keyed.key_of_get held
      rw [← forall₂_eq_eq_eq, forall₂_map_left_iff]
      exact same.flip
    refine ⟨?_, windows, ?_, ids, rfl⟩
    · intro empty
      rw [map_eq_nil_iff.mp empty] at ids
      exact present ids.symm
    · intro window inside
      obtain ⟨_, _, held⟩ := forall₂_mem_right each inside
      exact Keyed.mem_of_get held

theorem Cited.window_of_mem
    (sound : Cited bundle claim cited) {record : CitationRecord} (inside : record ∈ cited) :
    ∃ window ∈ bundle.windows, record = citation claim.claimId window := by
  obtain ⟨_, listed, _, rfl⟩ := sound.windows
  obtain ⟨window, member, rfl⟩ := mem_map.mp inside
  exact ⟨window, listed window member, rfl⟩

/-- What the loop over the claims has established when it ends. -/
structure LoopSound (answer : GeneratedAnswer) (bundle : GroundingBundle digests)
    (requestItemIds : List String) (priorEnd : Int) (claims : List ExtractedClaim)
    (report : ClaimValidationReport) : Prop where
  exact : ∀ claim ∈ claims, Exact answer requestItemIds claim
  later : ∀ claim ∈ claims, priorEnd ≤ claim.answerStart
  ordered : claims.Pairwise Before
  accepted : (report.accepted.map ValidatedClaim.claim).Sublist claims
  cited : ∀ validated ∈ report.accepted, Cited bundle validated.claim validated.citations

variable {report : ClaimValidationReport}

variable {priorEnd : Int}

theorem LoopSound.cons {rest : List ExtractedClaim}
    (sound : LoopSound answer bundle requestItemIds claim.answerEnd rest report)
    (here : Exact answer requestItemIds claim) (follows : priorEnd ≤ claim.answerStart) :
    LoopSound answer bundle requestItemIds priorEnd (claim :: rest)
      (match citations digests bundle claim with
        | .error reason => { report with rejected := uncited claim reason :: report.rejected }
        | .ok cited => { report with accepted := ⟨claim, cited⟩ :: report.accepted }) := by
  have spans : (claim.answerStart : Int) < claim.answerEnd := Int.ofNat_lt.mpr claim.span_present
  have facts : (∀ one ∈ claim :: rest, Exact answer requestItemIds one) ∧
      (∀ one ∈ claim :: rest, priorEnd ≤ one.answerStart) ∧
      (claim :: rest).Pairwise Before := by
    refine ⟨forall_mem_cons.mpr ⟨here, sound.exact⟩,
      forall_mem_cons.mpr ⟨follows, ?_⟩, pairwise_cons.mpr ⟨?_, sound.ordered⟩⟩
    · intro one inside
      have behind := sound.later one inside
      omega
    · intro one inside
      exact Int.ofNat_le.mp (sound.later one inside)
  obtain ⟨exact, later, ordered⟩ := facts
  split
  · exact ⟨exact, later, ordered, sound.accepted.cons claim, sound.cited⟩
  · next cited found =>
    exact ⟨exact, later, ordered, sound.accepted.cons_cons claim,
      forall_mem_cons.mpr ⟨cited_of_citations found, sound.cited⟩⟩

theorem claimLoop_sound {claims : List ExtractedClaim}
    (done : claimLoop digests answer bundle requestItemIds priorEnd claims = .ok report) :
    LoopSound answer bundle requestItemIds priorEnd claims report := by
  induction claims generalizing priorEnd report with
  | nil =>
    cases done
    exact ⟨nofun, nofun, List.Pairwise.nil, List.Sublist.slnil, nofun⟩
  | cons _ _ ih =>
    obtain ⟨placed, done⟩ := ite_error_eq_ok.mp done
    obtain ⟨known, done⟩ := ite_error_eq_ok.mp done
    obtain ⟨_, rested, same⟩ := bind_eq_ok.mp done
    rw [not_or, not_or, not_lt, not_not, not_lt] at placed
    obtain ⟨within, reads, follows⟩ := placed
    cases same
    exact (ih rested).cons ⟨within, reads, not_not.mp known⟩ follows

structure ClaimsSound (answer : GeneratedAnswer) (bundle : GroundingBundle digests)
    (requestItemIds : List String) (extraction : ClaimExtractionResult)
    (accepted : List ValidatedClaim) : Prop where
  extracted : ∀ validated ∈ accepted, validated.claim ∈ extraction.claims
  exact : ∀ validated ∈ accepted, Exact answer requestItemIds validated.claim
  ordered : (accepted.map ValidatedClaim.claim).Pairwise Before
  ids_nodup : (accepted.map claimIdOf).Nodup
  cited : ∀ validated ∈ accepted, Cited bundle validated.claim validated.citations

theorem validateClaims_sound {extraction : ClaimExtractionResult}
    (done : validateClaims digests answer extraction bundle contract requestItemIds = .ok report) :
    ClaimsSound answer bundle requestItemIds extraction report.accepted := by
  obtain ⟨_, done⟩ := ite_error_eq_ok.mp done
  obtain ⟨distinct, done⟩ := ite_error_eq_ok.mp done
  have sound := claimLoop_sound done
  have sorted : ∀ validated ∈ report.accepted, validated.claim ∈
      Sorting.sortBy ExtractedClaim.answerStart extraction.claims := fun validated inside =>
    sound.accepted.subset (mem_map_of_mem inside)
  refine ⟨fun validated inside => (Sorting.mem_sortBy _ _ _).mp (sorted validated inside),
    fun validated inside => sound.exact _ (sorted validated inside),
    sound.ordered.sublist sound.accepted, ?_, sound.cited⟩
  have perm := (Sorting.sortBy_perm ExtractedClaim.answerStart extraction.claims).map
    ExtractedClaim.claimId
  have nodup := (perm.nodup_iff.mpr (not_not.mp distinct)).sublist
    (sound.accepted.map ExtractedClaim.claimId)
  rw [map_map] at nodup
  exact nodup

/-- A result the verifier gave on exactly this claim, this bundle and these citations. -/
structure Judges (bundle : GroundingBundle digests) (raw : RawVerificationResult)
    (validated : ValidatedClaim) : Prop where
  claimId : raw.claimId = validated.claim.claimId
  claimDigest : raw.claimDigest = validated.claim.digest digests
  bundleDigest : raw.bundleDigest = bundle.digest
  citations : raw.citationWindowIds = validated.citations.map CitationRecord.windowId

/-- What `validateVerification` promises about each of its results. -/
structure ResultSound (bundle : GroundingBundle digests) (rawResults : List RawVerificationResult)
    (claims : List ValidatedClaim) (result : VerificationResult) : Prop where
  backed : ∃ raw ∈ rawResults, ∃ validated ∈ claims, Judges bundle raw validated ∧
    result.claimId = raw.claimId ∧ result.citations = validated.citations ∧
    result.relation = raw.relation

variable {revision : String} {raw : RawVerificationResult} {validated : ValidatedClaim}
  {result : VerificationResult}

theorem claimId_of_validateResult
    (done : validateResult digests bundle contract revision raw validated = .ok result) :
    result.claimId = raw.claimId := by
  cases (ite_error_eq_ok.mp done).2
  rfl

theorem validateResult_sound (same : raw.claimId = validated.claim.claimId)
    (done : validateResult digests bundle contract revision raw validated = .ok result) :
    Judges bundle raw validated ∧ result.claimId = raw.claimId ∧
      result.citations = validated.citations ∧ result.relation = raw.relation := by
  obtain ⟨bound, done⟩ := ite_error_eq_ok.mp done
  simp only [not_or, not_not] at bound
  cases done
  exact ⟨⟨same, bound.1, bound.2.1, bound.2.2.1⟩, rfl, rfl, rfl⟩

theorem validateVerification_sound {rawResults : List RawVerificationResult}
    {claims : List ValidatedClaim} {verification : List VerificationResult}
    (done : validateVerification digests rawResults claims bundle contract revision =
      .ok verification) : (verification.map VerificationResult.claimId).Nodup ∧
      ∀ result ∈ verification, ResultSound bundle rawResults claims result := by
  obtain ⟨complete, done⟩ := ite_error_eq_ok.mp done
  rw [not_or, not_or, not_not, not_not] at complete
  split at done
  · cases done
  · next matched found =>
    have looked := forall₂_map_left_iff.mp (Keyed.mapM_eq_some.mp found)
    have results := mapM_eq_ok.mp done
    have paired : ∀ pair ∈ rawResults.zip matched,
        pair.1.claimId = pair.2.claim.claimId ∧ pair.2 ∈ claims := by
      intro pair inside
      have held := forall₂_zip looked inside
      exact ⟨(Keyed.key_of_get held).symm, Keyed.mem_of_get held⟩
    constructor
    · have firsts : (rawResults.zip matched).map Prod.fst = rawResults :=
        map_fst_zip looked.length_eq.le
      have ids : ((rawResults.zip matched).map Prod.fst).map RawVerificationResult.claimId =
          verification.map VerificationResult.claimId := by
        rw [map_map, ← forall₂_eq_eq_eq, forall₂_map_left_iff, forall₂_map_right_iff]
        exact results.imp fun _ _ valid => (claimId_of_validateResult valid).symm
      rw [← ids, firsts]
      exact complete.2.1
    · intro result inside
      obtain ⟨pair, member, valid⟩ := forall₂_mem_right results inside
      obtain ⟨same, listed⟩ := paired pair member
      exact ⟨pair.1, (of_mem_zip member).1, pair.2, listed, validateResult_sound same valid⟩

end BackendHandbook.Grounding
