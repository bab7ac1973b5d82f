import BackendHandbook.Foundation.Pieces
import BackendHandbook.Reranking.Contracts
import BackendHandbook.Retrieval.Release

/-! Application-owned grounding, citation and release contracts. A value whose constructor checks
it in the source carries the checks as fields; the checks that hash are made against
`GroundingDigests`. -/

namespace BackendHandbook.Grounding

open Text Retrieval Reranking

inductive Day102Outcome
  | full | degraded | partialAnswer | abstained | rejected | unavailable

def Day102Outcome.value : Day102Outcome → String
  | .full => "FULL"
  | .degraded => "DEGRADED"
  | .partialAnswer => "PARTIAL"
  | .abstained => "ABSTAINED"
  | .rejected => "REJECTED"
  | .unavailable => "UNAVAILABLE"

inductive Day102FailureReason
  | none | invalidDay101Handoff | upstreamOutcomeNotAllowed | noCurrentGroundingSources
  | groundingPlanInvalid | generatorEgressDenied | generatorFailed | generatorTimeout
  | generatorOutputInvalid | claimExtractionInvalid | citationOutOfBundle | citationRequired
  | verifierEgressDenied | verifierFailed | verifierTimeout | verifierOutputInvalid
  | unsupportedClaim | contradictedClaim | staleAuthorization | staleProvenance | supersededSource
  | requestItemUnanswered
  deriving DecidableEq

def Day102FailureReason.value : Day102FailureReason → String
  | .none => "NONE"
  | .invalidDay101Handoff => "INVALID_DAY101_HANDOFF"
  | .upstreamOutcomeNotAllowed => "UPSTREAM_OUTCOME_NOT_ALLOWED"
  | .noCurrentGroundingSources => "NO_CURRENT_GROUNDING_SOURCES"
  | .groundingPlanInvalid => "GROUNDING_PLAN_INVALID"
  | .generatorEgressDenied => "GENERATOR_EGRESS_DENIED"
  | .generatorFailed => "GENERATOR_FAILED"
  | .generatorTimeout => "GENERATOR_TIMEOUT"
  | .generatorOutputInvalid => "GENERATOR_OUTPUT_INVALID"
  | .claimExtractionInvalid => "CLAIM_EXTRACTION_INVALID"
  | .citationOutOfBundle => "CITATION_OUT_OF_BUNDLE"
  | .citationRequired => "CITATION_REQUIRED"
  | .verifierEgressDenied => "VERIFIER_EGRESS_DENIED"
  | .verifierFailed => "VERIFIER_FAILED"
  | .verifierTimeout => "VERIFIER_TIMEOUT"
  | .verifierOutputInvalid => "VERIFIER_OUTPUT_INVALID"
  | .unsupportedClaim => "UNSUPPORTED_CLAIM"
  | .contradictedClaim => "CONTRADICTED_CLAIM"
  | .staleAuthorization => "STALE_AUTHORIZATION"
  | .staleProvenance => "STALE_PROVENANCE"
  | .supersededSource => "SUPERSEDED_SOURCE"
  | .requestItemUnanswered => "REQUEST_ITEM_UNANSWERED"

inductive GeneratorMode
  | primary | fallback | notRun
  deriving DecidableEq

def GeneratorMode.value : GeneratorMode → String
  | .primary => "PRIMARY"
  | .fallback => "FALLBACK"
  | .notRun => "NOT_RUN"

inductive VerificationMode
  | primary | fallback | notRun
  deriving DecidableEq

def VerificationMode.value : VerificationMode → String
  | .primary => "PRIMARY"
  | .fallback => "FALLBACK"
  | .notRun => "NOT_RUN"

inductive SemanticRelation
  | supported | unsupported | contradiction
  deriving DecidableEq

def SemanticRelation.value : SemanticRelation → String
  | .supported => "SUPPORTED"
  | .unsupported => "UNSUPPORTED"
  | .contradiction => "CONTRADICTION"

inductive ClaimDisposition
  | released | rejected
  deriving DecidableEq

inductive RequestItemStatus
  | answered | abstained
  deriving DecidableEq

structure RequestItem where
  (itemId safeLabel protectedText : String)
  complete : itemId ≠ "" ∧ safeLabel ≠ "" ∧ strip protectedText.toList ≠ []

structure GroundingContract where
  (contractVersion generatorProvider immutableGeneratorRevision generatorPromptRevision
   claimExtractorRevision verifierProvider verifierRevision verificationPolicyVersion
   sourceWindowPolicyVersion : String)
  (maxSourceWindows maxCharsPerWindow maxTotalSourceChars maxClaims : Nat)
  (protectedDataPolicy egressPolicyVersion : String)
  identities_present : allPresent [contractVersion, generatorProvider,
    immutableGeneratorRevision, generatorPromptRevision, claimExtractorRevision,
    verifierProvider, verifierRevision, verificationPolicyVersion, sourceWindowPolicyVersion,
    protectedDataPolicy, egressPolicyVersion] = true
  budgets_pos : 0 < maxSourceWindows ∧ 0 < maxCharsPerWindow ∧ 0 < maxTotalSourceChars ∧
    0 < maxClaims
  window_le_total : maxCharsPerWindow ≤ maxTotalSourceChars
  revision_immutable : lower immutableGeneratorRevision ∉ ["latest", "main", "unknown"]

structure GeneratorEgressPolicy where
  policyVersion : String
  allowedProviders : List String
  (allowProtectedQueryEgress allowProtectedSourceEgress : Bool)
  version_present : policyVersion ≠ ""

structure VerifierEgressPolicy where
  policyVersion : String
  allowedProviders : List String
  (allowProtectedClaimEgress allowProtectedSourceEgress : Bool)
  version_present : policyVersion ≠ ""

structure GroundingDegradationPolicy where
  policyVersion : String
  (allowDegradedDay101Handoff allowGeneratorFallbackOnFailure allowGeneratorFallbackOnTimeout
   allowVerifierFallbackOnFailure allowVerifierFallbackOnTimeout : Bool)
  version_present : policyVersion ≠ ""

structure GroundingRequest where
  (operationId requestId tenantId principalSubject action purpose originalQuery : String)
  requestItems : List RequestItem
  day101Response : Day101Response
  day101HandoffDigest : String
  identity_present : allPresent [operationId, requestId, tenantId, principalSubject, action,
    purpose, day101HandoffDigest] = true
  query_present : strip originalQuery.toList ≠ []
  items_present : requestItems ≠ []
  items_nodup : (requestItems.map RequestItem.itemId).Nodup

def GroundingRequest.scopeKey (request : GroundingRequest) : ScopeKey :=
  (request.tenantId, request.principalSubject, request.action, request.purpose)

def GroundingRequest.itemIds (request : GroundingRequest) : List String :=
  request.requestItems.map RequestItem.itemId

structure WindowDocument where
  windowId : String
  identity : CandidateIdentity
  (sourceReference exactSpan : String)
  day101Rank : Int
  (windowPolicyVersion textDigest : String)

structure BundleDocument where
  (operationId originalQueryDigest requestItemsDigest day101HandoffDigest
   authorizationScopeFingerprint contractFingerprint upstreamOutcome upstreamRerankingMode
   upstreamSafeReason : String)
  windows : List WindowDocument

structure ClaimDocument where
  (claimId requestItemId : String)
  (answerStart answerEnd : Nat)
  protectedText : String

structure CitationDocument where
  (claimId windowId documentVersionId exactSpan textDigest : String)

structure VerificationDocument where
  (claimId claimDigest bundleDigest : String)
  citations : List (String × String)
  (verifierRevision verificationPolicyVersion relation reason : String)

structure WindowKey where
  (occurrenceId documentVersionId sourceReference windowPolicyVersion textDigest : String)

/-- `stable_hash` on each kind of document that grounding hashes. -/
structure GroundingDigests extends RerankingDigests where
  groundingContract : GroundingContract → String
  requestItems : List (String × String × String) → String
  sourceWindow : WindowKey → String
  groundingBundle : BundleDocument → String
  generationAttempt : String → String → String
  claim : ClaimDocument → String
  citation : CitationDocument → String
  verification : VerificationDocument → String

def GroundingContract.fingerprint (digests : GroundingDigests) (contract : GroundingContract) :
    String :=
  digests.groundingContract contract

/-- The exceptions that reach the orchestrator, by class. -/
inductive Raised
  | authorizationUnavailable (message : String)
  | plan (reason : Day102FailureReason)
  | provider (reason : Day102FailureReason)
  | validation (reason : Day102FailureReason)
  | verification (reason : Day102FailureReason)
  | other (message : String)

structure SourceWindow (digests : GroundingDigests) where
  windowId : String
  identity : CandidateIdentity
  (sourceReference exactSpan : String)
  day101Rank : Int
  (windowPolicyVersion textDigest protectedText : String)
  complete : allPresent [windowId, sourceReference, exactSpan, windowPolicyVersion, textDigest,
    protectedText] = true
  rank_pos : 0 < day101Rank
  digest_matches : digests.text protectedText = textDigest

variable {digests : GroundingDigests}

def SourceWindow.occurrenceId (window : SourceWindow digests) : String :=
  window.identity.occurrenceId

def SourceWindow.document (window : SourceWindow digests) : WindowDocument :=
  { windowId := window.windowId
    identity := window.identity, sourceReference := window.sourceReference
    exactSpan := window.exactSpan, day101Rank := window.day101Rank
    windowPolicyVersion := window.windowPolicyVersion, textDigest := window.textDigest }

structure GroundingBundle (digests : GroundingDigests) where
  (operationId originalQueryDigest requestItemsDigest day101HandoffDigest
   authorizationScopeFingerprint contractFingerprint upstreamOutcome upstreamRerankingMode
   upstreamSafeReason : String)
  windows : List (SourceWindow digests)
  identities_present : allPresent [operationId, originalQueryDigest, requestItemsDigest,
    day101HandoffDigest, authorizationScopeFingerprint, contractFingerprint, upstreamOutcome,
    upstreamRerankingMode, upstreamSafeReason] = true
  windows_present : windows ≠ []
  windows_nodup : (windows.map SourceWindow.windowId).Nodup
  occurrences_nodup : (windows.map SourceWindow.occurrenceId).Nodup

def GroundingBundle.digest (bundle : GroundingBundle digests) : String :=
  digests.groundingBundle
    { operationId := bundle.operationId, originalQueryDigest := bundle.originalQueryDigest
      requestItemsDigest := bundle.requestItemsDigest
      day101HandoffDigest := bundle.day101HandoffDigest
      authorizationScopeFingerprint := bundle.authorizationScopeFingerprint
      contractFingerprint := bundle.contractFingerprint, upstreamOutcome := bundle.upstreamOutcome
      upstreamRerankingMode := bundle.upstreamRerankingMode
      upstreamSafeReason := bundle.upstreamSafeReason
      windows := bundle.windows.map SourceWindow.document }

structure GeneratedAnswer where
  (attemptId bundleDigest generatorContractFingerprint answerText : String)
  complete : allPresent [attemptId, bundleDigest, generatorContractFingerprint] = true
  text_present : strip answerText.toList ≠ []

def GeneratedAnswer.answerDigest (digests : GroundingDigests) (answer : GeneratedAnswer) : String :=
  digests.text answer.answerText

/-- Spans count code points from zero. -/
structure ExtractedClaim where
  (claimId requestItemId : String)
  (answerStart answerEnd : Nat)
  protectedText : String
  citationWindowIds : List String
  complete : claimId ≠ "" ∧ requestItemId ≠ "" ∧ strip protectedText.toList ≠ []
  span_present : answerStart < answerEnd
  citations_nodup : citationWindowIds.Nodup

def ExtractedClaim.digest (digests : GroundingDigests) (claim : ExtractedClaim) : String :=
  digests.claim
    { claimId := claim.claimId
      requestItemId := claim.requestItemId, answerStart := claim.answerStart
      answerEnd := claim.answerEnd, protectedText := claim.protectedText }

structure ClaimExtractionResult where
  (attemptId answerDigest extractorRevision : String)
  claims : List ExtractedClaim

structure CitationRecord where
  (citationId windowId : String)
  sourceIdentity : CandidateIdentity
  (sourceReference exactSpan evidenceDigest : String)
  deriving DecidableEq

structure ValidatedClaim where
  claim : ExtractedClaim
  citations : List CitationRecord

structure RawVerificationResult where
  (claimId claimDigest bundleDigest : String)
  citationWindowIds : List String
  (verifierRevision verificationPolicyVersion : String)
  relation : SemanticRelation
  reason : String

structure VerificationResult where
  (claimId claimDigest bundleDigest : String)
  citations : List CitationRecord
  (verifierRevision verificationPolicyVersion : String)
  relation : SemanticRelation
  reason : String

def VerificationResult.digest (digests : GroundingDigests) (result : VerificationResult) : String :=
  digests.verification
    { claimId := result.claimId
      claimDigest := result.claimDigest, bundleDigest := result.bundleDigest
      citations := result.citations.map fun item => (item.citationId, item.evidenceDigest)
      verifierRevision := result.verifierRevision
      verificationPolicyVersion := result.verificationPolicyVersion
      relation := result.relation.value, reason := result.reason }

structure ClaimDecision where
  (claimId requestItemId protectedText : String)
  disposition : ClaimDisposition
  semanticRelation : Option SemanticRelation
  reason : String
  citations : List CitationRecord := []
  verificationDigest : Option String := none
  deriving DecidableEq

structure RequestCoverage where
  requestItemId : String
  status : RequestItemStatus
  releasedClaimIds : List String
  reason : String

structure Day102Response where
  outcome : Day102Outcome
  (safeReason answerText : String)
  (bundleDigest upstreamOutcome upstreamRerankingMode upstreamSafeReason : Option String)
  generatorMode : GeneratorMode
  verificationMode : VerificationMode
  releasedClaims : List ClaimDecision := []
  rejectedClaims : List ClaimDecision := []
  requestCoverage : List RequestCoverage := []
  sourceRejections : List (String × String) := []
  generatorCalls : Nat := 0
  verifierCalls : Nat := 0

structure ContentSafeGroundingAudit where
  (operationId originalQueryDigest day101HandoffDigest bundleDigest upstreamOutcome generatorMode
   verificationMode outcome : String)
  (releasedClaimCount rejectedClaimCount abstainedRequestItemCount sourceRejectionCount
   generatorCalls verifierCalls : Nat)
  rawQueryLogged : Bool := false
  protectedSourceTextLogged : Bool := false
  protectedAnswerLogged : Bool := false

end BackendHandbook.Grounding
