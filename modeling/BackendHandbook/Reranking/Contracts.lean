import BackendHandbook.Retrieval.Filters

/-! Application-owned contracts of candidate reranking and the response it hands on to grounding.
Scores, floats in the source, are exact rationals. -/

namespace BackendHandbook.Reranking

open Text Retrieval

inductive RerankingMode
  | rerankedSuccess | unrerankedFallback

def RerankingMode.value : RerankingMode → String
  | .rerankedSuccess => "RERANKED_SUCCESS"
  | .unrerankedFallback => "UNRERANKED_FALLBACK"

inductive Day101Outcome
  | full | degraded | empty | rejected | unavailable
  deriving DecidableEq

def Day101Outcome.value : Day101Outcome → String
  | .full => "FULL"
  | .degraded => "DEGRADED"
  | .empty => "EMPTY"
  | .rejected => "REJECTED"
  | .unavailable => "UNAVAILABLE"

structure FinalRerankedHit where
  rank : Int
  identity : CandidateIdentity
  sourceReference : String
  rerankerScore : Option ℚ
  priorFusionRank : Int
  text : String

def FinalRerankedHit.occurrenceId (hit : FinalRerankedHit) : String := hit.identity.occurrenceId

structure HandoffHit where
  rank : Int
  identity : CandidateIdentity
  sourceReference : String
  rerankerScore : Option ℚ
  priorFusionRank : Int
  textHash : String

structure HandoffDocument where
  (outcome safeReason : String)
  (rewriteMode rerankingMode : Option String)
  (originalQueryDigest authorizationScopeFingerprint : String)
  (rewriteSetFingerprint candidatePoolDigest validatedRerankDigest : Option String)
  hits : List HandoffHit
  releaseRejections : List (String × String)

/-- `stable_hash` on the documents that reranking and grounding both hash, and the keyed digest of
a tenant's query under the secret they share. -/
structure RerankingDigests extends Retrieval.Digests where
  text : String → String
  protectedQuery : String → String → String
  handoff : HandoffDocument → String

structure Day101Response where
  outcome : Day101Outcome
  safeReason : String
  rewriteMode : Option String
  rerankingMode : Option RerankingMode
  hits : List FinalRerankedHit := []
  rewriteSetFingerprint : Option String := none
  candidatePoolDigest : Option String := none
  validatedRerankDigest : Option String := none
  releaseRejections : List (String × String) := []
  rewriteProviderCalls : Nat := 0
  rerankerProviderCalls : Nat := 0
  originalQueryDigest : Option String := none
  authorizationScopeFingerprint : Option String := none

def FinalRerankedHit.handoff (digests : RerankingDigests) (hit : FinalRerankedHit) : HandoffHit :=
  { rank := hit.rank, identity := hit.identity, sourceReference := hit.sourceReference
    rerankerScore := hit.rerankerScore, priorFusionRank := hit.priorFusionRank
    textHash := digests.text hit.text }

/-- A frozen identity, of a response with hits only. -/
def Day101Response.handoffDigest (digests : RerankingDigests) (response : Day101Response) :
    Option String :=
  match response.originalQueryDigest, response.authorizationScopeFingerprint with
  | some originalQueryDigest, some authorizationScopeFingerprint =>
    if response.hits.isEmpty then none
    else some (digests.handoff
      { outcome := response.outcome.value
        safeReason := response.safeReason, rewriteMode := response.rewriteMode
        rerankingMode := response.rerankingMode.map RerankingMode.value
        originalQueryDigest
        authorizationScopeFingerprint
        rewriteSetFingerprint := response.rewriteSetFingerprint
        candidatePoolDigest := response.candidatePoolDigest
        validatedRerankDigest := response.validatedRerankDigest
        hits := response.hits.map (FinalRerankedHit.handoff digests)
        releaseRejections := response.releaseRejections })
  | _, _ => none

end BackendHandbook.Reranking
