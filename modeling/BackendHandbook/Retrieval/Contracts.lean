import BackendHandbook.Foundation.Text
import Mathlib.Algebra.Order.Ring.Rat
import Mathlib.Data.Prod.Lex
import Mathlib.Data.String.Basic

/-! Application-owned contracts of authorized hybrid retrieval. Scores and weights, floats in
the source, are exact rationals. -/

namespace BackendHandbook.Retrieval

open Text

def retrievalAction : String := "chunk:retrieve"

def retrievalPurpose : String := "day100-authorized-hybrid-retrieval"

/-- The test `all((...))` on a tuple of strings. -/
def allPresent (values : List String) : Bool := values.all fun value => !value.isEmpty

inductive RetrievalBranch
  | lexical | dense
  deriving DecidableEq

def RetrievalBranch.value : RetrievalBranch → String
  | .lexical => "LEXICAL"
  | .dense => "DENSE"

inductive RetrievalOutcome
  | full | partialResult | empty | rejected | authorizationDenied | unavailable
  deriving DecidableEq

def RetrievalOutcome.value : RetrievalOutcome → String
  | .full => "FULL"
  | .partialResult => "PARTIAL"
  | .empty => "EMPTY"
  | .rejected => "REJECTED"
  | .authorizationDenied => "AUTHORIZATION_DENIED"
  | .unavailable => "UNAVAILABLE"

inductive DegradationReason
  | none | lexicalBranchFailed | denseBranchFailed | denseEgressDenied | refillBudgetExhausted
  | deadlineExhausted
  deriving DecidableEq

inductive ScoreDirection
  | higherIsBetter | lowerIsBetter
  deriving DecidableEq

inductive GenerationState
  | sealed | productionReady | activated | failed
  deriving DecidableEq

inductive ProductionReadiness
  | moreEvidenceNeeded | productionReady
  deriving DecidableEq

structure AuthorizationRevisionVector where
  (policyRevision aclRevision membershipRevision : Nat)
  (roleVersion actionCatalogVersion : String)
  authorizationEpoch : Nat
  revisions_pos : 0 < policyRevision ∧ 0 < aclRevision ∧ 0 < membershipRevision ∧
    0 < authorizationEpoch
  versions_present : allPresent [roleVersion, actionCatalogVersion] = true

structure QueryEncoderContract where
  (contractVersion provider immutableModelRevision documentContractFingerprint : String)
  dimensions : Nat
  (queryInputRole queryPrefix documentInputRole documentPrefix tokenizerRevision normalization
   protectedDataPolicy egressPolicyVersion : String)
  bindings_present : allPresent [contractVersion, provider, immutableModelRevision,
    documentContractFingerprint, queryInputRole, documentInputRole, tokenizerRevision,
    normalization, protectedDataPolicy, egressPolicyVersion] = true
  dimensions_pos : 0 < dimensions
  revision_immutable : lower immutableModelRevision ∉ ["latest", "main", "unknown"]
  roles_explicit : queryInputRole ≠ documentInputRole

structure LexicalRetrievalContract where
  (contractVersion corpusGenerationId chunkSetId analyzerVersion tokenizerVersion language : String)
  (k1 b : ℚ)
  stopWords : List String
  stemmingPolicy : String
  fieldWeights : List (String × ℚ)
  bindings_present : allPresent [contractVersion, corpusGenerationId, chunkSetId,
    analyzerVersion, tokenizerVersion, language, stemmingPolicy] = true
  bm25_bounds : 0 < k1 ∧ 0 ≤ b ∧ b ≤ 1
  weights_pos : fieldWeights ≠ [] ∧ ∀ weight ∈ fieldWeights, 0 < weight.2

structure FusionPolicy where
  policyVersion : String
  (rrfK candidateDepth : Nat)
  (lexicalWeight denseWeight : ℚ)
  tieBreak : List String
  version_present : policyVersion ≠ ""
  rrfK_pos : 0 < rrfK
  depth_pos : 0 < candidateDepth
  weights_pos : 0 < lexicalWeight ∧ 0 < denseWeight
  tieBreak_present : tieBreak ≠ []

structure HybridRetrievalPolicy where
  policyVersion : String
  (maxTopK maxCandidateDepth maxRefillRounds maxCandidateBudget deadlineMs : Nat)
  (allowLexicalOnly allowDenseOnly allowSplitOr allowBusinessPostFilter : Bool)
  version_present : policyVersion ≠ ""
  limits_pos : 0 < maxTopK ∧ 0 < maxCandidateDepth ∧ 0 < maxRefillRounds ∧
    0 < maxCandidateBudget ∧ 0 < deadlineMs
  depth_le_budget : maxCandidateDepth ≤ maxCandidateBudget

def classroomScope : String := "DAY100_CLASSROOM_ONLY"

structure SelectedRetrievalBundle where
  bundleId : String
  revision : Nat
  (tenantId generationId : String)
  generationState : GenerationState
  (generationContractFingerprint embeddingSetId embeddingContractFingerprint chunkSetId
   lexicalCorpusGenerationId : String)
  queryEncoder : QueryEncoderContract
  lexical : LexicalRetrievalContract
  filterSchemaFingerprint : String
  retrievalPolicy : HybridRetrievalPolicy
  fusionPolicy : FusionPolicy
  selected : Bool
  (evidenceLevel fixtureScope : String)
  productionEligible : Bool
  productionReadiness : ProductionReadiness
  bindings_present : allPresent [bundleId, tenantId, generationId,
    generationContractFingerprint, embeddingSetId, embeddingContractFingerprint, chunkSetId,
    lexicalCorpusGenerationId, filterSchemaFingerprint, evidenceLevel, fixtureScope] = true
  revision_pos : 0 < revision
  is_selected : selected = true
  chunkSet_aligned : lexical.chunkSetId = chunkSetId
  lexical_aligned : lexical.corpusGenerationId = lexicalCorpusGenerationId
  encoder_aligned : queryEncoder.documentContractFingerprint = embeddingContractFingerprint
  classroom_not_production : ¬ (fixtureScope = classroomScope ∧ productionEligible = true)
  production_ready : productionEligible = true →
    generationState = .activated ∧ productionReadiness = .productionReady

structure RetrievalAuthorizationScope where
  (tenantId principalSubject action purpose : String)
  revisions : AuthorizationRevisionVector
  allowedOccurrenceIds : List String
  decisionId : String
  identity_present : allPresent [tenantId, principalSubject, action, purpose, decisionId] = true
  allowed_nodup : allowedOccurrenceIds.Nodup

structure CandidateIdentity where
  (tenantId documentId documentVersionId chunkSetId chunkId occurrenceId provenanceFingerprint
   contentHash : String)
  complete : allPresent [tenantId, documentId, documentVersionId, chunkSetId, chunkId,
    occurrenceId, provenanceFingerprint, contentHash] = true
  deriving DecidableEq

def CandidateIdentity.key (identity : CandidateIdentity) : String := identity.occurrenceId

inductive Atom
  | text (value : String)
  | number (value : Int)
  | flag (value : Bool)
  deriving DecidableEq

inductive FieldValue
  | atom (value : Atom)
  | tuple (values : List Atom)
  deriving DecidableEq

/-- Equality of the source language, where `True == 1` and `False == 0`. -/
def Atom.same : Atom → Atom → Bool
  | .text first, .text second => first == second
  | .number first, .number second => first == second
  | .flag first, .flag second => first == second
  | .number first, .flag second => first == second.toInt
  | .flag first, .number second => first.toInt == second
  | _, _ => false

def FieldValue.same : FieldValue → FieldValue → Bool
  | .atom first, .atom second => first.same second
  | .tuple firsts, .tuple seconds =>
    firsts.length == seconds.length && (firsts.zip seconds).all fun pair => pair.1.same pair.2
  | _, _ => false

abbrev Metadata := List (String × FieldValue)

variable (metadata : Metadata) (field : String)

/-- `dict(metadata).get(field)`: of equal keys the last one counts. -/
def Metadata.get : Option FieldValue := metadata.reverse.lookup field

def Metadata.holds (value : FieldValue) : Bool :=
  (metadata.get field).any fun stored => stored.same value

structure RetrievalRecord where
  identity : CandidateIdentity
  text : String
  metadata : Metadata
  embedding : List ℚ
  present : text ≠ "" ∧ embedding ≠ []
  tenant_aligned : metadata.holds "tenant_id" (.atom (.text identity.tenantId)) = true
  keys_nodup : (metadata.map Prod.fst).Nodup
  deriving DecidableEq

structure BranchCandidate where
  identity : CandidateIdentity
  branch : RetrievalBranch
  branchRank : Nat
  rawScore : ℚ
  scoreDirection : ScoreDirection
  (generationId corpusGenerationId bundleFingerprint : String)
  metadata : Metadata
  deriving DecidableEq

structure FusedCandidate where
  identity : CandidateIdentity
  rrfScore : ℚ
  bestBranchRank : Nat
  branchCandidates : List BranchCandidate
  deriving DecidableEq

structure AuthorizedRetrievalHit where
  identity : CandidateIdentity
  rank : Nat
  rrfScore : ℚ
  (text sourceReference : String)
  deriving DecidableEq

structure RetrievalResponse (Token : Type) where
  outcome : RetrievalOutcome
  (safeReason operationId : String)
  (bundleId authorizationDecisionId : Option String)
  hits : List AuthorizedRetrievalHit := []
  completedBranches : List RetrievalBranch := []
  missingBranches : List RetrievalBranch := []
  degradationReason : DegradationReason := .none
  requestedTopK : Nat
  candidatesExamined : Nat := 0
  refillRounds : Nat := 0
  providerCalls : Nat := 0
  databaseCalls : Nat := 0
  cursor : Option Token := none
  deriving DecidableEq

structure ContentSafeRetrievalAudit where
  (operationId requestId tenantId principalHash queryHash : String)
  (selectedBundleId selectedGenerationId clientGenerationHint : Option String)
  clientGenerationAuthoritative : Bool
  (authorizationScopeFingerprint filterPlanFingerprint : Option String)
  (outcome reason : String)
  (completedBranches missingBranches : List String)
  (candidatesExamined returnedCount providerCalls databaseCalls : Nat)
  rawQueryLogged : Bool := false
  protectedTextLogged : Bool := false

end BackendHandbook.Retrieval
