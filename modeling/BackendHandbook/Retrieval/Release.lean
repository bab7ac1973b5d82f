import BackendHandbook.Retrieval.Filters
import BackendHandbook.Retrieval.Fusion
import Mathlib.Algebra.GroupWithZero.Nat

/-! The two branches: a BM25 index and an exhaustive dense index over authorized chunk
occurrences. Each scores its corpus, sorts it and returns one page of candidates. -/

namespace BackendHandbook.Retrieval

open Text Sorting

/-- `math.sqrt` and `math.log`. -/
structure Floating where
  (sqrt log : ℚ → ℚ)

/-- What one search does: the database calls it makes, and its page or its error. -/
structure SearchReply where
  databaseCalls : Nat
  page : Except String (List BranchCandidate)

abbrev Scored := ℚ × RetrievalRecord

def Scored.order (scored : Scored) : ℚ ×ₗ String :=
  toLex (-scored.1, scored.2.identity.occurrenceId)

variable (digests : Digests) (bundle : SelectedRetrievalBundle) (branch : RetrievalBranch)

def branchCandidate (scored : Scored) (rank : Nat) : BranchCandidate :=
  { identity := scored.2.identity, branch
    branchRank := rank, rawScore := scored.1, scoreDirection := .higherIsBetter
    generationId := bundle.generationId, corpusGenerationId := bundle.lexicalCorpusGenerationId
    bundleFingerprint := digests.bundle bundle, metadata := scored.2.metadata }

def branchPage (scored : List Scored) (offset limit : Nat) : List BranchCandidate :=
  ((((sortBy Scored.order scored).drop offset).take limit).zipIdx (offset + 1)).map
    fun entry => branchCandidate digests bundle branch entry.1 entry.2

inductive LexicalMode
  | normal | timeout

structure AnalyzedDocument where
  record : RetrievalRecord
  terms : List (List Char)

structure BM25ReferenceIndex where
  contract : LexicalRetrievalContract
  records : List RetrievalRecord
  records_present : records ≠ []

namespace BM25ReferenceIndex

def isWord (c : Char) : Bool := c.isAlphanum || c == '_' || c == ':' || c == '-'

def isHan (c : Char) : Bool := 0x4e00 ≤ c.toNat && c.toNat ≤ 0x9fff

/-- `re.findall(r"[A-Za-z0-9_:-]+|[\u4e00-\u9fff]", text)`, with the run read so far. -/
def scan (run : List Char) : List Char → List (List Char)
  | [] => if run.isEmpty then [] else [run]
  | c :: rest =>
    if isWord c then scan (run ++ [c]) rest
    else (if run.isEmpty then [] else [run]) ++
      (if isHan c then [c] :: scan [] rest else scan [] rest)

variable (index : BM25ReferenceIndex) (floating : Floating)

def analyze (text : String) : List (List Char) :=
  ((scan [] text.toList).map fun token => token.map Char.toLower).filter fun token =>
    !(index.contract.stopWords.map fun word => (lower word).toList).contains token

def document (record : RetrievalRecord) : AnalyzedDocument := ⟨record, index.analyze record.text⟩

def documents : List AnalyzedDocument := index.records.map index.document

def averageLength : ℚ :=
  (((index.documents.map fun item => item.terms.length).sum : Nat) : ℚ) / index.documents.length

def documentFrequency (term : List Char) : Nat :=
  index.documents.countP fun item => item.terms.contains term

def termScore (document : AnalyzedDocument) (term : List Char) : ℚ :=
  let frequency : ℚ := (document.terms.count term : Nat)
  let inDocuments : ℚ := (index.documentFrequency term : Nat)
  let inverseDocumentFrequency :=
    floating.log (1 + (index.documents.length - inDocuments + 1 / 2) / (inDocuments + 1 / 2))
  let lengthNorm := 1 - index.contract.b +
    index.contract.b * (document.terms.length / index.averageLength)
  inverseDocumentFrequency * (frequency * (index.contract.k1 + 1)) /
    (frequency + index.contract.k1 * lengthNorm)

def score (query : String) (document : AnalyzedDocument) : ℚ :=
  (index.analyze query).foldl
    (fun score term =>
      if document.terms.count term = 0 then score
      else score + index.termScore floating document term) 0

end BM25ReferenceIndex

structure LexicalRetrievalAdapter where
  index : BM25ReferenceIndex
  mode : LexicalMode

namespace LexicalRetrievalAdapter

variable (adapter : LexicalRetrievalAdapter)

def scored (floating : Floating) (queryText : String)
    (scope : RetrievalAuthorizationScope) (businessFilter : Option FilterExpression)
    (excluded : List String) : List Scored :=
  ((adapter.index.documents.filter fun document =>
      authorizedAndBusinessMatch scope document.record.identity.occurrenceId
        document.record.metadata businessFilter excluded).map fun document =>
      (adapter.index.score floating queryText document, document.record)).filter fun entry =>
    0 < entry.1

def search (digests : Digests) (floating : Floating)
    (queryText : String) (bundle : SelectedRetrievalBundle) (scope : RetrievalAuthorizationScope)
    (businessFilter : Option FilterExpression) (excluded : List String) (offset limit : Nat) :
    SearchReply :=
  if digests.lexical bundle.lexical ≠ digests.lexical adapter.index.contract then
    ⟨0, .error "LEXICAL_CONTRACT_MISMATCH"⟩
  else if scope.tenantId ≠ bundle.tenantId then ⟨0, .error "LEXICAL_SCOPE_TENANT_MISMATCH"⟩
  else if limit = 0 then ⟨0, .error "LEXICAL_PAGE_BOUNDS_INVALID"⟩
  else match adapter.mode with
    | .timeout => ⟨1, .error "LEXICAL_READ_TIMEOUT"⟩
    | .normal => ⟨1, .ok (branchPage digests bundle .lexical
        (adapter.scored floating queryText scope businessFilter excluded) offset limit)⟩

end LexicalRetrievalAdapter

inductive QuerySensitivity
  | normal | pii | suspectedSecret

structure EncodedQuery where
  (queryHash contractFingerprint : String)
  vector : List ℚ
  sensitivity : QuerySensitivity
  provider : String

inductive DenseMode
  | normal | timeout | leakUnauthorized
  deriving DecidableEq

def norm (floating : Floating) (vector : List ℚ) : ℚ :=
  floating.sqrt ((vector.map fun value => value * value).sum)

def cosineSimilarity (floating : Floating) (left right : List ℚ) : Except String ℚ :=
  if left.length ≠ right.length ∨ left = [] then .error "DENSE_VECTOR_DIMENSIONS_MISMATCH"
  else if norm floating left = 0 ∨ norm floating right = 0 then .error "DENSE_ZERO_VECTOR"
  else .ok ((List.zipWith (· * ·) left right).sum / (norm floating left * norm floating right))

structure ExactDenseRetrievalAdapter where
  records : List RetrievalRecord
  mode : DenseMode
  records_present : records ≠ []

namespace ExactDenseRetrievalAdapter

/-- Every record is scored, the unauthorized ones too; one bad vector fails the search. -/
def similarities (adapter : ExactDenseRetrievalAdapter) (floating : Floating)
    (vector : List ℚ) : Except String (List Scored) :=
  adapter.records.mapM fun record => do
    let score ← cosineSimilarity floating vector record.embedding
    pure (score, record)

/-- `max(unauthorized, key=...)`: the first of the best. -/
def leaked : List Scored → Option Scored
  | [] => none
  | head :: rest => some (rest.foldl (fun best item => if best.1 < item.1 then item else best) head)

variable (adapter : ExactDenseRetrievalAdapter)

def scored (similarities : List Scored)
    (scope : RetrievalAuthorizationScope) (businessFilter : Option FilterExpression)
    (excluded : List String) : List Scored :=
  let allowed := fun entry : Scored => authorizedAndBusinessMatch scope
    entry.2.identity.occurrenceId entry.2.metadata businessFilter excluded
  similarities.filter allowed ++
    if adapter.mode = .leakUnauthorized then
      (leaked (similarities.filter fun entry => !allowed entry)).toList
    else []

def search (digests : Digests) (floating : Floating)
    (encodedQuery : EncodedQuery) (bundle : SelectedRetrievalBundle)
    (scope : RetrievalAuthorizationScope) (businessFilter : Option FilterExpression)
    (excluded : List String) (offset limit : Nat) : SearchReply :=
  if encodedQuery.contractFingerprint ≠ digests.queryEncoder bundle.queryEncoder then
    ⟨0, .error "DENSE_QUERY_ENCODER_CONTRACT_MISMATCH"⟩
  else if encodedQuery.vector.length ≠ bundle.queryEncoder.dimensions then
    ⟨0, .error "DENSE_QUERY_DIMENSIONS_MISMATCH"⟩
  else if scope.tenantId ≠ bundle.tenantId then ⟨0, .error "DENSE_SCOPE_TENANT_MISMATCH"⟩
  else if limit = 0 then ⟨0, .error "DENSE_PAGE_BOUNDS_INVALID"⟩
  else if adapter.mode = .timeout then ⟨1, .error "DENSE_READ_TIMEOUT"⟩
  else ⟨1, do
    let similarities ← adapter.similarities floating encodedQuery.vector
    pure (branchPage digests bundle .dense
      (adapter.scored similarities scope businessFilter excluded) offset limit)⟩

end ExactDenseRetrievalAdapter

/-! The current authorization state, the candidate validator, and the guarded release: the
only place where a candidate becomes a hit that carries protected text. -/

/-- The selected bundle of each tenant, stored under the bundle's own tenant. -/
structure InMemoryRetrievalBundleAuthority where
  selected : Dict String SelectedRetrievalBundle
  keyed : ∀ tenantId bundle, selected.lookup tenantId = some bundle → bundle.tenantId = tenantId

namespace InMemoryRetrievalBundleAuthority

def initial : InMemoryRetrievalBundleAuthority := ⟨∅, fun _ _ found => by simp at found⟩

variable (authority : InMemoryRetrievalBundleAuthority)

def select (bundle : SelectedRetrievalBundle) : Except String InMemoryRetrievalBundleAuthority :=
  if (authority.selected.lookup bundle.tenantId).any fun current =>
      bundle.revision ≤ current.revision then
    .error "selected retrieval bundle revision must advance"
  else .ok
    { selected := authority.selected.insert bundle.tenantId bundle
      keyed := Dict.forall_insert rfl authority.keyed }

def readSelected (tenantId : String) : Option SelectedRetrievalBundle :=
  authority.selected.lookup tenantId

end InMemoryRetrievalBundleAuthority

abbrev ScopeKey := String × String × String × String

def RetrievalAuthorizationScope.key (scope : RetrievalAuthorizationScope) : ScopeKey :=
  (scope.tenantId, scope.principalSubject, scope.action, scope.purpose)

/-- Scopes are stored under their own key, which is how `put` and `revoke_occurrence` write. -/
structure InMemoryRetrievalAuthorization where
  scopes : Dict ScopeKey RetrievalAuthorizationScope
  available : Bool
  keyed : ∀ key scope, scopes.lookup key = some scope → scope.key = key

namespace InMemoryRetrievalAuthorization

def initial : InMemoryRetrievalAuthorization := ⟨∅, true, fun _ _ found => by simp at found⟩

variable (authorization : InMemoryRetrievalAuthorization)

def put (scope : RetrievalAuthorizationScope) : InMemoryRetrievalAuthorization :=
  { authorization with
    scopes := authorization.scopes.insert scope.key scope
    keyed := Dict.forall_insert rfl authorization.keyed }

/-- Unavailability is raised, absence is `none`. -/
def read (key : ScopeKey) : Except String (Option RetrievalAuthorizationScope) :=
  if authorization.available then .ok (authorization.scopes.lookup key)
  else .error "RETRIEVAL_AUTHORIZATION_STATE_UNAVAILABLE"

theorem read_key {authorization : InMemoryRetrievalAuthorization} {key : ScopeKey}
    {scope : RetrievalAuthorizationScope} (found : authorization.read key = .ok (some scope)) :
    scope.key = key := by
  unfold read at found
  split at found
  · exact authorization.keyed key scope (Except.ok.inj found)
  · cases found

end InMemoryRetrievalAuthorization

structure InMemoryProtectedRetrievalStore where
  records : Dict String RetrievalRecord
  currentProvenance : Dict String String

namespace InMemoryProtectedRetrievalStore

def ofRecords (records : List RetrievalRecord) : InMemoryProtectedRetrievalStore :=
  { records := records.foldl
      (fun stored record => stored.insert record.identity.occurrenceId record) ∅
    currentProvenance := records.foldl
      (fun stored record =>
        stored.insert record.identity.occurrenceId record.identity.provenanceFingerprint) ∅ }

variable (content : InMemoryProtectedRetrievalStore)

def read (occurrenceId : String) : Option RetrievalRecord := content.records.lookup occurrenceId

def provenanceIsCurrent (candidate : FusedCandidate) : Bool :=
  content.currentProvenance.lookup candidate.identity.occurrenceId ==
    some candidate.identity.provenanceFingerprint

end InMemoryProtectedRetrievalStore

structure RejectedCandidate where
  (occurrenceId reason : String)

/-- Why the validator rejects a branch candidate, if it does. -/
def candidateRejection (digests : Digests) (bundle : SelectedRetrievalBundle)
    (scope : RetrievalAuthorizationScope) (candidate : BranchCandidate) : Option String :=
  if candidate.bundleFingerprint ≠ digests.bundle bundle then some "CANDIDATE_BUNDLE_MISMATCH"
  else if candidate.generationId ≠ bundle.generationId then
    some "CANDIDATE_VECTOR_GENERATION_MISMATCH"
  else if candidate.corpusGenerationId ≠ bundle.lexicalCorpusGenerationId then
    some "CANDIDATE_LEXICAL_GENERATION_MISMATCH"
  else if candidate.identity.tenantId ≠ bundle.tenantId then some "CROSS_TENANT_CANDIDATE"
  else if candidate.identity.chunkSetId ≠ bundle.chunkSetId then
    some "CANDIDATE_CHUNK_SET_MISMATCH"
  else if candidate.identity.occurrenceId ∉ scope.allowedOccurrenceIds then
    some "CANDIDATE_OUTSIDE_AUTHORIZATION_SCOPE"
  else if !candidate.metadata.holds "tenant_id" (.atom (.text scope.tenantId)) then
    some "CANDIDATE_METADATA_TENANT_MISMATCH"
  else none

structure CandidateValidationReport where
  accepted : List BranchCandidate
  rejected : List RejectedCandidate

def validate (digests : Digests) (bundle : SelectedRetrievalBundle)
    (scope : RetrievalAuthorizationScope) (candidates : List BranchCandidate) :
    CandidateValidationReport :=
  { accepted := candidates.filter fun candidate =>
      (candidateRejection digests bundle scope candidate).isNone
    rejected := candidates.filterMap fun candidate =>
      (candidateRejection digests bundle scope candidate).map
        (⟨candidate.identity.occurrenceId, ·⟩) }

structure GuardedReleaseReport where
  hits : List AuthorizedRetrievalHit
  rejected : List RejectedCandidate
  currentScope : RetrievalAuthorizationScope

def releaseDecision (content : InMemoryProtectedRetrievalStore)
    (current : RetrievalAuthorizationScope) (candidate : FusedCandidate) :
    Except String RetrievalRecord :=
  let occurrenceId := candidate.identity.occurrenceId
  if occurrenceId ∉ current.allowedOccurrenceIds then .error "CURRENT_AUTHORIZATION_REVOKED"
  else if !content.provenanceIsCurrent candidate then .error "CURRENT_PROVENANCE_CHANGED"
  else match content.read occurrenceId with
    | none => .error "CURRENT_CHUNK_OCCURRENCE_NOT_FOUND"
    | some record =>
      if record.identity ≠ candidate.identity then .error "CURRENT_CHUNK_OCCURRENCE_NOT_FOUND"
      else .ok record

def releasedHit (candidate : FusedCandidate) (record : RetrievalRecord) (rank : Nat) :
    AuthorizedRetrievalHit :=
  { identity := candidate.identity, rank, rrfScore := candidate.rrfScore, text := record.text
    sourceReference := record.identity.documentId ++ ":" ++ record.identity.chunkId }

/-- The loop over the candidates, after `hits` and `rejected`; it stops at the limit. -/
def releaseLoop (content : InMemoryProtectedRetrievalStore)
    (current : RetrievalAuthorizationScope) (limit : Nat) (hits : List AuthorizedRetrievalHit)
    (rejected : List RejectedCandidate) : List FusedCandidate → GuardedReleaseReport
  | [] => ⟨hits, rejected, current⟩
  | candidate :: rest =>
    match releaseDecision content current candidate with
    | .error reason => releaseLoop content current limit hits
        (rejected ++ [⟨candidate.identity.occurrenceId, reason⟩]) rest
    | .ok record =>
      let hits := hits ++ [releasedHit candidate record (hits.length + 1)]
      if limit ≤ hits.length then ⟨hits, rejected, current⟩
      else releaseLoop content current limit hits rejected rest

def release (authorization : InMemoryRetrievalAuthorization)
    (content : InMemoryProtectedRetrievalStore) (candidates : List FusedCandidate)
    (initialScope : RetrievalAuthorizationScope) (limit : Nat) :
    Except String GuardedReleaseReport := do
  match ← authorization.read initialScope.key with
  | none => .error "CURRENT_RETRIEVAL_AUTHORIZATION_NOT_FOUND"
  | some current => pure (releaseLoop content current limit [] [] candidates)

section Releasable

variable (content : InMemoryProtectedRetrievalStore) (current : RetrievalAuthorizationScope)

def releasable (candidate : FusedCandidate) : Bool :=
  (releaseDecision content current candidate).toOption.isSome

/-- The occurrences a full release would return, in order. -/
def releasedOrder (candidates : List FusedCandidate) : List String :=
  (candidates.filter (releasable content current)).map fun item => item.identity.occurrenceId

def AuthorizedRetrievalHit.occurrenceId (hit : AuthorizedRetrievalHit) : String :=
  hit.identity.occurrenceId

variable (limit : Nat) (hits : List AuthorizedRetrievalHit) (rejected : List RejectedCandidate)
  (candidates : List FusedCandidate)

theorem releaseLoop_occurrences (room : hits.length < limit) :
    (releaseLoop content current limit hits rejected candidates).hits.map
        AuthorizedRetrievalHit.occurrenceId = hits.map AuthorizedRetrievalHit.occurrenceId ++
        (releasedOrder content current candidates).take (limit - hits.length) := by
  induction candidates generalizing hits rejected with
  | nil => simp [releaseLoop, releasedOrder]
  | cons candidate rest ih =>
    cases decided : releaseDecision content current candidate with
    | error =>
      have skipped : releasable content current candidate = false := by
        simp [releasable, decided, Except.toOption]
      simp [releaseLoop, decided, ih hits _ room, releasedOrder, skipped]
    | ok record =>
      have taken : releasable content current candidate = true := by
        simp [releasable, decided, Except.toOption]
      have order : releasedOrder content current (candidate :: rest) =
          candidate.identity.occurrenceId :: releasedOrder content current rest := by
        simp [releasedOrder, taken]
      simp only [releaseLoop, decided, List.length_append, List.length_singleton, order]
      split
      · next full =>
        have last : limit - hits.length = 1 := by omega
        simp [last, releasedHit, AuthorizedRetrievalHit.occurrenceId]
      · next open_ =>
        have more : limit - hits.length = (limit - (hits.length + 1)) + 1 := by omega
        have later := ih (hits ++ [releasedHit candidate record (hits.length + 1)])
          rejected (by simp; omega)
        simp only [later, more, List.map_append, List.length_append, List.append_assoc]
        rfl

theorem releaseLoop_scope :
    (releaseLoop content current limit hits rejected candidates).currentScope = current := by
  induction candidates generalizing hits rejected with
  | nil => rfl
  | cons _ _ ih =>
    simp only [releaseLoop]
    split
    · exact ih _ _
    · split
      · rfl
      · exact ih _ _

end Releasable

end BackendHandbook.Retrieval
