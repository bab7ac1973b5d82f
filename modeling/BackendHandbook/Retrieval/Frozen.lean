import BackendHandbook.Retrieval.Retriever

/-! Retrieval over components that stay as they are. What a call reads is then a `View`, and the
refill loop is a function of it: it collects the branch pages of one round after the other, and
fuses and releases what it has, until `topK` occurrences are released or both branches end. -/

namespace BackendHandbook.Retrieval

open AuthorizedHybridRetriever Fallible Sorting

structure Environment (Token : Type) where
  digests : Digests
  floating : Floating
  bundles : InMemoryRetrievalBundleAuthority
  authorization : InMemoryRetrievalAuthorization
  filterPlanner : FilterPlanner
  encode : (queryText expectedContractFingerprint : String) → EncodeReply
  lexical : LexicalRetrievalAdapter
  dense : ExactDenseRetrievalAdapter
  content : InMemoryProtectedRetrievalStore
  cursors : RetrievalCursorCodec Token
  classroomMode : Bool

def Environment.ports {Token : Type} (env : Environment Token) (clock : Clock) : Ports Token :=
  { digests := env.digests, bundles := env.bundles
    authorization := fun _ => env.authorization
    filterPlanner := env.filterPlanner, encode := env.encode
    lexical := fun _ _ => env.lexical.search env.digests env.floating
    dense := fun _ _ => env.dense.search env.digests env.floating
    content := fun _ => env.content
    cursors := env.cursors
    clock
    classroomMode := env.classroomMode }

/-- An admitted request whose query is encoded and whose two branches answer. -/
structure View (Token : Type) where
  env : Environment Token
  request : RetrievalRequest
  excluded : List String
  bundle : SelectedRetrievalBundle
  scope : RetrievalAuthorizationScope
  plan : FilterPlan
  encoded : EncodedQuery
  similarities : List Scored
  selected : env.bundles.readSelected request.tenantId = some bundle
  own_generation : request.clientGenerationId = none
  valid : validateRequest request env.digests env.classroomMode bundle = none
  granted : env.authorization.read request.scopeKey = .ok (some scope)
  allowed : scope.allowedOccurrenceIds ≠ []
  planned : planRequest request env.digests env.filterPlanner scope excluded = .ok plan
  encodes : (env.encode request.queryText (env.digests.queryEncoder bundle.queryEncoder)).result =
    .ok encoded
  lexical_contract : env.digests.lexical bundle.lexical =
    env.digests.lexical env.lexical.index.contract
  lexical_up : env.lexical.mode = .normal
  dense_contract : encoded.contractFingerprint = env.digests.queryEncoder bundle.queryEncoder
  dense_dimensions : encoded.vector.length = bundle.queryEncoder.dimensions
  dense_up : env.dense.mode ≠ .timeout
  dense_scores : env.dense.similarities env.floating encoded.vector = .ok similarities

namespace View

variable {Token : Type} (view : View Token)

theorem scope_key : view.scope.key = view.request.scopeKey :=
  InMemoryRetrievalAuthorization.read_key view.granted

theorem tenants : view.scope.tenantId = view.bundle.tenantId := by
  have requested : view.scope.tenantId = view.request.tenantId := congrArg Prod.fst view.scope_key
  rw [requested, view.env.bundles.keyed _ _ view.selected]

theorem read_current : view.env.authorization.read view.scope.key = .ok (some view.scope) := by
  rw [view.scope_key, view.granted]

def depth : Nat := view.bundle.fusionPolicy.candidateDepth

theorem depth_pos : 0 < view.depth := view.bundle.fusionPolicy.depth_pos

def admission (offsets : Nat × Nat) : Admission := ⟨view.bundle, view.scope, view.plan, offsets⟩

theorem queries_present : view.plan.providerQueries ≠ [] := by
  have planned := view.planned
  unfold planRequest at planned
  split at planned
  · exact FilterPlanner.queries_present planned
  · exact FilterPlanner.queries_present planned
  · cases planned

section Pages

variable (filter : Option FilterExpression) (offset : Nat)

def lexicalScored : List Scored :=
  view.env.lexical.scored view.env.floating view.request.queryText view.scope filter
    view.plan.systemExcludedOccurrenceIds

def denseScored : List Scored :=
  view.env.dense.scored view.similarities view.scope filter view.plan.systemExcludedOccurrenceIds

def lexicalPage : List BranchCandidate :=
  branchPage view.env.digests view.bundle .lexical (view.lexicalScored filter) offset view.depth

def densePage : List BranchCandidate :=
  branchPage view.env.digests view.bundle .dense (view.denseScored filter) offset view.depth

theorem lexical_search :
    view.env.lexical.search view.env.digests view.env.floating view.request.queryText view.bundle
      view.scope filter view.plan.systemExcludedOccurrenceIds offset
      view.bundle.fusionPolicy.candidateDepth = ⟨1, .ok (view.lexicalPage filter offset)⟩ := by
  have positive : view.bundle.fusionPolicy.candidateDepth ≠ 0 :=
    Nat.ne_of_gt view.bundle.fusionPolicy.depth_pos
  simp only [LexicalRetrievalAdapter.search, view.lexical_contract, view.tenants, positive,
    view.lexical_up, ne_eq]
  rfl

theorem dense_search :
    view.env.dense.search view.env.digests view.env.floating view.encoded view.bundle view.scope
      filter view.plan.systemExcludedOccurrenceIds offset
      view.bundle.fusionPolicy.candidateDepth = ⟨1, .ok (view.densePage filter offset)⟩ := by
  have positive : view.bundle.fusionPolicy.candidateDepth ≠ 0 :=
    Nat.ne_of_gt view.bundle.fusionPolicy.depth_pos
  simp only [ExactDenseRetrievalAdapter.search, view.dense_contract, view.dense_dimensions,
    view.tenants, positive, view.dense_up, view.dense_scores, ne_eq]
  rfl

end Pages

section Rounds

variable (offsets start : Nat × Nat)

def roundPages : List BranchCandidate :=
  view.plan.providerQueries.flatMap fun filter =>
    view.lexicalPage filter offsets.1 ++ view.densePage filter offsets.2

def lexicalCounts : List Nat :=
  view.plan.providerQueries.map fun filter => (view.lexicalPage filter offsets.1).length

def denseCounts : List Nat :=
  view.plan.providerQueries.map fun filter => (view.densePage filter offsets.2).length

def offsetsAfter (rounds : Nat) : Nat × Nat :=
  (start.1 + rounds * view.depth, start.2 + rounds * view.depth)

def collected : Nat → List BranchCandidate
  | 0 => []
  | rounds + 1 => collected rounds ++ view.roundPages (view.offsetsAfter start rounds)

def fuse (accumulated : List BranchCandidate) : Except FusionError (List FusedCandidate) :=
  fuseAccumulated view.env.digests view.bundle view.plan view.scope accumulated

def fused (rounds : Nat) : Except FusionError (List FusedCandidate) :=
  view.fuse (view.collected start rounds)

def released (candidates : List FusedCandidate) : List AuthorizedRetrievalHit :=
  (releaseLoop view.env.content view.scope view.request.topK [] [] candidates).hits

/-- Every page of the round was short, in both branches. -/
def short : Bool :=
  branchExhausted view.depth (view.lexicalCounts offsets) &&
    branchExhausted view.depth (view.denseCounts offsets)

/-- Whether a call breaks off after this many rounds. -/
def stopsAfter (rounds : Nat) : Except FusionError Bool :=
  (view.fused start rounds).map fun candidates =>
    decide (view.request.topK ≤ (view.released candidates).length) ||
      view.short (view.offsetsAfter start (rounds - 1))

def late (clock : Clock) (rounds : Nat) : Prop :=
  (view.bundle.retrievalPolicy.deadlineMs : Int) ≤
    clock (.roundStart rounds) * 1000 - clock .loopStart * 1000

instance (clock : Clock) (rounds : Nat) : Decidable (view.late clock rounds) :=
  inferInstanceAs (Decidable (_ ≤ _))

/-- The number of rounds of an undegraded call, after `rounds` of them. -/
def completion (clock : Clock) : (remaining rounds : Nat) → Option Nat
  | 0, _ => none
  | remaining + 1, rounds =>
    let budget := view.bundle.retrievalPolicy.maxCandidateBudget
    if view.late clock rounds ∨ budget ≤ (view.collected start rounds).length ∨
        budget < (view.collected start (rounds + 1)).length then none
    else match view.stopsAfter start (rounds + 1) with
      | .ok true => some (rounds + 1)
      | .ok false => completion clock remaining (rounds + 1)
      | .error _ => none

end Rounds

end View

/-! Three records of one tenant, as the classroom fixture builds them. -/

namespace Sample

def digests : Digests :=
  { query := fun text => "sha256:query:" ++ text
    principal := fun subject => "sha256:principal:" ++ subject
    scope := fun tenantId subject _ _ _ allowed =>
      "sha256:scope:" ++ tenantId ++ ":" ++ subject ++ ":" ++ ",".intercalate allowed
    queryEncoder := fun contract => "sha256:encoder:" ++ contract.contractVersion
    lexical := fun contract => "sha256:lexical:" ++ contract.contractVersion
    retrievalPolicy := fun policy => "sha256:policy:" ++ policy.policyVersion
    fusionPolicy := fun policy => "sha256:fusion:" ++ policy.policyVersion
    bundle := fun bundle => "sha256:bundle:" ++ bundle.bundleId
    filter := fun _ => "sha256:filter"
    schema := fun schema => "sha256:schema:" ++ schema.schemaVersion
    plan := fun _ scope schema capability _ _ _ excluded => "sha256:plan:" ++ scope ++ schema ++
      capability ++ ",".intercalate excluded
    cacheKey := fun fields => "sha256:key:" ++ "|".intercalate fields }

def encoderContract : QueryEncoderContract :=
  { contractVersion := "day100-query-encoder-v1"
    provider := "classroom-deterministic-query-encoder"
    immutableModelRevision := "fake-query-model-sha256-001"
    documentContractFingerprint := "sha256:day98-document-contract", dimensions := 2
    queryInputRole := "QUERY", queryPrefix := "query: ", documentInputRole := "DOCUMENT"
    documentPrefix := "passage: ", tokenizerRevision := "classroom-tokenizer-v1"
    normalization := "UNIT_L2", protectedDataPolicy := "PROTECTED_QUERY_NO_LOG"
    egressPolicyVersion := "day100-egress-v1", bindings_present := by decide
    dimensions_pos := Nat.two_pos, revision_immutable := by decide +kernel
    roles_explicit := by decide }

def lexicalContract : LexicalRetrievalContract :=
  { contractVersion := "day100-lexical-v1", corpusGenerationId := "synthetic-lexical-generation-g1"
    chunkSetId := "synthetic-chunk-set-day100", analyzerVersion := "lowercase-word-analyzer-v1"
    tokenizerVersion := "regex-word-tokenizer-v1", language := "en", k1 := 6 / 5, b := 3 / 4
    stopWords := ["the", "a", "and"], stemmingPolicy := "NONE", fieldWeights := [("text", 1)]
    bindings_present := by decide
    bm25_bounds := by decide +kernel
    weights_pos := by decide +kernel }

def schema : FilterSchema :=
  { schemaVersion := "day100-filter-schema-v1"
    fields := [⟨"tenant_id", .text, false⟩, ⟨"category", .text, true⟩], maxDepth := 4
    maxNodes := 12, present := by decide
    bounds_pos := by decide
    names_nodup := by decide }

def bundle : SelectedRetrievalBundle :=
  { bundleId := "synthetic-selected-retrieval-bundle-v1", revision := 1, tenantId := "tenant-day100"
    generationId := "synthetic-vector-generation-g1", generationState := .activated
    generationContractFingerprint := "sha256:synthetic-vector-contract"
    embeddingSetId := "synthetic-embedding-set-day100"
    embeddingContractFingerprint := "sha256:day98-document-contract"
    chunkSetId := "synthetic-chunk-set-day100"
    lexicalCorpusGenerationId := "synthetic-lexical-generation-g1", queryEncoder := encoderContract
    lexical := lexicalContract, filterSchemaFingerprint := digests.schema schema
    retrievalPolicy :=
      { policyVersion := "day100-retrieval-policy-v1", maxTopK := 5, maxCandidateDepth := 4
        maxRefillRounds := 3, maxCandidateBudget := 24, deadlineMs := 500, allowLexicalOnly := true
        allowDenseOnly := true, allowSplitOr := true, allowBusinessPostFilter := true
        version_present := by decide
        limits_pos := by decide
        depth_le_budget := by decide }
    fusionPolicy :=
      { policyVersion := "day100-rrf-v1", rrfK := 60, candidateDepth := 2, lexicalWeight := 1
        denseWeight := 1
        tieBreak := ["RRF_SCORE_DESC", "BEST_BRANCH_RANK_ASC", "OCCURRENCE_ID_ASC"]
        version_present := by decide
        rrfK_pos := by decide
        depth_pos := Nat.two_pos, weights_pos := by decide +kernel
        tieBreak_present := by decide }
    selected := true, evidenceLevel := "DETERMINISTIC_FAKE+EXECUTED_LOCAL_RUNTIME"
    fixtureScope := classroomScope, productionEligible := false
    productionReadiness := .moreEvidenceNeeded, bindings_present := by decide +kernel
    revision_pos := Nat.one_pos, is_selected := rfl, chunkSet_aligned := rfl, lexical_aligned := rfl
    encoder_aligned := rfl, classroom_not_production := by decide
    production_ready := by decide }

def record (occurrence document text : String) (embedding : List ℚ)
    (complete : allPresent ["tenant-day100", document, document ++ ":v1",
      "synthetic-chunk-set-day100", "chunk:" ++ occurrence, "occurrence:" ++ occurrence,
      "sha256:provenance:" ++ document, "sha256:" ++ text] = true)
    (present : text ≠ "" ∧ embedding ≠ []) : RetrievalRecord :=
  { identity :=
      { tenantId := "tenant-day100", documentId := document, documentVersionId := document ++ ":v1"
        chunkSetId := "synthetic-chunk-set-day100", chunkId := "chunk:" ++ occurrence
        occurrenceId := "occurrence:" ++ occurrence
        provenanceFingerprint := "sha256:provenance:" ++ document, contentHash := "sha256:" ++ text
        complete }
    text
    metadata := [("status", .atom (.text "active")), ("tenant_id", .atom (.text "tenant-day100"))]
    embedding
    present
    tenant_aligned := rfl, keys_nodup := by decide }

def records : List RetrievalRecord :=
  [record "A" "doc-a" "refund policy finance" [1, 0] (by decide) (by decide +kernel),
   record "B" "doc-b" "customer refund billing" [3 / 5, 4 / 5] (by decide) (by decide +kernel),
   record "C" "doc-c" "finance compliance handbook" [0, 1] (by decide) (by decide +kernel)]

def scope : RetrievalAuthorizationScope :=
  { tenantId := "tenant-day100", principalSubject := "principal-day100", action := retrievalAction
    purpose := retrievalPurpose
    revisions :=
      { policyRevision := 1, aclRevision := 1, membershipRevision := 1
        roleVersion := "retrieval-role-v1", actionCatalogVersion := "retrieval-actions-v1"
        authorizationEpoch := 1, revisions_pos := by decide
        versions_present := by decide }
    allowedOccurrenceIds := ["occurrence:A", "occurrence:B", "occurrence:C"]
    decisionId := "decision-day100-retrieval-v1", identity_present := by decide
    allowed_nodup := by decide }

def encoded : EncodedQuery :=
  { queryHash := digests.query "refund policy"
    contractFingerprint := digests.queryEncoder encoderContract, vector := [1, 0]
    sensitivity := .normal, provider := encoderContract.provider }

-- The square root is exact on unit vectors; the logarithm is approximated near one.
def floating : Floating := { sqrt := id, log := fun x => 2 * (x - 1) / (x + 1) }

def environment : Environment RetrievalCursor :=
  { digests, floating
    bundles := (InMemoryRetrievalBundleAuthority.initial.select bundle).toOption.getD .initial
    authorization := InMemoryRetrievalAuthorization.initial.put scope
    filterPlanner :=
      { schema
        capabilities := ⟨"classroom-filter-capabilities-v1", [.eq, .in_, .and_], by decide⟩
        allowSplitOr := true, allowBusinessPostFilter := true }
    encode := fun _ _ => ⟨1, .ok encoded⟩
    lexical := ⟨⟨lexicalContract, records, by decide⟩, .normal⟩
    dense := ⟨records, .normal, by decide⟩, content := .ofRecords records
    cursors := ⟨id, .ok, fun _ => rfl⟩
    classroomMode := true }

def request (topK : Nat) (positive : 0 < topK) : RetrievalRequest :=
  { operationId := "operation-day100", requestId := "request-day100", tenantId := "tenant-day100"
    principalSubject := "principal-day100", action := retrievalAction, purpose := retrievalPurpose
    queryText := "refund policy"
    topK
    clientFilter := .absent, clientGenerationId := none, queryEncoderContractFingerprint := none
    identity_present := by decide
    query_present := by decide
    topK_pos := positive }

def clock : Clock := fun _ => 1800000000

def plan : FilterPlan := environment.filterPlanner.frame digests scope .direct none [none] none []

def view (topK : Nat) (positive : 0 < topK) (bounded : topK ≤ 5) : View RetrievalCursor :=
  { env := environment, request := request topK positive, excluded := [], bundle, scope, plan
    encoded
    similarities := (environment.dense.similarities floating encoded.vector).toOption.getD []
    selected := by rfl
    own_generation := rfl
    valid := by
      have admitted : ¬ bundle.retrievalPolicy.maxTopK < topK := Nat.not_lt.mpr bounded
      simp only [AuthorizedHybridRetriever.validateRequest, request, admitted]
      rfl
    granted := by rfl
    allowed := by decide
    planned := by rfl
    encodes := rfl, lexical_contract := rfl, lexical_up := rfl, dense_contract := rfl
    dense_dimensions := rfl, dense_up := by decide
    dense_scores := by decide +kernel }

end Sample

end BackendHandbook.Retrieval
