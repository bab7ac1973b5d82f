import BackendHandbook.Retrieval.Release
import Mathlib.Data.List.Infix

/-! `AuthorizedHybridRetriever.retrieve`: admission, cursor, cache hit, query encoding, the
refill loop, and the classification of what it found.

The components the retriever reads are its ports. Each reading of one that another thread may
change in between carries the place in the call where it is made. -/

namespace BackendHandbook.Retrieval

open Text

/-- An untyped `client_filter`: no filter, a filter expression, or some other object. -/
inductive ClientFilter
  | absent
  | expression (filter : FilterExpression)
  | foreign

structure RetrievalRequest where
  (operationId requestId tenantId principalSubject action purpose queryText : String)
  topK : Nat
  clientFilter : ClientFilter
  (clientGenerationId queryEncoderContractFingerprint : Option String)
  identity_present : allPresent [operationId, requestId, tenantId, principalSubject, action,
    purpose] = true
  query_present : strip queryText.toList ≠ []
  topK_pos : 0 < topK

def RetrievalRequest.scopeKey (request : RetrievalRequest) : ScopeKey :=
  (request.tenantId, request.principalSubject, request.action, request.purpose)

structure QueryEncodingError where
  reason : String
  providerCalled : Bool

structure EncodeReply where
  providerCalls : Nat
  result : Except QueryEncodingError EncodedQuery

inductive Reading
  | request | cursorCheck | cacheLookup | cachedRelease | loopStart
  | roundStart (completed : Nat)
  | roundRelease (number : Nat)
  | cursorIssue | cacheWrite

abbrev Clock := Reading → Int

structure Ports (Token : Type) where
  digests : Digests
  bundles : InMemoryRetrievalBundleAuthority
  authorization : Reading → InMemoryRetrievalAuthorization
  filterPlanner : FilterPlanner
  encode : (queryText expectedContractFingerprint : String) → EncodeReply
  lexical : (round query : Nat) → (queryText : String) → SelectedRetrievalBundle →
    RetrievalAuthorizationScope → Option FilterExpression → List String →
    (offset limit : Nat) → SearchReply
  dense : (round query : Nat) → EncodedQuery → SelectedRetrievalBundle →
    RetrievalAuthorizationScope → Option FilterExpression → List String →
    (offset limit : Nat) → SearchReply
  content : Reading → InMemoryProtectedRetrievalStore
  cursors : RetrievalCursorCodec Token
  clock : Clock
  classroomMode : Bool

/-- A response before `_finish` counts the calls, with what the audit event reads. -/
structure Conclusion (Token : Type) where
  bundle : Option SelectedRetrievalBundle
  scope : Option RetrievalAuthorizationScope
  plan : Option FilterPlan
  response : RetrievalResponse Token

structure Answer (Token : Type) where
  response : RetrievalResponse Token
  cache : InMemoryRetrievalCache
  audit : ContentSafeRetrievalAudit

namespace AuthorizedHybridRetriever

variable {Token : Type} (ports : Ports Token) (request : RetrievalRequest)

def refuse (bundle : Option SelectedRetrievalBundle) (scope : Option RetrievalAuthorizationScope)
    (plan : Option FilterPlan) (outcome : RetrievalOutcome) (reason : String) : Conclusion Token :=
  { bundle, scope, plan
    response :=
      { outcome, safeReason := reason, operationId := request.operationId
        bundleId := bundle.map SelectedRetrievalBundle.bundleId
        authorizationDecisionId := scope.map RetrievalAuthorizationScope.decisionId
        requestedTopK := request.topK } }

def validateRequest (digests : Digests) (classroomMode : Bool)
    (bundle : SelectedRetrievalBundle) : Option String :=
  if request.action ≠ retrievalAction ∨ request.purpose ≠ retrievalPurpose then
    some "RETRIEVAL_ACTION_OR_PURPOSE_MISMATCH"
  else if bundle.retrievalPolicy.maxTopK < request.topK then
    some "REQUESTED_TOP_K_EXCEEDS_POLICY"
  else if request.queryEncoderContractFingerprint.any fun fingerprint =>
      fingerprint != digests.queryEncoder bundle.queryEncoder then
    some "QUERY_ENCODER_CONTRACT_MISMATCH"
  else if bundle.fixtureScope = classroomScope ∧ classroomMode = false then
    some "SYNTHETIC_BUNDLE_FORBIDDEN_OUTSIDE_CLASSROOM"
  else if bundle.productionEligible = false ∧ bundle.fixtureScope ≠ classroomScope then
    some "SELECTED_BUNDLE_NOT_PRODUCTION_ELIGIBLE"
  else none

def selectBundle : Except (Conclusion Token) SelectedRetrievalBundle :=
  match ports.bundles.readSelected request.tenantId with
  | none => .error (refuse request none none none .rejected
      "NO_CURRENT_SELECTED_RETRIEVAL_BUNDLE")
  | some bundle =>
    if request.clientGenerationId.isSome then
      .error (refuse request (some bundle) none none .rejected
        "CLIENT_GENERATION_OVERRIDE_FORBIDDEN")
    else match validateRequest request ports.digests ports.classroomMode bundle with
      | some reason => .error (refuse request (some bundle) none none .rejected reason)
      | none => .ok bundle

def authorize (bundle : SelectedRetrievalBundle) :
    Except (Conclusion Token) RetrievalAuthorizationScope :=
  match (ports.authorization .request).read request.scopeKey with
  | .error _ => .error (refuse request (some bundle) none none .unavailable
      "AUTHORIZATION_STATE_UNAVAILABLE")
  | .ok none => .error (refuse request (some bundle) none none .authorizationDenied
      "CURRENT_RETRIEVAL_GRANT_NOT_ALLOWED")
  | .ok (some scope) =>
    if scope.allowedOccurrenceIds.isEmpty then
      .error (refuse request (some bundle) (some scope) none .authorizationDenied
        "CURRENT_RETRIEVAL_GRANT_NOT_ALLOWED")
    else .ok scope

/-- The client filter must be an expression before the planner sees it. -/
def planRequest (digests : Digests) (planner : FilterPlanner)
    (scope : RetrievalAuthorizationScope) (excluded : List String) : Except String FilterPlan :=
  match request.clientFilter with
  | .absent => planner.plan digests scope none excluded
  | .expression filter => planner.plan digests scope (some filter) excluded
  | .foreign => .error "CLIENT_FILTER_AST_REQUIRED"

def planFilter (excluded : List String) (bundle : SelectedRetrievalBundle)
    (scope : RetrievalAuthorizationScope) : Except (Conclusion Token) FilterPlan :=
  match planRequest request ports.digests ports.filterPlanner scope excluded with
  | .ok plan => .ok plan
  | .error reason => .error (refuse request (some bundle) (some scope) none .rejected reason)

def startOffsets (cursorToken : Option Token) (bundle : SelectedRetrievalBundle)
    (scope : RetrievalAuthorizationScope) (plan : FilterPlan) :
    Except (Conclusion Token) (Nat × Nat) :=
  match cursorToken with
  | none => .ok (0, 0)
  | some token =>
    let checked : Except String RetrievalCursor := do
      let cursor ← ports.cursors.decode token
      validateCurrent ports.digests cursor bundle scope
        (ports.digests.principal request.principalSubject)
        (ports.digests.query request.queryText) (plan.fingerprint ports.digests)
        (ports.clock .cursorCheck)
      pure cursor
    match checked with
    | .ok cursor => .ok (cursor.lexicalOffset, cursor.denseOffset)
    | .error reason =>
      .error (refuse request (some bundle) (some scope) (some plan) .rejected reason)

/-- What a call has settled before it searches. -/
structure Admission where
  bundle : SelectedRetrievalBundle
  scope : RetrievalAuthorizationScope
  plan : FilterPlan
  offsets : Nat × Nat

def admitRequest (cursorToken : Option Token) (excluded : List String) :
    Except (Conclusion Token) Admission := do
  let bundle ← selectBundle ports request
  let scope ← authorize ports request bundle
  let plan ← planFilter ports request excluded bundle scope
  let offsets ← startOffsets ports request cursorToken bundle scope plan
  pure ⟨bundle, scope, plan, offsets⟩

def cacheKey (bundle : SelectedRetrievalBundle) (scope : RetrievalAuthorizationScope)
    (plan : FilterPlan) : RetrievalCacheKey :=
  { tenantId := request.tenantId
    principalHash := ports.digests.principal request.principalSubject, action := request.action
    purpose := request.purpose, authorizationScopeFingerprint := scope.fingerprint ports.digests
    bundleFingerprint := ports.digests.bundle bundle, generationId := bundle.generationId
    queryHash := ports.digests.query request.queryText
    filterPlanFingerprint := plan.fingerprint ports.digests
    retrievalPolicyFingerprint := ports.digests.retrievalPolicy bundle.retrievalPolicy
    fusionPolicyFingerprint := ports.digests.fusionPolicy bundle.fusionPolicy
    degradationMode := "FULL" }

def Admission.cacheKey (admission : Admission) : RetrievalCacheKey :=
  AuthorizedHybridRetriever.cacheKey ports request admission.bundle admission.scope
    admission.plan

def cacheHitReason : String := "CURRENT_AUTHORIZATION_RECHECKED_CACHE_HIT"

def cachedConclusion (admission : Admission) (entry : RetrievalCacheEntry) :
    Option (Conclusion Token) :=
  match release (ports.authorization .cachedRelease) (ports.content .cachedRelease)
      entry.candidates admission.scope request.topK with
  | .error _ => none
  | .ok report => some
      { bundle := some admission.bundle
        scope := some report.currentScope, plan := some admission.plan
        response :=
          { outcome := if report.hits.isEmpty then .empty else .full
            safeReason := cacheHitReason, operationId := request.operationId
            bundleId := some admission.bundle.bundleId
            authorizationDecisionId := some report.currentScope.decisionId, hits := report.hits
            completedBranches := [.lexical, .dense], requestedTopK := request.topK } }

def cacheHit (cursorToken : Option Token) (cache : InMemoryRetrievalCache)
    (admission : Admission) : Option (Conclusion Token) :=
  match InMemoryRetrievalCache.get ports.digests cache (admission.cacheKey ports request)
      (ports.clock .cacheLookup) with
  | some entry =>
    if cursorToken.isSome then none else cachedConclusion ports request admission entry
  | none => none

structure LoopState where
  scope : RetrievalAuthorizationScope
  encodedQuery : Option EncodedQuery
  missing : List RetrievalBranch
  degradation : DegradationReason
  (lexicalOffset denseOffset : Nat)
  accumulated : List BranchCandidate := []
  candidatesExamined : Nat := 0
  refillRounds : Nat := 0
  exhausted : Bool := false
  finalHits : List AuthorizedRetrievalHit := []
  finalFused : List FusedCandidate := []
  completed : List RetrievalBranch := []
  databaseCalls : Nat := 0

/-- How the loop leaves early: with a response, or with an exception nobody catches. -/
inductive LoopStop
  | unavailable (reason : String) (scope : RetrievalAuthorizationScope) (databaseCalls : Nat)
  | raised (error : FusionError)

def encodeQuery (admission : Admission) (reply : EncodeReply) :
    Except (Conclusion Token) LoopState :=
  let start := fun encodedQuery missing degradation =>
    { scope := admission.scope, encodedQuery, missing, degradation
      lexicalOffset := admission.offsets.1, denseOffset := admission.offsets.2 : LoopState }
  match reply.result with
  | .ok encoded => .ok (start (some encoded) [] .none)
  | .error raised =>
    if !admission.bundle.retrievalPolicy.allowLexicalOnly then
      .error (refuse request (some admission.bundle) (some admission.scope)
        (some admission.plan) (if raised.providerCalled then .unavailable else .rejected)
        raised.reason)
    else .ok (start none [.dense]
      (if "EGRESS".toList <:+: raised.reason.toList ∨
          "SENSITIVITY".toList <:+: raised.reason.toList then .denseEgressDenied
        else .denseBranchFailed))

structure RoundState where
  loop : LoopState
  candidates : List BranchCandidate := []
  lexicalCounts : List Nat := []
  denseCounts : List Nat := []

variable (branch : RetrievalBranch) (branches : List RetrievalBranch)

def addOnce : List RetrievalBranch := if branch ∈ branches then branches else branches ++ [branch]

theorem addOnce_ne_nil : addOnce branch branches ≠ [] := by
  unfold addOnce
  split
  · next inside => exact List.ne_nil_of_mem inside
  · exact List.append_ne_nil_of_right_ne_nil _ (List.cons_ne_nil _ _)

variable (admission : Admission)
variable (query : Nat) (providerFilter : Option FilterExpression) (state : RoundState)

def searchLexical : Except LoopStop RoundState :=
  let reply := ports.lexical state.loop.refillRounds query request.queryText admission.bundle
    state.loop.scope providerFilter admission.plan.systemExcludedOccurrenceIds
    state.loop.lexicalOffset admission.bundle.fusionPolicy.candidateDepth
  let databaseCalls := state.loop.databaseCalls + reply.databaseCalls
  match reply.page with
  | .ok page => .ok
      { state with
        lexicalCounts := state.lexicalCounts ++ [page.length]
        candidates := state.candidates ++ page
        loop := { state.loop with
          completed := addOnce .lexical state.loop.completed
          databaseCalls } }
  | .error _ =>
    if !admission.bundle.retrievalPolicy.allowDenseOnly then
      .error (.unavailable "LEXICAL_BRANCH_FAILED" state.loop.scope databaseCalls)
    else .ok
      { state with
        loop := { state.loop with
          missing := addOnce .lexical state.loop.missing, degradation := .lexicalBranchFailed
          databaseCalls } }

def searchDense : Except LoopStop RoundState :=
  match state.loop.encodedQuery with
  | none => .ok state
  | some encoded =>
    let reply := ports.dense state.loop.refillRounds query encoded admission.bundle
      state.loop.scope providerFilter admission.plan.systemExcludedOccurrenceIds
      state.loop.denseOffset admission.bundle.fusionPolicy.candidateDepth
    let databaseCalls := state.loop.databaseCalls + reply.databaseCalls
    match reply.page with
    | .ok page => .ok
        { state with
          denseCounts := state.denseCounts ++ [page.length], candidates := state.candidates ++ page
          loop := { state.loop with
            completed := addOnce .dense state.loop.completed
            databaseCalls } }
    | .error _ =>
      if !admission.bundle.retrievalPolicy.allowLexicalOnly then
        .error (.unavailable "DENSE_BRANCH_FAILED" state.loop.scope databaseCalls)
      else .ok
        { state with
          loop := { state.loop with
            missing := addOnce .dense state.loop.missing, encodedQuery := none
            degradation := .denseBranchFailed
            databaseCalls } }

def searchQuery (state : RoundState) (query : Option FilterExpression × Nat) :
    Except LoopStop RoundState := do
  let state ← searchLexical ports request admission query.2 query.1 state
  searchDense ports admission query.2 query.1 state

def searchRound (state : LoopState) : Except LoopStop RoundState :=
  admission.plan.providerQueries.zipIdx.foldlM (searchQuery ports request admission)
    { loop := { state with refillRounds := state.refillRounds + 1 } }

/-- Move the offsets and take in the candidates the budget still has room for. -/
def admitCandidates (searched : RoundState) : LoopState × Bool :=
  let depth := admission.bundle.fusionPolicy.candidateDepth
  let state := searched.loop
  let remaining := admission.bundle.retrievalPolicy.maxCandidateBudget - state.candidatesExamined
  let truncated := decide (remaining < searched.candidates.length)
  let candidates := if truncated then searched.candidates.take remaining else searched.candidates
  ({ state with
      lexicalOffset := state.lexicalOffset + depth
      denseOffset := state.denseOffset + if state.encodedQuery.isSome then depth else 0
      degradation := if truncated then .refillBudgetExhausted else state.degradation
      candidatesExamined := state.candidatesExamined + candidates.length
      accumulated := state.accumulated ++ candidates }, truncated)

def fuseAccumulated (digests : Digests) (bundle : SelectedRetrievalBundle) (plan : FilterPlan)
    (scope : RetrievalAuthorizationScope) (accumulated : List BranchCandidate) :
    Except FusionError (List FusedCandidate) :=
  let accepted := (validate digests bundle scope (normalizeBranchRanks accumulated)).accepted
  reciprocalRankFusion bundle.fusionPolicy
    (accepted.filter fun candidate => admits plan.applicationPostFilter candidate.metadata)

def releaseRound (state : LoopState) (fused : List FusedCandidate) : Except LoopStop LoopState :=
  match release (ports.authorization (.roundRelease state.refillRounds))
      (ports.content (.roundRelease state.refillRounds)) fused state.scope request.topK with
  | .error _ => .error (.unavailable "FINAL_AUTHORIZATION_STATE_UNAVAILABLE" state.scope
      state.databaseCalls)
  | .ok report => .ok
      { state with finalFused := fused, finalHits := report.hits, scope := report.currentScope }

def branchExhausted (depth : Nat) (counts : List Nat) : Bool :=
  !counts.isEmpty && counts.all fun count => decide (count < depth)

/-- One refill round, and whether the loop breaks after it. -/
def round (state : LoopState) : Except LoopStop (LoopState × Bool) := do
  let searched ← searchRound ports request admission state
  let (state, truncated) := admitCandidates admission searched
  let fused ← (fuseAccumulated ports.digests admission.bundle admission.plan state.scope
    state.accumulated).mapError .raised
  let state ← releaseRound ports request state fused
  if request.topK ≤ state.finalHits.length then pure (state, true)
  else if truncated then pure (state, true)
  else
    let depth := admission.bundle.fusionPolicy.candidateDepth
    let exhausted := branchExhausted depth searched.lexicalCounts &&
      (state.encodedQuery.isNone || branchExhausted depth searched.denseCounts)
    pure ({ state with exhausted }, exhausted)

/-- The loop with the rounds it may still make; the last line of the source's `while`-`else`
is the case without rounds left. -/
def refill : Nat → LoopState → Except LoopStop LoopState
  | 0, state => .ok { state with degradation := .refillBudgetExhausted }
  | remaining + 1, state =>
    let policy := admission.bundle.retrievalPolicy
    if (policy.deadlineMs : Int) ≤
        ports.clock (.roundStart state.refillRounds) * 1000 - ports.clock .loopStart * 1000 then
      .ok { state with degradation := .deadlineExhausted }
    else if policy.maxCandidateBudget ≤ state.candidatesExamined then
      .ok { state with degradation := .refillBudgetExhausted }
    else match round ports request admission state with
      | .error stop => .error stop
      | .ok (state, true) => .ok state
      | .ok (state, false) => refill remaining state

/-- `tuple(sorted(..., key=lambda item: item.value))`. -/
def sortedBranches (branches : List RetrievalBranch) : List RetrievalBranch :=
  [RetrievalBranch.dense, .lexical].filter fun branch => branches.contains branch

variable (state : LoopState)

def issueCursor : RetrievalCursor :=
  { cursorVersion := "day100-cursor-v1"
    operationId := request.operationId, tenantId := request.tenantId
    principalHash := ports.digests.principal request.principalSubject
    authorizationScopeFingerprint := state.scope.fingerprint ports.digests
    bundleFingerprint := ports.digests.bundle admission.bundle
    generationId := admission.bundle.generationId
    queryHash := ports.digests.query request.queryText
    filterPlanFingerprint := admission.plan.fingerprint ports.digests
    retrievalPolicyFingerprint := ports.digests.retrievalPolicy admission.bundle.retrievalPolicy
    fusionPolicyFingerprint := ports.digests.fusionPolicy admission.bundle.fusionPolicy
    lexicalOffset := state.lexicalOffset, denseOffset := state.denseOffset
    expiresAt := ports.clock .cursorIssue + 300 }

def finalDegradation : DegradationReason :=
  if state.finalHits.length < request.topK ∧ state.exhausted = false ∧
      state.degradation = .none then .refillBudgetExhausted
  else state.degradation

def classify : RetrievalOutcome :=
  if state.missing ≠ [] ∨ finalDegradation request state ≠ .none then .partialResult
  else if state.finalHits.isEmpty then .empty
  else .full

variable (cache : InMemoryRetrievalCache)

def concludeLoop (state : LoopState) : Conclusion Token × InMemoryRetrievalCache :=
  if state.completed.isEmpty then
    let refused := @refuse Token request (some admission.bundle) (some state.scope)
      (some admission.plan) .unavailable "NO_RETRIEVAL_BRANCH_COMPLETED"
    ({ refused with response := { refused.response with
        missingBranches := sortedBranches state.missing
        candidatesExamined := state.candidatesExamined
        refillRounds := state.refillRounds } }, cache)
  else
    let outcome := classify request state
    ({ bundle := some admission.bundle
       scope := some state.scope, plan := some admission.plan
       response :=
        { outcome
          safeReason := if outcome = .full then "AUTHORIZED_HYBRID_RETRIEVAL_COMPLETED"
            else "AUTHORIZED_RETRIEVAL_EXPLICITLY_CLASSIFIED"
          operationId := request.operationId, bundleId := some admission.bundle.bundleId
          authorizationDecisionId := some state.scope.decisionId, hits := state.finalHits
          completedBranches := sortedBranches state.completed
          missingBranches := sortedBranches state.missing
          degradationReason := finalDegradation request state, requestedTopK := request.topK
          candidatesExamined := state.candidatesExamined, refillRounds := state.refillRounds
          cursor := some (ports.cursors.encode (issueCursor ports request admission state)) } },
      if outcome = .full then
        InMemoryRetrievalCache.put ports.digests cache
          { key := admission.cacheKey ports request
            candidates := state.finalFused, expiresAt := ports.clock .cacheWrite + 60 }
      else cache)

def finish (providerCalls databaseCalls : Nat) (conclusion : Conclusion Token) : Answer Token :=
  let response := { conclusion.response with providerCalls, databaseCalls }
  { response, cache
    audit :=
      { operationId := request.operationId
        requestId := request.requestId, tenantId := request.tenantId
        principalHash := ports.digests.principal request.principalSubject
        queryHash := ports.digests.query request.queryText
        selectedBundleId := conclusion.bundle.map SelectedRetrievalBundle.bundleId
        selectedGenerationId := conclusion.bundle.map SelectedRetrievalBundle.generationId
        clientGenerationHint := request.clientGenerationId, clientGenerationAuthoritative := false
        authorizationScopeFingerprint :=
          conclusion.scope.map (RetrievalAuthorizationScope.fingerprint ports.digests)
        filterPlanFingerprint := conclusion.plan.map (FilterPlan.fingerprint ports.digests)
        outcome := response.outcome.value, reason := response.safeReason
        completedBranches := response.completedBranches.map RetrievalBranch.value
        missingBranches := response.missingBranches.map RetrievalBranch.value
        candidatesExamined := response.candidatesExamined, returnedCount := response.hits.length
        providerCalls
        databaseCalls } }

/-- The call past the cache: encode, refill, classify. -/
def search : Except FusionError (Answer Token) :=
  let reply := ports.encode request.queryText
    (ports.digests.queryEncoder admission.bundle.queryEncoder)
  match encodeQuery request admission reply with
  | .error conclusion => .ok (finish ports request cache reply.providerCalls 0 conclusion)
  | .ok start =>
    match refill ports request admission admission.bundle.retrievalPolicy.maxRefillRounds
        start with
    | .error (.raised error) => .error error
    | .error (.unavailable reason scope databaseCalls) =>
      .ok (finish ports request cache reply.providerCalls databaseCalls
        (refuse request (some admission.bundle) (some scope) (some admission.plan)
          .unavailable reason))
    | .ok state =>
      let concluded := concludeLoop ports request admission cache state
      .ok (finish ports request concluded.2 reply.providerCalls state.databaseCalls
        concluded.1)

def retrieve (request : RetrievalRequest)
    (cursorToken : Option Token) (excluded : List String) : Except FusionError (Answer Token) :=
  match admitRequest ports request cursorToken excluded with
  | .error conclusion => .ok (finish ports request cache 0 0 conclusion)
  | .ok admission =>
    match cacheHit ports request cursorToken cache admission with
    | some conclusion => .ok (finish ports request cache 0 0 conclusion)
    | none => search ports request admission cache

end AuthorizedHybridRetriever

end BackendHandbook.Retrieval
