import BackendHandbook.Authorization.Service
import BackendHandbook.Embedding.Rollback

/-! The service with a cache beside the service without one, over every sequence of requests,
state changes and clock advances. -/

namespace BackendHandbook.Authorization

open Interleaving Run PolicyDecisionPoint RAGAuthorizationService AuthorizationState

inductive ServiceCall
  | authorize (request : AuthorizationRequest) (nonce : String)
  | change (change : Change)

def ServiceAnswer : ServiceCall → Type
  | .authorize .. => Except ProvenanceRaised AuthorizationResult
  | .change _ => Unit

section Statement

variable (config : AuthorizationConfig)

/-- A request, served as a whole. -/
def served (cached : Bool) (request : AuthorizationRequest) (nonce : String)
    (state : AuthorizationState) :
    Except ProvenanceRaised AuthorizationResult × AuthorizationState :=
  (RAGAuthorizationService.authorize config cached request).alone
    (perform config) (fun _ => nonce) state

/-- One call after another, with a cache. -/
def serve : (call : ServiceCall) → AuthorizationState → ServiceAnswer call × AuthorizationState
  | .authorize request nonce, state => served config true request nonce state
  | .change change, state => ((), change.apply state)

abbrev ServiceEvent := Event AuthorizationState ServiceCall ServiceAnswer

def serviceTrace (state : AuthorizationState) (calls : List ServiceCall) : List ServiceEvent :=
  trace (serve config) state calls

def verdict (answer : Except ProvenanceRaised AuthorizationResult) :
    Except ProvenanceRaised (AuthorizationOutcome × String) :=
  answer.map fun result => (result.decision.outcome, result.decision.internalReasonCode)

/-- Outcome and reason are those of the service without a cache; a permit goes to an unexpired
principal, and only an expired one is denied as expired. -/
def TransparentAt : ServiceEvent → Prop
  | ⟨before, .authorize request nonce, response, _⟩ =>
    verdict response = verdict (served config false request nonce before).1 ∧
      (∀ result, response = .ok result → result.permit.isSome = true →
        request.principal.expired before.clock = false) ∧
      ∀ result, response = .ok result →
        result.decision.internalReasonCode = "AUTHENTICATED_PRINCIPAL_EXPIRED" →
        request.principal.expired before.clock = true
  | _ => True

variable (state : AuthorizationState)

def CacheTransparent (calls : List ServiceCall) : Prop :=
  ∀ e ∈ serviceTrace config state calls, TransparentAt config e

def liveEntry (request : AuthorizationRequest) : Option (Int × AuthorizationDecision) :=
  match state.currentFacts config request with
  | .ok (some facts) =>
    (state.cache.lookup (BoundedAuthorizationDecisionCache.key request facts)).filter fun entry =>
      state.clock < entry.1
  | _ => none

/-- The principal that the live entry was stored for had expired then just if the one that asks
has expired now. -/
def ExpiryAgreesAt (request : AuthorizationRequest) : Prop :=
  ∀ entry ∈ liveEntry config state request,
    entry.2.request.principal.expired (entry.1 - config.cacheTtl) =
      request.principal.expired state.clock
  deriving Decidable

def ExpiryAgrees : ServiceEvent → Prop
  | ⟨before, .authorize request _, _, _⟩ => ExpiryAgreesAt config before request
  | _ => True

instance (e : ServiceEvent) : Decidable (ExpiryAgrees config e) := by
  rcases e with ⟨_, call, _, _⟩
  cases call <;> unfold ExpiryAgrees <;> infer_instance

def Revised : ServiceEvent → Prop
  | ⟨before, .change change, _, _⟩ => change.Revises before.authorization
  | _ => True

instance (e : ServiceEvent) : Decidable (Revised e) := by
  rcases e with ⟨_, call, _, _⟩
  cases call <;> unfold Revised <;> infer_instance

end Statement

section Evaluation

variable {hashing : AuthorizationHashing} {request other : AuthorizationRequest}

theorem refusal_ne_expired (request : AuthorizationRequest) (membership : TenantMembership)
    (policy : AuthorizationPolicySnapshot) : refusal request membership policy ≠
      some "AUTHENTICATED_PRINCIPAL_EXPIRED" := by
  intro expired
  unfold refusal at expired
  split at expired
  · simp at expired
  split at expired
  · simp at expired
  split at expired
  · simp at expired
  dsimp only at expired
  split at expired
  · simp at expired
  · rcases List.exists_of_findSome?_eq_some expired with ⟨_, _, found⟩
    split at found
    · simp at found
    · split at found
      · simp at found
      · simp at found

def AuthorizationDecision.verdict (decision : AuthorizationDecision) :
    AuthorizationOutcome × String := (decision.outcome, decision.internalReasonCode)

theorem evaluate_expired {now : Int} {facts : Option AuthorizationFacts}
    (expired : request.principal.expired now = true) :
    (evaluate hashing now request facts).verdict = (.deny, "AUTHENTICATED_PRINCIPAL_EXPIRED") := by
  unfold evaluate
  rw [if_pos expired]
  rfl

variable {now : Int} {facts : AuthorizationFacts}

theorem evaluate_unexpired (unexpired : request.principal.expired now = false) :
    (evaluate hashing now request (some facts)).verdict =
      match refusal request facts.membership facts.policy with
      | some reason => (.deny, reason)
      | none => (.allow, "EXACT_CURRENT_AUTHORIZATION_ALLOW") := by
  unfold evaluate
  rw [if_neg (by rw [unexpired]; decide)]
  change AuthorizationDecision.verdict
    (match refusal request facts.membership facts.policy with
    | some reason => deny hashing request reason
    | none => allow hashing request facts) = _
  cases refusal request facts.membership facts.policy <;> rfl

theorem evaluate_unexpired_ne (unexpired : request.principal.expired now = false) :
    (evaluate hashing now request (some facts)).verdict ≠
      (.deny, "AUTHENTICATED_PRINCIPAL_EXPIRED") := by
  rw [evaluate_unexpired unexpired]
  cases refused : refusal request facts.membership facts.policy with
  | none => simp
  | some =>
    intro same
    rw [Prod.mk.injEq] at same
    rw [same.2] at refused
    exact refusal_ne_expired request _ _ refused

/-- On the same facts, two requests get the same verdict just if their principals are alike
expired, each at its own time. -/
theorem evaluate_verdict_iff (hashing : AuthorizationHashing) (same : SameRequest request other)
    {known : AuthorizationFacts}
    (memberships : known.membership = facts.membership) (policies : known.policy = facts.policy)
    (then_ now : Int) : (evaluate hashing then_ request (some known)).verdict =
        (evaluate hashing now other (some facts)).verdict ↔
      request.principal.expired then_ = other.principal.expired now := by
  cases before : request.principal.expired then_ with
  | true =>
    rw [evaluate_expired before]
    cases after : other.principal.expired now with
    | true => exact iff_of_true (evaluate_expired after).symm rfl
    | false => exact iff_of_false (evaluate_unexpired_ne after).symm (by decide)
  | false =>
    cases after : other.principal.expired now with
    | true =>
      rw [evaluate_expired after]
      exact iff_of_false (evaluate_unexpired_ne before) (by decide)
    | false =>
      refine iff_of_true ?_ rfl
      rw [evaluate_unexpired before, evaluate_unexpired after, refusal_congr same, memberships,
        policies]

variable {now : Int} {facts : Option AuthorizationFacts}

theorem evaluate_reason_expired (reason : (evaluate hashing now request facts).internalReasonCode =
      "AUTHENTICATED_PRINCIPAL_EXPIRED") : request.principal.expired now = true := by
  unfold evaluate at reason
  split at reason
  · assumption
  split at reason
  · simp [deny] at reason
  split at reason
  · next _ given refused =>
    have same : given = "AUTHENTICATED_PRINCIPAL_EXPIRED" := reason
    rw [same] at refused
    exact absurd refused (refusal_ne_expired request _ _)
  · simp [allow] at reason

theorem evaluate_allow_unexpired (allowed : (evaluate hashing now request facts).outcome = .allow) :
    request.principal.expired now = false := by
  by_contra expired
  rw [Bool.not_eq_false] at expired
  have denied := congrArg Prod.fst (@evaluate_expired hashing request now facts expired)
  exact absurd (allowed.symm.trans denied) (by decide)

theorem evaluate_request (hashing : AuthorizationHashing) (now : Int)
    (request : AuthorizationRequest) (facts : Option AuthorizationFacts) :
    (evaluate hashing now request facts).request = request := by
  unfold evaluate
  split
  · rfl
  split
  · rfl
  split
  · rfl
  · rfl

end Evaluation

variable {entry : Int × AuthorizationDecision}

section Serving

variable {config : AuthorizationConfig} {state : AuthorizationState}
variable {request : AuthorizationRequest} {nonce : String}

theorem conclude_alone (decision : AuthorizationDecision) (oracle : Unit → String)
    (state : AuthorizationState) : verdict ((conclude config decision).alone
        (perform config) oracle state).1 = .ok decision.verdict ∧ ((conclude config decision).alone
        (perform config) oracle state).2 = state := by
  unfold conclude
  split
  · exact ⟨rfl, rfl⟩
  · exact ⟨rfl, rfl⟩

theorem served_uncached : verdict (served config false request nonce state).1 =
      match state.currentFacts config request with
      | .error .unavailable => .ok (.indeterminate, "AUTHORIZATION_STATE_UNAVAILABLE")
      | .error (.provenance raised) => .error raised
      | .ok facts =>
        .ok (evaluate config.hashing state.clock request facts).verdict := by
  rw [served, RAGAuthorizationService.authorize, load_alone]
  cases state.currentFacts config request with
  | error raised =>
    cases raised with
    | unavailable | provenance => rfl
  | ok => exact (conclude_alone _ _ state).1

theorem served_without_facts
    (missing : ∀ facts, state.currentFacts config request ≠ .ok (some facts)) :
    verdict (served config true request nonce state).1 =
        verdict (served config false request nonce state).1 ∧
      (served config true request nonce state).2 = state := by
  rw [served_uncached, served, RAGAuthorizationService.authorize, load_alone]
  cases loaded : state.currentFacts config request with
  | error raised =>
    cases raised with
    | unavailable | provenance => exact ⟨rfl, rfl⟩
  | ok found =>
    cases found with
    | none => exact ⟨(conclude_alone _ _ state).1, (conclude_alone _ _ state).2⟩
    | some facts => exact absurd loaded (missing facts)

variable {facts : AuthorizationFacts}

theorem served_hit (loaded : state.currentFacts config request = .ok (some facts))
    (stored : state.cache.lookup (BoundedAuthorizationDecisionCache.key request facts) = some entry)
    (live : state.clock < entry.1) :
    verdict (served config true request nonce state).1 = .ok entry.2.verdict ∧
      (served config true request nonce state).2 = state := by
  have got : BoundedAuthorizationDecisionCache.get
      (BoundedAuthorizationDecisionCache.key request facts) state.clock state.cache =
        (some entry.2, state.cache) := by
    rw [BoundedAuthorizationDecisionCache.get, stored]
    exact if_neg (not_le.mpr live)
  rw [served, RAGAuthorizationService.authorize, load_alone, loaded]
  simp only [Program.alone, perform, got]
  exact conclude_alone _ _ state

theorem served_miss (loaded : state.currentFacts config request = .ok (some facts))
    (missing : ∀ entry, state.cache.lookup (BoundedAuthorizationDecisionCache.key request facts) =
      some entry → entry.1 ≤ state.clock) : verdict (served config true request nonce state).1 =
        verdict (served config false request nonce state).1 ∧
      ∃ cache, (∀ key entry, cache.lookup key = some entry → state.cache.lookup key = some entry) ∧
        (served config true request nonce state).2 = { state with
          cache := BoundedAuthorizationDecisionCache.put
            (BoundedAuthorizationDecisionCache.key request facts)
            (evaluate config.hashing state.clock request (some facts))
            config.cacheTtl state.clock cache } := by
  have got : ∃ cache : BoundedAuthorizationDecisionCache,
      (∀ key entry, cache.lookup key = some entry → state.cache.lookup key = some entry) ∧
        BoundedAuthorizationDecisionCache.get (BoundedAuthorizationDecisionCache.key request facts)
          state.clock state.cache = (none, cache) := by
    unfold BoundedAuthorizationDecisionCache.get
    cases stored : state.cache.lookup (BoundedAuthorizationDecisionCache.key request facts) with
    | none => exact ⟨state.cache, fun _ _ held => held, rfl⟩
    | some entry =>
      refine ⟨state.cache.erase (BoundedAuthorizationDecisionCache.key request facts), ?_,
        if_pos (missing entry stored)⟩
      intro key other held
      by_cases same : key = BoundedAuthorizationDecisionCache.key request facts
      · rw [same, AList.lookup_erase] at held
        cases held
      · rwa [AList.lookup_erase_ne same] at held
  rcases got with ⟨cache, kept, got⟩
  rw [served_uncached]
  rw [served, RAGAuthorizationService.authorize, load_alone, loaded]
  simp only [Program.alone, perform, got]
  exact ⟨(conclude_alone _ _ _).1, cache, kept, (conclude_alone _ _ _).2⟩

theorem expiry_of_uncached {result : AuthorizationResult}
    (same : verdict (.ok result) = verdict (served config false request nonce state).1) :
    (result.permit.isSome = true → request.principal.expired state.clock = false) ∧
      (result.decision.internalReasonCode = "AUTHENTICATED_PRINCIPAL_EXPIRED" →
        request.principal.expired state.clock = true) := by
  rw [served_uncached] at same
  cases loaded : state.currentFacts config request with
  | error raised =>
    rw [loaded] at same
    cases raised with
    | provenance => cases same
    | unavailable =>
      have parts := Prod.mk.inj (Except.ok.inj same)
      rw [← result.carries, parts.1, parts.2]
      exact ⟨by simp, by simp⟩
  | ok =>
    rw [loaded] at same
    have parts := Prod.mk.inj (Except.ok.inj same)
    rw [← result.carries, parts.1, parts.2]
    exact ⟨evaluate_allow_unexpired, evaluate_reason_expired⟩

theorem liveEntry_eq_some : liveEntry config state request = some entry ↔
      ∃ facts, state.currentFacts config request = .ok (some facts) ∧
        state.cache.lookup (BoundedAuthorizationDecisionCache.key request facts) = some entry ∧
        state.clock < entry.1 := by
  unfold liveEntry
  constructor
  · intro live
    split at live
    · next facts loaded =>
      rw [Option.filter_eq_some_iff, decide_eq_true_iff] at live
      exact ⟨facts, loaded, live⟩
    · cases live
  · rintro ⟨_, loaded, live⟩
    rw [loaded]
    exact Option.filter_eq_some_iff.mpr ⟨live.1, decide_eq_true live.2⟩

theorem served_cases (config : AuthorizationConfig) (state : AuthorizationState)
    (request : AuthorizationRequest) :
    (∀ facts, state.currentFacts config request ≠ .ok (some facts)) ∨
      (∃ entry, liveEntry config state request = some entry) ∨
      ∃ facts, state.currentFacts config request = .ok (some facts) ∧
        ∀ entry, state.cache.lookup (BoundedAuthorizationDecisionCache.key request facts) =
          some entry → entry.1 ≤ state.clock := by
  by_cases found : ∃ facts, state.currentFacts config request = .ok (some facts)
  · rcases found with ⟨facts, loaded⟩
    cases live : liveEntry config state request with
    | some entry => exact .inr (.inl ⟨entry, rfl⟩)
    | none =>
      refine .inr (.inr ⟨facts, loaded, fun entry stored => ?_⟩)
      by_contra late
      have held := liveEntry_eq_some.mpr ⟨facts, loaded, stored, not_le.mp late⟩
      rw [live] at held
      cases held
  · exact .inl fun facts loaded => found ⟨facts, loaded⟩

end Serving

section Caching

variable {config : AuthorizationConfig}

/-- The entry is the decision of its request, on facts under whose key it stands and which the
store still has or has revised. -/
structure Justified (config : AuthorizationConfig) (store : InMemoryAuthorizationStateStore)
    (key : AuthorizationCacheKey) (entry : Int × AuthorizationDecision)
    (facts : AuthorizationFacts) (documentId : String) : Prop where
  key : key = BoundedAuthorizationDecisionCache.key entry.2.request facts
  decision : entry.2 = evaluate config.hashing (entry.1 - config.cacheTtl)
    entry.2.request (some facts)
  known : Known store entry.2.request facts documentId

def CacheSound (config : AuthorizationConfig) (state : AuthorizationState) : Prop :=
  ∀ key entry, state.cache.lookup key = some entry →
    ∃ facts documentId, Justified config state.authorization key entry facts documentId

variable {documentId : String}

theorem Justified.grown {before after : InMemoryAuthorizationStateStore}
    {key : AuthorizationCacheKey} {facts : AuthorizationFacts}
    (justified : Justified config before key entry facts documentId) (grown : Grown before after) :
    Justified config after key entry facts documentId :=
  { justified with known := justified.known.grown grown }

theorem Justified.same {state : AuthorizationState} {request : AuthorizationRequest}
    {known facts : AuthorizationFacts} (justified : Justified config state.authorization
      (BoundedAuthorizationDecisionCache.key request facts) entry known documentId)
    (found : state.currentFacts config request = .ok (some facts)) :
    SameRequest entry.2.request request ∧ known.membership = facts.membership ∧
      known.policy = facts.policy := by
  rcases currentFacts_loaded found with ⟨current, loaded⟩
  have keys := justified.key
  simp only [BoundedAuthorizationDecisionCache.key, AuthorizationCacheKey.mk.injEq] at keys
  rcases keys with ⟨subject, tenant, resource, action, _, _, chunks, revisions, _, _, _⟩
  have same : SameRequest entry.2.request request :=
    ⟨subject.symm, tenant.symm, resource.symm, action.symm, chunks.symm⟩
  have document : documentId = current := by
    have held := justified.known.document
    rw [same.resource, loaded.document] at held
    exact (Option.some.inj held).symm
  subst document
  simp only [AuthorizationFacts.revisions, AuthorizationRevisionVector.current,
    AuthorizationRevisionVector.mk.injEq] at revisions
  rcases revisions with ⟨policyRevision, aclRevision, membershipRevision, _, _, epoch⟩
  refine ⟨same, justified.known.membership.same rfl ?_ membershipRevision.symm,
    justified.known.policy.same rfl ?_ ?_⟩
  · rw [same.tenant, same.subject]
    exact loaded.membership
  · rw [same.tenant]
    exact loaded.policy
  · simp [AuthorizationPolicySnapshot.version, policyRevision, aclRevision, epoch]

theorem serve_cacheSound (e : ServiceEvent)
    (performed : e.after = (serve config e.call e.before).2) (revised : Revised e)
    (sound : CacheSound config e.before) : CacheSound config e.after := by
  rcases e with ⟨before, call, _, after⟩
  cases call with
  | change change =>
    have reached : after = change.apply before := performed
    intro key entry held
    have cache : after.cache = before.cache := by
      rw [reached]
      cases change <;> rfl
    rw [cache] at held
    rcases sound key entry held with ⟨facts, documentId, justified⟩
    refine ⟨facts, documentId, justified.grown ?_⟩
    rw [reached]
    exact Change.apply_grown change before revised
  | authorize request nonce =>
    have reached : after = (served config true request nonce before).2 := performed
    rcases served_cases config before request with
      missing | ⟨entry, live⟩ | ⟨facts, loaded, missing⟩
    · rw [(served_without_facts missing).2] at reached
      exact reached ▸ sound
    · rcases liveEntry_eq_some.mp live with ⟨facts, loaded, stored, late⟩
      rw [(served_hit loaded stored late).2] at reached
      exact reached ▸ sound
    · rcases (@served_miss config before request nonce facts loaded missing).2 with
        ⟨_, kept, written⟩
      rw [written] at reached
      rcases currentFacts_loaded loaded with ⟨documentId, stored⟩
      subst reached
      intro key entry held
      dsimp only [BoundedAuthorizationDecisionCache.put] at held
      rw [Dict.lookup_insert_eq] at held
      split at held
      · next same =>
        cases held
        have requests := evaluate_request config.hashing before.clock request (some facts)
        refine ⟨facts, documentId, ?_⟩
        constructor
        · rw [requests]
          exact same
        · rw [requests, Int.add_sub_cancel]
        · rw [requests]
          exact stored.known
      · rcases sound key entry (kept key entry held) with ⟨known, document, justified⟩
        exact ⟨known, document, justified⟩

/-- Where the cache is sound, it is transparent just to those who are expired as the principal of
the entry was. -/
theorem transparentAt_iff (e : ServiceEvent)
    (performed : e.response = (serve config e.call e.before).1)
    (sound : CacheSound config e.before) : TransparentAt config e ↔ ExpiryAgrees config e := by
  rcases e with ⟨before, call, response, after⟩
  cases call with
  | change => exact Iff.rfl
  | authorize request nonce =>
    have answered : response = (served config true request nonce before).1 := performed
    subst answered
    have expiry : TransparentAt config ⟨before, .authorize request nonce,
          (serve config (.authorize request nonce) before).1, after⟩ ↔
        verdict (served config true request nonce before).1 =
          verdict (served config false request nonce before).1 := by
      refine ⟨fun transparent => transparent.1, fun same => ⟨same, ?_, ?_⟩⟩
      · intro result answered
        rw [show (served config true request nonce before).1 = .ok result from answered] at same
        exact (expiry_of_uncached same).1
      · intro result answered
        rw [show (served config true request nonce before).1 = .ok result from answered] at same
        exact (expiry_of_uncached same).2
    refine expiry.trans (?_ : _ ↔ ExpiryAgreesAt config before request)
    rcases served_cases config before request with
      missing | ⟨entry, live⟩ | ⟨facts, loaded, missing⟩
    · refine iff_of_true (served_without_facts missing).1 fun entry live => ?_
      rcases liveEntry_eq_some.mp live with ⟨facts, loaded, _⟩
      exact absurd loaded (missing facts)
    · rcases liveEntry_eq_some.mp live with ⟨_, loaded, stored, late⟩
      rcases sound _ entry stored with ⟨known, _, justified⟩
      rcases justified.same loaded with ⟨same, memberships, policies⟩
      rw [(served_hit loaded stored late).1, served_uncached, loaded]
      have agree : ExpiryAgreesAt config before request ↔
          entry.2.request.principal.expired (entry.1 - config.cacheTtl) =
            request.principal.expired before.clock := by
        refine ⟨fun agree => agree entry live, fun agree other held => ?_⟩
        rw [live] at held
        cases held
        exact agree
      rw [agree, ← evaluate_verdict_iff config.hashing same memberships policies,
        ← justified.decision]
      exact ⟨Except.ok.inj, congrArg Except.ok⟩
    · refine iff_of_true (served_miss loaded missing).1 fun entry live => ?_
      rcases liveEntry_eq_some.mp live with ⟨_, found, stored, late⟩
      rw [loaded] at found
      cases found
      exact absurd late (not_lt.mpr (missing entry stored))

end Caching

/-- Over every sequence of requests, revising changes and clock advances from an empty cache, the
cache is transparent just if no request is answered from an entry whose principal had expired and
its own has not, or the other way round. -/
theorem authorization_cache_iff (config : AuthorizationConfig) (state : AuthorizationState)
    (calls : List ServiceCall) (empty : state.cache = ∅)
    (revised : ∀ e ∈ serviceTrace config state calls, Revised e) :
    CacheTransparent config state calls ↔
      ∀ e ∈ serviceTrace config state calls, ExpiryAgrees config e := by
  have start : CacheSound config state := by
    intro key entry held
    rw [empty] at held
    cases held
  have sound : ∀ e ∈ serviceTrace config state calls, CacheSound config e.before := by
    intro e member
    refine (kept_trace (serve config) (CacheSound config) state calls ?_ start e member).1
    intro later inside
    exact serve_cacheSound later (mem_trace_performed inside).2 (revised later inside)
  refine forall₂_congr fun e member => ?_
  exact transparentAt_iff e (mem_trace_performed member).1 (sound e member)

namespace Sample

open Embedding.Sample (chunkStore day95)

-- These functions keep apart what the runs below hash and sign.
def config : AuthorizationConfig :=
  { hashing :=
      { texts := String.intercalate "/"
        decision := fun material => String.intercalate "/" (material.subject :: material.chunkIds)
        permit := fun decisionId _ nonce => String.intercalate "/" [decisionId, nonce] }
    chunkHashing := Chunking.Sample.hashing
    issuer := { issuer := "classroom", sign := fun claims => claims.permitId }
    permitTtl := 30, cacheTtl := 30, ttl_pos := by decide }

def start : AuthorizationState :=
  { authorization := Embedding.Sample.surroundings.authorization, day95, chunks := chunkStore
    clock := 10 }

theorem tenant_named : "tenant-a" ≠ "" := by decide

def chunkSet : ResourceRef :=
  { resourceType := .chunkSet, tenantId := "tenant-a", documentId := some "report-42"
    documentVersionId := some "report-42-v2", chunkSetId := some "chunk-set-1"
    tenant_nonEmpty := tenant_named, bound := by decide }

/-- The worker asks for the second chunk, authenticated until some second. -/
def request (expiry : Int) (positive : decide (0 < expiry) = true := by exact Eq.refl true) :
    AuthorizationRequest :=
  { principal :=
      { subject := "worker", expiresAt := some expiry, subject_nonEmpty := by decide
        expiry_pos := fun _ same => Option.mem_some_iff.mp same ▸ of_decide_eq_true positive }
    tenantId := "tenant-a", resource := chunkSet, action := "chunk:read_for_embedding"
    audience := "embedding", purpose := "index", chunkIds := ["chunk-2"]
    nonEmpty := by decide, ofChunkSet := rfl, chunks := by decide }

/-- A permit is issued twice, and after the grant is revoked the third request is denied. -/
def steady : List ServiceCall :=
  [.authorize (request 100) "n-1", .change (.tick 5), .authorize (request 90) "n-2",
   .change (.revokeGrant "tenant-a" "report-42" "entry-1"), .authorize (request 100) "n-3"]

theorem authorization_cache_iff_steady : CacheTransparent config start steady :=
  (authorization_cache_iff config start steady rfl (by decide +kernel)).mpr (by decide +kernel)

def lapsed : List ServiceCall := [.authorize (request 5) "n-1", .authorize (request 100) "n-2"]

/-- A principal that expires while its entry is live. -/
def outlived : List ServiceCall :=
  [.authorize (request 15) "n-1", .change (.tick 10), .authorize (request 15) "n-2"]

/-- An unexpired principal is denied because of an earlier one, and an expired one gets a permit. -/
theorem expiry_replayed :
    ¬ CacheTransparent config start lapsed ∧ ¬ CacheTransparent config start outlived := by
  constructor
  · intro transparent
    have last := transparent _ (event_mem_trace (serve config) start
      [.authorize (request 5) "n-1"] [] (.authorize (request 100) "n-2"))
    exact absurd last.1 (by decide +kernel)
  · intro transparent
    have last := transparent _ (event_mem_trace (serve config) start
      [.authorize (request 15) "n-1", .change (.tick 10)] [] (.authorize (request 15) "n-2"))
    exact absurd last.1 (by decide +kernel)

end Sample

end BackendHandbook.Authorization
