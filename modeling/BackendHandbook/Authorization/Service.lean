import BackendHandbook.Authorization.Decision
import BackendHandbook.Foundation.Threads

/-! The authorization service as a program over single calls on its stores. -/

namespace BackendHandbook.Authorization

open Interleaving Ingestion Chunking Text Program AuthorizationPolicySnapshot
  BoundedAuthorizationDecisionCache

/-- The issuer, the hashes, and how long a permit and a cached decision last. -/
structure AuthorizationConfig where
  hashing : AuthorizationHashing
  chunkHashing : Hashing
  issuer : PermitIssuer
  (permitTtl cacheTtl : Int)
  ttl_pos : 0 < permitTtl ∧ 0 < cacheTtl

/-- The stores that authorization reads, its cache, the consumed permits and the clock. -/
structure AuthorizationState where
  authorization : InMemoryAuthorizationStateStore
  day95 : Ingestion.Store
  chunks : InMemoryChunkSetStore
  cache : BoundedAuthorizationDecisionCache := ∅
  consumed : List String := []
  clock : Int

inductive Change
  | setAvailable (available : Bool)
  | putMembership (membership : TenantMembership)
  | putPolicy (policy : AuthorizationPolicySnapshot)
  | revokeGrant (tenantId documentId entryId : String)
  | advanceAuthorizationEpoch (tenantId documentId : String)
  | replaceMembership (membership : TenantMembership) (active : Bool)
  | documents (day95 : Ingestion.Store) (chunks : InMemoryChunkSetStore)
  | tick (seconds : Nat)

def Change.apply : Change → AuthorizationState → AuthorizationState
  | .setAvailable available, state =>
    { state with authorization := state.authorization.setAvailable available }
  | .putMembership membership, state =>
    { state with authorization := state.authorization.putMembership membership }
  | .putPolicy policy, state =>
    { state with authorization := state.authorization.putPolicy policy }
  | .revokeGrant tenantId documentId entryId, state =>
    { state with authorization := state.authorization.revokeGrant tenantId documentId entryId }
  | .advanceAuthorizationEpoch tenantId documentId, state =>
    { state with
      authorization := state.authorization.advanceAuthorizationEpoch tenantId documentId }
  | .replaceMembership membership active, state =>
    { state with authorization := state.authorization.replaceMembership membership active }
  | .documents day95 chunks, state => { state with day95, chunks }
  | .tick seconds, state => { state with clock := state.clock + seconds }

inductive Call
  | clock
  | provenance (document : DocumentIdentity) (expectedChunkSetId : Option String)
  | readMembership (tenantId principalSubject : String)
  | readPolicy (tenantId documentId : String)
  | cacheGet (key : AuthorizationCacheKey)
  | cachePut (key : AuthorizationCacheKey) (decision : AuthorizationDecision)
  | consumeOnce (permitId : String)
  | change (change : Change)

def Answer : Call → Type
  | .clock => Int
  | .provenance .. => Except ProvenanceRaised ProvenanceDecision
  | .readMembership .. => Except Raised (Option TenantMembership)
  | .readPolicy .. => Except Raised (Option AuthorizationPolicySnapshot)
  | .cacheGet _ => Option AuthorizationDecision
  | .cachePut .. => Unit
  | .consumeOnce _ => Bool
  | .change _ => Unit

/-- Why current facts could not be loaded. -/
inductive LoadRaised
  | unavailable
  | provenance (raised : ProvenanceRaised)

abbrev AuthorizationProgram := Program Call Answer Unit (fun _ => String)

section Model

variable (config : AuthorizationConfig)

def AuthorizationState.perform : (call : Call) → AuthorizationState →
    Answer call × AuthorizationState
  | .clock, state => (state.clock, state)
  | .provenance document expected, state =>
    (CurrentRAGProvenanceValidator.evaluate config.chunkHashing state.day95 state.chunks
      document expected, state)
  | .readMembership tenantId principalSubject, state =>
    (state.authorization.readMembership tenantId principalSubject, state)
  | .readPolicy tenantId documentId, state =>
    (state.authorization.readPolicy tenantId documentId, state)
  | .cacheGet key, state =>
    let (found, cache) := get key state.clock state.cache
    (found, { state with cache })
  | .cachePut key decision, state =>
    ((), { state with
      cache := put key decision config.cacheTtl state.clock
        state.cache })
  | .consumeOnce permitId, state =>
    if permitId ∈ state.consumed then (false, state)
    else (true, { state with consumed := permitId :: state.consumed })
  | .change change, state => ((), change.apply state)

namespace PolicyInformationPoint

/-- The request is about the current version and chunk set, and about chunks of it. -/
def Exact (request : AuthorizationRequest) (binding : CurrentRAGBinding) : Prop :=
  request.resource.documentVersionId = some binding.version.documentVersionId ∧
    request.resource.chunkSetId = some binding.chunkSetId ∧ request.chunkIds ⊆ binding.chunkIds
  deriving Decidable

variable {τ : Type}

def readFacts (request : AuthorizationRequest) (documentId : String)
    (provenance : ProvenanceDecision) (valid : provenance.outcome = .valid)
    (next : Except LoadRaised (Option AuthorizationFacts) → AuthorizationProgram τ) :
    AuthorizationProgram τ :=
  .call (.readMembership request.tenantId request.principal.subject) fun membership =>
  match membership with
  | .error _ => next (.error .unavailable)
  | .ok membership =>
  .call (.readPolicy request.tenantId documentId) fun policy =>
  match policy with
  | .error _ => next (.error .unavailable)
  | .ok policy =>
    match membership, policy with
    | some membership, some policy => next (.ok (some { membership, policy, provenance, valid }))
    | _, _ => next (.ok none)

def load (request : AuthorizationRequest)
    (next : Except LoadRaised (Option AuthorizationFacts) → AuthorizationProgram τ) :
    AuthorizationProgram τ :=
  if request.tenantId ≠ request.resource.tenantId then next (.ok none)
  else
    match request.resource.documentId with
    | none => next (.ok none)
    | some documentId =>
      if nonEmpty : requireNonEmpty [request.tenantId, documentId] = true then
        .call (.provenance ⟨request.tenantId, documentId, nonEmpty⟩ request.resource.chunkSetId)
          fun provenance =>
        match provenance with
        | .error raised => next (.error (.provenance raised))
        | .ok provenance =>
          if valid : provenance.outcome = .valid then
            if Exact request (provenance.current valid) then
              readFacts request documentId provenance valid next
            else next (.ok none)
          else next (.ok none)
      else
        next (.error (.provenance
          (.valueError "identity and contract values must not be empty")))

end PolicyInformationPoint

namespace RAGAuthorizationService

def conclude (decision : AuthorizationDecision) :
    AuthorizationProgram (Except ProvenanceRaised AuthorizationResult) :=
  if allowed : decision.outcome = .allow then
    .call .clock fun now => .ask () fun nonce =>
      .done (.ok
        { decision, permit := config.issuer.issue config.hashing config.permitTtl now nonce decision
          carries :=
            config.issuer.issue_isSome config.hashing config.permitTtl now nonce decision })
  else .done (.ok { decision, carries := by simp [allowed] })

variable (cached : Bool) (request : AuthorizationRequest)

/-- Evaluate the facts, and keep the decision under its key where there is a cache. -/
def decide (facts : Option AuthorizationFacts) :
    AuthorizationProgram (Except ProvenanceRaised AuthorizationResult) :=
  .call .clock fun now =>
    let decision := PolicyDecisionPoint.evaluate config.hashing now request facts
    match cached, facts with
    | true, some facts =>
      .call (.cachePut (BoundedAuthorizationDecisionCache.key request facts) decision) fun _ =>
        conclude config decision
    | _, _ => conclude config decision

def authorize : AuthorizationProgram (Except ProvenanceRaised AuthorizationResult) :=
  PolicyInformationPoint.load request fun loaded =>
  match loaded with
  | .error .unavailable =>
    .done (.ok
      { decision := PolicyDecisionPoint.unavailable config.hashing request
        carries := by simp [PolicyDecisionPoint.unavailable] })
  | .error (.provenance raised) => .done (.error raised)
  | .ok facts =>
    match cached, facts with
    | true, some facts =>
      .call (.cacheGet (BoundedAuthorizationDecisionCache.key request facts)) fun found =>
      match found with
      | some decision => conclude config decision
      | none => decide config cached request (some facts)
    | _, _ => decide config cached request facts

end RAGAuthorizationService

def AuthorizationState.currentFacts (state : AuthorizationState) (request : AuthorizationRequest) :
    Except LoadRaised (Option AuthorizationFacts) :=
  ((PolicyInformationPoint.load request .done).alone (AuthorizationState.perform config)
    (fun _ => "") state).1

end Model

/-! Revisions only grow and tell the content of a membership or a policy, and a load finds what
is stored. -/

/-- The revisions of a policy that are numbers. -/
def AuthorizationPolicySnapshot.version (policy : AuthorizationPolicySnapshot) : ℕ × ℕ × ℕ :=
  (policy.policyRevision, policy.aclRevision, policy.authorizationEpoch)

instance : DecidableEq TenantMembership := fun _ _ =>
  decidable_of_iff _ TenantMembership.ext_iff.symm

deriving instance DecidableEq for ACLEntry
deriving instance DecidableEq for AuthorizationPolicySnapshot

/-- Each membership and each policy is the same still, or has a later revision. -/
structure Grown (before after : InMemoryAuthorizationStateStore) : Prop where
  memberships : DictSupersedes TenantMembership.revision before.memberships after.memberships
  policies : DictSupersedes version before.policies after.policies

theorem Grown.refl (store : InMemoryAuthorizationStateStore) : Grown store store :=
  ⟨.refl _, .refl _⟩

theorem Grown.trans {early middle late : InMemoryAuthorizationStateStore}
    (first : Grown early middle) (second : Grown middle late) : Grown early late :=
  ⟨first.memberships.trans second.memberships, first.policies.trans second.policies⟩

def Change.Revises (store : InMemoryAuthorizationStateStore) : Change → Prop
  | .putMembership membership =>
    ∀ old ∈ store.memberships.lookup (membership.tenantId, membership.principalSubject),
      old.revision ≤ membership.revision ∧ (old.revision = membership.revision → old = membership)
  | .putPolicy policy =>
    ∀ old ∈ store.policies.lookup (policy.tenantId, policy.documentId),
      old.version ≤ policy.version ∧ (old.version = policy.version → old = policy)
  | .replaceMembership membership _ =>
    ∀ old ∈ store.memberships.lookup (membership.tenantId, membership.principalSubject),
      old.revision ≤ membership.revision
  | _ => True

instance (store : InMemoryAuthorizationStateStore) (change : Change) :
    Decidable (change.Revises store) := by
  cases change <;> unfold Change.Revises <;> infer_instance

section Changes

variable {store : InMemoryAuthorizationStateStore}

theorem putMembership_grown {membership : TenantMembership}
    (revises : Supersedes TenantMembership.revision
      (store.memberships.lookup (membership.tenantId, membership.principalSubject))
      (some membership)) : Grown store (store.putMembership membership) :=
  ⟨DictSupersedes.insert revises, .refl _⟩

theorem updatePolicy_grown (tenantId documentId : String)
    {update : AuthorizationPolicySnapshot → Option AuthorizationPolicySnapshot}
    (later : ∀ current, ∀ updated ∈ update current, current.version < updated.version) :
    Grown store (store.updatePolicy tenantId documentId update) := by
  unfold InMemoryAuthorizationStateStore.updatePolicy
  split
  · cases stored : store.policies.lookup (tenantId, documentId) with
    | none => exact Grown.refl store
    | some current =>
      cases found : update current with
      | none =>
        simp only [Option.bind_some, found]
        exact Grown.refl store
      | some updated =>
        simp only [Option.bind_some, found]
        refine ⟨.refl _, DictSupersedes.insert ?_⟩
        intro old held
        rw [stored] at held
        cases held
        have order := later current updated found
        exact ⟨updated, rfl, order.le, fun same => absurd same order.ne⟩
  · exact Grown.refl store

theorem revokeGrant_grown (tenantId documentId entryId : String) :
    Grown store (store.revokeGrant tenantId documentId entryId) := by
  apply updatePolicy_grown tenantId documentId
  intro current updated found
  dsimp only at found
  split at found
  · cases found
  · cases found
    simp [version]

theorem advanceAuthorizationEpoch_grown (tenantId documentId : String) :
    Grown store (store.advanceAuthorizationEpoch tenantId documentId) := by
  apply updatePolicy_grown tenantId documentId
  intro current updated found
  cases found
  simp [version]

end Changes

theorem Change.apply_grown (change : Change) (state : AuthorizationState)
    (revises : change.Revises state.authorization) :
    Grown state.authorization (change.apply state).authorization := by
  cases change with
  | setAvailable => exact ⟨.refl _, .refl _⟩
  | putMembership membership =>
    exact putMembership_grown fun old held => ⟨membership, rfl, revises old held⟩
  | putPolicy policy =>
    exact ⟨.refl _, DictSupersedes.insert fun old held => ⟨policy, rfl, revises old held⟩⟩
  | revokeGrant => exact revokeGrant_grown _ _ _
  | advanceAuthorizationEpoch => exact advanceAuthorizationEpoch_grown _ _
  | replaceMembership membership =>
    refine putMembership_grown fun old held => ⟨_, rfl, ?_, ?_⟩
    · exact (revises old held).trans (Nat.le_succ _)
    · intro same
      have order := revises old held
      change old.revision = membership.revision + 1 at same
      omega
  | documents | tick => exact Grown.refl _

theorem perform_authorization (config : AuthorizationConfig) (call : Call)
    (state : AuthorizationState) (other : ∀ change, call ≠ .change change) :
    (state.perform config call).2.authorization = state.authorization := by
  cases call with
  | clock | provenance document expected | readMembership tenantId principalSubject
  | readPolicy tenantId documentId | cacheGet key | cachePut key decision => rfl
  | consumeOnce =>
    simp only [AuthorizationState.perform]
    split <;> rfl
  | change change => exact absurd rfl (other change)

section Loads

variable {config : AuthorizationConfig} {state : AuthorizationState}
variable {request : AuthorizationRequest}

/-- A load without interference leaves the state alone and goes on with the current facts. -/
theorem load_alone {τ : Type}
    (next : Except LoadRaised (Option AuthorizationFacts) → AuthorizationProgram τ)
    (oracle : Unit → String) :
    (PolicyInformationPoint.load request next).alone (AuthorizationState.perform config) oracle
        state =
      (next (state.currentFacts config request)).alone (AuthorizationState.perform config) oracle
        state := by
  unfold AuthorizationState.currentFacts PolicyInformationPoint.load
  by_cases foreign : request.tenantId ≠ request.resource.tenantId
  · simp [if_pos foreign, alone]
  simp only [if_neg foreign]
  cases request.resource.documentId with
  | none => simp [alone]
  | some documentId =>
  by_cases nonEmpty : Text.requireNonEmpty [request.tenantId, documentId] = true
  · simp only [dif_pos nonEmpty, alone, AuthorizationState.perform]
    cases CurrentRAGProvenanceValidator.evaluate config.chunkHashing state.day95 state.chunks
      ⟨request.tenantId, documentId, nonEmpty⟩ request.resource.chunkSetId with
    | error raised => simp [alone]
    | ok provenance =>
      by_cases valid : provenance.outcome = .valid
      · simp only [dif_pos valid]
        by_cases exactly : PolicyInformationPoint.Exact request (provenance.current valid)
        · simp only [if_pos exactly, PolicyInformationPoint.readFacts, alone,
            AuthorizationState.perform]
          cases state.authorization.readMembership request.tenantId request.principal.subject with
          | error => simp [alone]
          | ok membership =>
            simp only [alone, AuthorizationState.perform]
            cases state.authorization.readPolicy request.tenantId documentId with
            | error => simp [alone]
            | ok policy =>
              cases membership with
              | none => simp [alone]
              | some =>
                cases policy with
                | none | some => simp [alone]
        · simp [if_neg exactly, alone]
      · simp [dif_neg valid, alone]
  · simp [dif_neg nonEmpty, alone]

/-- The facts are what the stores hold. -/
structure Loaded (config : AuthorizationConfig) (state : AuthorizationState)
    (request : AuthorizationRequest) (facts : AuthorizationFacts) (documentId : String) : Prop where
  document : request.resource.documentId = some documentId
  membership : state.authorization.memberships.lookup
    (request.tenantId, request.principal.subject) = some facts.membership
  policy : state.authorization.policies.lookup (request.tenantId, documentId) = some facts.policy

/-- The store still has the membership and the policy of the facts, or has revised them. -/
structure Known (store : InMemoryAuthorizationStateStore) (request : AuthorizationRequest)
    (facts : AuthorizationFacts) (documentId : String) : Prop where
  document : request.resource.documentId = some documentId
  membership : Supersedes TenantMembership.revision (some facts.membership)
    (store.memberships.lookup (request.tenantId, request.principal.subject))
  policy : Supersedes version (some facts.policy)
    (store.policies.lookup (request.tenantId, documentId))

variable {facts : AuthorizationFacts}

variable {documentId : String}

theorem Loaded.known (loaded : Loaded config state request facts documentId) :
    Known state.authorization request facts documentId where
  document := loaded.document
  membership := loaded.membership ▸ Supersedes.refl _
  policy := loaded.policy ▸ Supersedes.refl _

theorem Known.grown {before after : InMemoryAuthorizationStateStore}
    (known : Known before request facts documentId)
    (grown : Grown before after) : Known after request facts documentId where
  document := known.document
  membership := known.membership.trans (grown.memberships _)
  policy := known.policy.trans (grown.policies _)

variable {store : InMemoryAuthorizationStateStore}

theorem readMembership_ok {tenantId subject : String} {membership : Option TenantMembership}
    (read : store.readMembership tenantId subject = .ok membership) :
    store.memberships.lookup (tenantId, subject) = membership := by
  unfold InMemoryAuthorizationStateStore.readMembership at read
  split at read
  · exact Except.ok.inj read
  · cases read

theorem readPolicy_ok {tenantId : String} {policy : Option AuthorizationPolicySnapshot}
    (read : store.readPolicy tenantId documentId = .ok policy) :
    store.policies.lookup (tenantId, documentId) = policy := by
  unfold InMemoryAuthorizationStateStore.readPolicy at read
  split at read
  · exact Except.ok.inj read
  · cases read

theorem currentFacts_loaded (found : state.currentFacts config request = .ok (some facts)) :
    ∃ documentId, Loaded config state request facts documentId := by
  unfold AuthorizationState.currentFacts PolicyInformationPoint.load at found
  split at found
  · cases found
  split at found
  · cases found
  next documentId document =>
  split at found
  · simp only [alone] at found
    split at found
    · cases found
    next provenance evaluated =>
    split at found
    · split at found
      · simp only [PolicyInformationPoint.readFacts, alone]
          at found
        split at found
        · cases found
        next membership readMembership =>
        simp only [alone] at found
        split at found
        · cases found
        next policy readPolicy =>
        split at found
        · next held stored =>
          cases found
          exact ⟨documentId, document, readMembership_ok readMembership, readPolicy_ok readPolicy⟩
        · cases found
      · cases found
    · cases found
  · cases found

end Loads

end BackendHandbook.Authorization
