import BackendHandbook.Authorization.Acl
import BackendHandbook.Authorization.Provenance

/-! The decision on an authorization request from current facts, the permit issued for it, and
the cache of decisions. -/

namespace BackendHandbook.Authorization

structure AuthenticatedPrincipal where
  subject : String
  expiresAt : Option Int
  subject_nonEmpty : subject ≠ ""
  expiry_pos : ∀ expiry ∈ expiresAt, 0 < expiry

def AuthenticatedPrincipal.expired (principal : AuthenticatedPrincipal) (now : Int) : Bool :=
  principal.expiresAt.any (· ≤ now)

inductive AuthorizationOutcome
  | allow | deny | indeterminate
  deriving DecidableEq

/-- A read of exact chunks of one chunk set. -/
structure AuthorizationRequest where
  principal : AuthenticatedPrincipal
  tenantId : String
  resource : ResourceRef
  (action audience purpose : String)
  chunkIds : List String
  nonEmpty : tenantId ≠ "" ∧ action ≠ "" ∧ audience ≠ "" ∧ purpose ≠ ""
  ofChunkSet : resource.resourceType = .chunkSet
  chunks : chunkIds ≠ [] ∧ chunkIds.Nodup

/-- The resources that the request is about. -/
def AuthorizationRequest.targets (request : AuthorizationRequest) : List ResourceRef :=
  request.chunkIds.map (request.resource.chunk request.ofChunkSet)

/-- The evidence of a valid decision. -/
def ProvenanceDecision.current (provenance : ProvenanceDecision)
    (valid : provenance.outcome = .valid) : CurrentRAGBinding :=
  provenance.binding.get (provenance.valid_iff.mp valid).1

structure AuthorizationFacts where
  membership : TenantMembership
  policy : AuthorizationPolicySnapshot
  provenance : ProvenanceDecision
  valid : provenance.outcome = .valid

namespace AuthorizationFacts

def revisions (facts : AuthorizationFacts) : AuthorizationRevisionVector :=
  .current facts.policy facts.membership

def binding (facts : AuthorizationFacts) : CurrentRAGBinding := facts.provenance.current facts.valid

end AuthorizationFacts

/-- Only an `ALLOW` carries current bindings. -/
structure AuthorizationDecision where
  outcome : AuthorizationOutcome
  (decisionId internalReasonCode safeExternalMessage : String)
  externalStatus : Nat
  request : AuthorizationRequest
  revisions : Option AuthorizationRevisionVector := none
  binding : Option CurrentRAGBinding := none
  complete : outcome = .allow ↔ revisions.isSome = true ∧ binding.isSome = true

/-- What the identity of an `ALLOW` is the hash of. -/
structure DecisionMaterial where
  (subject tenantId action audience purpose : String)
  chunkIds : List String
  chunkSetId : String
  (selectionRevision documentStateVersion documentFence : Nat)
  revisions : AuthorizationRevisionVector

/-- The hashes of identities: of a tuple of texts, of an `ALLOW`, and of a permit. -/
structure AuthorizationHashing where
  texts : List String → String
  decision : DecisionMaterial → String
  permit : String → Int → String → String

namespace PolicyDecisionPoint

def refusal (request : AuthorizationRequest) (membership : TenantMembership)
    (policy : AuthorizationPolicySnapshot) : Option String :=
  if membership.active = false ∨ membership.tenantId ≠ request.tenantId ∨
      membership.principalSubject ≠ request.principal.subject then
    some "TENANT_MEMBERSHIP_NOT_ACTIVE"
  else if request.action ∉ policy.supportedActions then some "ACTION_NOT_IN_CURRENT_CATALOG"
  else if request.action = "chunk:read_for_embedding" ∧ membership.principalKind ≠ .service then
    some "EMBEDDING_ACTION_REQUIRES_SERVICE_PRINCIPAL"
  else
    let applicable := policy.entries.filter fun entry =>
      entry.principalSubject == request.principal.subject && entry.action == request.action &&
        request.targets.any entry.resource.isAncestorOf
    if applicable.any (·.effect = .deny) then some "APPLICABLE_EXPLICIT_DENY"
    else
      let allows := applicable.filter (·.effect = .allow)
      request.targets.findSome? fun target =>
        let covering := allows.filter (·.resource.isAncestorOf target)
        if covering.isEmpty then some "DEFAULT_DENY_NO_APPLICABLE_GRANT"
        else if covering.all (·.resource.resourceType = .chunk) ∧
            policy.chunkAllowMayExpand = false then
          some "CHILD_ALLOW_CANNOT_EXPAND_PARENT_PERMISSION"
        else none

section Evaluate

variable (hashing : AuthorizationHashing)

def deny (request : AuthorizationRequest) (reason : String) : AuthorizationDecision :=
  { outcome := .deny
    decisionId := hashing.texts
      [request.principal.subject, request.tenantId, request.action, reason]
    internalReasonCode := reason, safeExternalMessage := "Resource not found or inaccessible"
    externalStatus := 404
    request
    complete := by simp }

def unavailable (request : AuthorizationRequest) : AuthorizationDecision :=
  { outcome := .indeterminate
    decisionId := hashing.texts [request.principal.subject, request.action, "unavailable"]
    internalReasonCode := "AUTHORIZATION_STATE_UNAVAILABLE"
    safeExternalMessage := "Service unavailable", externalStatus := 503
    request
    complete := by simp }

def decisionId (request : AuthorizationRequest) (revisions : AuthorizationRevisionVector)
    (binding : CurrentRAGBinding) : String :=
  hashing.decision
    { subject := request.principal.subject, tenantId := request.tenantId, action := request.action
      audience := request.audience, purpose := request.purpose, chunkIds := request.chunkIds
      chunkSetId := binding.chunkSetId, selectionRevision := binding.selectionRevision
      documentStateVersion := binding.documentStateVersion
      documentFence := binding.documentFence, revisions }

def allow (request : AuthorizationRequest) (facts : AuthorizationFacts) : AuthorizationDecision :=
  { outcome := .allow, decisionId := decisionId hashing request facts.revisions facts.binding
    internalReasonCode := "EXACT_CURRENT_AUTHORIZATION_ALLOW", safeExternalMessage := "Authorized"
    externalStatus := 200
    request
    revisions := some facts.revisions, binding := some facts.binding
    complete := by simp }

def evaluate (now : Int) (request : AuthorizationRequest) (facts : Option AuthorizationFacts) :
    AuthorizationDecision :=
  if request.principal.expired now then deny hashing request "AUTHENTICATED_PRINCIPAL_EXPIRED"
  else
    match facts with
    | none => deny hashing request "RESOURCE_NOT_ACCESSIBLE"
    | some facts =>
      match refusal request facts.membership facts.policy with
      | some reason => deny hashing request reason
      | none => allow hashing request facts

end Evaluate

end PolicyDecisionPoint

section SameRequest

variable {request other : AuthorizationRequest}

/-- The requests differ in their principals' expiry at most. -/
structure SameRequest (request other : AuthorizationRequest) : Prop where
  subject : request.principal.subject = other.principal.subject
  tenant : request.tenantId = other.tenantId
  resource : request.resource = other.resource
  action : request.action = other.action
  chunks : request.chunkIds = other.chunkIds

theorem SameRequest.targets (same : SameRequest request other) :
    request.targets = other.targets := by
  rcases request with ⟨_, _, _, _, _, _, _, _, _, _⟩
  rcases same with ⟨_, _, resources, _, chunks⟩
  subst resources
  subst chunks
  rfl

theorem refusal_congr (same : SameRequest request other) (membership : TenantMembership)
    (policy : AuthorizationPolicySnapshot) : PolicyDecisionPoint.refusal request membership policy =
      PolicyDecisionPoint.refusal other membership policy := by
  simp only [PolicyDecisionPoint.refusal, same.targets, same.subject, same.tenant, same.action]

end SameRequest

variable (issuer : PermitIssuer) (hashing : AuthorizationHashing) (ttlSeconds now : Int)
  (nonce : String) (decision : AuthorizationDecision)

def PermitIssuer.issue : Option SignedPermit :=
  match decision.revisions, decision.binding with
  | some revisions, some binding =>
    let request := decision.request
    let claims : PermitClaims :=
      { permitId := hashing.permit decision.decisionId now nonce
        decisionId := decision.decisionId, issuer := issuer.issuer
        subject := request.principal.subject, tenantId := request.tenantId
        audience := request.audience, action := request.action, purpose := request.purpose
        documentId := binding.version.documentId
        documentVersionId := binding.version.documentVersionId, chunkSetId := binding.chunkSetId
        chunkIds := request.chunkIds, issuedAt := now, expiresAt := now + ttlSeconds
        revisions
        selectionRevision := binding.selectionRevision
        documentStateVersion := binding.documentStateVersion
        documentFence := binding.documentFence }
    some { claims, signature := issuer.sign claims }
  | _, _ => none

theorem PermitIssuer.issue_isSome : decision.outcome = .allow ↔
      (issuer.issue hashing ttlSeconds now nonce decision).isSome = true := by
  rw [decision.complete, PermitIssuer.issue]
  cases decision.revisions with
  | none => simp
  | some =>
    cases decision.binding with
    | none | some => simp

structure AuthorizationResult where
  decision : AuthorizationDecision
  permit : Option SignedPermit := none
  carries : decision.outcome = .allow ↔ permit.isSome = true

structure AuthorizationCacheKey where
  (principalSubject tenantId : String)
  resource : ResourceRef
  (action audience purpose : String)
  chunkIds : List String
  revisions : AuthorizationRevisionVector
  (selectionRevision documentStateVersion documentFence : Nat)
  deriving DecidableEq

/-- Each decision with the second from which it is not used any more. -/
abbrev BoundedAuthorizationDecisionCache := Dict AuthorizationCacheKey (Int × AuthorizationDecision)

namespace BoundedAuthorizationDecisionCache

def key (request : AuthorizationRequest) (facts : AuthorizationFacts) : AuthorizationCacheKey :=
  { principalSubject := request.principal.subject
    tenantId := request.tenantId, resource := request.resource, action := request.action
    audience := request.audience, purpose := request.purpose, chunkIds := request.chunkIds
    revisions := facts.revisions, selectionRevision := facts.binding.selectionRevision
    documentStateVersion := facts.binding.documentStateVersion
    documentFence := facts.binding.documentFence }

def get (key : AuthorizationCacheKey) (now : Int) (cache : BoundedAuthorizationDecisionCache) :
    Option AuthorizationDecision × BoundedAuthorizationDecisionCache :=
  match cache.lookup key with
  | none => (none, cache)
  | some (expiresAt, decision) =>
    if expiresAt ≤ now then (none, cache.erase key) else (some decision, cache)

def put (key : AuthorizationCacheKey) (decision : AuthorizationDecision) (ttlSeconds now : Int)
    (cache : BoundedAuthorizationDecisionCache) : BoundedAuthorizationDecisionCache :=
  cache.insert key (now + ttlSeconds, decision)

end BoundedAuthorizationDecisionCache

end BackendHandbook.Authorization
