import BackendHandbook.Foundation.Dict

/-! Tenants, resources, memberships and access control entries, and the store of their current
state. -/

namespace BackendHandbook.Authorization

inductive PrincipalKind
  | human | service
  deriving DecidableEq

inductive ResourceType
  | tenant | document | documentVersion | chunkSet | chunk
  deriving DecidableEq

inductive AccessEffect
  | allow | deny
  deriving DecidableEq

inductive Raised
  | valueError (message : String)
  | authorizationStateUnavailable

def ResourceType.depth : ResourceType → Nat
  | .tenant => 0
  | .document => 1
  | .documentVersion => 2
  | .chunkSet => 3
  | .chunk => 4

/-- A resource is bound down to its level, and no further. -/
def boundToDepth (depth : Nat) (values : List (Option String)) : Prop :=
  (∀ value ∈ values.take depth, value ≠ none) ∧ ∀ value ∈ values.drop depth, value = none
  deriving Decidable

structure ResourceRef where
  resourceType : ResourceType
  tenantId : String
  documentId : Option String := none
  documentVersionId : Option String := none
  chunkSetId : Option String := none
  chunkId : Option String := none
  tenant_nonEmpty : tenantId ≠ ""
  bound : boundToDepth resourceType.depth [documentId, documentVersionId, chunkSetId, chunkId]

namespace ResourceRef

def depth (resource : ResourceRef) : Nat := resource.resourceType.depth

/-- The identities from the tenant down. -/
def path (resource : ResourceRef) : List (Option String) :=
  [some resource.tenantId, resource.documentId, resource.documentVersionId, resource.chunkSetId,
    resource.chunkId]

def isAncestorOf (own other : ResourceRef) : Bool :=
  if other.depth < own.depth then false
  else own.path.take (own.depth + 1) == other.path.take (own.depth + 1)

def chunkSet (tenantId documentId documentVersionId chunkSetId : String) :
    Except Raised ResourceRef :=
  if named : tenantId ≠ "" then
    .ok
      { resourceType := .chunkSet, tenantId, documentId := some documentId
        documentVersionId := some documentVersionId, chunkSetId := some chunkSetId
        tenant_nonEmpty := named, bound := by simp [boundToDepth, ResourceType.depth] }
  else .error (.valueError "resource requires tenant identity")

deriving instance DecidableEq for ResourceRef

def chunk (resource : ResourceRef) (parent : resource.resourceType = .chunkSet)
    (chunkId : String) : ResourceRef :=
  { resource with
    resourceType := .chunk, chunkId := some chunkId
    bound := by
      have above := resource.bound.1
      rw [parent] at above
      simpa [boundToDepth, ResourceType.depth] using above }

end ResourceRef

@[ext]
structure TenantMembership where
  (tenantId principalSubject : String)
  principalKind : PrincipalKind
  active : Bool
  revision : Nat
  nonEmpty : tenantId ≠ "" ∧ principalSubject ≠ ""
  revision_pos : 0 < revision

structure ACLEntry where
  (entryId principalSubject : String)
  resource : ResourceRef
  action : String
  effect : AccessEffect
  nonEmpty : entryId ≠ "" ∧ principalSubject ≠ "" ∧ action ≠ ""

@[ext]
structure AuthorizationRevisionVector where
  (policyRevision aclRevision membershipRevision : Nat)
  (roleVersion actionCatalogVersion : String)
  authorizationEpoch : Nat
  revisions_pos : 0 < policyRevision ∧ 0 < aclRevision ∧ 0 < membershipRevision ∧
    0 < authorizationEpoch
  nonEmpty : roleVersion ≠ "" ∧ actionCatalogVersion ≠ ""

instance : DecidableEq AuthorizationRevisionVector := fun _ _ =>
  decidable_of_iff _ AuthorizationRevisionVector.ext_iff.symm

structure AuthorizationPolicySnapshot where
  (tenantId documentId : String)
  (policyRevision aclRevision : Nat)
  (roleVersion actionCatalogVersion : String)
  authorizationEpoch : Nat
  supportedActions : List String
  entries : List ACLEntry
  chunkAllowMayExpand : Bool := false
  nonEmpty : tenantId ≠ "" ∧ documentId ≠ ""
  revisions_pos : 0 < policyRevision ∧ 0 < aclRevision ∧ 0 < authorizationEpoch
  versions_nonEmpty : roleVersion ≠ "" ∧ actionCatalogVersion ≠ ""
  actions_nonEmpty : supportedActions ≠ []
  entries_bound : ∀ entry ∈ entries, entry.resource.tenantId = tenantId ∧
    entry.resource.documentId ∈ [none, some documentId]

def AuthorizationRevisionVector.current (policy : AuthorizationPolicySnapshot)
    (membership : TenantMembership) : AuthorizationRevisionVector :=
  { policyRevision := policy.policyRevision
    aclRevision := policy.aclRevision, membershipRevision := membership.revision
    roleVersion := policy.roleVersion, actionCatalogVersion := policy.actionCatalogVersion
    authorizationEpoch := policy.authorizationEpoch
    revisions_pos := ⟨policy.revisions_pos.1, policy.revisions_pos.2.1, membership.revision_pos,
      policy.revisions_pos.2.2⟩
    nonEmpty := policy.versions_nonEmpty }

structure InMemoryAuthorizationStateStore where
  memberships : Dict (String × String) TenantMembership := ∅
  policies : Dict (String × String) AuthorizationPolicySnapshot := ∅
  available : Bool := true

namespace InMemoryAuthorizationStateStore

variable (store : InMemoryAuthorizationStateStore)

def readMembership (tenantId principalSubject : String) : Except Raised (Option TenantMembership) :=
  if store.available then .ok (store.memberships.lookup (tenantId, principalSubject))
  else .error .authorizationStateUnavailable

def readPolicy (tenantId documentId : String) :
    Except Raised (Option AuthorizationPolicySnapshot) :=
  if store.available then .ok (store.policies.lookup (tenantId, documentId))
  else .error .authorizationStateUnavailable

def setAvailable (available : Bool) (store : InMemoryAuthorizationStateStore) :
    InMemoryAuthorizationStateStore :=
  { store with available }

def putMembership (membership : TenantMembership) (store : InMemoryAuthorizationStateStore) :
    InMemoryAuthorizationStateStore :=
  { store with
    memberships :=
      store.memberships.insert (membership.tenantId, membership.principalSubject) membership }

def putPolicy (policy : AuthorizationPolicySnapshot) (store : InMemoryAuthorizationStateStore) :
    InMemoryAuthorizationStateStore :=
  { store with policies := store.policies.insert (policy.tenantId, policy.documentId) policy }

/-- A change of the policy under its key, if there is one to make; a store that is unavailable,
or without the policy, raises and stays as it is. -/
def updatePolicy (tenantId documentId : String)
    (update : AuthorizationPolicySnapshot → Option AuthorizationPolicySnapshot)
    (store : InMemoryAuthorizationStateStore) : InMemoryAuthorizationStateStore :=
  if store.available then
    match (store.policies.lookup (tenantId, documentId)).bind update with
    | some updated =>
      { store with policies := store.policies.insert (tenantId, documentId) updated }
    | none => store
  else store

def revokeGrant (tenantId documentId entryId : String) (store : InMemoryAuthorizationStateStore) :
    InMemoryAuthorizationStateStore :=
  store.updatePolicy tenantId documentId fun current =>
    let remaining := current.entries.filter (·.entryId ≠ entryId)
    if remaining.length = current.entries.length then none
    else some
      { current with
        entries := remaining, aclRevision := current.aclRevision + 1
        authorizationEpoch := current.authorizationEpoch + 1
        revisions_pos := ⟨current.revisions_pos.1, Nat.succ_pos _, Nat.succ_pos _⟩
        entries_bound := fun entry member =>
          current.entries_bound entry (List.mem_of_mem_filter member) }

def advanceAuthorizationEpoch (tenantId documentId : String)
    (store : InMemoryAuthorizationStateStore) : InMemoryAuthorizationStateStore :=
  store.updatePolicy tenantId documentId fun current => some
    { current with
      authorizationEpoch := current.authorizationEpoch + 1
      revisions_pos := ⟨current.revisions_pos.1, current.revisions_pos.2.1, Nat.succ_pos _⟩ }

def replaceMembership (membership : TenantMembership) (active : Bool)
    (store : InMemoryAuthorizationStateStore) : InMemoryAuthorizationStateStore :=
  store.putMembership
    { membership with
      active, revision := membership.revision + 1, revision_pos := Nat.succ_pos _ }

end InMemoryAuthorizationStateStore

/-! Signed permits: the claims of a decision, bound by the signature of their issuer. -/

structure PermitClaims where
  (permitId decisionId issuer subject tenantId audience action purpose documentId documentVersionId
   chunkSetId : String)
  chunkIds : List String
  (issuedAt expiresAt : Int)
  revisions : AuthorizationRevisionVector
  (selectionRevision documentStateVersion documentFence : Int)

structure SignedPermit where
  claims : PermitClaims
  signature : String

/-- An issuer by its name and by its keyed digest of the claims. -/
structure PermitIssuer where
  issuer : String
  sign : PermitClaims → String

def PermitIssuer.verifySignature (issuer : PermitIssuer) (permit : SignedPermit) : Bool :=
  permit.claims.issuer == issuer.issuer && permit.signature == issuer.sign permit.claims

end BackendHandbook.Authorization
