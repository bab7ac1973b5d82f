import BackendHandbook.Authorization.Backing
import BackendHandbook.Authorization.CacheTransparency

/-! A read releases chunks only while the facts that its permit was issued on are current. -/

namespace BackendHandbook.Authorization

open Chunking Interleaving Run GuardedChunkReader CurrentRAGProvenanceValidator
open Embedding (AuthorizedChunkView)

section Statement

variable (config : AuthorizationConfig) (start : AuthorizationState)
variable (moves : List AuthorizationMove)
variable (state : AuthorizationState) (request : AuthorizationRequest)

/-- What the stores hold, whether or not they can be read right now. -/
def AuthorizationState.storedFacts : Except LoadRaised (Option AuthorizationFacts) :=
  { state with authorization := state.authorization.setAvailable true }.currentFacts config request

/-- The facts of the moment allow the request to its principal, as long as that is unexpired. -/
def AllowsAt : Prop :=
  ∃ facts, state.storedFacts config request = .ok (some facts) ∧
    ∀ now, request.principal.expired now = false →
      (PolicyDecisionPoint.evaluate config.hashing now request (some facts)).outcome = .allow

/-- The request that the permit is for, made by the principal that presents it. -/
structure RequestOf (claims : PermitClaims) (presenting : AuthenticatedPrincipal)
    (request : AuthorizationRequest) : Prop where
  principal : request.principal = presenting
  subject : presenting.subject = claims.subject
  tenant : request.tenantId = claims.tenantId
  document : request.resource.documentId = some claims.documentId
  version : request.resource.documentVersionId = some claims.documentVersionId
  chunkSet : request.resource.chunkSetId = some claims.chunkSetId
  action : request.action = claims.action
  audience : request.audience = claims.audience
  purpose : request.purpose = claims.purpose
  chunks : request.chunkIds = claims.chunkIds

/-- The chunks are those of the permit, in its order, out of the chunk set that it names. -/
def ViewsOf (claims : PermitClaims) (state : AuthorizationState)
    (views : List AuthorizedChunkView) : Prop :=
  views.map (·.chunkId) = claims.chunkIds ∧
    ∃ chunkSet, state.chunks.readChunkSet claims.chunkSetId = some chunkSet ∧
      ∀ view ∈ views, ∃ chunk ∈ chunkSet.chunks, GuardedChunkReader.view chunk = view

variable (index : Nat) (permit : SignedPermit) (principal : AuthenticatedPrincipal)
  (views : List AuthorizedChunkView)

/-- A read by the thread of the chunks was authorized: the permit and the principal were unexpired
at its reading of the clock, and at a moment of it the facts allowed the request. -/
def AuthorizedRead : Prop :=
  (∃ front, CallsAt config start moves index front .clock ∧
    permit.claims.issuedAt ≤ (stateAt config start front).clock ∧
    (stateAt config start front).clock < permit.claims.expiresAt ∧
    principal.expired (stateAt config start front).clock = false) ∧
  ∃ front call request, CallsAt config start moves index front call ∧
    RequestOf permit.claims principal request ∧
    AllowsAt config (stateAt config start front) request ∧
    ViewsOf permit.claims (stateAt config start front) views

def Released : Prop :=
  (∃ action audience purpose,
    (operations moves)[index]? = some (.read permit principal action audience purpose)) ∧
  (reachedBy config start moves).threads[index]?.bind releasedViews = some views

/-- A permit that verifies has been returned by an authorization before it is presented. -/
def Unforgeable : Prop :=
  ∀ k < moves.length, ∀ move ∈ moves[k]?, ∀ permit ∈ presents move,
    config.issuer.verifySignature permit = true →
      ∃ thread ∈ (reachedBy config start (moves.take k)).threads, issuedPermit thread = some permit

instance : Decidable (Unforgeable config start moves) := by
  unfold Unforgeable
  infer_instance

end Statement

section Path

variable {γ : Type} {At : γ → Call → Prop} {state : γ → AuthorizationState}
variable {config : AuthorizationConfig} {permit : SignedPermit} {result : GuardedReadResult}

/-- What the last calls of a read that releases have found, one after the other. -/
structure CurrentRead (config : AuthorizationConfig) (At : γ → Call → Prop)
    (state : γ → AuthorizationState) (permit : SignedPermit) (chunkSet : ChunkSet)
    (result : GuardedReadResult) (members policies uses : γ) : Prop where
  membersAt : At members (.readMembership permit.claims.tenantId permit.claims.subject)
  policiesAt : At policies (.readPolicy permit.claims.tenantId permit.claims.documentId)
  usesAt : At uses (.consumeOnce permit.claims.permitId)
  revisions : ∃ membership policy,
    (state members).authorization.memberships.lookup
      (permit.claims.tenantId, permit.claims.subject) = some membership ∧
    (state policies).authorization.policies.lookup
      (permit.claims.tenantId, permit.claims.documentId) = some policy ∧
    AuthorizationRevisionVector.current policy membership = permit.claims.revisions
  unused : permit.claims.permitId ∉ (state uses).consumed
  released : release permit chunkSet = .ok result

theorem deny_not_released {reason : String} (outcome : result.outcome = .released) :
    deny permit reason ≠ .ok result := by
  rintro ⟨⟩
  cases outcome

theorem readCurrent_path {chunkSet : ChunkSet} {moments : List γ}
    (path : (readCurrent permit chunkSet).Path
      (AuthorizationState.perform config) At state moments (.ok result))
    (outcome : result.outcome = .released) :
    ∃ members policies uses, moments = [members, policies, uses] ∧
      CurrentRead config At state permit chunkSet result members policies uses := by
  rcases path with ⟨members, later, rfl, membersAt, path⟩
  dsimp only [AuthorizationState.perform] at path
  split at path
  · cases path.2
    cases outcome
  next membership readMembership =>
  rcases path with ⟨policies, later, rfl, policiesAt, path⟩
  dsimp only [AuthorizationState.perform] at path
  split at path
  · cases path.2
    cases outcome
  next policy readPolicy =>
  split at path
  · next membership policy =>
    split at path
    · exact absurd path.2 (deny_not_released outcome)
    split at path
    · exact absurd path.2 (deny_not_released outcome)
    next revisions =>
    rcases path with ⟨uses, _, rfl, usesAt, path⟩
    dsimp only at path
    split at path
    · next consumed =>
      rcases path with ⟨rfl, released⟩
      refine ⟨members, policies, uses, rfl, membersAt, policiesAt, usesAt,
        ⟨membership, policy, readMembership_ok readMembership, readPolicy_ok readPolicy,
          not_not.mp revisions⟩, ?_, released⟩
      intro used
      simp [AuthorizationState.perform, used] at consumed
    · exact absurd path.2 (deny_not_released outcome)
  · exact absurd path.2 (deny_not_released outcome)

structure ReleasingRead (config : AuthorizationConfig) (At : γ → Call → Prop)
    (state : γ → AuthorizationState) (permit : SignedPermit) (principal : AuthenticatedPrincipal)
    (result : GuardedReadResult) (clock facts members policies uses : γ) : Prop where
  verified : config.issuer.verifySignature permit = true
  subject : permit.claims.subject = principal.subject
  clockAt : At clock .clock
  permitCurrent : permit.claims.issuedAt ≤ (state clock).clock ∧
    (state clock).clock < permit.claims.expiresAt
  principalCurrent : principal.expired (state clock).clock = false
  evidence : ∃ (document : Ingestion.DocumentIdentity) (provenance : ProvenanceDecision)
      (valid : provenance.outcome = .valid),
    document.tenantId = permit.claims.tenantId ∧
    document.documentId = permit.claims.documentId ∧
    At facts (.provenance document (some permit.claims.chunkSetId)) ∧
    evaluate config.chunkHashing (state facts).day95
      (state facts).chunks document (some permit.claims.chunkSetId) = .ok provenance ∧
    GuardedChunkReader.BoundTo permit.claims (provenance.current valid) ∧
    CurrentRead config At state permit (GuardedChunkReader.chunkSet provenance valid) result
      members policies uses

theorem read_path {principal : AuthenticatedPrincipal} {action audience purpose : String}
    {moments : List γ}
    (path : (GuardedChunkReader.read config.issuer permit principal action audience purpose).Path
      (AuthorizationState.perform config) At state moments (.ok result))
    (outcome : result.outcome = .released) :
    ∃ clock facts members policies uses, moments = [clock, facts, members, policies, uses] ∧
      ReleasingRead config At state permit principal result clock facts members policies uses := by
  unfold GuardedChunkReader.read at path
  dsimp only at path
  split at path
  · exact absurd path.2 (deny_not_released outcome)
  next verified =>
  split at path
  · exact absurd path.2 (deny_not_released outcome)
  next context =>
  rcases path with ⟨clock, later, rfl, clockAt, path⟩
  dsimp only [AuthorizationState.perform] at path
  split at path
  · exact absurd path.2 (deny_not_released outcome)
  next current =>
  split at path
  · exact absurd path.2 (deny_not_released outcome)
  next unexpired =>
  split at path
  · next nonEmpty =>
    rcases path with ⟨facts, _, rfl, factsAt, path⟩
    dsimp only [AuthorizationState.perform] at path
    split at path
    · cases path.2
    next provenance evaluated =>
    split at path
    · next valid =>
      split at path
      · next bound =>
        rcases readCurrent_path path outcome with
          ⟨members, policies, uses, rfl, released⟩
        refine ⟨clock, facts, members, policies, uses, rfl, ?_⟩
        simp only [not_or, not_not, not_lt, not_le] at context current
        exact
          { verified := by simpa using verified
            subject := context.1
            clockAt
            permitCurrent := current
            principalCurrent := by simpa using unexpired
            evidence := ⟨⟨_, _, nonEmpty⟩, provenance, valid, rfl, rfl, factsAt, evaluated,
              bound, released⟩ }
      · exact absurd path.2 (deny_not_released outcome)
    · exact absurd path.2 (deny_not_released outcome)
  · cases path.2

end Path

theorem views_of_mapM {chunkSet : ChunkSet} {chunkIds : List String}
    {views : List AuthorizedChunkView} (viewed : chunkIds.mapM (viewById chunkSet) = .ok views) :
    views.map (·.chunkId) = chunkIds ∧
      ∀ view ∈ views, ∃ chunk ∈ chunkSet.chunks, GuardedChunkReader.view chunk = view := by
  induction chunkIds generalizing views with
  | nil =>
    cases viewed
    exact ⟨rfl, nofun⟩
  | cons chunkId chunkIds ih =>
    rw [List.mapM_cons] at viewed
    unfold viewById at viewed
    cases found : chunkSet.chunks.reverse.find? (·.chunkId = chunkId) with
    | none =>
      rw [found] at viewed
      cases viewed
    | some chunk =>
    cases rest : chunkIds.mapM (viewById chunkSet) with
    | error raised =>
      rw [found] at viewed
      unfold viewById at rest
      rw [rest] at viewed
      cases viewed
    | ok others =>
      rw [found] at viewed
      rcases ih rest with ⟨ids, stored⟩
      unfold viewById at rest
      rw [rest] at viewed
      cases viewed
      have named : chunk.chunkId = chunkId := by simpa using List.find?_some found
      refine ⟨?_, fun view member => ?_⟩
      · rw [List.map_cons, ids]
        exact congrArg (· :: chunkIds) named
      · rcases List.mem_cons.mp member with rfl | later
        · exact ⟨chunk, List.mem_reverse.mp (List.mem_of_find?_eq_some found), rfl⟩
        · exact stored view later

theorem release_views {permit : SignedPermit} {chunkSet : ChunkSet} {result : GuardedReadResult}
    (released : release permit chunkSet = .ok result) :
    result.chunks.map (·.chunkId) = permit.claims.chunkIds ∧
      ∀ view ∈ result.chunks, ∃ chunk ∈ chunkSet.chunks, GuardedChunkReader.view chunk = view := by
  unfold release at released
  split at released
  · cases released
  next views viewed =>
  split at released
  · cases released
    exact views_of_mapM viewed
  · cases released

open InMemoryAuthorizationStateStore in
theorem storedFacts_of {config : AuthorizationConfig} {state : AuthorizationState}
    {request : AuthorizationRequest} (document : Ingestion.DocumentIdentity)
    {provenance : ProvenanceDecision} {valid : provenance.outcome = .valid}
    {membership : TenantMembership} {policy : AuthorizationPolicySnapshot}
    (tenant : request.tenantId = request.resource.tenantId)
    (ofTenant : document.tenantId = request.tenantId)
    (named : request.resource.documentId = some document.documentId)
    (evaluated : evaluate config.chunkHashing state.day95 state.chunks
      document request.resource.chunkSetId = .ok provenance)
    (exactly : PolicyInformationPoint.Exact request (provenance.current valid))
    (member : state.authorization.memberships.lookup
      (request.tenantId, request.principal.subject) = some membership)
    (stored : state.authorization.policies.lookup (request.tenantId, document.documentId) =
      some policy) :
    state.storedFacts config request = .ok (some { membership, policy, provenance, valid }) := by
  rcases document with ⟨_, _, nonEmpty⟩
  subst ofTenant
  unfold AuthorizationState.storedFacts AuthorizationState.currentFacts PolicyInformationPoint.load
  rw [if_neg (not_not.mpr tenant), named]
  dsimp only
  rw [dif_pos nonEmpty]
  simp only [Program.alone, AuthorizationState.perform, evaluated]
  rw [dif_pos valid, if_pos exactly]
  simp [PolicyInformationPoint.readFacts, Program.alone, AuthorizationState.perform,
    readMembership, readPolicy,
    setAvailable, member, stored]

section Allowed

variable {config : AuthorizationConfig} {permit : SignedPermit}
variable {early facts members policies : AuthorizationState}

/-- Equal revisions later on mean that the facts of the permit were current in between. -/
theorem backed_allows {principal : AuthenticatedPrincipal}
    (backed : PermitBacked config early.authorization permit)
    (subject : permit.claims.subject = principal.subject)
    (toFacts : Relied early facts) (toMembers : Relied facts members)
    (toPolicies : Relied facts policies) (keyed : StoredById facts.chunks)
    {document : Ingestion.DocumentIdentity} {provenance : ProvenanceDecision}
    {valid : provenance.outcome = .valid} (ofTenant : document.tenantId = permit.claims.tenantId)
    (ofDocument : document.documentId = permit.claims.documentId)
    (evaluated : evaluate config.chunkHashing facts.day95 facts.chunks
      document (some permit.claims.chunkSetId) = .ok provenance)
    (bound : GuardedChunkReader.BoundTo permit.claims (provenance.current valid))
    {membership : TenantMembership} {policy : AuthorizationPolicySnapshot}
    (member : members.authorization.memberships.lookup
      (permit.claims.tenantId, permit.claims.subject) = some membership)
    (stored : policies.authorization.policies.lookup
      (permit.claims.tenantId, permit.claims.documentId) = some policy)
    (revisions : AuthorizationRevisionVector.current policy membership = permit.claims.revisions) :
    ∃ request, RequestOf permit.claims principal request ∧ AllowsAt config facts request := by
  have evidence := evaluate_evidence evaluated valid
  have named := keyed.named (evidence.stored _ rfl)
  rw [← evidence.named] at named
  rcases backed with ⟨decision, now, _, allowed, backed, issued⟩
  rcases backed allowed with ⟨found, documentId, known, clear, same⟩
  rw [same] at issued
  generalize decision.request = request at known clear issued
  cases issued
  simp only [AuthorizationFacts.revisions, AuthorizationRevisionVector.current,
    AuthorizationRevisionVector.mk.injEq] at revisions
  rcases revisions with ⟨policyRevision, aclRevision, membershipRevision, _, _, epoch⟩
  have document : found.binding.version.documentId = documentId := known.ofDocument
  subst document
  have heldMember : facts.authorization.memberships.lookup
      (request.tenantId, request.principal.subject) = some found.membership :=
    (known.membership.trans (toFacts.memberships _)).between (toMembers.memberships _) rfl member
      membershipRevision.symm
  have heldPolicy : facts.authorization.policies.lookup
      (request.tenantId, found.binding.version.documentId) = some found.policy := by
    refine (known.policy.trans (toFacts.policies _)).between (toPolicies.policies _) rfl stored ?_
    simp [AuthorizationPolicySnapshot.version, policyRevision, aclRevision, epoch]
  have same : SameRequest request { request with principal } := ⟨subject, rfl, rfl, rfl, rfl⟩
  have stands : facts.storedFacts config { request with principal } = .ok (some
      { membership := found.membership, policy := found.policy, provenance, valid }) := by
    refine storedFacts_of document known.tenant ofTenant ?_ ?_ ⟨?_, ?_, ?_⟩ ?_ ?_
    · rw [ofDocument]
      exact known.document
    · rw [known.exactly.2.1]
      exact evaluated
    · rw [bound.1]
      exact known.exactly.1
    · rw [named]
      exact known.exactly.2.1
    · exact bound.2.2.2.2
    · rw [← subject]
      exact heldMember
    · rw [ofDocument]
      exact heldPolicy
  refine ⟨{ request with principal }, ?_, _, stands, fun now unexpired => ?_⟩
  · exact
      { principal := rfl, subject := subject.symm, tenant := rfl
        document := known.document, version := known.exactly.1, chunkSet := known.exactly.2.1
        action := rfl, audience := rfl, purpose := rfl, chunks := rfl }
  · unfold PolicyDecisionPoint.evaluate
    rw [if_neg (by rw [unexpired]; decide)]
    dsimp only
    rw [← refusal_congr same, clear]
    rfl

end Allowed

section Runs

variable {config : AuthorizationConfig} {start : AuthorizationState}
variable {moves : List AuthorizationMove}
variable {call : Call} {state : AuthorizationState}

theorem perform_relied (legal : LegalCall call state) :
    Relied state (AuthorizationState.perform config call state).2 := by
  by_cases changes : ∃ made, call = .change made
  · rcases changes with ⟨made, rfl⟩
    exact Change.apply_grown made state legal.1
  · unfold Relied
    rw [perform_authorization config call state fun made same => changes ⟨made, same⟩]
    exact Grown.refl _

theorem perform_storedById (legal : LegalCall call state) (stored : StoredById state.chunks) :
    StoredById (AuthorizationState.perform config call state).2.chunks := by
  cases call with
  | change made =>
    cases made with
    | documents day95 chunks => exact legal.2
    | _ => exact stored
  | consumeOnce permitId =>
    simp only [AuthorizationState.perform]
    split
    · exact stored
    · exact stored
  | _ => exact stored

theorem perform_consumed (call : Call) (state : AuthorizationState) :
    state.consumed ⊆ (AuthorizationState.perform config call state).2.consumed := by
  cases call with
  | change made => cases made <;> exact List.Subset.refl _
  | consumeOnce permitId =>
    simp only [AuthorizationState.perform]
    split
    · exact List.Subset.refl _
    · exact List.subset_cons_self _ _
  | _ => exact List.Subset.refl _

theorem consumeOnce_consumed (permitId : String) (state : AuthorizationState) :
    permitId ∈ (AuthorizationState.perform config (.consumeOnce permitId) state).2.consumed := by
  simp only [AuthorizationState.perform]
  split
  · assumption
  · exact List.mem_cons_self

section Along

variable {early late : List AuthorizationTurn}

theorem relied_along
    (legal : ∀ e ∈ authorizationTrace config start moves, LegalCall e.call e.before)
    (before : early <+: late) (inside : late <+: authorizationTurns config moves) :
    Relied (stateAt config start early) (stateAt config start late) := by
  refine system_along Relied.refl Relied.trans (fun e member => ?_) before inside
  rw [(mem_trace_performed member).2]
  exact perform_relied (legal e member)

theorem storedById_along
    (legal : ∀ e ∈ authorizationTrace config start moves, LegalCall e.call e.before)
    (keyed : StoredById start.chunks) (inside : late <+: authorizationTurns config moves) :
    StoredById (stateAt config start late).chunks := by
  refine @system_along _ _ _ _ _ _ _ _ (AuthorizationState.perform config) start moves
    (fun early late => StoredById early.chunks → StoredById late.chunks)
    (fun _ stored => stored) (fun _ _ _ first second stored => second (first stored))
    (fun e member stored => ?_) [] late List.nil_prefix inside keyed
  rw [(mem_trace_performed member).2]
  exact perform_storedById (legal e member) stored

theorem consumed_along (before : early <+: late)
    (inside : late <+: authorizationTurns config moves) :
    (stateAt config start early).consumed ⊆ (stateAt config start late).consumed := by
  refine system_along
    (R := fun early late : AuthorizationState => early.consumed ⊆ late.consumed)
    (fun _ => List.Subset.refl _) (fun _ _ _ first second => List.Subset.trans first second)
    (fun e member => ?_) before inside
  rw [(mem_trace_performed member).2]
  exact perform_consumed e.call e.before

end Along

theorem issued_backed {front back : List AuthorizationMove} (split : moves = front ++ back)
    (cold : start.cache = ∅)
    (legal : ∀ e ∈ authorizationTrace config start moves, LegalCall e.call e.before)
    {thread : AuthorizationProgram OperationResult} {permit : SignedPermit}
    (member : thread ∈ (reachedBy config start front).threads)
    (issued : issuedPermit thread = some permit) :
    PermitBacked config (stateAt config start (authorizationTurns config front)).authorization
      permit := by
  have cached : CacheBacked config start := by
    intro key entry held
    rw [cold] at held
    cases held
  have kept : CacheBacked config (stateAt config start (authorizationTurns config front)) ∧
      ∀ thread ∈ (reachedBy config start front).threads, Keeping config (ResultBacked config) thread
        (stateAt config start (authorizationTurns config front)) := by
    refine run_keeps Relied.refl Relied.trans ResultBacked.grown start
      (authorizationTurns config front) cached
      (fun program listed state _ => ?_) (fun e inside => legal e ?_)
    · rw [started_turns] at listed
      rcases List.mem_map.mp listed with ⟨operation, _, rfl⟩
      exact operation_keeping operation state
    · unfold authorizationTrace systemTrace
      rw [split, turns_append, calls_append, trace_append]
      exact List.mem_append_left _ inside
  have backed := kept.2 thread member
  unfold issuedPermit at issued
  split at issued
  · exact backed permit issued
  · cases issued

theorem released_path {index : Nat} {permit : SignedPermit} {principal : AuthenticatedPrincipal}
    {views : List AuthorizedChunkView}
    (released : Released config start moves index permit principal views) :
    ∃ front back operation, moves = front ++ .start operation :: back ∧
      presents (.start operation) = some permit ∧ ∃ result clock facts members policies uses,
        ReleasingRead config (CallsAt config start moves index) (stateAt config start)
          permit principal result clock facts members policies uses ∧ result.chunks = views ∧
        [clock, facts, members, policies, uses].Pairwise (Moved index) ∧
        authorizationTurns config front <+: facts := by
  rcases released with ⟨⟨_, _, _, listed⟩, released⟩
  rcases Option.bind_eq_some_iff.mp released with ⟨_, ended, shown⟩
  unfold releasedViews at shown
  split at shown
  case h_2 => cases shown
  next result =>
  split at shown
  case isFalse => cases shown
  next outcome =>
  cases shown
  rcases operation_path listed ended with
    ⟨front, back, _, split, path, ordered, behind, _⟩
  rcases Program.path_map path with ⟨_, same, path⟩
  cases same
  rcases read_path path outcome with ⟨clock, facts, members, policies, uses, rfl, releasing⟩
  exact ⟨front, back, _, split, rfl, result, clock, facts, members, policies, uses, releasing, rfl,
    ordered, behind facts (by simp)⟩

/-- A read that releases was authorized while it ran. -/
theorem released_read (cold : start.cache = ∅) (keyed : StoredById start.chunks)
    (legal : ∀ e ∈ authorizationTrace config start moves, LegalCall e.call e.before)
    (unforgeable : Unforgeable config start moves) {index : Nat} {permit : SignedPermit}
    {principal : AuthenticatedPrincipal} {views : List AuthorizedChunkView}
    (released : Released config start moves index permit principal views) :
    AuthorizedRead config start moves index permit principal views := by
  rcases released_path released with ⟨front, _, operation, split, presented, _, clock,
    facts, members, policies, _, read, shown, ordered, behind⟩
  rcases read.evidence with
    ⟨_, _, valid, ofTenant, ofDocument, factsAt, evaluated, bound, current⟩
  rcases current.revisions with ⟨_, _, member, stored, revisions⟩
  refine ⟨⟨clock, read.clockAt, read.permitCurrent.1, read.permitCurrent.2,
    read.principalCurrent⟩, ?_⟩
  have backed : PermitBacked config
      (stateAt config start (authorizationTurns config front)).authorization permit := by
    have place : moves[front.length]? = some (.start operation) := by
      rw [split, List.getElem?_append_right (le_refl _), Nat.sub_self]
      rfl
    have inside := (List.getElem?_eq_some_iff.mp place).1
    rcases unforgeable front.length inside _ place permit presented read.verified with
      ⟨_, listed, issued⟩
    rw [split, List.take_left'] at listed
    · exact issued_backed split cold legal listed issued
    · rfl
  have factsInside : facts <+: authorizationTurns config moves := factsAt.inside
  have membersInside : members <+: authorizationTurns config moves := current.membersAt.inside
  have policiesInside : policies <+: authorizationTurns config moves := current.policiesAt.inside
  simp only [List.pairwise_cons, List.mem_cons, forall_eq_or_imp] at ordered
  have toMembers : facts <+: members := ordered.2.1.1.before
  have toPolicies : facts <+: policies := ordered.2.1.2.1.before
  rcases backed_allows backed read.subject (relied_along legal behind factsInside)
    (relied_along legal toMembers membersInside) (relied_along legal toPolicies policiesInside)
    (storedById_along legal keyed factsInside) ofTenant ofDocument evaluated bound member stored
    revisions with ⟨request, requested, allows⟩
  have released := release_views current.released
  rw [shown] at released
  exact ⟨facts, _, request, factsAt, requested, allows, released.1, _,
    (evaluate_evidence evaluated valid).stored _ rfl, released.2⟩

theorem released_once {index other : Nat} {permit : SignedPermit}
    {principal presenter : AuthenticatedPrincipal} {views shown : List AuthorizedChunkView}
    (released : Released config start moves index permit principal views)
    (again : Released config start moves other permit presenter shown) : other = index := by
  rcases released_path released with ⟨_, _, _, _, _, _, _, _, _, _, uses, read, _, _, _⟩
  rcases released_path again with ⟨_, _, _, _, _, _, _, _, _, _, wanted, later, _, _, _⟩
  rcases read.evidence with ⟨_, _, _, _, _, _, _, _, current⟩
  rcases later.evidence with ⟨_, _, _, _, _, _, _, _, second⟩
  exact (Performs.once (P := fun state => permit.claims.permitId ∈ state.consumed)
    (fun before inside used => consumed_along before inside used) second.usesAt current.usesAt
    (consumeOnce_consumed _ _) (consumeOnce_consumed _ _) second.unused current.unused).1

end Runs

/-- For every interleaving of authorizations, guarded reads and changes: what a read releases is
the permit's chunks out of the chunk set that it names; at a moment of the read the current facts
allowed the request to its principal, permit and principal were unexpired at its reading of the
clock, and no other read releases with the permit. -/
theorem guarded_read_authorized (config : AuthorizationConfig) (start : AuthorizationState)
    (moves : List AuthorizationMove) (cold : start.cache = ∅) (keyed : StoredById start.chunks)
    (legal : ∀ e ∈ authorizationTrace config start moves, LegalCall e.call e.before)
    (unforgeable : Unforgeable config start moves) (index : Nat) (permit : SignedPermit)
    (principal : AuthenticatedPrincipal) (views : List AuthorizedChunkView)
    (released : Released config start moves index permit principal views) :
    AuthorizedRead config start moves index permit principal views ∧
      ∀ other presenter shown, Released config start moves other permit presenter shown →
        other = index :=
  ⟨released_read cold keyed legal unforgeable released,
    fun _ _ _ again => released_once released again⟩

namespace Sample

def resumed (index count : Nat) : List AuthorizationMove :=
  List.replicate count (.resume index fun _ => "n-1")

/-- The worker is authorized. -/
def authorizing : List AuthorizationMove := .start (.authorize true (request 100)) :: resumed 0 8

def permit : SignedPermit :=
  ((reachedBy config start authorizing).threads.findSome? issuedPermit).get (by decide +kernel)

def reading : Operation :=
  .read permit (request 100).principal "chunk:read_for_embedding" "embedding" "index"

/-- Two reads with the permit, each step of the one before one of the other, and the clock ticks. -/
def contending : List AuthorizationMove :=
  authorizing ++ [.start reading, .start reading, .start (.change (.tick 5))] ++ resumed 3 1 ++
    (List.replicate 5 (resumed 1 1 ++ resumed 2 1)).flatten

def released : List Embedding.AuthorizedChunkView :=
  ((reachedBy config start contending).threads.findSome? releasedViews).get (by decide +kernel)

theorem guarded_read_authorized_contending :
    AuthorizedRead config start contending 1 permit (request 100).principal released ∧
      ∀ other presenter shown,
        Released config start contending other permit presenter shown → other = 1 :=
  guarded_read_authorized config start contending rfl (by decide +kernel) (by decide +kernel)
    (by decide +kernel) 1 permit (request 100).principal released
    ⟨⟨_, _, _, rfl⟩, by decide +kernel⟩

end Sample

end BackendHandbook.Authorization
