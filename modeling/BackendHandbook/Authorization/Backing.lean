import BackendHandbook.Authorization.ChunkReader

/-! What stands behind an allowed decision and behind a permit: the facts it was made from, which
the store still has or has revised. -/

namespace BackendHandbook.Authorization

open Chunking Ingestion Interleaving CurrentRAGProvenanceValidator RAGAuthorizationService

section Provenance

variable {hashing : Hashing} {day95 : Ingestion.Store} {chunks : InMemoryChunkSetStore}
variable {document : DocumentIdentity} {expected : Option String} {provenance : ProvenanceDecision}

/-- What a valid decision shows of the document and of the stored chunk set. -/
structure Evidence (chunks : InMemoryChunkSetStore) (document : DocumentIdentity)
    (expected : Option String) (provenance : ProvenanceDecision)
    (valid : provenance.outcome = .valid) : Prop where
  document : (provenance.current valid).version.document = document
  stored : ∀ chunkSetId ∈ expected,
    chunks.readChunkSet chunkSetId = some (GuardedChunkReader.chunkSet provenance valid)
  named : (provenance.current valid).chunkSetId =
    (GuardedChunkReader.chunkSet provenance valid).chunkSetId
  chunkIds : (provenance.current valid).chunkIds =
    (GuardedChunkReader.chunkSet provenance valid).chunks.map (·.chunkId)

private theorem blocked_not_valid {outcome : ProvenanceOutcome} {reason : String}
    {notValid : outcome ≠ .valid} (answered : blocked outcome reason notValid = .ok provenance) :
    provenance.outcome ≠ .valid := by
  cases answered
  exact notValid

theorem evaluate_evidence (answered : evaluate hashing day95 chunks document expected =
      .ok provenance) (valid : provenance.outcome = .valid) :
    Evidence chunks document expected provenance valid := by
  unfold evaluate at answered
  split at answered
  · exact absurd valid (blocked_not_valid answered)
  split at answered
  · exact absurd valid (blocked_not_valid answered)
  next selection _ =>
  split at answered
  · exact absurd valid (blocked_not_valid answered)
  next chosen =>
  split at answered
  · exact absurd valid (blocked_not_valid answered)
  next chunkSet stored =>
  dsimp only at answered
  split at answered
  · exact absurd valid (blocked_not_valid answered)
  next current =>
  split at answered
  · exact absurd valid (blocked_not_valid answered)
  split at answered
  · exact absurd valid (blocked_not_valid answered)
  split at answered
  · exact absurd valid (blocked_not_valid answered)
  split at answered
  · split at answered
    · exact absurd valid (blocked_not_valid answered)
    split at answered
    · exact absurd valid (blocked_not_valid answered)
    unfold evaluateChunks at answered
    split at answered
    · exact absurd valid (blocked_not_valid answered)
    split at answered
    · exact absurd valid (blocked_not_valid answered)
    dsimp only at answered
    split at answered
    · exact absurd valid (blocked_not_valid answered)
    split at answered
    · cases answered
      refine ⟨(not_not.mp current).1, ?_, rfl, ?_⟩
      · intro chunkSetId named
        rcases expected with _ | _
        · cases named
        · cases named
          have same : some selection.chunkSetId = some chunkSetId :=
            not_not.mp fun apart => chosen ⟨by simp, apart⟩
          exact Option.some.inj same ▸ stored
      · exact List.map_map ..
    · cases answered
  · exact absurd valid (blocked_not_valid answered)

end Provenance

section Backed

variable {config : AuthorizationConfig}

/-- The facts of a request as a load has found them, in a store that may have moved on. -/
structure FactsBacked (store : InMemoryAuthorizationStateStore) (request : AuthorizationRequest)
    (facts : AuthorizationFacts) (documentId : String) : Prop
    extends Known store request facts documentId where
  tenant : request.tenantId = request.resource.tenantId
  exactly : PolicyInformationPoint.Exact request facts.binding
  ofTenant : facts.binding.version.tenantId = request.tenantId
  ofDocument : facts.binding.version.documentId = documentId

def DecisionBacked (config : AuthorizationConfig) (store : InMemoryAuthorizationStateStore)
    (decision : AuthorizationDecision) : Prop :=
  decision.outcome = .allow → ∃ facts documentId,
    FactsBacked store decision.request facts documentId ∧
      PolicyDecisionPoint.refusal decision.request facts.membership facts.policy = none ∧
      decision = PolicyDecisionPoint.allow config.hashing decision.request facts

def PermitBacked (config : AuthorizationConfig) (store : InMemoryAuthorizationStateStore)
    (permit : SignedPermit) : Prop :=
  ∃ decision now nonce, decision.outcome = .allow ∧ DecisionBacked config store decision ∧
    config.issuer.issue config.hashing config.permitTtl now nonce decision = some permit

variable {before after : InMemoryAuthorizationStateStore}

variable {documentId : String}

theorem FactsBacked.grown {request : AuthorizationRequest} {facts : AuthorizationFacts}
    (backed : FactsBacked before request facts documentId) (grown : Grown before after) :
    FactsBacked after request facts documentId :=
  { backed with toKnown := backed.toKnown.grown grown }

variable {decision : AuthorizationDecision}

theorem DecisionBacked.grown (backed : DecisionBacked config before decision)
    (grown : Grown before after) : DecisionBacked config after decision := by
  intro allowed
  rcases backed allowed with ⟨facts, documentId, known, rest⟩
  exact ⟨facts, documentId, known.grown grown, rest⟩

theorem PermitBacked.grown {permit : SignedPermit} (backed : PermitBacked config before permit)
    (grown : Grown before after) : PermitBacked config after permit := by
  rcases backed with ⟨decision, now, nonce, allowed, known, issued⟩
  exact ⟨decision, now, nonce, allowed, known.grown grown, issued⟩

variable {facts : Option AuthorizationFacts}

theorem evaluate_backed {store : InMemoryAuthorizationStateStore} {request : AuthorizationRequest}
    (backed : ∀ found, facts = some found →
      ∃ documentId, FactsBacked store request found documentId) (now : Int) :
    DecisionBacked config store
      (PolicyDecisionPoint.evaluate config.hashing now request facts) := by
  intro allowed
  unfold PolicyDecisionPoint.evaluate at allowed ⊢
  split at allowed
  · cases allowed
  next unexpired =>
  rw [if_neg unexpired]
  cases facts with
  | none => cases allowed
  | some found =>
    rcases backed found rfl with ⟨documentId, known⟩
    dsimp only at allowed ⊢
    split at allowed
    · cases allowed
    · next clear =>
      exact ⟨found, documentId, known, clear, rfl⟩

def CacheBacked (config : AuthorizationConfig) (state : AuthorizationState) : Prop :=
  ∀ key entry, state.cache.lookup key = some entry →
    DecisionBacked config state.authorization entry.2

/-- What the parties rely on: memberships and policies grow. -/
def Relied (early late : AuthorizationState) : Prop := Grown early.authorization late.authorization

theorem Relied.refl (state : AuthorizationState) : Relied state state :=
  Grown.refl state.authorization

theorem Relied.trans (early middle late : AuthorizationState) (first : Relied early middle)
    (second : Relied middle late) : Relied early late := Grown.trans first second

def StoredById (chunks : InMemoryChunkSetStore) : Prop :=
  ∀ entry ∈ chunks.sets.entries, entry.2.chunkSetId = entry.1
  deriving Decidable

theorem StoredById.named {chunks : InMemoryChunkSetStore} (stored : StoredById chunks)
    {chunkSetId : String} {chunkSet : ChunkSet}
    (found : chunks.readChunkSet chunkSetId = some chunkSet) : chunkSet.chunkSetId = chunkSetId :=
  stored ⟨chunkSetId, chunkSet⟩ (AList.mem_lookup_iff.mp found)

def Change.StoresById : Change → Prop
  | .documents _ chunks => StoredById chunks
  | _ => True

instance (made : Change) : Decidable made.StoresById :=
  match made with
  | .documents _ chunks => inferInstanceAs (Decidable (StoredById chunks))
  | .setAvailable _ | .putMembership _ | .putPolicy _ | .revokeGrant .. | .replaceMembership ..
  | .advanceAuthorizationEpoch .. | .tick _ => isTrue trivial

/-- A change revises what it replaces, and stores chunk sets under their own ids. -/
def LegalCall : Call → AuthorizationState → Prop
  | .change made, state => made.Revises state.authorization ∧ made.StoresById
  | _, _ => True

instance (call : Call) (state : AuthorizationState) : Decidable (LegalCall call state) := by
  cases call <;> unfold LegalCall <;> infer_instance

def ResultBacked (config : AuthorizationConfig) (state : AuthorizationState) :
    OperationResult → Prop
  | .authorized (.ok result) =>
    ∀ permit ∈ result.permit, PermitBacked config state.authorization permit
  | _ => True

theorem ResultBacked.grown (result : OperationResult) (early late : AuthorizationState)
    (grown : Relied early late) (backed : ResultBacked config early result) :
    ResultBacked config late result := by
  cases result with
  | authorized answer =>
    cases answer with
    | error raised => trivial
    | ok result => exact fun permit carried => (backed permit carried).grown grown
  | read answer | changed => trivial

abbrev Keeping {τ : Type} (config : AuthorizationConfig) (Q : AuthorizationState → τ → Prop)
    (program : AuthorizationProgram τ) (state : AuthorizationState) : Prop :=
  program.Keeps (AuthorizationState.perform config) Relied (CacheBacked config) LegalCall Q state

section Load

variable {τ : Type} {Q : AuthorizationState → τ → Prop} {request : AuthorizationRequest}
variable {next : Except LoadRaised (Option AuthorizationFacts) → AuthorizationProgram τ}

theorem readFacts_keeping {provenance : ProvenanceDecision}
    {valid : provenance.outcome = .valid} (document : request.resource.documentId = some documentId)
    (tenant : request.tenantId = request.resource.tenantId)
    (exactly : PolicyInformationPoint.Exact request (provenance.current valid))
    (ofTenant : (provenance.current valid).version.tenantId = request.tenantId)
    (ofDocument : (provenance.current valid).version.documentId = documentId)
    (missing : ∀ loaded state, (∀ facts, loaded ≠ .ok (some facts)) →
      Keeping config Q (next loaded) state)
    (found : ∀ facts state, FactsBacked state.authorization request facts documentId →
      Keeping config Q (next (.ok (some facts))) state) (state : AuthorizationState) :
    Keeping config Q
      (PolicyInformationPoint.readFacts request documentId provenance valid next) state := by
  intro first _ backed _
  refine ⟨backed, Grown.refl _, ?_⟩
  dsimp only [AuthorizationState.perform]
  cases readMembership :
    first.authorization.readMembership request.tenantId request.principal.subject with
  | error raised => exact missing _ _ (by simp)
  | ok membership =>
  intro second grown backed _
  refine ⟨backed, Grown.refl _, ?_⟩
  dsimp only [AuthorizationState.perform]
  cases readPolicy : second.authorization.readPolicy request.tenantId documentId with
  | error raised => exact missing _ _ (by simp)
  | ok policy =>
  cases membership with
  | none => exact missing _ _ (by simp)
  | some membership =>
  cases policy with
  | none => exact missing _ _ (by simp)
  | some policy =>
    apply found _ second
    have held := readMembership_ok readMembership
    have stored := readPolicy_ok readPolicy
    refine { document, tenant, exactly, ofTenant, ofDocument, membership := ?_, policy := ?_ }
    · rw [← held]
      exact grown.memberships _
    · rw [stored]
      exact Supersedes.refl _

theorem load_keeping (missing : ∀ loaded state, (∀ facts, loaded ≠ .ok (some facts)) →
      Keeping config Q (next loaded) state)
    (found : ∀ facts documentId state, FactsBacked state.authorization request facts documentId →
      Keeping config Q (next (.ok (some facts))) state) (state : AuthorizationState) :
    Keeping config Q (PolicyInformationPoint.load request next) state := by
  unfold PolicyInformationPoint.load
  split
  · exact missing _ _ (by simp)
  next tenant =>
  split
  · exact missing _ _ (by simp)
  next documentId document =>
  split
  · next nonEmpty =>
    intro first _ backed _
    refine ⟨backed, Grown.refl _, ?_⟩
    dsimp only [AuthorizationState.perform]
    cases answered : evaluate config.chunkHashing first.day95
      first.chunks ⟨request.tenantId, documentId, nonEmpty⟩ request.resource.chunkSetId with
    | error raised => exact missing _ _ (by simp)
    | ok provenance =>
    dsimp only
    split
    · next valid =>
      have evidence := evaluate_evidence answered valid
      split
      · next exactly =>
        exact readFacts_keeping document (not_not.mp tenant) exactly
          (congrArg DocumentIdentity.tenantId evidence.document)
          (congrArg DocumentIdentity.documentId evidence.document) missing
          (fun facts => found facts documentId) first
      · exact missing _ _ (by simp)
    · exact missing _ _ (by simp)
  · exact missing _ _ (by simp)

end Load

variable {state : AuthorizationState}

theorem conclude_keeping (backed : DecisionBacked config state.authorization decision) :
    Keeping config (fun state answer => ResultBacked config state (.authorized answer))
      (conclude config decision) state := by
  unfold conclude
  split
  · next allowed =>
    intro moved grown stored _
    refine ⟨stored, Grown.refl _, fun nonce permit carried => ?_⟩
    exact ⟨decision, moved.clock, nonce, allowed, backed.grown grown, carried⟩
  · intro permit carried
    cases carried

theorem decide_keeping {cached : Bool} {request : AuthorizationRequest}
    (backed : ∀ found, facts = some found →
      ∃ documentId, FactsBacked state.authorization request found documentId) :
    Keeping config (fun state answer => ResultBacked config state (.authorized answer))
      (decide config cached request facts) state := by
  intro first grown stored _
  refine ⟨stored, Grown.refl _, ?_⟩
  have decided : DecisionBacked config first.authorization
      (PolicyDecisionPoint.evaluate config.hashing first.clock request facts) := by
    refine evaluate_backed (fun found same => ?_) first.clock
    rcases backed found same with ⟨documentId, known⟩
    exact ⟨documentId, known.grown grown⟩
  split
  · intro second grown stored _
    exact ⟨Dict.forall_insert (decided.grown grown) stored, Grown.refl _,
      conclude_keeping (decided.grown grown)⟩
  · exact conclude_keeping decided

theorem get_backed {key : AuthorizationCacheKey}
    (stored : CacheBacked config state) {found : Option AuthorizationDecision}
    {cache : BoundedAuthorizationDecisionCache}
    (got : BoundedAuthorizationDecisionCache.get key state.clock state.cache = (found, cache)) :
    CacheBacked config { state with cache } ∧
      ∀ decision, found = some decision → DecisionBacked config state.authorization decision := by
  unfold BoundedAuthorizationDecisionCache.get at got
  split at got
  · rcases Prod.mk.inj got with ⟨rfl, rfl⟩
    exact ⟨stored, fun decision found => by cases found⟩
  next held =>
  split at got
  · rcases Prod.mk.inj got with ⟨rfl, rfl⟩
    refine ⟨fun other kept found => ?_, fun decision found => by cases found⟩
    by_cases same : other = key
    · rw [same, AList.lookup_erase] at found
      cases found
    · rw [AList.lookup_erase_ne same] at found
      exact stored other kept found
  · rcases Prod.mk.inj got with ⟨rfl, rfl⟩
    refine ⟨stored, fun decision found => ?_⟩
    cases found
    exact stored key _ held

theorem authorize_keeping (cached : Bool) (request : AuthorizationRequest)
    (state : AuthorizationState) :
    Keeping config (fun state answer => ResultBacked config state (.authorized answer))
      (RAGAuthorizationService.authorize config cached request) state := by
  refine load_keeping (fun loaded state missing => ?_)
    (fun facts documentId state known => ?_) state
  · cases loaded with
    | error raised =>
      cases raised with
      | unavailable =>
        intro permit carried
        cases carried
      | provenance raised => trivial
    | ok found =>
      cases found with
      | none =>
        cases cached with
        | true | false => exact decide_keeping fun found same => by cases same
      | some facts => exact absurd rfl (missing facts)
  · have backed : ∀ found, some facts = some found →
        ∃ documentId, FactsBacked state.authorization request found documentId := by
      intro found same
      cases same
      exact ⟨documentId, known⟩
    cases cached with
    | false => exact decide_keeping backed
    | true =>
      intro moved grown stored _
      cases got : BoundedAuthorizationDecisionCache.get
        (BoundedAuthorizationDecisionCache.key request facts) moved.clock moved.cache with
      | mk found cache =>
      rcases get_backed stored got with ⟨kept, decided⟩
      simp only [AuthorizationState.perform, got]
      refine ⟨kept, Grown.refl _, ?_⟩
      cases found with
      | some decision => exact conclude_keeping (decided decision rfl)
      | none =>
        refine decide_keeping fun found same => ?_
        rcases backed found same with ⟨documentId, known⟩
        exact ⟨documentId, known.grown grown⟩

def ReaderCall : Call → Prop
  | .clock | .provenance .. | .readMembership .. | .readPolicy .. | .consumeOnce _ => True
  | .cacheGet _ | .cachePut .. | .change _ => False

theorem readCurrent_issues (permit : SignedPermit) (chunkSet : ChunkSet) :
    (GuardedChunkReader.readCurrent permit chunkSet).Issues ReaderCall := by
  refine ⟨trivial, fun membership => ?_⟩
  dsimp only
  split
  · trivial
  refine ⟨trivial, fun policy => ?_⟩
  dsimp only
  split
  · trivial
  split
  · split
    · trivial
    split
    · trivial
    refine ⟨trivial, fun consumed => ?_⟩
    dsimp only
    split
    · trivial
    · trivial
  · trivial

theorem read_issues (issuer : PermitIssuer) (permit : SignedPermit)
    (principal : AuthenticatedPrincipal) (action audience purpose : String) :
    (GuardedChunkReader.read issuer permit principal action audience purpose).Issues
      ReaderCall := by
  unfold GuardedChunkReader.read
  dsimp only
  split
  · trivial
  split
  · trivial
  refine ⟨trivial, fun now => ?_⟩
  dsimp only
  split
  · trivial
  split
  · trivial
  split
  · refine ⟨trivial, fun provenance => ?_⟩
    dsimp only
    split
    · trivial
    split
    · split
      · exact readCurrent_issues permit _
      · trivial
    · trivial
  · trivial

theorem reader_keeps (call : Call) (state : AuthorizationState) (reads : ReaderCall call)
    (stored : CacheBacked config state) :
    CacheBacked config (AuthorizationState.perform config call state).2 ∧
      Relied state (AuthorizationState.perform config call state).2 := by
  cases call with
  | clock | provenance document expected | readMembership tenantId subject
  | readPolicy tenantId documentId => exact ⟨stored, Grown.refl _⟩
  | consumeOnce permitId =>
    simp only [AuthorizationState.perform]
    split
    · exact ⟨stored, Grown.refl _⟩
    · exact ⟨stored, Grown.refl _⟩
  | cacheGet key | cachePut key decision | change made => exact reads.elim

theorem operation_keeping (operation : Operation) (state : AuthorizationState) :
    Keeping config (ResultBacked config) (operation.program config) state := by
  cases operation with
  | authorize cached request =>
    exact Program.keeps_map (authorize_keeping cached request state)
  | read permit principal action audience purpose =>
    refine Program.keeps_map (Program.keeps_of_issues reader_keeps (fun _ _ => trivial)
      (read_issues config.issuer permit principal action audience purpose) state)
  | change made =>
    intro moved _ stored legal
    have grown := Change.apply_grown made moved legal.1
    refine ⟨fun key entry held => ?_, grown, trivial⟩
    have same : (made.apply moved).cache = moved.cache := by cases made <;> rfl
    exact (stored key entry (same ▸ held)).grown grown

end Backed

end BackendHandbook.Authorization
