import BackendHandbook.Authorization.Decision

/-! The policy decision as deny-overrides: what allows one chunk, and what the order of the entries
and of the chunks has to do with it. -/

namespace BackendHandbook.Authorization

open PolicyDecisionPoint

section Statement

variable (request : AuthorizationRequest)

/-- The entry is on the request's principal and action, and on the chunk or above it. -/
def Covers (chunkId : String) (entry : ACLEntry) : Prop :=
  entry.principalSubject = request.principal.subject ∧ entry.action = request.action ∧
    entry.resource.isAncestorOf (request.resource.chunk request.ofChunkSet chunkId) = true

/-- No entry that covers the chunk denies, and one allows, from above it unless a grant on the chunk
alone may expand. -/
def Grants (policy : AuthorizationPolicySnapshot) (chunkId : String) : Prop :=
  (∀ entry ∈ policy.entries, entry.effect = .deny → ¬ Covers request chunkId entry) ∧
    ∃ entry ∈ policy.entries, entry.effect = .allow ∧ Covers request chunkId entry ∧
      (entry.resource.resourceType ≠ .chunk ∨ policy.chunkAllowMayExpand = true)

def Entitled (facts : AuthorizationFacts) : Prop :=
  (facts.membership.active = true ∧ facts.membership.tenantId = request.tenantId ∧
      facts.membership.principalSubject = request.principal.subject) ∧
    request.action ∈ facts.policy.supportedActions ∧
    (request.action = "chunk:read_for_embedding" → facts.membership.principalKind = .service)

/-- The deny-overrides semantics of a request on the facts. -/
def Permitted (now : Int) (request : AuthorizationRequest) (facts : Option AuthorizationFacts) :
    Prop :=
  (∀ expiry ∈ request.principal.expiresAt, now < expiry) ∧ ∃ known ∈ facts,
    Entitled request known ∧ ∀ chunkId ∈ request.chunkIds, Grants request known.policy chunkId

def AuthorizationRequest.ofChunks (request : AuthorizationRequest) (chunkIds : List String)
    (chunks : chunkIds ≠ [] ∧ chunkIds.Nodup) : AuthorizationRequest :=
  { request with chunkIds, chunks }

/-- The facts differ in the entries of the policy at most, as far as a decision reads them. -/
def SameBesideEntries (facts other : AuthorizationFacts) : Prop :=
  other.membership = facts.membership ∧
    other.policy.supportedActions = facts.policy.supportedActions ∧
    other.policy.chunkAllowMayExpand = facts.policy.chunkAllowMayExpand

structure DenyOverrides (now : Int)
    (allows : AuthorizationRequest → Option AuthorizationFacts → Prop) : Prop where
  semantics : ∀ request facts, allows request facts ↔ Permitted now request facts
  chunkwise : ∀ request facts, allows request facts ↔ ∀ chunkId ∈ request.chunkIds,
    allows (request.ofChunks [chunkId] ⟨List.cons_ne_nil _ _, List.nodup_singleton _⟩) facts
  chunk_order : ∀ request facts chunkIds chunks, chunkIds.Perm request.chunkIds →
    (allows (request.ofChunks chunkIds chunks) facts ↔ allows request facts)
  entry_order : ∀ request facts other, SameBesideEntries facts other →
    other.policy.entries.Perm facts.policy.entries →
    (allows request (some other) ↔ allows request (some facts))
  monotone : ∀ request facts other, SameBesideEntries facts other →
    (∀ entry ∈ facts.policy.entries, entry.effect = .deny → entry ∈ other.policy.entries) →
    (∀ entry ∈ other.policy.entries, entry.effect = .allow → entry ∈ facts.policy.entries) →
    allows request (some other) → allows request (some facts)

end Statement

section Refusal

variable {request : AuthorizationRequest} {policy : AuthorizationPolicySnapshot}

theorem ite_some_eq_none {α : Type} {condition : Prop} [Decidable condition] {value : α}
    {rest : Option α} :
    (if condition then some value else rest) = none ↔ ¬ condition ∧ rest = none := by
  by_cases met : condition <;> simp [met]

/-- The entries that the decision point keeps before it looks at their effect. -/
def applicable (request : AuthorizationRequest) (policy : AuthorizationPolicySnapshot) :
    List ACLEntry :=
  policy.entries.filter fun entry =>
    entry.principalSubject == request.principal.subject && entry.action == request.action &&
      request.targets.any entry.resource.isAncestorOf

variable {entry : ACLEntry}

theorem mem_applicable : entry ∈ applicable request policy ↔
      entry ∈ policy.entries ∧ ∃ chunkId ∈ request.chunkIds, Covers request chunkId entry := by
  simp only [applicable, AuthorizationRequest.targets, List.mem_filter, Bool.and_eq_true,
    beq_iff_eq, List.any_map, List.any_eq_true]
  constructor
  · rintro ⟨listed, ⟨subject, action⟩, chunkId, asked, above⟩
    exact ⟨listed, chunkId, asked, subject, action, above⟩
  · rintro ⟨listed, chunkId, asked, subject, action, above⟩
    exact ⟨listed, ⟨subject, action⟩, chunkId, asked, above⟩

theorem denied_iff :
    (applicable request policy).any (·.effect = .deny) = true ↔ ∃ chunkId ∈ request.chunkIds,
      ∃ entry ∈ policy.entries, entry.effect = .deny ∧ Covers request chunkId entry := by
  simp only [List.any_eq_true, mem_applicable, decide_eq_true_eq]
  constructor
  · rintro ⟨entry, ⟨listed, chunkId, asked, covers⟩, effect⟩
    exact ⟨chunkId, asked, entry, listed, effect, covers⟩
  · rintro ⟨chunkId, asked, entry, listed, effect, covers⟩
    exact ⟨entry, ⟨listed, chunkId, asked, covers⟩, effect⟩

/-- The grants that cover a chunk of the request, as the decision point collects them. -/
theorem mem_covering {chunkId : String} (asked : chunkId ∈ request.chunkIds) :
    entry ∈ ((applicable request policy).filter (·.effect = .allow)).filter
        (·.resource.isAncestorOf (request.resource.chunk request.ofChunkSet chunkId)) ↔
      entry ∈ policy.entries ∧ entry.effect = .allow ∧ Covers request chunkId entry := by
  simp only [List.mem_filter, mem_applicable, decide_eq_true_eq]
  constructor
  · rintro ⟨⟨⟨listed, _, _, covers⟩, effect⟩, above⟩
    exact ⟨listed, effect, covers.1, covers.2.1, above⟩
  · rintro ⟨listed, effect, covers⟩
    exact ⟨⟨⟨listed, chunkId, asked, covers⟩, effect⟩, covers.2.2⟩

theorem covering_suffices_iff {covering : List ACLEntry} {mayExpand : Bool}
    {absent alone : String} : ((if covering.isEmpty then some absent
      else if covering.all (·.resource.resourceType = .chunk) ∧ mayExpand = false then some alone
      else none) = none) ↔
      ∃ entry ∈ covering, entry.resource.resourceType ≠ .chunk ∨ mayExpand = true := by
  simp only [ite_some_eq_none, and_true, List.isEmpty_iff, List.all_eq_true, decide_eq_true_eq,
    not_and_or, Bool.not_eq_false, not_forall]
  constructor
  · rintro ⟨covered, ⟨entry, listed, above⟩ | expands⟩
    · exact ⟨entry, listed, .inl above⟩
    · obtain ⟨entry, listed⟩ := List.exists_mem_of_ne_nil covering covered
      exact ⟨entry, listed, .inr expands⟩
  · rintro ⟨entry, listed, above | expands⟩
    · exact ⟨List.ne_nil_of_mem listed, .inl ⟨entry, listed, above⟩⟩
    · exact ⟨List.ne_nil_of_mem listed, .inr expands⟩

theorem refusal_eq_none_iff {facts : AuthorizationFacts} :
    refusal request facts.membership facts.policy = none ↔ Entitled request facts ∧
      ∀ chunkId ∈ request.chunkIds, Grants request facts.policy chunkId := by
  unfold refusal
  rw [← applicable, ite_some_eq_none, ite_some_eq_none, ite_some_eq_none, ite_some_eq_none,
    denied_iff, List.findSome?_eq_none_iff, AuthorizationRequest.targets, List.forall_mem_map]
  constructor
  · rintro ⟨member, supported, service, undenied, covered⟩
    push Not at member supported service
    refine ⟨⟨⟨by simpa using member.1, member.2⟩, supported, service⟩, fun chunkId asked => ⟨?_, ?_⟩⟩
    · intro entry listed effect covers
      exact undenied ⟨chunkId, asked, entry, listed, effect, covers⟩
    · obtain ⟨entry, covering, above⟩ := covering_suffices_iff.mp (covered chunkId asked)
      obtain ⟨listed, effect, covers⟩ := (mem_covering asked).mp covering
      exact ⟨entry, listed, effect, covers, above⟩
  · rintro ⟨⟨member, supported, service⟩, grants⟩
    refine ⟨?_, not_not.mpr supported, ?_, ?_, fun chunkId asked => covering_suffices_iff.mpr ?_⟩
    · simp [member]
    · push Not
      exact service
    · rintro ⟨chunkId, asked, entry, listed, effect, covers⟩
      exact (grants chunkId asked).1 entry listed effect covers
    · obtain ⟨_, entry, listed, effect, covers, above⟩ := grants chunkId asked
      exact ⟨entry, (mem_covering asked).mpr ⟨listed, effect, covers⟩, above⟩

end Refusal

section Evaluate

variable (hashing : AuthorizationHashing) {now : Int} {request : AuthorizationRequest}

theorem evaluate_allow_iff (facts : Option AuthorizationFacts) :
    (evaluate hashing now request facts).outcome = .allow ↔ Permitted now request facts := by
  have denied : ∀ reason, (deny hashing request reason).outcome ≠ .allow := by
    nofun
  have expired : request.principal.expired now = true ↔
      ¬ ∀ expiry ∈ request.principal.expiresAt, now < expiry := by
    rw [AuthenticatedPrincipal.expired]
    cases request.principal.expiresAt with
    | none | some => simp
  unfold evaluate Permitted
  by_cases late : request.principal.expired now = true
  · rw [if_pos late]
    exact iff_of_false (denied _) fun permitted => expired.mp late permitted.1
  rw [if_neg late, and_iff_right (not_not.mp (mt expired.mpr late))]
  cases facts with
  | none => exact iff_of_false (denied _) fun ⟨_, given, _⟩ => Option.not_mem_none _ given
  | some facts =>
    simp only [Option.mem_some_iff, exists_eq_left', ← refusal_eq_none_iff]
    cases refusal request facts.membership facts.policy with
    | some reason => exact iff_of_false (denied reason) (Option.some_ne_none reason)
    | none => exact iff_of_true rfl rfl

theorem Permitted.monotone {facts other : AuthorizationFacts} (same : SameBesideEntries facts other)
    (denies : ∀ entry ∈ facts.policy.entries, entry.effect = .deny → entry ∈ other.policy.entries)
    (allows : ∀ entry ∈ other.policy.entries, entry.effect = .allow → entry ∈ facts.policy.entries)
    (permitted : Permitted now request (some other)) : Permitted now request (some facts) := by
  obtain ⟨unexpired, _, given, entitled, grants⟩ := permitted
  cases given
  obtain ⟨membership, supportedActions, mayExpand⟩ := same
  rw [Entitled, membership, supportedActions] at entitled
  refine ⟨unexpired, facts, rfl, entitled, fun chunkId asked => ?_⟩
  obtain ⟨undenied, entry, listed, effect, covers, above⟩ := grants chunkId asked
  rw [mayExpand] at above
  exact ⟨fun entry listed effect => undenied entry (denies entry listed effect) effect,
    entry, allows entry listed effect, effect, covers, above⟩

theorem deny_overrides (now : Int) : DenyOverrides now fun request facts =>
      (evaluate hashing now request facts).outcome = .allow := by
  simp only [evaluate_allow_iff]
  constructor
  · exact fun request facts => Iff.rfl
  · intro request facts
    constructor
    · rintro ⟨unexpired, known, given, entitled, grants⟩ chunkId asked
      exact ⟨unexpired, known, given, entitled,
        List.forall_mem_singleton.mpr (grants chunkId asked)⟩
    · intro each
      obtain ⟨first, asked⟩ := List.exists_mem_of_ne_nil _ request.chunks.1
      obtain ⟨unexpired, known, given, entitled, _⟩ := each first asked
      refine ⟨unexpired, known, given, entitled, fun chunkId asked => ?_⟩
      obtain ⟨_, other, same, _, grants⟩ := each chunkId asked
      cases Option.some.inj (given.symm.trans same)
      exact grants chunkId List.mem_cons_self
  · intro request facts chunkIds chunks permuted
    change (_ ∧ ∃ known ∈ facts, _ ∧ ∀ chunkId ∈ chunkIds, _) ↔ _
    simp only [permuted.mem_iff]
    rfl
  · intro request facts other same permuted
    have back : SameBesideEntries other facts := ⟨same.1.symm, same.2.1.symm, same.2.2.symm⟩
    exact ⟨Permitted.monotone same (fun _ listed _ => permuted.mem_iff.mpr listed)
        fun _ listed _ => permuted.mem_iff.mp listed,
      Permitted.monotone back (fun _ listed _ => permuted.mem_iff.mp listed)
        fun _ listed _ => permuted.mem_iff.mpr listed⟩
  · intro request facts other same denies allows
    exact Permitted.monotone same denies allows

end Evaluate

end BackendHandbook.Authorization
