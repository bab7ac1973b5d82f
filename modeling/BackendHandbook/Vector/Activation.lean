import BackendHandbook.Vector.Sealing

/-! Activation as a fenced history: which bundle a tenant has selected, by which revisions and
fences it got there, and what the outbox says of them. -/

namespace BackendHandbook.Vector

open Authorization Chunking Fallible Run VectorGenerationCommitter
open Embedding (EmbeddingHashing)

section Activation

variable {hashing : VectorHashing} {F : Type}

namespace InMemoryVectorControlPlane

variable (store : InMemoryVectorControlPlane hashing) (tenantId : String)

def revisionOf : Nat := ((store.selected.lookup tenantId).map (·.revision)).getD 0

def fenceOf : Int := (store.activationFences.lookup tenantId).getD 0

end InMemoryVectorControlPlane

/-- The generation is of the tenant of the bundle, has passed every gate, and its contract accepts
the policy of the bundle. -/
def Serves (generation : VectorGeneration hashing) (bundle : SelectedVectorBundle) : Prop :=
  generation.operation.tenantId = bundle.tenantId ∧
    (∀ gate, generation.evidence.stateFor gate = .pass) ∧
    ∃ policy, generation.contract.acceptsPolicy hashing policy = true ∧
      bundle.retrievalPolicyFingerprint = policy.fingerprint hashing

variable (store : InMemoryVectorControlPlane hashing)

/-- The outbox holds, under this identity, the selection of the generation as this revision. -/
def Announces (eventId tenantId : String) (revision : Nat) (generationId : String) : Prop :=
  ∃ intent, store.outbox.lookup eventId = some intent ∧ intent.eventType = .bundleSelected ∧
    intent.tenantId = tenantId ∧ intent.revision = revision ∧ intent.generationId = generationId

/-- What every state of a history satisfies. -/
structure Linear : Prop where
  serves : ∀ tenantId bundle, store.selected.lookup tenantId = some bundle →
    bundle.tenantId = tenantId ∧ ∃ generation,
      store.generations.lookup bundle.generationId = some generation ∧ Serves generation bundle
  announced : ∀ tenantId revision, 0 < revision → revision ≤ store.revisionOf tenantId →
    ∃! eventId, ∃ generationId, Announces store eventId tenantId revision generationId
  selected : ∀ eventId tenantId revision generationId,
    Announces store eventId tenantId revision generationId →
      0 < revision ∧ revision ≤ store.revisionOf tenantId
  hints : ∀ eventId tenantId revision generationId,
    Announces store eventId tenantId revision generationId →
      (store.classifyOutboxHint eventId = .current ↔ revision = store.revisionOf tenantId)

def Advances (before after : InMemoryVectorControlPlane hashing) (tenantId : String) : Prop :=
  after.revisionOf tenantId = before.revisionOf tenantId + 1 ∧
    before.fenceOf tenantId < after.fenceOf tenantId ∧
    ∀ other, other ≠ tenantId →
      after.selected.lookup other = before.selected.lookup other ∧
        after.fenceOf other = before.fenceOf other

/-- Only an activation that reports so moves a tenant, by one revision and past its fence; an
activation that reports anything else leaves selection, fence, generations and outbox alone. -/
def Fenced : Event (InMemoryVectorControlPlane hashing) (Call hashing F) (Response hashing F) → Prop
  | ⟨before, .activate _ _ _ _ _, response, after⟩ =>
    (response.outcome = .activated → ∃ bundle, response.selectedBundle = some bundle ∧
      after.selected.lookup bundle.tenantId = some bundle ∧
      Advances before after bundle.tenantId) ∧
    (response.outcome ≠ .activated → after.selected = before.selected ∧
      after.activationFences = before.activationFences ∧
      after.generations = before.generations ∧ after.outbox = before.outbox)
  | ⟨before, _, _, after⟩ => after.selected = before.selected ∧
      after.activationFences = before.activationFences

variable (issuer : PermitIssuer) (embeddingHashing : EmbeddingHashing) (chunkHashing : Hashing)

/-- A commit that seals takes the identity of a selected generation for one that does not serve
the bundle. -/
def Displaces : Call hashing F → InMemoryVectorControlPlane hashing → Prop
  | .persist surroundings claim contract generation authorization, store =>
    refusal issuer embeddingHashing chunkHashing surroundings claim contract generation
        authorization store = .ok none ∧
      store.resultKeys.lookup (claim.operation.stableResultKey hashing) = none ∧
      generation.providerCheckpoint ≠ "" ∧
      ∃ tenantId bundle, store.selected.lookup tenantId = some bundle ∧
        bundle.generationId = generation.generationId ∧ ¬ Serves generation bundle
  | _, _ => False

/-- A history, with what its intents carry in their identity and in their generation. -/
structure History (store : InMemoryVectorControlPlane hashing) : Prop where
  serves : ∀ tenantId bundle, store.selected.lookup tenantId = some bundle →
    bundle.tenantId = tenantId ∧ ∃ generation,
      store.generations.lookup bundle.generationId = some generation ∧ Serves generation bundle
  announced : ∀ tenantId revision, 0 < revision → revision ≤ store.revisionOf tenantId →
    ∃ eventId generationId, Announces store eventId tenantId revision generationId
  selected : ∀ eventId tenantId revision generationId,
    Announces store eventId tenantId revision generationId →
      0 < revision ∧ revision ≤ store.revisionOf tenantId
  unique : ∀ eventId other tenantId revision generationId otherGeneration,
    Announces store eventId tenantId revision generationId →
      Announces store other tenantId revision otherGeneration → eventId = other
  named : ∀ eventId tenantId revision generationId,
    Announces store eventId tenantId revision generationId →
      ∃ fingerprint, eventId =
        (VectorEvent.bundleSelected tenantId revision generationId fingerprint).eventId hashing
  current : ∀ eventId tenantId generationId,
    Announces store eventId tenantId (store.revisionOf tenantId) generationId →
      ∃ bundle, store.selected.lookup tenantId = some bundle ∧ bundle.generationId = generationId

variable {issuer embeddingHashing chunkHashing}
variable {store : InMemoryVectorControlPlane hashing}

theorem Announces.classify {eventId tenantId generationId : String} {revision : Nat}
    (announces : Announces store eventId tenantId revision generationId) :
    store.classifyOutboxHint eventId = .current ↔
      ∃ bundle, store.selected.lookup tenantId = some bundle ∧
        bundle.generationId = generationId ∧ bundle.revision = revision := by
  rcases announces with ⟨intent, found, selects, tenant, revised, generation⟩
  subst tenant revised generation
  unfold InMemoryVectorControlPlane.classifyOutboxHint
  rw [found]
  dsimp only
  rw [selects]
  cases store.selected.lookup intent.tenantId with
  | none | some => simp

theorem History.linear (history : History store) : Linear store := by
  refine ⟨history.serves, ?_, history.selected, ?_⟩
  · intro tenantId revision positive within
    rcases history.announced tenantId revision positive within with
      ⟨eventId, generationId, announces⟩
    refine ⟨eventId, ⟨generationId, announces⟩, ?_⟩
    rintro _ ⟨_, again⟩
    exact history.unique _ _ _ _ _ _ again announces
  · intro eventId tenantId revision generationId announces
    rw [announces.classify]
    constructor
    · rintro ⟨bundle, found, _, same⟩
      rw [InMemoryVectorControlPlane.revisionOf, found]
      exact same.symm
    · intro same
      subst same
      rcases history.current _ _ _ announces with ⟨bundle, found, names⟩
      refine ⟨bundle, found, names, ?_⟩
      rw [InMemoryVectorControlPlane.revisionOf, found]
      rfl

theorem eventId_injective (injective : Function.Injective hashing.event) :
    Function.Injective (VectorEvent.eventId hashing) :=
  stableHash_injective.comp injective

/-- Histories that show the same bundles, intents and serving generations are histories alike. -/
theorem History.transfer {after : InMemoryVectorControlPlane hashing}
    (history : History store) (selected : after.selected = store.selected)
    (announces : ∀ eventId tenantId revision generationId,
      Announces after eventId tenantId revision generationId ↔
        Announces store eventId tenantId revision generationId)
    (serves : ∀ tenantId bundle, store.selected.lookup tenantId = some bundle →
      ∃ generation, after.generations.lookup bundle.generationId = some generation ∧
        Serves generation bundle) : History after := by
  have revisions : ∀ tenantId, after.revisionOf tenantId = store.revisionOf tenantId := by
    intro tenantId
    unfold InMemoryVectorControlPlane.revisionOf
    rw [selected]
  constructor
  · intro tenantId bundle found
    rw [selected] at found
    exact ⟨(history.serves tenantId bundle found).1, serves tenantId bundle found⟩
  · intro tenantId revision positive within
    rw [revisions] at within
    simpa [announces] using history.announced tenantId revision positive within
  · intro eventId tenantId revision generationId
    rw [announces, revisions]
    exact history.selected eventId tenantId revision generationId
  · intro eventId other tenantId revision generationId otherGeneration
    rw [announces, announces]
    exact history.unique eventId other tenantId revision generationId otherGeneration
  · intro eventId tenantId revision generationId
    rw [announces]
    exact history.named eventId tenantId revision generationId
  · intro eventId tenantId generationId
    rw [announces, revisions, selected]
    exact history.current eventId tenantId generationId

theorem announces_sealed (injective : Function.Injective hashing.event) (history : History store)
    (claim : VectorBuildClaim) (generation : VectorGeneration hashing)
    (eventId tenantId : String) (revision : Nat) (generationId : String) :
    Announces (sealGeneration claim generation store).2 eventId tenantId revision generationId ↔
      Announces store eventId tenantId revision generationId := by
  let sealedId := (VectorEvent.generationSealed generation.generationId
    generation.manifest).eventId hashing
  have outbox : ∃ intent : VectorOutboxIntent, intent.eventType = .generationSealed ∧
      (sealGeneration claim generation store).2.outbox = store.outbox.insert sealedId intent :=
    ⟨_, rfl, rfl⟩
  rcases outbox with ⟨_, kind, outbox⟩
  unfold Announces
  rw [outbox, Dict.lookup_insert_eq]
  by_cases same : eventId = sealedId
  · rw [if_pos same]
    constructor
    · rintro ⟨_, written, selects, _⟩
      cases written
      cases kind.symm.trans selects
    · intro announces
      rcases history.named eventId tenantId revision generationId announces with
        ⟨_, named⟩
      cases eventId_injective injective (named.symm.trans same)
  · rw [if_neg same]

theorem announces_dispatched {dispatched : String}
    {intent : VectorOutboxIntent} (found : store.outbox.lookup dispatched = some intent)
    (eventId tenantId : String) (revision : Nat) (generationId : String) : Announces { store with
        outbox := store.outbox.insert dispatched { intent with state := "DISPATCHED" } }
        eventId tenantId revision generationId ↔
      Announces store eventId tenantId revision generationId := by
  unfold Announces
  rw [Dict.lookup_insert_eq]
  by_cases same : eventId = dispatched
  · rw [if_pos same, same, found]
    constructor
    · rintro ⟨_, ⟨⟩, facts⟩
      exact ⟨intent, rfl, facts⟩
    · rintro ⟨_, ⟨⟩, facts⟩
      exact ⟨_, rfl, facts⟩
  · rw [if_neg same]

section Select

variable {store : InMemoryVectorControlPlane hashing} {generation : VectorGeneration hashing}
  {ready : generation.evidence.readiness = .productionReady} {generationId : String}
  {policy : RetrievalPolicyRevision} {revision : Nat} {activationFence : Int}

theorem announces_selectBundle (eventId tenantId : String) (number : Nat) (named : String) :
    Announces (selectBundle generation ready generationId policy revision activationFence store).2
        eventId tenantId number named ↔
      if eventId = (VectorEvent.bundleSelected generation.operation.tenantId revision generationId
          (policy.fingerprint hashing)).eventId hashing then
        generation.operation.tenantId = tenantId ∧ revision = number ∧ generationId = named
      else Announces store eventId tenantId number named := by
  unfold Announces selectBundle
  rw [Dict.lookup_insert_eq]
  split
  · constructor
    · rintro ⟨_, ⟨⟩, _, tenant, revised, names⟩
      exact ⟨tenant, revised, names⟩
    · rintro ⟨tenant, revised, names⟩
      exact ⟨_, rfl, rfl, tenant, revised, names⟩
  · rfl

theorem revisionOf_selectBundle (tenantId : String) :
    (selectBundle generation ready generationId policy revision activationFence
        store).2.revisionOf tenantId =
      if tenantId = generation.operation.tenantId then revision else store.revisionOf tenantId := by
  unfold InMemoryVectorControlPlane.revisionOf selectBundle
  rw [Dict.lookup_insert_eq]
  split
  · rfl
  · rfl

theorem fenceOf_selectBundle (tenantId : String) :
    (selectBundle generation ready generationId policy revision activationFence
        store).2.fenceOf tenantId = if tenantId = generation.operation.tenantId then activationFence
      else store.fenceOf tenantId := by
  unfold InMemoryVectorControlPlane.fenceOf selectBundle
  rw [Dict.lookup_insert_eq]
  split
  · rfl
  · rfl

theorem serves_activated {bundle : SelectedVectorBundle} :
    Serves (activatedGeneration generation ready) bundle ↔ Serves generation bundle := Iff.rfl

theorem History.fresh (injective : Function.Injective hashing.event) (history : History store)
    {eventId tenantId named : String} {number : Nat}
    (announces : Announces store eventId tenantId number named) :
    eventId ≠ (VectorEvent.bundleSelected generation.operation.tenantId
      (store.revisionOf generation.operation.tenantId + 1) generationId
      (policy.fingerprint hashing)).eventId hashing := by
  intro same
  rcases history.named _ _ _ _ announces with ⟨_, named⟩
  have events := eventId_injective injective (named.symm.trans same)
  injection events with tenants revisions
  have within := (history.selected _ _ _ _ announces).2
  rw [tenants] at within
  omega

theorem history_selectBundle (injective : Function.Injective hashing.event)
    (history : History store) (found : store.generations.lookup generationId = some generation)
    (accepted : generation.contract.acceptsPolicy hashing policy = true)
    (next : revision = store.revisionOf generation.operation.tenantId + 1) :
    History (selectBundle generation ready generationId policy revision activationFence store).2
    := by
  subst next
  constructor
  · intro tenantId bundle chosen
    change AList.lookup tenantId (store.selected.insert _ _) = some bundle at chosen
    change bundle.tenantId = tenantId ∧ ∃ other,
      AList.lookup bundle.generationId (store.generations.insert generationId
        (activatedGeneration generation ready)) = some other ∧ Serves other bundle
    rw [Dict.lookup_insert_eq] at chosen ⊢
    split at chosen
    · next here =>
      cases chosen
      refine ⟨here.symm, activatedGeneration generation ready, if_pos rfl, rfl, ?_⟩
      exact ⟨(GenerationEvidence.ready_iff _).mp ready, policy, accepted, rfl⟩
    · rcases history.serves tenantId bundle chosen with ⟨tenant, other, stored, serves⟩
      refine ⟨tenant, ?_⟩
      split
      · next same =>
        rw [same, found] at stored
        cases stored
        exact ⟨_, rfl, serves_activated.mpr serves⟩
      · exact ⟨other, stored, serves⟩
  · intro tenantId number positive within
    simp only [announces_selectBundle]
    rw [revisionOf_selectBundle] at within
    by_cases newest : tenantId = generation.operation.tenantId ∧
        number = store.revisionOf generation.operation.tenantId + 1
    · exact ⟨_, generationId, by rw [if_pos rfl]; exact ⟨newest.1.symm, newest.2.symm, rfl⟩⟩
    · have earlier : number ≤ store.revisionOf tenantId := by
        split at within
        · next here =>
          rw [here]
          have different : number ≠ store.revisionOf generation.operation.tenantId + 1 :=
            fun same => newest ⟨here, same⟩
          omega
        · exact within
      rcases history.announced tenantId number positive earlier with ⟨eventId, named, announces⟩
      exact ⟨eventId, named, by rw [if_neg (history.fresh injective announces)]; exact announces⟩
  · intro eventId tenantId number named announces
    rw [announces_selectBundle] at announces
    rw [revisionOf_selectBundle]
    split at announces
    · rcases announces with ⟨tenant, revised, _⟩
      rw [if_pos tenant.symm]
      omega
    · have within := history.selected eventId tenantId number named announces
      split
      · next here =>
        rw [here] at within
        omega
      · exact within
  · intro eventId other tenantId number named otherNamed announces again
    rw [announces_selectBundle] at announces again
    split at announces
    · next here =>
      split at again
      · next there => rw [here, there]
      · rcases announces with ⟨tenant, revised, _⟩
        have within := (history.selected _ _ _ _ again).2
        rw [← tenant] at within
        omega
    · split at again
      · rcases again with ⟨tenant, revised, _⟩
        have within := (history.selected _ _ _ _ announces).2
        rw [← tenant] at within
        omega
      · exact history.unique _ _ _ _ _ _ announces again
  · intro eventId tenantId number named announces
    rw [announces_selectBundle] at announces
    split at announces
    · next here =>
      rcases announces with ⟨tenant, revised, names⟩
      subst tenant revised names
      exact ⟨_, here⟩
    · exact history.named _ _ _ _ announces
  · intro eventId tenantId named announces
    rw [announces_selectBundle, revisionOf_selectBundle] at announces
    change ∃ bundle, AList.lookup tenantId (store.selected.insert _ _) = some bundle ∧ _
    rw [Dict.lookup_insert_eq]
    split at announces
    · rcases announces with ⟨tenant, _, names⟩
      rw [if_pos tenant.symm]
      exact ⟨_, rfl, names⟩
    · split at announces
      · next here =>
        have within := (history.selected _ _ _ _ announces).2
        rw [here] at within
        omega
      · next other =>
        rw [if_neg other]
        exact history.current _ _ _ announces

end Select

variable {call : Call hashing F}

theorem history_change (injective : Function.Injective hashing.event)
    {after : InMemoryVectorControlPlane hashing} (history : History store)
    (keeps : ¬ Displaces issuer embeddingHashing chunkHashing call store)
    (change : Change issuer embeddingHashing chunkHashing store call after) : History after := by
  cases change with
  | quiet same =>
    apply history.transfer same.selected
    · intro eventId tenantId revision generationId
      unfold Announces
      rw [same.outbox]
    · intro tenantId bundle found
      rw [same.generations]
      exact (history.serves tenantId bundle found).2
  | @sealed _ claim _ generation _ admitted fresh read =>
    have selected : (sealGeneration claim generation store).2.selected = store.selected := rfl
    apply history.transfer selected (announces_sealed injective history claim generation)
    intro tenantId bundle found
    change ∃ other, AList.lookup bundle.generationId (store.generations.insert
      generation.generationId generation) = some other ∧ Serves other bundle
    rw [Dict.lookup_insert_eq]
    split
    · next same =>
      refine ⟨generation, rfl, Classical.byContradiction fun unfit => ?_⟩
      exact keeps ⟨admitted, fresh, read, tenantId, bundle, found, same, unfit⟩
    · exact (history.serves tenantId bundle found).2
  | activated _ found _ accepted =>
    exact history_selectBundle injective history found accepted rfl
  | dispatched found =>
    exact history.transfer rfl (announces_dispatched found)
      (fun tenantId bundle chosen => (history.serves tenantId bundle chosen).2)

theorem history_empty : History ({} : InMemoryVectorControlPlane hashing) := by
  have silent : ∀ eventId tenantId revision generationId,
      ¬ Announces ({} : InMemoryVectorControlPlane hashing) eventId tenantId revision
        generationId := by
    rintro _ _ _ _ ⟨_, found, _⟩
    simp at found
  constructor
  · intro tenantId bundle found
    simp at found
  · intro tenantId revision positive within
    simp [InMemoryVectorControlPlane.revisionOf] at within
    omega
  · exact fun _ _ _ _ announces => absurd announces (silent _ _ _ _)
  · exact fun _ _ _ _ _ _ announces => absurd announces (silent _ _ _ _)
  · exact fun _ _ _ _ announces => absurd announces (silent _ _ _ _)
  · exact fun _ _ _ announces => absurd announces (silent _ _ _ _)

theorem fenced_perform (call : Call hashing F) (store : InMemoryVectorControlPlane hashing) :
    Fenced (event (perform issuer embeddingHashing chunkHashing) store call) := by
  cases call with
  | claim operation attempt =>
    exact ⟨(claim_quiet operation attempt store).selected,
      (claim_quiet operation attempt store).activationFences⟩
  | markUnknown claim =>
    change (markUnknown claim store).selected = store.selected ∧
      (markUnknown claim store).activationFences = store.activationFences
    unfold markUnknown
    split
    · exact ⟨rfl, rfl⟩
    · exact ⟨rfl, rfl⟩
  | persist surroundings claim contract generation authorization =>
    change (persist issuer embeddingHashing chunkHashing surroundings claim contract generation
        authorization store).2.selected = store.selected ∧
      (persist issuer embeddingHashing chunkHashing surroundings claim contract generation
        authorization store).2.activationFences = store.activationFences
    rcases persist_cases issuer embeddingHashing chunkHashing surroundings claim contract
        generation authorization store
      with ⟨same, _⟩ | ⟨_, _, _, _, _, written⟩ | ⟨_, _, _, written⟩
    · rw [same]
      exact ⟨rfl, rfl⟩
    · rw [written]
      exact ⟨rfl, rfl⟩
    · rw [written]
      exact ⟨rfl, rfl⟩
  | activate generationId policy expectedGenerationId expectedRevision activationFence =>
    simp only [event, perform]
    rcases activate_cases generationId policy expectedGenerationId expectedRevision
        activationFence store with ⟨same, other⟩ | ⟨generation, _, _, newer, _, written⟩
    · rw [same]
      exact ⟨fun activated => absurd activated other, fun _ => ⟨rfl, rfl, rfl, rfl⟩⟩
    · rw [written]
      refine ⟨fun _ => ⟨_, rfl, AList.lookup_insert _, ?_, ?_, ?_⟩, fun other => absurd rfl other⟩
      · rw [revisionOf_selectBundle]
        exact if_pos rfl
      · rw [fenceOf_selectBundle]
        rw [if_pos rfl]
        exact newer
      · intro other different
        rw [fenceOf_selectBundle]
        exact ⟨AList.lookup_insert_ne different, if_neg different⟩
  | markOutboxDispatched eventId =>
    change (store.markOutboxDispatched eventId).2.selected = store.selected ∧
      (store.markOutboxDispatched eventId).2.activationFences = store.activationFences
    unfold InMemoryVectorControlPlane.markOutboxDispatched
    split
    · exact ⟨rfl, rfl⟩
    · exact ⟨rfl, rfl⟩

theorem not_linear_of_displaces
    (displaces : Displaces issuer embeddingHashing chunkHashing call store) :
    ¬ Linear (perform issuer embeddingHashing chunkHashing call store).2 := by
  cases call with
  | persist surroundings claim contract generation authorization =>
    rcases displaces with ⟨admitted, fresh, read, tenantId, bundle, chosen, named, unfit⟩
    have seals : (perform issuer embeddingHashing chunkHashing
        (.persist surroundings claim contract generation authorization) store).2 =
          (sealGeneration claim generation store).2 := by
      simp [perform, persist, admitted, commit, fresh, if_neg read]
    rw [seals]
    intro linear
    rcases linear.serves tenantId bundle chosen with ⟨_, _, stored, serves⟩
    rw [named] at stored
    cases (AList.lookup_insert store.generations).symm.trans stored
    exact unfit serves
  | claim | markUnknown | markOutboxDispatched => exact displaces.elim
  | activate =>
    exact displaces.elim

/-- Over any run from the empty store, every step is fenced and every state linear just when no
commit displaces a selected generation. -/
theorem fenced_history_iff (injective : Function.Injective hashing.event)
    (calls : List (Call hashing F)) :
    (∀ e ∈ trace (perform issuer embeddingHashing chunkHashing) {} calls,
        Fenced e ∧ Linear e.after) ↔
      ∀ e ∈ trace (perform issuer embeddingHashing chunkHashing) {} calls,
        ¬ Displaces issuer embeddingHashing chunkHashing e.call e.before := by
  constructor
  · intro holds e member displaces
    apply not_linear_of_displaces displaces
    rw [← (mem_trace_performed member).2]
    exact (holds e member).2
  · intro keeps e member
    constructor
    · rw [mem_trace_event _ _ _ e member]
      exact fenced_perform e.call e.before
    · apply History.linear
      apply (kept_trace (perform issuer embeddingHashing chunkHashing) History {} calls _
        history_empty e member).2
      intro other inside history
      rw [(mem_trace_performed inside).2]
      exact history_change injective history (keeps other inside)
        (perform_change other.call other.before)

end Activation

namespace Sample

theorem event_injective : Function.Injective hashing.event := by
  intro first second same
  cases first with
  | generationSealed =>
    cases second with
    | generationSealed =>
      have fields := Text.record_injective same
      simp only [List.cons.injEq, true_and, and_true] at fields
      rcases fields with ⟨ids, count, points, vectors, payloads, set, fingerprint⟩
      rw [ids, GenerationManifest.ext (Text.toString_injective count) points vectors payloads
        set fingerprint]
    | bundleSelected =>
      have fields := Text.record_injective same
      simp at fields
  | bundleSelected =>
    cases second with
    | generationSealed =>
      have fields := Text.record_injective same
      simp at fields
    | bundleSelected =>
      have fields := Text.record_injective same
      simp only [List.cons.injEq, true_and, and_true] at fields
      rcases fields with ⟨tenants, revisions, ids, fingerprints⟩
      rw [tenants, Text.toString_injective revisions, ids, fingerprints]

/-- Another build for the tenant, under the next revision of its contract. -/
def rebuild : VectorBuildOperation :=
  { operation with
    operationId := "build-2", idempotencyKey := "build-2", contractSelectionRevision := 2
    bindings := by decide, revisions_pos := by decide }

def rebuildAttempt : VectorBuildAttempt :=
  { operationId := "build-2", attemptNumber := 1, requestId := "request-2"
    correlated := by decide, attempt_pos := Nat.one_pos }

/-- A generation without evidence, under the identity that is already taken. -/
def unproven : VectorGeneration hashing :=
  { generation with
    operation := rebuild, evidence := { gates := [], unique := List.nodup_nil }
    serving_ready := by decide }

def served : List (Call hashing Int) := claimed ++ [persisted, activated 1]

def displaced : List (Call hashing Int) :=
  served ++ [.claim rebuild rebuildAttempt,
    .persist surroundings ⟨rebuild, rebuildAttempt, 1, 1⟩ contract unproven handoff]

/-- The second seal leaves the tenant with a bundle whose generation has passed no gate. -/
theorem displaced_not_linear : ¬ ∀ e ∈ trace performed {} displaced, Fenced e ∧ Linear e.after := by
  intro holds
  have last := event_mem_trace performed {} (served ++ [.claim rebuild rebuildAttempt]) []
    (.persist surroundings ⟨rebuild, rebuildAttempt, 1, 1⟩ contract unproven handoff)
  have linear := (holds _ last).2
  have ran : ((final performed {} displaced).selected.lookup "tenant-a").map (·.generationId) =
        some "vector-generation:1" ∧
      ((final performed {} displaced).generations.lookup "vector-generation:1").map
        (fun stored => stored.evidence.stateFor .recovery) = some .notRun := by
    decide +kernel
  rcases Option.map_eq_some_iff.mp ran.1 with ⟨bundle, chosen, names⟩
  rcases linear.serves "tenant-a" bundle chosen with ⟨_, _, found, _, passed, _⟩
  have unread := ran.2
  rw [← names] at unread
  rcases Option.map_eq_some_iff.mp unread with ⟨_, there, notRun⟩
  cases found.symm.trans there
  cases (passed .recovery).symm.trans notRun

/-- One claim, one seal and one activation select a bundle and displace nothing. -/
theorem fenced_history_served :
    ((final performed {} served).selected.lookup "tenant-a").map (·.generationId) =
        some "vector-generation:1" ∧
      ∀ e ∈ trace performed {} served, Fenced e ∧ Linear e.after := by
  refine ⟨by decide +kernel, ?_⟩
  apply (fenced_history_iff event_injective served).mpr
  intro e member displaces
  rcases List.mem_cons.mp member with rfl | member
  · exact displaces
  rcases List.mem_cons.mp member with rfl | member
  · rcases displaces with ⟨_, _, _, _, _, chosen, _⟩
    have empty := (claim_quiet operation attempt
      ({} : InMemoryVectorControlPlane hashing)).selected
    simp [event, perform, empty] at chosen
  rcases List.mem_cons.mp member with rfl | member
  · exact displaces
  · cases member

end Sample

end BackendHandbook.Vector
