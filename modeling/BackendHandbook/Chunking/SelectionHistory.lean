import BackendHandbook.Chunking.Selection
import BackendHandbook.Chunking.Soundness

/-! What every run of the chunk set writer keeps: selections name stored sets, sets are immutable
with distinct chunks, each selection has one intent, and a superseded claim writes nothing. -/

namespace BackendHandbook.Chunking

open Ingestion Run ChunkSetCommitter ChunkSetCandidateValidator

section History

variable {hashing : Hashing} {tokenizer : TokenizerPort} {identities : IdentityHashing}

def SelectionsStored (store : InMemoryChunkSetStore) : Prop :=
  ∀ key selection, store.selections.lookup key = some selection →
    (selection.tenantId, selection.documentId) = key ∧
    ∃ chunkSet, store.sets.lookup selection.chunkSetId = some chunkSet ∧
      chunkSet.operation.selectionKey = key

def ChunksDistinct (store : InMemoryChunkSetStore) : Prop :=
  ∀ chunkSetId chunkSet, store.sets.lookup chunkSetId = some chunkSet →
    (chunkSet.chunks.map (·.chunkId)).Nodup

def SetsKept (e : Event InMemoryChunkSetStore Call Response) : Prop :=
  (∀ chunkSetId chunkSet, e.before.sets.lookup chunkSetId = some chunkSet →
    e.after.sets.lookup chunkSetId = some chunkSet) ∧
  ∀ key chunkSetId, e.before.resultKeys.lookup key = some chunkSetId →
    e.after.resultKeys.lookup key = some chunkSetId

variable (before after : InMemoryChunkSetStore) (selection : ChunkSelection)

def Advances : Prop :=
  let key := (selection.tenantId, selection.documentId)
  after.selections.lookup key = some selection ∧ selection.revision = before.revisionOf key + 1 ∧
    ∀ other, other ≠ key → after.selections.lookup other = before.selections.lookup other

def Announces : Prop :=
  ∃ intent : ChunkSelectionOutboxIntent, before.outbox.lookup intent.eventId = none ∧
    after.outbox = before.outbox.insert intent.eventId intent ∧
    intent.tenantId = selection.tenantId ∧ intent.documentId = selection.documentId ∧
    intent.chunkSetId = selection.chunkSetId ∧ intent.selectionRevision = selection.revision

/-- Only a call that reports a selection selects, and it announces what it selects; no other call
gains or loses an intent. -/
def Selects : Event InMemoryChunkSetStore Call Response → Prop
  | ⟨before, .select _ _ _ _ _ _ _, response, after⟩ =>
    (response.outcome = .selected → ∃ selection, response.selection = some selection ∧
      Advances before after selection ∧ Announces before after selection) ∧
    (response.outcome ≠ .selected → after = before)
  | ⟨before, _, _, after⟩ => after.selections = before.selections ∧
      ∀ eventId, (after.outbox.lookup eventId).isSome = (before.outbox.lookup eventId).isSome

def Claims (newer : ChunkingClaim) : Event InMemoryChunkSetStore Call Response → Prop
  | ⟨_, .claim _ _ _, response, _⟩ => response = some newer
  | _ => False

variable (operationId : String) (attemptNumber : Nat)

def Carries : Call → Prop
  | .persist _ decision _ => ∃ candidate, decision.candidate = some candidate ∧
      candidate.operation.operationId = operationId ∧
      candidate.attempt.attemptNumber = attemptNumber
  | .select _ _ _ _ _ _ claim => claim.operation.operationId = operationId ∧
      claim.attempt.attemptNumber = attemptNumber
  | _ => False

def ClaimedUpTo (store : InMemoryChunkSetStore) : Prop :=
  ∃ current, store.claims.lookup operationId = some current ∧
    attemptNumber ≤ current.attempt.attemptNumber

/-- What a run keeps of the store, with what its identities digest. -/
structure StoreSound (identities : IdentityHashing) (store : InMemoryChunkSetStore) : Prop where
  keyed : ∀ chunkSetId chunkSet, store.sets.lookup chunkSetId = some chunkSet →
    chunkSetId = chunkSetIdOf identities chunkSet.operation ∧
      (store.resultKeys.lookup (chunkSet.operation.stableResultKey identities)).isSome
  selections : SelectionsStored store
  distinct : ChunksDistinct store
  announced : ∀ eventId intent, store.outbox.lookup eventId = some intent →
    ∃ key revision chunkSetId, eventId = selectionEventId identities key revision chunkSetId ∧
      revision ≤ store.revisionOf key
  claims : ∀ operationId claim, store.claims.lookup operationId = some claim →
    claim.operation.operationId = operationId

theorem storeSound_empty : StoreSound identities {} := by
  constructor
  · intro chunkSetId chunkSet found
    simp at found
  · intro key selection found
    simp at found
  · intro chunkSetId chunkSet found
    simp at found
  · intro eventId intent found
    simp at found
  · intro operationId claim found
    simp at found

theorem stableResultKey_of_chunkSetId {first second : ChunkingOperationIdentity}
    (same : chunkSetIdOf identities first = chunkSetIdOf identities second) :
    first.stableResultKey identities = second.stableResultKey identities := by
  have texts := congrArg String.toList same
  simp only [chunkSetIdOf, ChunkingOperationIdentity.stableResultKey, removeprefix_stableHash,
    String.toList_append] at texts
  exact congrArg stableHash (String.toList_injective (List.append_cancel_left texts))

variable {contract : ChunkingContract}

variable {bodies : List SourceSegment} {text : List Char}

theorem scanned_ordinals {state last : ScanState} {chunks : List ChunkCandidate}
    (scanned : Scanned hashing tokenizer contract text state chunks bodies last) :
    (∀ chunk ∈ chunks, (state.ordinal : Int) ≤ chunk.ordinal) ∧
      (chunks.map (·.ordinal)).Pairwise (· < ·) := by
  induction scanned with
  | done => exact ⟨nofun, List.Pairwise.nil⟩
  | @step state last chunk chunks body bodies checked rest ih =>
    rcases ih with ⟨later, rising⟩
    have next : ∀ other ∈ chunks, (state.ordinal : Int) + 1 ≤ other.ordinal := by
      intro other member
      simpa [ScanState.after] using later other member
    constructor
    · intro other member
      rcases List.mem_cons.mp member with rfl | inside
      · exact le_of_eq checked.ordinal.symm
      · have behind := next other inside
        omega
    · rw [List.map_cons, List.pairwise_cons]
      refine ⟨?_, rising⟩
      intro ordinal member
      rcases List.mem_map.mp member with ⟨other, inside, rfl⟩
      have behind := next other inside
      rw [checked.ordinal]
      omega

variable {candidate : ChunkSetCandidate} {day95 : Ingestion.Store}

theorem refusal_none {store : InMemoryChunkSetStore}
    (admitted : refusal hashing tokenizer day95 contract candidate store = none) :
    (store.claims.lookup candidate.operation.operationId).map (·.attempt) = some candidate.attempt ∧
      ∃ text bodies state, Scanned hashing tokenizer contract text {} candidate.chunks bodies
        state := by
  unfold refusal at admitted
  dsimp only at admitted
  split at admitted
  · cases admitted
  · next current =>
    refine ⟨Decidable.not_not.mp current, ?_⟩
    cases facts : lifecycleOf day95 candidate.operation.version with
    | none =>
      rw [facts] at admitted
      cases admitted
    | some =>
      rw [facts] at admitted
      dsimp only at admitted
      split at admitted
      · next parsed source _ _ =>
        split at admitted
        · cases admitted
        · next ready =>
          rcases evaluate_ready_iff.mp (Decidable.not_not.mp ready) with
            ⟨_, state, bodies, scanned, _⟩
          exact ⟨_, bodies, state, scanned⟩
      · cases admitted

theorem chunks_nodup (chunkIds : Function.Injective identities.chunkId) {state : ScanState}
    (scanned : Scanned hashing tokenizer contract text {} candidate.chunks bodies state) :
    ((chunkSetOf identities candidate).chunks.map (·.chunkId)).Nodup := by
  have rising := (scanned_ordinals scanned).2
  rw [List.pairwise_map] at rising
  simp only [chunkSetOf, List.Nodup, List.pairwise_map]
  apply rising.imp
  intro first second before same
  have texts := congrArg String.toList same
  simp only [Function.comp_apply, chunkOf, removeprefix_stableHash, String.toList_append] at texts
  have digests := chunkIds (String.toList_injective (List.append_cancel_left texts))
  have ordinals : first.ordinal = second.ordinal := congrArg (fun shape => shape.2.1) digests
  omega

section Writes

variable {store : InMemoryChunkSetStore}
variable {operation : ChunkingOperationIdentity}

theorem StoreSound.unstored (sound : StoreSound identities store)
    (fresh : store.resultKeys.lookup (operation.stableResultKey identities) = none) :
    store.sets.lookup (chunkSetIdOf identities operation) = none := by
  cases stored : store.sets.lookup (chunkSetIdOf identities operation) with
  | none => rfl
  | some =>
    rcases sound.keyed _ _ stored with ⟨named, bound⟩
    rw [← stableResultKey_of_chunkSetId named, fresh] at bound
    cases bound

variable {chunkSetId : String}

theorem revisionOf_writeSelection {revision fence : Nat} (key : String × String) :
    (writeSelection identities operation chunkSetId revision fence store).2.revisionOf key =
      if key = operation.selectionKey then revision else store.revisionOf key := by
  unfold InMemoryChunkSetStore.revisionOf writeSelection
  rw [Dict.lookup_insert_eq]
  split
  · rfl
  · rfl

theorem StoreSound.unannounced (sound : StoreSound identities store)
    (events : Function.Injective identities.event) (key : String × String) (chunkSetId : String) :
    store.outbox.lookup (selectionEventId identities key (store.revisionOf key + 1) chunkSetId) =
      none := by
  cases announced : store.outbox.lookup
      (selectionEventId identities key (store.revisionOf key + 1) chunkSetId) with
  | none => rfl
  | some intent =>
    rcases sound.announced _ _ announced with ⟨_, _, _, same, within⟩
    have digests := events (stableHash_injective same)
    rcases Prod.mk.inj digests with ⟨keys, rest⟩
    rcases Prod.mk.inj rest with ⟨revisions, _⟩
    rw [← keys] at within
    omega

theorem storeSound_commit (chunkIds : Function.Injective identities.chunkId)
    (sound : StoreSound identities store)
    (admitted : refusal hashing tokenizer day95 contract candidate store = none)
    (fresh : store.resultKeys.lookup (candidate.operation.stableResultKey identities) = none) :
    StoreSound identities { store with
      sets := store.sets.insert (chunkSetIdOf identities candidate.operation)
        (chunkSetOf identities candidate)
      resultKeys := store.resultKeys.insert (candidate.operation.stableResultKey identities)
        (chunkSetIdOf identities candidate.operation) } := by
  have unstored := sound.unstored fresh
  rcases refusal_none admitted with ⟨_, _, _, _, scanned⟩
  constructor
  · refine Dict.forall_insert ⟨rfl, by simp [chunkSetOf]⟩ fun _ _ found => ?_
    rcases sound.keyed _ _ found with ⟨named, bound⟩
    exact ⟨named, Dict.isSome_insert _ bound⟩
  · intro key selection selected
    rcases sound.selections key selection selected with ⟨named, chunkSet, found, owned⟩
    refine ⟨named, chunkSet, ?_, owned⟩
    have other : selection.chunkSetId ≠ chunkSetIdOf identities candidate.operation :=
      fun same => nomatch (same ▸ found).symm.trans unstored
    exact (AList.lookup_insert_ne other).trans found
  · exact Dict.forall_insert (chunks_nodup chunkIds scanned) sound.distinct
  · exact sound.announced
  · exact sound.claims

theorem storeSound_select (sound : StoreSound identities store)
    {chunkSet : ChunkSet} {fence : Nat} (found : store.sets.lookup chunkSetId = some chunkSet) :
    StoreSound identities (writeSelection identities chunkSet.operation chunkSetId
      (store.revisionOf chunkSet.operation.selectionKey + 1) fence store).2 := by
  constructor
  · exact sound.keyed
  · exact Dict.forall_insert ⟨rfl, chunkSet, found, rfl⟩ sound.selections
  · exact sound.distinct
  · refine Dict.forall_insert ⟨_, _, _, rfl, ?_⟩ fun eventId intent announced => ?_
    · rw [revisionOf_writeSelection, if_pos rfl]
    · rcases sound.announced _ _ announced with ⟨key, revision, named, same, within⟩
      refine ⟨key, revision, named, same, ?_⟩
      rw [revisionOf_writeSelection]
      split
      · next here =>
        rw [here] at within
        omega
      · exact within
  · exact sound.claims

end Writes

theorem storeSound_change (chunkIds : Function.Injective identities.chunkId) {call : Call}
    {store after : InMemoryChunkSetStore} (sound : StoreSound identities store)
    (change : Change hashing tokenizer identities store call after) :
    StoreSound identities after := by
  cases change with
  | same => exact sound
  | claimed =>
    exact ⟨sound.keyed, sound.selections, sound.distinct, sound.announced,
      Dict.forall_insert rfl sound.claims⟩
  | committed _ admitted fresh => exact storeSound_commit chunkIds sound admitted fresh
  | selected found => exact storeSound_select sound found
  | dispatched found =>
    exact ⟨sound.keyed, sound.selections, sound.distinct,
      Dict.forall_insert (sound.announced _ _ found) sound.announced, sound.claims⟩

variable {call : Call} {store after : InMemoryChunkSetStore}

theorem setsKept_change (sound : StoreSound identities store)
    (change : Change hashing tokenizer identities store call after) :
    (∀ chunkSetId chunkSet, store.sets.lookup chunkSetId = some chunkSet →
      after.sets.lookup chunkSetId = some chunkSet) ∧
    ∀ key chunkSetId, store.resultKeys.lookup key = some chunkSetId →
      after.resultKeys.lookup key = some chunkSetId := by
  cases change with
  | same | claimed | selected found | dispatched found =>
    exact ⟨fun _ _ found => found, fun _ _ bound => bound⟩
  | @committed _ _ _ candidate given admitted fresh =>
    constructor
    · intro chunkSetId chunkSet found
      have other : chunkSetId ≠ chunkSetIdOf identities candidate.operation :=
        fun same => nomatch (same ▸ found).symm.trans (sound.unstored fresh)
      exact (AList.lookup_insert_ne other).trans found
    · intro key chunkSetId bound
      have other : key ≠ candidate.operation.stableResultKey identities :=
        fun same => nomatch (same ▸ bound).symm.trans fresh
      exact (AList.lookup_insert_ne other).trans bound

theorem claimedUpTo_change {operationId : String} {attemptNumber : Nat}
    (claimed : ClaimedUpTo operationId attemptNumber store)
    (change : Change hashing tokenizer identities store call after) :
    ClaimedUpTo operationId attemptNumber after := by
  cases change with
  | same | committed | selected | dispatched => exact claimed
  | @claimed _ operation attempt _ _ admissible =>
    rcases claimed with ⟨current, found, reached⟩
    unfold ClaimedUpTo
    rw [Dict.lookup_insert_eq]
    split
    · next here =>
      rw [← here, found] at admissible ⊢
      simp only [attemptAdmissible, Bool.and_eq_true, beq_iff_eq] at admissible
      refine ⟨_, rfl, ?_⟩
      change attemptNumber ≤ attempt.attemptNumber
      omega
    · exact ⟨current, found, reached⟩

theorem superseded_change {operationId : String} {attemptNumber newer : Nat}
    (claimed : ClaimedUpTo operationId newer store) (older : attemptNumber < newer)
    (carries : Carries operationId attemptNumber call)
    (change : Change hashing tokenizer identities store call after) : after = store := by
  rcases claimed with ⟨latest, found, reached⟩
  cases change with
  | same => rfl
  | claimed | dispatched => exact carries.elim
  | @committed _ _ _ candidate given admitted fresh =>
    rcases carries with ⟨_, same, operation, attempt⟩
    cases given.symm.trans same
    have current := (refusal_none admitted).1
    rw [operation, found] at current
    have attempts : latest.attempt = candidate.attempt := Option.some.inj current
    rw [attempts] at reached
    omega
  | selected _ current =>
    rcases carries with ⟨operation, _⟩
    rw [operation, found] at current
    cases current
    omega

theorem quiet_change
    (change : Change hashing tokenizer identities store call after) (other : ¬ call.IsSelect) :
    after.selections = store.selections ∧
      ∀ eventId, (after.outbox.lookup eventId).isSome = (store.outbox.lookup eventId).isSome := by
  cases change with
  | same | claimed | committed => exact ⟨rfl, fun _ => rfl⟩
  | selected => exact absurd trivial other
  | dispatched found =>
    refine ⟨rfl, fun eventId => ?_⟩
    rw [Dict.lookup_insert_eq]
    split
    · next here => rw [here, found]; rfl
    · rfl

theorem selects_perform (events : Function.Injective identities.event) (call : Call)
    (sound : StoreSound identities store) :
    Selects (event (perform hashing tokenizer identities) store call) := by
  have change : Change hashing tokenizer identities store call
      (perform hashing tokenizer identities call store).2 := perform_change call store
  cases call with
  | claim | persist => exact quiet_change change id
  | select day95 chunkSetId expectedSelectedId expectedSelectionRevision
      expectedDocumentStateVersion expectedDocumentFence claim =>
      simp only [event, perform]
      rcases select_cases hashing.text identities day95 chunkSetId expectedSelectedId
          expectedSelectionRevision expectedDocumentStateVersion expectedDocumentFence claim store
        with ⟨same, other⟩ | ⟨chunkSet, _, written⟩
      · exact ⟨fun selected => absurd selected other, fun _ => same⟩
      · rw [written]
        refine ⟨fun _ => ⟨_, rfl, ?_, ?_⟩, fun other => absurd rfl other⟩
        · exact ⟨AList.lookup_insert _, rfl, fun _ different => AList.lookup_insert_ne different⟩
        · refine ⟨selectionIntent identities chunkSet.operation chunkSetId _, ?_, rfl, rfl, rfl,
            rfl, rfl⟩
          exact sound.unannounced events chunkSet.operation.selectionKey chunkSetId
  | markOutboxDispatched => exact quiet_change change id

theorem storeSound_trace (chunkIds : Function.Injective identities.chunkId) (calls : List Call)
    (e : Event InMemoryChunkSetStore Call Response)
    (member : e ∈ trace (perform hashing tokenizer identities) {} calls) :
    StoreSound identities e.before ∧ StoreSound identities e.after := by
  apply kept_trace (perform hashing tokenizer identities) (StoreSound identities) {} calls _
    storeSound_empty e member
  intro other inside sound
  rw [(mem_trace_performed inside).2]
  exact storeSound_change chunkIds sound (perform_change other.call other.before)

theorem claimedUpTo_of_claims {newer : ChunkingClaim} (sound : StoreSound identities store)
    (claims : Claims newer (event (perform hashing tokenizer identities) store call)) :
    ClaimedUpTo newer.operation.operationId newer.attempt.attemptNumber
      (perform hashing tokenizer identities call store).2 := by
  cases call with
  | claim day95 operation attempt =>
    simp only [event, perform] at claims
    simp only [perform]
    rcases claim_cases hashing.text day95 operation attempt store
      with ⟨same, answered⟩ | ⟨_, written⟩
    · have found := answered newer claims
      rw [same, sound.claims _ _ found]
      exact ⟨newer, found, le_rfl⟩
    · rw [written] at claims ⊢
      cases Option.some.inj claims
      exact ⟨_, AList.lookup_insert _, le_rfl⟩
  | persist => exact claims.elim
  | select => exact claims.elim
  | markOutboxDispatched => exact claims.elim

/-- Over any run from the empty store and any lifecycles: selections name stored sets of their
document, sets are kept with distinct chunks, each selection is one revision with one intent, and
no call under a superseded attempt changes anything. -/
theorem selection_store_sound (chunkIds : Function.Injective identities.chunkId)
    (events : Function.Injective identities.event) (calls : List Call) :
    (∀ e ∈ trace (perform hashing tokenizer identities) {} calls,
      SelectionsStored e.after ∧ ChunksDistinct e.after ∧ SetsKept e ∧ Selects e) ∧
    ∀ front first rest later newer attemptNumber,
      trace (perform hashing tokenizer identities) {} calls = front ++ first :: rest →
      later ∈ rest → Claims newer first → attemptNumber < newer.attempt.attemptNumber →
      Carries newer.operation.operationId attemptNumber later.call →
      later.after = later.before := by
  constructor
  · intro e member
    rcases storeSound_trace chunkIds calls e member with ⟨before, after⟩
    refine ⟨after.selections, after.distinct, ?_, ?_⟩
    · have change : Change hashing tokenizer identities e.before e.call e.after := by
        rw [(mem_trace_performed member).2]
        exact perform_change e.call e.before
      exact setsKept_change before change
    · rw [mem_trace_event _ _ _ e member]
      exact selects_perform events e.call before
  · intro front first rest later newer attemptNumber split inside claims older carries
    have firstMember : first ∈ trace (perform hashing tokenizer identities) {} calls := by
      rw [split]
      exact List.mem_append_right _ List.mem_cons_self
    have laterMember : later ∈ trace (perform hashing tokenizer identities) {} calls := by
      rw [split]
      exact List.mem_append_right _ (List.mem_cons_of_mem _ inside)
    have claimed : ClaimedUpTo newer.operation.operationId newer.attempt.attemptNumber
        first.after := by
      rw [mem_trace_event _ _ _ first firstMember] at claims
      rw [(mem_trace_performed firstMember).2]
      exact claimedUpTo_of_claims (storeSound_trace chunkIds calls first firstMember).1 claims
    have reached : ClaimedUpTo newer.operation.operationId newer.attempt.attemptNumber
        later.before := by
      apply kept_between (perform hashing tokenizer identities) _ _ split inside claimed
      intro e member claimed
      rw [(mem_trace_performed member).2]
      exact claimedUpTo_change claimed (perform_change e.call e.before)
    rw [(mem_trace_performed laterMember).2]
    exact superseded_change reached older carries (perform_change later.call later.before)

end History

namespace Sample

def identities : IdentityHashing :=
  { resultKey := fun (tenantId, documentId, versionId, sourceId, parsedId, fingerprint) =>
      Text.record [tenantId, documentId, versionId, sourceId, parsedId, fingerprint]
    chunkId := fun (chunkSetId, ordinal, segments) =>
      Text.record (chunkSetId :: toString ordinal.toNat :: toString (-ordinal).toNat ::
        segments.map fun (start, end_, role) =>
          Text.record [toString start, toString end_, role])
    event := fun ((tenantId, documentId), revision, chunkSetId) =>
      Text.record [tenantId, documentId, toString revision, chunkSetId] }

theorem chunkId_injective : Function.Injective identities.chunkId := by
  rintro ⟨_, ordinal, segments⟩ ⟨_, otherOrdinal, otherSegments⟩ same
  have fields := Text.record_injective same
  simp only [List.cons.injEq] at fields
  rcases fields with ⟨sets, ups, downs, texts⟩
  have up := Text.toString_injective ups
  have down := Text.toString_injective downs
  have ordinals : ordinal = otherOrdinal := by omega
  have parts : segments = otherSegments := by
    apply List.map_injective_iff.mpr _ texts
    rintro ⟨_, _, _⟩ ⟨_, _, _⟩ equal
    have spans := Text.record_injective equal
    simp only [List.cons.injEq, and_true] at spans
    rw [Text.toString_injective spans.1, Text.toString_injective spans.2.1, spans.2.2]
  rw [sets, ordinals, parts]

theorem event_injective : Function.Injective identities.event := by
  rintro ⟨⟨_, _⟩, _, _⟩ ⟨⟨_, _⟩, _, _⟩
    same
  have fields := Text.record_injective same
  simp only [List.cons.injEq, and_true] at fields
  rw [fields.1, fields.2.1, Text.toString_injective fields.2.2.1, fields.2.2.2]

-- The contracts of the run below differ in how few tokens make a useful chunk.
def contractHashing : Hashing :=
  { hashing with
    contract := fun contract => if contract.minUsefulTokens = 1 then "one" else "more" }

def day95 : Ingestion.Store :=
  { documents := AList.insert (documentKey Ingestion.Sample.operation.version.document) document ∅
    versions := AList.insert (versionKey Ingestion.Sample.operation.version) (version "a b") ∅
    operations := AList.insert Ingestion.Sample.operation.operationId ingestion ∅
    sourceArtifacts := AList.insert Ingestion.Sample.source.sourceArtifactId
      Ingestion.Sample.source ∅
    parsedArtifacts := AList.insert (parsed "a b").parsedArtifactId (parsed "a b") ∅ }

def chunking (operationId : String) (contract : ChunkingContract)
    (named : decide (operationId ≠ "") = true := by exact Eq.refl true) :
    ChunkingOperationIdentity :=
  { operation "a b" with
    operationId, idempotencyKey := operationId
    contractFingerprint := contract.fingerprint contractHashing
    nonEmpty := ⟨(operation "a b").nonEmpty.1, (operation "a b").nonEmpty.2.1,
      of_decide_eq_true named, of_decide_eq_true named, stableHash_ne_empty _⟩ }

def attempted (operation : ChunkingOperationIdentity) (attemptNumber : Nat) (requestId : String)
    (valid : decide (requestId ≠ "" ∧ 0 < attemptNumber) = true := by exact Eq.refl true) :
    ChunkingAttemptIdentity :=
  { operationId := operation.operationId, attemptNumber, requestId, generation := attemptNumber
    nonEmpty := ⟨operation.nonEmpty.2.2.1, (of_decide_eq_true valid).1⟩
    attempt_pos := ⟨(of_decide_eq_true valid).2, (of_decide_eq_true valid).2⟩ }

def first : ChunkingOperationIdentity := chunking "op-chunk-a" (contract .identityV1 1)

def firstClaim : ChunkingClaim := ⟨first, attempted first 2 "request-2", 2, 2⟩

def decision (contract : ChunkingContract) (claim : ChunkingClaim) : ChunkValidationDecision :=
  { outcome := .readyForCommit, safeReason := "CANDIDATE_SOURCE_AND_BUDGET_VALIDATED"
    candidate := some (ChunkingStrategyAdapter.candidateOf contractHashing (parsed "a b") contract
      claim.operation claim.attempt "experiment-96" orderly.chunks)
    ready_iff := by simp }

/-- Two attempts of one operation, whose set is then selected. -/
def selecting : List Call :=
  [.claim day95 first (attempted first 1 "request-1"), .claim day95 first firstClaim.attempt,
   .persist day95 (decision (contract .identityV1 1) firstClaim) (contract .identityV1 1),
   .select day95 (chunkSetIdOf identities first) none 0 2 2 firstClaim]

theorem selection_store_selecting :
    (∀ e ∈ trace (perform contractHashing ClassroomTokenizer.port identities) {} selecting,
      SelectionsStored e.after ∧ ChunksDistinct e.after ∧ SetsKept e ∧ Selects e) ∧
    ∀ front first rest later newer attemptNumber,
      trace (perform contractHashing ClassroomTokenizer.port identities) {} selecting =
        front ++ first :: rest →
      later ∈ rest → Claims newer first → attemptNumber < newer.attempt.attemptNumber →
      Carries newer.operation.operationId attemptNumber later.call → later.after = later.before :=
  selection_store_sound chunkId_injective event_injective selecting

end Sample

end BackendHandbook.Chunking
