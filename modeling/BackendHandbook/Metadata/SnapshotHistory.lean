import BackendHandbook.Chunking.SelectionHistory
import BackendHandbook.Metadata.Changes

/-! Runs of the metadata writer over any lifecycles and chunk sets: what its pointers name, what a
commit adds, and when a refresh applies. -/

namespace BackendHandbook.Metadata

open Ingestion Chunking Run MetadataCommitter

section Statement

variable (hashing : Hashing) (identities : MetadataHashing)

abbrev MetadataEvent := Event InMemoryMetadataStore Call Response

abbrev metadataTrace (calls : List Call) : List MetadataEvent :=
  trace (perform hashing identities) {} calls

def MetadataSnapshot.key (snapshot : MetadataSnapshot) : PointerKey :=
  (snapshot.version.tenantId, snapshot.version.documentId, snapshot.version.documentVersionId,
    snapshot.chunkSetId)

/-- Every pointer names a stored snapshot of its own document version and chunk set. -/
def PointersStored (store : InMemoryMetadataStore) : Prop :=
  ∀ key pointer, store.pointers.lookup key = some pointer → pointer.key = key ∧
    ∃ snapshot, store.snapshots.lookup pointer.snapshotId = some snapshot ∧ snapshot.key = key

variable (before after : InMemoryMetadataStore)

/-- The snapshots, the snapshots bound to result keys, and the operations bound to idempotency keys
stay what they are. -/
structure FactsKept : Prop where
  snapshots : ∀ snapshotId snapshot, before.snapshots.lookup snapshotId = some snapshot →
    after.snapshots.lookup snapshotId = some snapshot
  resultKeys : ∀ key snapshotId, before.resultKeys.lookup key = some snapshotId →
    after.resultKeys.lookup key = some snapshotId
  idempotency : ∀ key operationId, before.idempotency.lookup key = some operationId →
    after.idempotency.lookup key = some operationId
  operations : ∀ operationId operation, before.operations.lookup operationId = some operation →
    after.operations.lookup operationId = some operation

variable (pointer : MetadataSnapshotPointer)

def Advances : Prop :=
  after.pointers.lookup pointer.key = some pointer ∧
    pointer.revision = before.revisionOf pointer.key + 1 ∧
    ∀ other, other ≠ pointer.key → after.pointers.lookup other = before.pointers.lookup other

def Announces : Prop :=
  ∃ intent : MetadataRefreshOutboxIntent, before.outbox.lookup intent.eventId = none ∧
    after.outbox = before.outbox.insert intent.eventId intent ∧ intent.key = pointer.key ∧
    intent.snapshotId = pointer.snapshotId ∧ intent.snapshotRevision = pointer.revision

/-- Only a call that reports a commit moves a pointer, and it announces where it is now; no other
result of a persist goes with any change, and no other call gains or loses an intent. -/
def Commits : MetadataEvent → Prop
  | ⟨before, .persist _ _ _ _, response, after⟩ =>
    (∀ result, response = .ok result → result.outcome = .committed →
      ∃ pointer, result.pointer = some pointer ∧ Advances before after pointer ∧
        Announces before after pointer) ∧
    ((∀ result, response = .ok result → result.outcome ≠ .committed) → after = before)
  | ⟨before, _, _, after⟩ => after.pointers = before.pointers ∧
      ∀ eventId, (after.outbox.lookup eventId).isSome = (before.outbox.lookup eventId).isSome

def Claims (newer : MetadataProjectionClaim) : MetadataEvent → Prop
  | ⟨_, .claim _ _ _ _, response, _⟩ => response = .ok (some newer)
  | _ => False

/-- The call writes under an attempt of the operation of the claim, and an older one. -/
def CarriesOlder (newer : MetadataProjectionClaim) : Call → Prop
  | .persist _ _ decision _ => ∃ candidate, decision.candidate = some candidate ∧
      candidate.operation.operationId = newer.operation.operationId ∧
      (candidate.attempt.attemptNumber < newer.attempt.attemptNumber ∨
        candidate.attempt.generation < newer.attempt.generation)
  | _ => False

def Applies (eventId : String) : MetadataEvent → Prop
  | ⟨_, .applyRefresh applied, response, _⟩ => applied = eventId ∧ response = .applied
  | _ => False

structure SnapshotsSound (calls : List Call) : Prop where
  pointers : ∀ e ∈ metadataTrace hashing identities calls, PointersStored e.after
  commits : ∀ e ∈ metadataTrace hashing identities calls, Commits e
  kept : ∀ e ∈ metadataTrace hashing identities calls, FactsKept e.before e.after
  superseded : ∀ front first rest later newer,
    metadataTrace hashing identities calls = front ++ first :: rest → later ∈ rest →
    Claims newer first → CarriesOlder newer later.call → later.after = later.before
  applied_once : (metadataTrace hashing identities calls).Pairwise fun first later =>
    ∀ eventId, Applies eventId first → ¬ Applies eventId later
  applied_current : ∀ e ∈ metadataTrace hashing identities calls, ∀ eventId, Applies eventId e →
    ∃ intent, e.before.outbox.lookup eventId = some intent ∧ e.before.Current intent

end Statement

variable {eventId : String}

section Soundness

variable {hashing : Hashing} {identities : MetadataHashing} {store after : InMemoryMetadataStore}
variable {call : Call}

/-- What a run keeps of the store, with what its identities digest. -/
structure StoreSound (identities : MetadataHashing) (store : InMemoryMetadataStore) : Prop where
  keyed : ∀ snapshotId snapshot, store.snapshots.lookup snapshotId = some snapshot →
    ∃ resultKey, snapshotId = snapshotIdOf identities resultKey snapshot.assertions ∧
      (store.resultKeys.lookup resultKey).isSome = true
  pointers : PointersStored store
  announced : ∀ eventId intent, store.outbox.lookup eventId = some intent →
    ∃ key revision snapshotId, eventId = refreshEventId identities key revision snapshotId ∧
      revision ≤ store.revisionOf key
  claims : ∀ operationId claim, store.claims.lookup operationId = some claim →
    claim.operation.operationId = operationId

theorem storeSound_empty : StoreSound identities {} := by
  constructor
  · intro snapshotId snapshot found
    simp at found
  · intro key pointer found
    simp at found
  · intro eventId intent found
    simp at found
  · intro operationId claim found
    simp at found

theorem StoreSound.unstored (sound : StoreSound identities store)
    (injective : Function.Injective identities.snapshot) {resultKey : String}
    (fresh : store.resultKeys.lookup resultKey = none) (assertions : List MetadataAssertion) :
    store.snapshots.lookup (snapshotIdOf identities resultKey assertions) = none := by
  cases stored : store.snapshots.lookup (snapshotIdOf identities resultKey assertions) with
  | none => rfl
  | some =>
    rcases sound.keyed _ _ stored with ⟨_, named, bound⟩
    rw [← resultKey_of_snapshotId injective named, fresh] at bound
    cases bound

theorem StoreSound.unannounced (sound : StoreSound identities store)
    (events : Function.Injective identities.event) (key : PointerKey) (snapshotId : String) :
    store.outbox.lookup
      (refreshEventId identities key (store.revisionOf key + 1) snapshotId) = none := by
  cases announced : store.outbox.lookup
      (refreshEventId identities key (store.revisionOf key + 1) snapshotId) with
  | none => rfl
  | some intent =>
    rcases sound.announced _ _ announced with ⟨_, _, _, same, within⟩
    have digests := events (stableHash_injective same)
    rcases Prod.mk.inj digests with ⟨keys, rest⟩
    rcases Prod.mk.inj rest with ⟨revisions, _⟩
    rw [← keys] at within
    omega

theorem revisionOf_write (snapshot : MetadataSnapshot) (pointer : MetadataSnapshotPointer)
    (operation : MetadataProjectionOperation) (key : PointerKey) :
    (write identities snapshot pointer operation store).revisionOf key =
      if key = pointerKey operation then pointer.revision else store.revisionOf key := by
  unfold InMemoryMetadataStore.revisionOf write
  rw [Dict.lookup_insert_eq]
  split
  · rfl
  · rfl

theorem storeSound_write (sound : StoreSound identities store)
    (injective : Function.Injective identities.snapshot) {contract : MetadataContract}
    {candidate : MetadataProjectionCandidate}
    (fresh : store.resultKeys.lookup (candidate.operation.stableResultKey identities) = none) :
    StoreSound identities (write identities (snapshotOf identities contract candidate)
      (nextPointer identities store contract candidate) candidate.operation store) := by
  have unstored := sound.unstored injective fresh candidate.assertions
  constructor
  · refine Dict.forall_insert ⟨_, rfl, ?_⟩ fun _ _ found => ?_
    · simp only [write, AList.lookup_insert]
      rfl
    · rcases sound.keyed _ _ found with ⟨resultKey, named, bound⟩
      exact ⟨resultKey, named, Dict.isSome_insert _ bound⟩
  · refine Dict.forall_insert ⟨rfl, snapshotOf identities contract candidate,
      AList.lookup_insert _, rfl⟩ fun key pointer found => ?_
    · rcases sound.pointers key pointer found with ⟨named, snapshot, stored, owned⟩
      refine ⟨named, snapshot, ?_, owned⟩
      have other : pointer.snapshotId ≠ (snapshotOf identities contract candidate).snapshotId :=
        fun same => nomatch (same ▸ stored).symm.trans unstored
      exact (AList.lookup_insert_ne other).trans stored
  · refine Dict.forall_insert ⟨_, _, _, rfl, ?_⟩ fun eventId intent found => ?_
    · rw [revisionOf_write, if_pos rfl]
    · rcases sound.announced _ _ found with ⟨key, revision, named, same, within⟩
      refine ⟨key, revision, named, same, ?_⟩
      rw [revisionOf_write]
      split
      · next here =>
        rw [here] at within
        exact within.trans (Nat.le_succ _)
      · exact within
  · exact sound.claims

theorem storeSound_change (injective : Function.Injective identities.snapshot)
    (sound : StoreSound identities store) (change : Change identities store call after) :
    StoreSound identities after := by
  cases change with
  | same => exact sound
  | claimed =>
    exact ⟨sound.keyed, sound.pointers, sound.announced, Dict.forall_insert rfl sound.claims⟩
  | committed _ _ _ fresh => exact storeSound_write sound injective fresh
  | applied found =>
    exact ⟨sound.keyed, sound.pointers,
      Dict.forall_insert (sound.announced _ _ found) sound.announced, sound.claims⟩

theorem factsKept_change (injective : Function.Injective identities.snapshot)
    (sound : StoreSound identities store) (change : Change identities store call after) :
    FactsKept store after := by
  cases change with
  | same | applied =>
    exact ⟨fun _ _ held => held, fun _ _ held => held, fun _ _ held => held, fun _ _ held => held⟩
  | claimed existing prior =>
    exact
      { snapshots := fun _ _ held => held
        resultKeys := fun _ _ held => held
        idempotency := fun _ _ held => Dict.lookup_insert_kept prior held
        operations := fun _ _ held => Dict.lookup_insert_kept existing held }
  | @committed _ _ _ _ candidate given current fingerprint fresh =>
    exact
      { snapshots := fun _ _ held =>
          Dict.lookup_insert_kept
            (.inl (sound.unstored injective fresh candidate.assertions)) held
        resultKeys := fun _ _ held => Dict.lookup_insert_kept (.inl fresh) held
        idempotency := fun _ _ held => held
        operations := fun _ _ held => held }

theorem commits_perform (events : Function.Injective identities.event) (call : Call)
    (sound : StoreSound identities store) :
    Commits (event (perform hashing identities) store call) := by
  cases call with
  | claim day95 chunks operation attempt =>
    simp only [event, perform]
    rcases @claim_cases hashing day95 chunks operation attempt store with
      ⟨same, _⟩ | ⟨_, _, _, written⟩
    · rw [same]
      exact ⟨rfl, fun _ => rfl⟩
    · rw [written]
      exact ⟨rfl, fun _ => rfl⟩
  | persist day95 chunks decision contract =>
    simp only [event, perform]
    rcases @persist_cases hashing identities day95 chunks decision contract store with
      ⟨same, other⟩ |
      ⟨candidate, _, _, _, _, ⟨result, answered, committed, moved⟩, written⟩
    · exact ⟨fun result answered done => absurd done (other result answered), fun _ => same⟩
    · refine ⟨fun found answer _ => ?_, fun none => absurd committed (none result answered)⟩
      cases answered.symm.trans answer
      rw [written]
      refine ⟨_, moved, ⟨AList.lookup_insert _, rfl, fun other apart =>
        AList.lookup_insert_ne apart⟩, ?_⟩
      refine ⟨intentOf identities (pointerKey candidate.operation)
        (nextPointer identities store contract candidate), ?_, rfl, rfl, rfl, rfl⟩
      exact sound.unannounced events (pointerKey candidate.operation) _
  | applyRefresh eventId =>
    simp only [event, perform]
    rcases applyRefresh_cases eventId store with ⟨same, _⟩ | ⟨_, found, _, _, written⟩
    · rw [same]
      exact ⟨rfl, fun _ => rfl⟩
    · rw [written]
      refine ⟨rfl, fun other => ?_⟩
      rw [Dict.lookup_insert_eq]
      split
      · next here =>
        rw [here, found]
        rfl
      · rfl

def ClaimedUpTo (newer : MetadataProjectionClaim) (store : InMemoryMetadataStore) : Prop :=
  ∃ current, store.claims.lookup newer.operation.operationId = some current ∧
    newer.attempt.attemptNumber ≤ current.attempt.attemptNumber ∧
    newer.attempt.generation ≤ current.attempt.generation

variable {newer : MetadataProjectionClaim}

theorem claimedUpTo_change (claimed : ClaimedUpTo newer store)
    (change : Change identities store call after) : ClaimedUpTo newer after := by
  cases change with
  | same | committed | applied => exact claimed
  | @claimed _ _ operation attempt existing prior admissible =>
    rcases claimed with ⟨current, found, number, generation⟩
    unfold ClaimedUpTo
    rw [Dict.lookup_insert_eq]
    split
    · next here =>
      rw [← here, found] at admissible ⊢
      rcases admissible with ⟨_, _, _⟩
      refine ⟨_, rfl, ?_, ?_⟩
      · change newer.attempt.attemptNumber ≤ attempt.attemptNumber
        omega
      · change newer.attempt.generation ≤ attempt.generation
        omega
    · exact ⟨current, found, number, generation⟩

theorem superseded_change (claimed : ClaimedUpTo newer store)
    (older : CarriesOlder newer call) (change : Change identities store call after) :
    after = store := by
  cases change with
  | same => rfl
  | claimed | applied => exact older.elim
  | @committed _ _ _ _ candidate given current fingerprint fresh =>
    rcases claimed with ⟨latest, found, number, generation⟩
    rcases older with ⟨_, same, operation, _⟩
    cases given.symm.trans same
    rw [operation, found] at current
    have attempts : latest.attempt = candidate.attempt := Option.some.inj current
    rw [attempts] at number generation
    omega

theorem claimedUpTo_of_claims (sound : StoreSound identities store)
    (claims : Claims newer (event (perform hashing identities) store call)) :
    ClaimedUpTo newer (perform hashing identities call store).2 := by
  cases call with
  | claim day95 chunks operation attempt =>
    simp only [event, perform] at claims
    simp only [perform]
    rcases @claim_cases hashing day95 chunks operation attempt store with
      ⟨same, answered⟩ | ⟨_, _, _, written⟩
    · have found := answered newer claims
      rw [same]
      unfold ClaimedUpTo
      rw [sound.claims _ _ found]
      exact ⟨newer, found, le_rfl, le_rfl⟩
    · rw [written] at claims ⊢
      cases Except.ok.inj claims
      exact ⟨_, AList.lookup_insert _, le_rfl, le_rfl⟩
  | persist | applyRefresh => exact claims.elim

theorem applies_iff : Applies eventId (event (perform hashing identities) store call) ↔
      call = .applyRefresh eventId ∧ (store.applyRefresh eventId).1 = .applied := by
  cases call with
  | claim | persist => exact iff_of_false nofun nofun
  | applyRefresh =>
    simp only [Call.applyRefresh.injEq]
    constructor
    · rintro ⟨rfl, answered⟩
      exact ⟨rfl, answered⟩
    · rintro ⟨rfl, answered⟩
      exact ⟨rfl, answered⟩

theorem applied_change (applied : eventId ∈ store.appliedEvents)
    (change : Change identities store call after) : eventId ∈ after.appliedEvents := by
  cases change with
  | same | claimed | committed => exact applied
  | applied => exact Finset.mem_insert_of_mem applied

end Soundness

section History

variable {hashing : Hashing} {identities : MetadataHashing} {calls : List Call}
variable {e : MetadataEvent}

theorem event_change (member : e ∈ metadataTrace hashing identities calls) :
    Change identities e.before e.call e.after := by
  rw [(mem_trace_performed member).2]
  exact perform_change e.call e.before

theorem storeSound_trace (injective : Function.Injective identities.snapshot)
    (member : e ∈ metadataTrace hashing identities calls) :
    StoreSound identities e.before ∧ StoreSound identities e.after := by
  apply kept_trace (perform hashing identities) (StoreSound identities) {} calls _
    storeSound_empty e member
  intro other inside sound
  exact storeSound_change injective sound (event_change inside)

theorem applies_event (member : e ∈ metadataTrace hashing identities calls)
    (applies : Applies eventId e) : eventId ∉ e.before.appliedEvents ∧
      eventId ∈ e.after.appliedEvents ∧
      ∃ intent, e.before.outbox.lookup eventId = some intent ∧ e.before.Current intent := by
  rw [mem_trace_event _ _ _ e member] at applies
  rcases applies_iff.mp applies with ⟨same, answered⟩
  rw [(mem_trace_performed member).2, same]
  rcases applyRefresh_cases eventId e.before with
    ⟨_, other⟩ | ⟨intent, found, unapplied, current, written⟩
  · exact absurd answered other
  · refine ⟨unapplied, ?_, intent, found, current⟩
    change eventId ∈ (e.before.applyRefresh eventId).2.appliedEvents
    rw [written]
    exact Finset.mem_insert_self _ _

/-- Every run of the writer from the empty store, over any lifecycles and chunk sets, is sound. -/
theorem metadata_snapshots_sound (injective : Function.Injective identities.snapshot)
    (events : Function.Injective identities.event) (calls : List Call) :
    SnapshotsSound hashing identities calls where
  pointers e member := (storeSound_trace injective member).2.pointers
  commits e member := by
    rw [mem_trace_event _ _ _ e member]
    exact commits_perform events e.call (storeSound_trace injective member).1
  kept e member := factsKept_change injective (storeSound_trace injective member).1
    (event_change member)
  superseded front first rest later newer split inside claims older := by
    have listed : ∀ other ∈ first :: rest, other ∈ metadataTrace hashing identities calls :=
      fun other member => split ▸ List.mem_append_right front member
    have here := listed first List.mem_cons_self
    have claimed : ClaimedUpTo newer first.after := by
      rw [mem_trace_event _ _ _ first here] at claims
      rw [(mem_trace_performed here).2]
      exact claimedUpTo_of_claims (storeSound_trace injective here).1 claims
    have reached : ClaimedUpTo newer later.before := by
      apply kept_between (perform hashing identities) _ _ split inside claimed
      intro e member claimed
      exact claimedUpTo_change claimed (event_change member)
    exact superseded_change reached older
      (event_change (listed later (List.mem_cons_of_mem _ inside)))
  applied_once := by
    refine (pairwise_iff_split _ _).mpr ?_
    intro front later back split first inside eventId applies again
    rcases List.append_of_mem inside with ⟨before, between, rfl⟩
    rw [List.append_assoc] at split
    have listed : ∀ other ∈ first :: (between ++ later :: back),
        other ∈ metadataTrace hashing identities calls :=
      fun other member => split ▸ List.mem_append_right before member
    have behind : later ∈ between ++ later :: back := List.mem_append_right _ List.mem_cons_self
    have applied := (applies_event (listed first List.mem_cons_self) applies).2.1
    have held : eventId ∈ later.before.appliedEvents := by
      apply kept_between (perform hashing identities) (eventId ∈ ·.appliedEvents) _ split behind
        applied
      intro e member applied
      exact applied_change applied (event_change member)
    exact (applies_event (listed later (List.mem_cons_of_mem _ behind)) again).1 held
  applied_current e member eventId applies := (applies_event member applies).2.2

end History

namespace Sample

open Chunking.Sample (contractHashing day95)

def valueText : MetadataValue → String
  | .str value => Text.record ["str", value]
  | .int value => Text.record ["int", toString value]
  | .bool value => Text.record ["bool", toString value]
  | .strings values => Text.record ("strings" :: values)

theorem valueText_injective : Function.Injective valueText := by
  intro first second same
  cases first <;> cases second <;> have fields := Text.record_injective same <;>
    simp only [List.cons.injEq, String.reduceEq, false_and, and_true, true_and] at fields
  · rw [fields]
  · rw [Text.int_toString_injective fields]
  · next first second =>
    cases first <;> cases second <;> first | rfl | exact absurd fields (by decide)
  · rw [fields]

def identities : MetadataHashing :=
  { contract := fun contract => contract.version
    resultKey := fun (tenantId, documentId, versionId, chunkSetId, operationId, fingerprint) =>
      Text.record [tenantId, documentId, versionId, chunkSetId, operationId, fingerprint]
    snapshot := fun (resultKey, material) =>
      Text.record (resultKey :: material.map fun (name, value, origin, reference) =>
        Text.record [name, valueText value, origin, reference])
    event := fun ((tenantId, documentId, versionId, chunkSetId), revision, snapshotId) =>
      Text.record [tenantId, documentId, versionId, chunkSetId, toString revision, snapshotId] }

theorem snapshot_injective : Function.Injective identities.snapshot := by
  rintro ⟨_, material⟩ ⟨_, others⟩ same
  have fields := Text.record_injective same
  simp only [List.cons.injEq] at fields
  rcases fields with ⟨keys, texts⟩
  have materials : material = others := by
    apply List.map_injective_iff.mpr _ texts
    rintro ⟨_, _, _, _⟩ ⟨_, _, _, _⟩
      equal
    have parts := Text.record_injective equal
    simp only [List.cons.injEq, and_true] at parts
    rw [parts.1, valueText_injective parts.2.1, parts.2.2.1, parts.2.2.2]
  rw [keys, materials]

theorem refresh_injective : Function.Injective identities.event := by
  rintro ⟨⟨_, _, _, _⟩, _, _⟩
    ⟨⟨otherTenant, otherDocument, otherVersion, otherChunkSet⟩, otherRevision, otherSnapshot⟩ same
  have fields := Text.record_injective same
  simp only [List.cons.injEq, and_true] at fields
  rw [fields.1, fields.2.1, fields.2.2.1, fields.2.2.2.1, Text.toString_injective fields.2.2.2.2.1,
    fields.2.2.2.2.2]

/-- The chunk sets behind the run that selects one. -/
def chunks : InMemoryChunkSetStore :=
  final (Chunking.perform contractHashing ClassroomTokenizer.port Chunking.Sample.identities) {}
    Chunking.Sample.selecting

def contract : MetadataContract :=
  { version := "metadata-v1"
    fields :=
      [{ fieldNamespace := "document", name := "title", valueType := .string
         allowedOrigins := {.parser}, sensitivity := .internal, complete := by decide
         no_filter := nofun }]
    complete := by decide
    unique := by decide }

def operation : MetadataProjectionOperation :=
  { version := Chunking.Sample.first.version
    chunkSetId := chunkSetIdOf Chunking.Sample.identities Chunking.Sample.first
    operationId := "op-metadata", idempotencyKey := "op-metadata"
    contractFingerprint := contract.fingerprint identities
    expectedSelectionRevision := 1, expectedDocumentStateVersion := 2, expectedDocumentFence := 2
    nonEmpty := by decide +kernel
    baseline := by decide }

def attempted (attemptNumber : Nat) (requestId : String)
    (valid : decide (0 < attemptNumber ∧ requestId ≠ "") = true := by exact Eq.refl true) :
    MetadataProjectionAttempt :=
  { operationId := operation.operationId, attemptNumber, requestId, generation := attemptNumber
    nonEmpty := ⟨operation.nonEmpty.2.1, (of_decide_eq_true valid).2⟩
    attempt_pos := ⟨(of_decide_eq_true valid).1, (of_decide_eq_true valid).1⟩ }

def decision (attempt : MetadataProjectionAttempt) (title : String) : MetadataValidationDecision :=
  { outcome := .readyForCommit, safeReason := "METADATA_CANDIDATE_VALIDATED"
    candidate := some
      { operation, attempt
        assertions :=
          [{ qualifiedName := "document.title", value := .str title, origin := .parser
             originReference := "parser", complete := by decide }] }
    ready_iff := by simp }

def refreshed : String :=
  refreshEventId identities (pointerKey operation) 1
    (snapshotIdOf identities (operation.stableResultKey identities)
      [{ qualifiedName := "document.title", value := .str "Report", origin := .parser
         originReference := "parser", complete := by decide }])

/-- The second attempt commits, the first one comes too late, and a refresh is delivered twice. -/
def committing : List Call :=
  [.claim day95 chunks operation (attempted 1 "request-1"),
    .claim day95 chunks operation (attempted 2 "request-2"),
    .persist day95 chunks (decision (attempted 2 "request-2") "Report") contract,
    .persist day95 chunks (decision (attempted 1 "request-1") "Draft") contract,
    .persist day95 chunks (decision (attempted 2 "request-2") "Draft") contract,
    .applyRefresh refreshed, .applyRefresh refreshed]

theorem metadata_snapshots_committing : SnapshotsSound contractHashing identities committing :=
  metadata_snapshots_sound snapshot_injective refresh_injective committing

end Sample

end BackendHandbook.Metadata
