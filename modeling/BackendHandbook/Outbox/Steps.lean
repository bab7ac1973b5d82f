import BackendHandbook.Outbox.Protocol

/-! What one call can do to the jobs, their keys and their intents. -/

namespace BackendHandbook.Outbox

open InMemoryJobStore

/-- What of a row no relay changes. -/
def OutboxRow.identity (row : OutboxRow) : Uuid × Uuid × String × List (String × String) :=
  (row.outboxEventId, row.jobId, row.eventType, row.payload)

def InMemoryJobStore.identities (store : InMemoryJobStore) :
    List (Uuid × Uuid × String × List (String × String)) :=
  store.outbox.map OutboxRow.identity

section Identities

variable {store : InMemoryJobStore}

theorem claimRows_identities (ownerToken : String) (now holdTtl : Seconds) (batchSize : Int)
    (claimed : Nat) (rows : List OutboxRow) :
    (claimRows ownerToken now holdTtl batchSize claimed rows).2.map
      OutboxRow.identity = rows.map OutboxRow.identity := by
  induction rows generalizing claimed with
  | nil => rfl
  | cons _ _ ih =>
    unfold claimRows
    split
    · split
      · rfl
      · simp only [List.map_cons, ih]
        rfl
    · simp [ih]

theorem updateRow_identities (outboxEventId : Uuid) {change : OutboxRow → OutboxRow}
    (same : ∀ row, (change row).identity = row.identity) :
    (store.updateRow outboxEventId change).identities = store.identities := by
  simp only [InMemoryJobStore.identities, updateRow, List.map_map]
  apply List.map_congr_left
  intro row _
  simp only [Function.comp_apply]
  split
  · exact same row
  · rfl

/-- The call leaves the jobs, their keys and the lock, and what is fixed of the intents. -/
structure Framed (before after : World) : Prop where
  jobs : after.store.jobs = before.store.jobs
  byIdem : after.store.byIdem = before.store.byIdem
  identities : after.store.identities = before.store.identities
  acceptLock : after.store.acceptLock = before.store.acceptLock
  drawn : before.drawn ≤ after.drawn

theorem Framed.refl (world : World) : Framed world world := ⟨rfl, rfl, rfl, rfl, le_refl _⟩

theorem framed_of_identities {world : World} {after : InMemoryJobStore}
    (same : ∃ outbox, after = { world.store with outbox := outbox } ∧
      outbox.map OutboxRow.identity = world.store.identities) :
    Framed world (world.withStore after) := by
  rcases same with ⟨_, rfl, identities⟩
  exact ⟨rfl, rfl, identities, rfl, le_refl _⟩

variable (store : InMemoryJobStore) (outboxEventId : Uuid)

theorem recordTransportFailure_cases
    (ownerToken typeName : String) (nextAttemptAt : Seconds) (maxAttempts : Int) (now : Seconds) :
    (∃ raised, store.recordTransportFailure outboxEventId ownerToken typeName nextAttemptAt
        maxAttempts now = (.error raised, store)) ∨ ∃ row, store.outboxRow outboxEventId = .ok row ∧
        row.requireLiveLease ownerToken now = .ok () ∧
        store.recordTransportFailure outboxEventId ownerToken typeName nextAttemptAt maxAttempts
            now =
          (.ok (OutboxRow.failedBy typeName nextAttemptAt maxAttempts row).state,
            store.updateRow outboxEventId
              (OutboxRow.failedBy typeName nextAttemptAt maxAttempts)) := by
  unfold InMemoryJobStore.recordTransportFailure
  cases found : store.outboxRow outboxEventId with
  | error raised => exact .inl ⟨raised, rfl⟩
  | ok row =>
    dsimp only
    cases live : row.requireLiveLease ownerToken now with
    | error raised => exact .inl ⟨raised, rfl⟩
    | ok => exact .inr ⟨row, rfl, live, rfl⟩

theorem checkpointPublishedIfOwner_cases (ownerToken : String) (now : Seconds) :
    (∃ answer, store.checkpointPublishedIfOwner outboxEventId ownerToken now = (answer, store)) ∨
      ∃ row, store.outboxRow outboxEventId = .ok row ∧ row.state ≠ .published ∧
        row.requireLiveLease ownerToken now = .ok () ∧
        store.checkpointPublishedIfOwner outboxEventId ownerToken now =
          (.ok (), store.updateRow outboxEventId (OutboxRow.publishedBy now)) := by
  unfold InMemoryJobStore.checkpointPublishedIfOwner
  cases found : store.outboxRow outboxEventId with
  | error => exact .inl ⟨_, rfl⟩
  | ok row =>
    dsimp only
    by_cases published : row.state = .published
    · rw [if_pos published]
      exact .inl ⟨_, rfl⟩
    · rw [if_neg published]
      cases live : row.requireLiveLease ownerToken now with
      | error => exact .inl ⟨_, rfl⟩
      | ok => exact .inr ⟨row, rfl, published, live, rfl⟩

end Identities

/-- A write of an acceptance, or a step at its lock. -/
def Call.transacts : Call → Bool
  | .acquire | .release | .putJob _ | .putKey .. | .putIntent _ => true
  | _ => false

theorem perform_framed (transport : Transport) (call : Call) (world : World)
    (untouched : call.transacts = false) : Framed world (perform transport call world).2 := by
  cases call with
  | keyedJob | job | dispatchIntentFor | outboxRow => exact .refl world
  | acquire | release | putJob | putKey | putIntent => cases untouched
  | uuid4 => exact ⟨rfl, rfl, rfl, rfl, Nat.le_succ _⟩
  | addDispatchIntent | publish => exact ⟨rfl, rfl, rfl, rfl, le_refl _⟩
  | claimOutboxBatch ownerToken now holdTtl batchSize =>
    exact framed_of_identities ⟨_, rfl, claimRows_identities ownerToken now holdTtl batchSize 0 _⟩
  | recordTransportFailure outboxEventId ownerToken typeName nextAttemptAt maxAttempts now =>
    simp only [perform]
    rcases recordTransportFailure_cases world.store outboxEventId ownerToken typeName
      nextAttemptAt maxAttempts now with ⟨_, refused⟩ | ⟨row, _, _, recorded⟩
    · rw [refused]
      exact .refl world
    · rw [recorded]
      exact framed_of_identities ⟨_, rfl, updateRow_identities outboxEventId fun row => rfl⟩
  | checkpointPublishedIfOwner outboxEventId ownerToken now =>
    simp only [perform]
    rcases checkpointPublishedIfOwner_cases world.store outboxEventId ownerToken now with
      ⟨_, kept⟩ | ⟨row, _, _, _, written⟩
    · rw [kept]
      exact .refl world
    · rw [written]
      exact framed_of_identities ⟨_, rfl, updateRow_identities outboxEventId fun row => rfl⟩

section Consistent

/-- An identifier that has been drawn for an intent, and has none yet. -/
def Unused (world : World) (outboxEventId : Uuid) : Prop :=
  outboxEventId < world.drawn ∧ ∀ identity ∈ world.store.identities, identity.1 ≠ outboxEventId

/-- What the thread under the lock has found, as long as nobody else writes. -/
def Phase.Fits (world : World) : Phase → Prop
  | .outside => True
  | .inside => True
  | .vacant tenantId key => world.store.byIdem.lookup (tenantId, key) = none
  | .named tenantId key jobId => world.store.byIdem.lookup (tenantId, key) = none ∧
      jobId < world.drawn ∧ world.store.jobs.lookup jobId = none
  | .drawn tenantId key jobId outboxEventId =>
    world.store.byIdem.lookup (tenantId, key) = none ∧ jobId < world.drawn ∧
      world.store.jobs.lookup jobId = none ∧ Unused world outboxEventId
  | .jobPut tenantId key jobId outboxEventId =>
    world.store.byIdem.lookup (tenantId, key) = none ∧
      (∃ job, world.store.jobs.lookup jobId = some job ∧ job.tenantId = tenantId ∧
        job.idempotencyKey = key) ∧ Unused world outboxEventId
  | .keyPut jobId outboxEventId =>
    (world.store.jobs.lookup jobId).isSome = true ∧ Unused world outboxEventId

def dispatching (jobId : Uuid) (identity : Uuid × Uuid × String × List (String × String)) : Bool :=
  identity.2.1 = jobId && identity.2.2.1 = dispatchEventType

variable (store : InMemoryJobStore) (jobId : Uuid)

def InMemoryJobStore.intents : Nat := store.outbox.countP (·.dispatches jobId)

theorem intents_eq : store.intents jobId = store.identities.countP (dispatching jobId) := by
  rw [InMemoryJobStore.identities, List.countP_map]
  rfl

/-- Jobs, keys and intents go together, up to what the thread under the lock has still to
write. -/
structure Consistent (world : World) (current : Phase) : Prop where
  named : ∀ jobId job, world.store.jobs.lookup jobId = some job →
    job.jobId = jobId ∧ jobId < world.drawn
  keyed : ∀ tenantId key jobId, world.store.byIdem.lookup (tenantId, key) = some jobId →
    ∃ job, world.store.jobs.lookup jobId = some job ∧ job.tenantId = tenantId ∧
      job.idempotencyKey = key
  found : ∀ jobId job, world.store.jobs.lookup jobId = some job →
    world.store.byIdem.lookup (job.tenantId, job.idempotencyKey) = some jobId ∨
      ∃ outboxEventId, current = .jobPut job.tenantId job.idempotencyKey jobId outboxEventId
  intents : ∀ jobId, world.store.identities.countP (dispatching jobId) =
    if (world.store.jobs.lookup jobId).isSome = true ∧ current.pends jobId = false then 1 else 0
  rows : ∀ identity ∈ world.store.identities,
    identity.1 < world.drawn ∧ identity.2.2.1 = dispatchEventType
  distinct : (world.store.identities.map Prod.fst).Nodup
  fits : current.Fits world

variable {before after world : World} {current next : Phase}

variable {outboxEventId : Uuid}

theorem Unused.framed (unused : Unused before outboxEventId)
    (frame : Framed before after) : Unused after outboxEventId :=
  ⟨unused.1.trans_le frame.drawn, by rw [frame.identities]; exact unused.2⟩

theorem Phase.Fits.framed (fits : current.Fits before) (frame : Framed before after) :
    current.Fits after := by
  cases current with
  | outside | inside => trivial
  | vacant =>
    rw [Fits, frame.byIdem]
    exact fits
  | named =>
    rw [Fits, frame.byIdem, frame.jobs]
    exact ⟨fits.1, fits.2.1.trans_le frame.drawn, fits.2.2⟩
  | drawn =>
    rw [Fits, frame.byIdem, frame.jobs]
    exact ⟨fits.1, fits.2.1.trans_le frame.drawn, fits.2.2.1, fits.2.2.2.framed frame⟩
  | jobPut =>
    rw [Fits, frame.byIdem, frame.jobs]
    exact ⟨fits.1, fits.2.1, fits.2.2.framed frame⟩
  | keyPut =>
    rw [Fits, frame.jobs]
    exact ⟨fits.1, fits.2.framed frame⟩

theorem Consistent.framed (holds : Consistent before current) (frame : Framed before after) :
    Consistent after current := by
  constructor
  · intro jobId job listed
    rw [frame.jobs] at listed
    have known := holds.named jobId job listed
    exact ⟨known.1, known.2.trans_le frame.drawn⟩
  · rw [frame.byIdem, frame.jobs]
    exact holds.keyed
  · rw [frame.byIdem, frame.jobs]
    exact holds.found
  · rw [frame.identities, frame.jobs]
    exact holds.intents
  · intro identity member
    rw [frame.identities] at member
    have known := holds.rows identity member
    exact ⟨known.1.trans_le frame.drawn, known.2⟩
  · rw [frame.identities]
    exact holds.distinct
  · exact holds.fits.framed frame

theorem Consistent.moved (holds : Consistent world current)
    (same : ∀ jobId, next.pends jobId = current.pends jobId)
    (unput : ∀ tenantId key jobId outboxEventId, current ≠ .jobPut tenantId key jobId outboxEventId)
    (fits : next.Fits world) : Consistent world next := by
  refine ⟨holds.named, holds.keyed, ?_, ?_, holds.rows, holds.distinct, fits⟩
  · intro jobId job listed
    rcases holds.found jobId job listed with keyed | ⟨_, putting⟩
    · exact .inl keyed
    · exact absurd putting (unput _ _ _ _)
  · intro jobId
    rw [same]
    exact holds.intents jobId

theorem Consistent.putJob {job : JobRow} (holds : Consistent world
      (.drawn job.tenantId job.idempotencyKey job.jobId outboxEventId)) :
    Consistent (world.withStore { world.store with jobs := world.store.jobs.insert job.jobId job })
      (.jobPut job.tenantId job.idempotencyKey job.jobId outboxEventId) := by
  rcases holds.fits with ⟨vacant, named, absent, unused⟩
  constructor
  · exact Dict.forall_insert ⟨rfl, named⟩ holds.named
  · intro tenantId key jobId keyed
    rcases holds.keyed tenantId key jobId keyed with ⟨stored, listed, agrees⟩
    have other : jobId ≠ job.jobId := Dict.ne_of_absent absent listed
    refine ⟨stored, ?_, agrees⟩
    simp only [World.withStore, Dict.lookup_insert_eq, if_neg other]
    exact listed
  · refine Dict.forall_insert (.inr ⟨outboxEventId, rfl⟩) fun jobId stored listed => ?_
    rcases holds.found jobId stored listed with keyed | ⟨_, putting⟩
    · exact .inl keyed
    · cases putting
  · intro jobId
    have count := holds.intents jobId
    change world.store.identities.countP (dispatching jobId) = _
    rw [count]
    simp only [World.withStore, Dict.lookup_insert_eq, Phase.pends]
    by_cases same : jobId = job.jobId
    · subst same
      simp [absent]
    · have other : ¬ job.jobId = jobId := fun equal => same equal.symm
      simp [if_neg same, other]
  · exact holds.rows
  · exact holds.distinct
  · refine ⟨vacant, ⟨job, ?_, rfl, rfl⟩, unused⟩
    simp [World.withStore]

theorem Consistent.putKey {tenantId jobId : Uuid} {key : String}
    (holds : Consistent world (.jobPut tenantId key jobId outboxEventId)) :
    Consistent (world.withStore
        { world.store with byIdem := world.store.byIdem.insert (tenantId, key) jobId })
      (.keyPut jobId outboxEventId) := by
  rcases holds.fits with ⟨vacant, ⟨job, listed, ofTenant, underKey⟩, unused⟩
  constructor
  · exact holds.named
  · intro tenant other keyedId keyed
    simp only [World.withStore, Dict.lookup_insert_eq] at keyed
    split at keyed
    · next same =>
      cases keyed
      cases same
      exact ⟨job, listed, ofTenant, underKey⟩
    · exact holds.keyed tenant other keyedId keyed
  · intro other stored found
    refine .inl ?_
    simp only [World.withStore, Dict.lookup_insert_eq]
    rcases holds.found other stored found with keyed | ⟨_, putting⟩
    · have different : (stored.tenantId, stored.idempotencyKey) ≠ (tenantId, key) :=
   Dict.ne_of_absent vacant keyed
      rw [if_neg different]
      exact keyed
    · cases putting
      rw [if_pos rfl]
  · exact holds.intents
  · exact holds.rows
  · exact holds.distinct
  · exact ⟨by rw [World.withStore, listed]; rfl, unused⟩

theorem Consistent.putIntent {jobId : Uuid}
    (holds : Consistent world (.keyPut jobId outboxEventId)) (now : Seconds) :
    Consistent (world.withStore { world.store with
          outbox := world.store.outbox ++ [dispatchIntent outboxEventId jobId now] })
      .inside := by
  rcases holds.fits with ⟨present, fresh, unused⟩
  have grown : InMemoryJobStore.identities
      { world.store with
        outbox := world.store.outbox ++ [dispatchIntent outboxEventId jobId now] } =
      world.store.identities ++ [(dispatchIntent outboxEventId jobId now).identity] := by
    simp [InMemoryJobStore.identities]
  constructor
  · exact holds.named
  · exact holds.keyed
  · intro other stored found
    rcases holds.found other stored found with keyed | ⟨_, putting⟩
    · exact .inl keyed
    · cases putting
  · intro other
    have count := holds.intents other
    simp only [World.withStore, grown, List.countP_append, List.countP_singleton] at count ⊢
    rw [count]
    have own : dispatching other (dispatchIntent outboxEventId jobId now).identity =
        decide (jobId = other) := by
      simp [dispatching, dispatchIntent, OutboxRow.identity]
    rw [own]
    simp only [Phase.pends]
    by_cases same : jobId = other
    · subst same
      simp [present]
    · simp [same]
  · intro identity member
    simp only [World.withStore, grown] at member
    rcases List.mem_append.mp member with old | new
    · exact holds.rows identity old
    · rw [List.mem_singleton.mp new]
      exact ⟨fresh, rfl⟩
  · simp only [World.withStore, grown, List.map_append]
    rw [List.nodup_append]
    refine ⟨holds.distinct, List.nodup_singleton _, ?_⟩
    intro first member second new
    rcases List.mem_map.mp member with ⟨identity, inside, rfl⟩
    rw [List.mem_singleton.mp new]
    exact unused identity inside
  · trivial

end Consistent

end BackendHandbook.Outbox
