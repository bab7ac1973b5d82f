import BackendHandbook.Foundation.Dict
import BackendHandbook.Foundation.Json
import BackendHandbook.Foundation.Protocols
import BackendHandbook.Foundation.Sorting
import BackendHandbook.Foundation.Text

/-! Accepted jobs and the outbox of their dispatch intents, written by guarded transitions. -/

namespace BackendHandbook.Outbox

/-- Identifiers as `uuid4` draws them, each one new. -/
abbrev Uuid := Nat

/-- Instants and spans of time in seconds. -/
abbrev Seconds := ℚ

def dispatchEventType : String := "job.dispatch_requested"

/-- A request as it arrives: its document references, when it has any, and its other fields. -/
structure Request where
  documents : Option (List String) := none
  fields : List (String × Json.Value) := []

/-- `json.dumps` with sorted keys and compact separators, and SHA-256 of its text. -/
structure Canonical where
  dumps : Request → String
  sha256 : String → String

def computeRequestFingerprint (canonical : Canonical) (request : Request)
    (unorderedDocuments : Bool) : String :=
  let normalized :=
    if unorderedDocuments then
      { request with documents := request.documents.map (Sorting.sortBy id) }
    else request
  canonical.sha256 (canonical.dumps normalized)

inductive JobStatus
  | queued | running | succeeded | failed | cancelled
  deriving DecidableEq

inductive OutboxState
  | unpublished | published | quarantined
  deriving DecidableEq

structure JobRow where
  (jobId tenantId : Uuid)
  (idempotencyKey requestFingerprint : String)
  jobStatus : JobStatus
  documentIds : List String
  createdAt : Seconds
  deriving DecidableEq

structure OutboxRow where
  (outboxEventId jobId : Uuid)
  eventType : String
  payload : List (String × String)
  createdAt : Seconds
  publishedAt : Option Seconds := none
  state : OutboxState := .unpublished
  attemptCount : Nat := 0
  lastError : Option String := none
  nextAttemptAt : Option Seconds := none
  relayOwner : Option String := none
  relayHoldUntil : Option Seconds := none

structure Envelope where
  outboxEventId : Uuid
  eventType : String
  jobId : Uuid
  correlationId : String

def buildEnvelope (row : OutboxRow) : Envelope :=
  ⟨row.outboxEventId, row.eventType, row.jobId, "corr-" ++ toString row.outboxEventId⟩

inductive Raised
  | keyError (key : Uuid)
  | simulatedCommitFailure
  | staleRelay (ownerToken : String) (owner : Option String)
  /-- `FencingError` of a relay whose lease has run out. -/
  | leaseExpired (ownerToken : String)
  | transportError (typeName : String)
  | transportCrashAfterPublish
  | raised (typeName : String)

def redact (typeName : String) : String := typeName ++ ": transport error (redacted)"

def dispatchIntent (outboxEventId jobId : Uuid) (now : Seconds) : OutboxRow where
  outboxEventId := outboxEventId
  jobId := jobId
  eventType := dispatchEventType
  payload := [("job_id", toString jobId)]
  createdAt := now
  nextAttemptAt := some now

def OutboxRow.dispatches (jobId : Uuid) (row : OutboxRow) : Bool :=
  row.jobId = jobId && row.eventType = dispatchEventType

variable (row : OutboxRow) (ownerToken : String) (now : Seconds)

def OutboxRow.requireLiveLease : Except Raised Unit :=
  if row.relayOwner ≠ some ownerToken then .error (.staleRelay ownerToken row.relayOwner)
  else if row.relayHoldUntil.all (now ≥ ·) then .error (.leaseExpired ownerToken)
  else .ok ()

/-- What `claim_outbox_batch` takes: unpublished, due, and under no live lease of another. -/
def OutboxRow.claimable : Bool :=
  row.state = .unpublished && !row.nextAttemptAt.any (now < ·) &&
    !(row.relayOwner.any (· ≠ ownerToken) && row.relayHoldUntil.any (now < ·))

def OutboxRow.heldBy (ownerToken : String) (until_ : Seconds) (row : OutboxRow) : OutboxRow :=
  { row with relayOwner := some ownerToken, relayHoldUntil := some until_ }

def OutboxRow.publishedBy (now : Seconds) (row : OutboxRow) : OutboxRow :=
  { row with
    publishedAt := some now, state := .published, relayOwner := none, relayHoldUntil := none }

def OutboxRow.failedBy (typeName : String) (nextAttemptAt : Seconds) (maxAttempts : Int)
    (row : OutboxRow) : OutboxRow :=
  { row with
    attemptCount := row.attemptCount + 1, lastError := some (redact typeName)
    nextAttemptAt := some nextAttemptAt, relayOwner := none, relayHoldUntil := none
    state := if (row.attemptCount + 1 : Int) ≥ maxAttempts then .quarantined else row.state }

/-- The store; `outbox` keeps its rows in the order they were added. -/
structure InMemoryJobStore where
  jobs : Dict Uuid JobRow := ∅
  byIdem : Dict (Uuid × String) Uuid := ∅
  outbox : List OutboxRow := []
  dispatchIntents : List (Uuid × String) := []
  acceptLock : Bool := false

namespace InMemoryJobStore

variable (store : InMemoryJobStore)

def dispatchIntentFor (jobId : Uuid) : Option OutboxRow := store.outbox.find? (·.dispatches jobId)

def outboxRow (outboxEventId : Uuid) : Except Raised OutboxRow :=
  match store.outbox.find? (·.outboxEventId = outboxEventId) with
  | none => .error (.keyError outboxEventId)
  | some row => .ok row

/-- A change of the row with the identifier, in its place. -/
def updateRow (outboxEventId : Uuid) (change : OutboxRow → OutboxRow) : InMemoryJobStore :=
  { store with
    outbox := store.outbox.map fun row =>
      if row.outboxEventId = outboxEventId then change row else row }

/-- The scan of `claim_outbox_batch`, with as many rows claimed as `claimed` counts. -/
def claimRows (ownerToken : String) (now holdTtl : Seconds) (batchSize : Int) :
    Nat → List OutboxRow → List Uuid × List OutboxRow
  | _, [] => ([], [])
  | claimed, row :: rows =>
    if row.claimable ownerToken now then
      let held := row.heldBy ownerToken (now + holdTtl)
      if (claimed + 1 : Int) ≥ batchSize then ([row.outboxEventId], held :: rows)
      else
        let rest := claimRows ownerToken now holdTtl batchSize (claimed + 1) rows
        (row.outboxEventId :: rest.1, held :: rest.2)
    else
      let rest := claimRows ownerToken now holdTtl batchSize claimed rows
      (rest.1, row :: rest.2)

def claimOutboxBatch (ownerToken : String) (now holdTtl : Seconds) (batchSize : Int) :
    List Uuid × InMemoryJobStore :=
  let claimed := claimRows ownerToken now holdTtl batchSize 0 store.outbox
  (claimed.1, { store with outbox := claimed.2 })

def checkpointPublishedIfOwner (outboxEventId : Uuid) (ownerToken : String) (now : Seconds) :
    Except Raised Unit × InMemoryJobStore :=
  match store.outboxRow outboxEventId with
  | .error raised => (.error raised, store)
  | .ok row =>
    if row.state = .published then (.ok (), store)
    else
      match row.requireLiveLease ownerToken now with
      | .error raised => (.error raised, store)
      | .ok () => (.ok (), store.updateRow outboxEventId (OutboxRow.publishedBy now))

def recordTransportFailure (outboxEventId : Uuid) (ownerToken typeName : String)
    (nextAttemptAt : Seconds) (maxAttempts : Int) (now : Seconds) :
    Except Raised OutboxState × InMemoryJobStore :=
  match store.outboxRow outboxEventId with
  | .error raised => (.error raised, store)
  | .ok row =>
    match row.requireLiveLease ownerToken now with
    | .error raised => (.error raised, store)
    | .ok () =>
      (.ok (OutboxRow.failedBy typeName nextAttemptAt maxAttempts row).state,
        store.updateRow outboxEventId
          (OutboxRow.failedBy typeName nextAttemptAt maxAttempts))

end InMemoryJobStore

/-! The parties at the outbox: requests that are accepted as jobs, and relays. -/

open Interleaving

/-- One operation on the store or on the transport. -/
inductive Call
  | keyedJob (tenantId : Uuid) (idempotencyKey : String)
  | job (jobId : Uuid)
  | dispatchIntentFor (jobId : Uuid)
  | acquire | release | uuid4
  | putJob (job : JobRow)
  | putKey (tenantId : Uuid) (idempotencyKey : String) (jobId : Uuid)
  | putIntent (intent : OutboxRow)
  | addDispatchIntent (jobId : Uuid) (eventType : String)
  | claimOutboxBatch (ownerToken : String) (now holdTtl : Seconds) (batchSize : Int)
  | outboxRow (outboxEventId : Uuid)
  | publish (envelope : Envelope)
  | recordTransportFailure (outboxEventId : Uuid) (ownerToken typeName : String)
      (nextAttemptAt : Seconds) (maxAttempts : Int) (now : Seconds)
  | checkpointPublishedIfOwner (outboxEventId : Uuid) (ownerToken : String) (now : Seconds)

abbrev Call.Answer : Call → Type
  | .keyedJob .. => Option Uuid
  | .job _ => Option JobRow
  | .dispatchIntentFor _ => Option OutboxRow
  | .acquire => Bool
  | .release => Unit
  | .uuid4 => Uuid
  | .putJob _ => Unit
  | .putKey .. => Unit
  | .putIntent _ => Unit
  | .addDispatchIntent .. => Unit
  | .claimOutboxBatch .. => List Uuid
  | .outboxRow _ => OutboxRow
  | .publish _ => Unit
  | .recordTransportFailure .. => OutboxState
  | .checkpointPublishedIfOwner .. => Unit

abbrev Transport := Nat → Envelope → Except Raised Unit

structure World where
  store : InMemoryJobStore := {}
  drawn : Nat := 0
  publishes : Nat := 0

def World.withStore (world : World) (store : InMemoryJobStore) : World := { world with store }

def perform (transport : Transport) : (call : Call) → World → Except Raised call.Answer × World
  | .keyedJob tenantId idempotencyKey, world =>
    (.ok (world.store.byIdem.lookup (tenantId, idempotencyKey)), world)
  | .job jobId, world => (.ok (world.store.jobs.lookup jobId), world)
  | .dispatchIntentFor jobId, world => (.ok (world.store.dispatchIntentFor jobId), world)
  | .acquire, world =>
    if world.store.acceptLock then (.ok false, world)
    else (.ok true, world.withStore { world.store with acceptLock := true })
  | .release, world => (.ok (), world.withStore { world.store with acceptLock := false })
  | .uuid4, world => (.ok world.drawn, { world with drawn := world.drawn + 1 })
  | .putJob job, world =>
    (.ok (), world.withStore
      { world.store with jobs := world.store.jobs.insert job.jobId job })
  | .putKey tenantId idempotencyKey jobId, world =>
    (.ok (), world.withStore
      { world.store with
        byIdem := world.store.byIdem.insert (tenantId, idempotencyKey) jobId })
  | .putIntent intent, world =>
    (.ok (), world.withStore { world.store with outbox := world.store.outbox ++ [intent] })
  | .addDispatchIntent jobId eventType, world =>
    (.ok (), world.withStore
      { world.store with
        dispatchIntents := (jobId, eventType) :: world.store.dispatchIntents })
  | .claimOutboxBatch ownerToken now holdTtl batchSize, world =>
    let claimed := world.store.claimOutboxBatch ownerToken now holdTtl batchSize
    (.ok claimed.1, world.withStore claimed.2)
  | .outboxRow outboxEventId, world => (world.store.outboxRow outboxEventId, world)
  | .publish envelope, world =>
    (transport world.publishes envelope, { world with publishes := world.publishes + 1 })
  | .recordTransportFailure outboxEventId ownerToken typeName nextAttemptAt maxAttempts now,
      world =>
      let result := world.store.recordTransportFailure outboxEventId ownerToken typeName
        nextAttemptAt maxAttempts now
      (result.1, world.withStore result.2)
  | .checkpointPublishedIfOwner outboxEventId ownerToken now, world =>
    let result := world.store.checkpointPublishedIfOwner outboxEventId ownerToken now
    (result.1, world.withStore result.2)

inductive AcceptOutcome
  | created | returnedExisting | conflict | missingIdempotencyKey | documentNotVerified
  deriving DecidableEq

structure AcceptResult where
  outcome : AcceptOutcome
  job : Option JobRow := none
  outbox : Option OutboxRow := none
  reason : String := ""

structure RelayReport where
  published : Nat := 0
  failed : Nat := 0
  quarantined : Nat := 0
  crashedBeforeCheckpoint : Nat := 0

inductive Finished
  | accepted (result : AcceptResult)
  | relayed (report : RelayReport)
  | raised (error : Raised)
  /-- Still at the lock when the run is over. -/
  | waiting

/-- What a party asks outside: the seam behind the read, whether a document is verified and
owned, and the jitter of a delay. -/
inductive Question
  | afterReadHook
  | isVerifiedAndOwned (tenantId : Uuid) (documentId : String)
  | jitter (ceiling : Seconds)

abbrev Question.Reply : Question → Type
  | .afterReadHook => Except Raised Unit
  | .isVerifiedAndOwned .. => Except Raised Bool
  | .jitter _ => Seconds

abbrev OutboxProgram :=
  Program Call (fun call => Except Raised call.Answer) Question Question.Reply Finished

/-- The arguments of one `accept_job`. A thread tries the lock as often as `patience` says;
more patience than the run has turns is never used up. -/
structure AcceptRequest where
  tenantId : Uuid
  idempotencyKey : Option String
  request : Request
  now : Seconds
  unorderedDocuments : Bool := false
  failCommit : Bool := false
  hooked : Bool := false
  patience : Nat := 0

namespace AcceptRequest

variable (canonical : Canonical) (accept : AcceptRequest)

def fingerprint : String :=
  computeRequestFingerprint canonical accept.request accept.unorderedDocuments

def documentIds : List String := accept.request.documents.getD []

def answer (result : AcceptResult) : OutboxProgram := .done (.accepted result)

def existingResult (existing : JobRow) : OutboxProgram :=
  if existing.requestFingerprint = accept.fingerprint canonical then
    await .raised (.dispatchIntentFor existing.jobId) fun intent =>
    answer { outcome := .returnedExisting, job := some existing, outbox := intent }
  else
    answer
      { outcome := .conflict, reason := "idempotency key reused for a different command" }

def releaseRaising (error : Raised) : OutboxProgram :=
  await .raised .release fun _ => .done (.raised error)

def jobRow (key : String) (jobId : Uuid) : JobRow :=
  ⟨jobId, accept.tenantId, key, accept.fingerprint canonical, .queued, accept.documentIds,
    accept.now⟩

/-- Nothing exists under the key: the job and its intent are created together. -/
def create (key : String) : OutboxProgram :=
  await .raised .uuid4 fun jobId =>
  await .raised .uuid4 fun outboxEventId =>
  if accept.failCommit then releaseRaising .simulatedCommitFailure
  else
    await .raised (.putJob (accept.jobRow canonical key jobId)) fun _ =>
    await .raised (.putKey accept.tenantId key jobId) fun _ =>
    await .raised (.putIntent (dispatchIntent outboxEventId jobId accept.now)) fun _ =>
    await .raised (.addDispatchIntent jobId dispatchEventType) fun _ =>
    await .raised .release fun _ =>
    answer
      { outcome := .created, job := some (accept.jobRow canonical key jobId)
        outbox := some (dispatchIntent outboxEventId jobId accept.now) }

/-- `upsert_job_on_conflict` under the lock, and what `accept_job` makes of its answer. -/
def arbitrate (key : String) : OutboxProgram :=
  await .raised (.keyedJob accept.tenantId key) fun
    | none => accept.create canonical key
    | some existingId =>
      await .raised (.job existingId) fun
        | none => releaseRaising (.keyError existingId)
        | some existing =>
          await .raised (.dispatchIntentFor existingId) fun _ =>
          await .raised .release fun _ =>
          accept.existingResult canonical existing

def upsert (key : String) : Nat → OutboxProgram
  | 0 => .done .waiting
  | patience + 1 =>
    await .raised .acquire fun acquired =>
    if acquired then accept.arbitrate canonical key else upsert key patience

/-- Every document that the request refers to is checked before the job is created. -/
def checkDocuments (key : String) : List String → OutboxProgram
  | [] => accept.upsert canonical key accept.patience
  | documentId :: documentIds =>
    .ask (.isVerifiedAndOwned accept.tenantId documentId) fun
      | .error error => .done (.raised error)
      | .ok true => checkDocuments key documentIds
      | .ok false =>
        answer
          { outcome := .documentNotVerified
            reason := "document " ++ documentId ++ " not verified/owned" }

def proceed (key : String) : Option JobRow → OutboxProgram
  | some existing => accept.existingResult canonical existing
  | none => accept.checkDocuments canonical key accept.documentIds

/-- Behind the existence read: the test seam, then the row or the documents. -/
def afterRead (key : String) (existing : Option JobRow) : OutboxProgram :=
  if accept.hooked then
    .ask .afterReadHook fun
      | .error error => .done (.raised error)
      | .ok _ => accept.proceed canonical key existing
  else accept.proceed canonical key existing

def findByIdempotency (key : String) : OutboxProgram :=
  await .raised (.keyedJob accept.tenantId key) fun
    | none => accept.afterRead canonical key none
    | some jobId => await .raised (.job jobId) fun row => accept.afterRead canonical key row

def program : OutboxProgram :=
  match accept.idempotencyKey with
  | none =>
    answer { outcome := .missingIdempotencyKey, reason := "client must supply a key" }
  | some key =>
    if Text.strip key.toList = [] then
      answer { outcome := .missingIdempotencyKey, reason := "client must supply a key" }
    else accept.findByIdempotency canonical key

end AcceptRequest

/-- The delay of `compute_next_attempt`, without its jitter. -/
def backoffDelay (attemptCount : Nat) (baseSeconds capSeconds : Seconds) : Seconds :=
  min (baseSeconds * 2 ^ (attemptCount - 1)) capSeconds

/-- The arguments of one `run_relay_once`. -/
structure RelayPass where
  ownerToken : String
  now : Seconds
  holdTtl : Seconds := 60
  batchSize : Int := 10
  maxAttempts : Int := 5
  baseSeconds : Seconds := 1
  capSeconds : Seconds := 300

namespace RelayPass

variable (pass : RelayPass)

def counted (report : RelayReport) (state : OutboxState) : RelayReport :=
  { report with
    failed := report.failed + 1
    quarantined := if state = .quarantined then report.quarantined + 1 else report.quarantined }

/-- A transport error: the failure is recorded, with the next time to try. -/
def fail (outboxEventId : Uuid) (typeName : String) (next : OutboxState → OutboxProgram) :
    OutboxProgram :=
  await .raised (.outboxRow outboxEventId) fun row =>
  let delay := backoffDelay (row.attemptCount + 1) pass.baseSeconds pass.capSeconds
  .ask (.jitter delay) fun jitter =>
  await .raised (.recordTransportFailure outboxEventId pass.ownerToken typeName
    (pass.now + (delay + jitter)) pass.maxAttempts pass.now) next

/-- The loop over the claimed intents. -/
def deliver (report : RelayReport) : List Uuid → OutboxProgram
  | [] => .done (.relayed report)
  | outboxEventId :: claimed =>
    await .raised (.outboxRow outboxEventId) fun row =>
    .call (.publish (buildEnvelope row)) fun
      | .ok _ =>
        await .raised (.checkpointPublishedIfOwner outboxEventId pass.ownerToken pass.now)
          fun _ => deliver { report with published := report.published + 1 } claimed
      | .error .transportCrashAfterPublish =>
        deliver
          { report with crashedBeforeCheckpoint := report.crashedBeforeCheckpoint + 1 }
          claimed
      | .error (.transportError typeName) =>
        pass.fail outboxEventId typeName fun state =>
        deliver (counted report state) claimed
      | .error error => .done (.raised error)

/-- `run_relay_once`. -/
def program : OutboxProgram :=
  await .raised (.claimOutboxBatch pass.ownerToken pass.now pass.holdTtl pass.batchSize)
    fun claimed => pass.deliver {} claimed

end RelayPass

inductive Party
  | acceptJob (accept : AcceptRequest)
  | relay (pass : RelayPass)

def Party.program (canonical : Canonical) : Party → OutboxProgram
  | .acceptJob accept => accept.program canonical
  | .relay pass => pass.program

/-- One move of the schedule: a party enters, or the party at an index goes on. A party that
no later move resumes has crashed. -/
inductive Action
  | enter (party : Party)
  | resume (index : Nat) (oracle : (question : Question) → question.Reply)

def Action.turn (canonical : Canonical) : Action → Turn Call
    (fun call => Except Raised call.Answer) Question Question.Reply Finished
  | .enter party => .start (party.program canonical)
  | .resume index oracle => .resume index oracle

def parties : List Action → List Party
  | [] => []
  | .enter party :: actions => party :: parties actions
  | .resume _ _ :: actions => parties actions

abbrev OutboxEvent := Run.Event World Call fun call => Except Raised call.Answer

section Schedules

variable (canonical : Canonical) (transport : Transport) (actions : List Action)

def turns : List (Turn Call (fun call => Except Raised call.Answer) Question Question.Reply
    Finished) :=
  actions.map (Action.turn canonical)

/-- The calls of a schedule, in their order. -/
def scheduleCalls : List Call :=
  Interleaving.calls (perform transport) ⟨{}, []⟩ (turns canonical actions)

def schedule : List OutboxEvent :=
  Run.trace (perform transport) {} (scheduleCalls canonical transport actions)

def worldAfter : World :=
  (Interleaving.run (perform transport) ⟨{}, []⟩ (turns canonical actions)).state

/-- What the party at an index has come to. -/
def threadAfter (index : Nat) : Option OutboxProgram :=
  (Interleaving.run (perform transport) ⟨{}, []⟩ (turns canonical actions)).threads[index]?

end Schedules

end BackendHandbook.Outbox
