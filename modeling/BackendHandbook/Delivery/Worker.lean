import BackendHandbook.Streaming.JobStore

/-! The durable job and attempt facts of a delivered run, and the guarded claim. -/

namespace BackendHandbook.Delivery

open Streaming (IntentKind Instant)

inductive JobStatus
  | queued | running | succeeded | failed | cancelled | expired | pendingReconciliation
  | quarantined
  deriving DecidableEq

def JobStatus.value : JobStatus → String
  | .queued => "queued"
  | .running => "running"
  | .succeeded => "succeeded"
  | .failed => "failed"
  | .cancelled => "cancelled"
  | .expired => "expired"
  | .pendingReconciliation => "pending_reconciliation"
  | .quarantined => "quarantined"

def terminalStatuses : List JobStatus := [.succeeded, .failed, .cancelled, .expired, .quarantined]

def liveStatuses : List JobStatus := [.queued, .running, .pendingReconciliation]

def terminalForIntent (kind : IntentKind) : JobStatus :=
  if kind = .userCancellation then .cancelled else .expired

inductive CostState
  | none | reserved | reconciliationPending | settled

structure CancellationIntent where
  kind : IntentKind
  (reason actor : String)
  createdAt : Instant
  version : Nat := 1

structure Attempt where
  (attemptId jobId : String)
  attemptNumber : Nat
  (providerIdempotencyKey correlationId : String)
  providerRequestId : Option String := none
  providerDispatchStartedAt : Option Instant := none
  schemaName : String := "research_summary"
  schemaVersion : String := "v1"

structure Job (Payload : Type) where
  jobId : String
  status : JobStatus
  executionContractVersion : String
  costState : CostState := .reserved
  settledTokens : Option Int := none
  openAttemptId : Option String := none
  leaseOwner : Option String := none
  leaseExpiry : Option Instant := none
  runningSince : Option Instant := none
  intent : Option CancellationIntent := none
  resultArtifact : Option Payload := none
  poisonReason : Option String := none

inductive TransitionOutcome
  | applied | noOp

inductive ClaimStatus
  | granted | conflict | alreadyTerminal | reconcileOnly
  deriving DecidableEq

structure ClaimResult where
  status : ClaimStatus
  attempt : Option Attempt := none

inductive Raised
  | keyError | assertionError

structure JobStore (Payload : Type) where
  jobs : Dict String (Job Payload) := ∅
  attempts : Dict String Attempt := ∅

/-- Five minutes. -/
def lease : Instant := 5 * 60 * 1000000

/-- `_new_id`, on the hexadecimal digits drawn. -/
def newId (kind hex : String) : String := kind ++ "-" ++ hex

inductive Call (Payload : Type)
  | get (jobId : String)
  | openIntent (jobId : String)
  | persistCancellationIntent (jobId : String) (kind : IntentKind) (reason actor : String)
      (now : Instant)
  | claimExecution (jobId workerId : String) (now : Instant)
      (attemptHex correlationHex : String)
  | markProviderDispatchStarting (attemptId : String) (now : Instant)
  | recordProviderRequestId (attemptId providerRequestId : String)
  | markPendingReconciliation (jobId : String)
  | guardedTerminalTransition (jobId : String) (target : JobStatus) (now : Instant)
  | guardedCompleteSuccess (jobId : String) (artifact : Option Payload)
      (actualTokens : Option Int) (now : Instant)
  | quarantineJob (jobId reason : String)

abbrev Call.Answer {Payload : Type} : Call Payload → Type
  | .get _ => Job Payload
  | .openIntent _ => Option CancellationIntent
  | .persistCancellationIntent .. => CancellationIntent
  | .claimExecution .. => ClaimResult
  | .markProviderDispatchStarting .. => Unit
  | .recordProviderRequestId .. => Unit
  | .markPendingReconciliation _ => TransitionOutcome
  | .guardedTerminalTransition .. => TransitionOutcome
  | .guardedCompleteSuccess .. => TransitionOutcome
  | .quarantineJob .. => TransitionOutcome

section Writes

variable {Payload : Type}

def JobStore.createQueuedJob (jobId executionContractVersion : String)
    (store : JobStore Payload) : JobStore Payload :=
  let job := { jobId := jobId, status := .queued, executionContractVersion }
  { store with jobs := store.jobs.insert jobId job }

def Job.persistCancellationIntent (kind : IntentKind) (reason actor : String) (now : Instant)
    (job : Job Payload) : CancellationIntent × Job Payload :=
  match job.intent with
  | some intent => (intent, job)
  | none =>
    let intent := { kind, reason, actor, createdAt := now }
    (intent, { job with intent := some intent })

def Job.markPendingReconciliation (job : Job Payload) : TransitionOutcome × Job Payload :=
  if job.status ∉ [.running, .queued] then (.noOp, job)
  else
    (.applied,
      { job with status := .pendingReconciliation, costState := .reconciliationPending })

def Job.guardedTerminalTransition (target : JobStatus) (job : Job Payload) :
    TransitionOutcome × Job Payload :=
  if job.status ∉ liveStatuses then (.noOp, job)
  else (.applied, { job with status := target })

def Job.guardedCompleteSuccess (artifact : Option Payload) (actualTokens : Option Int)
    (job : Job Payload) : TransitionOutcome × Job Payload :=
  if job.status ∉ liveStatuses then (.noOp, job)
  else
    let succeeded := { job with status := .succeeded, resultArtifact := artifact }
    (.applied, match actualTokens with
      | some tokens => { succeeded with settledTokens := some tokens, costState := .settled }
      | none => { succeeded with costState := .reconciliationPending })

def Job.quarantine (reason : String) (job : Job Payload) : TransitionOutcome × Job Payload :=
  if job.status ∈ terminalStatuses then (.noOp, job)
  else (.applied, { job with status := .quarantined, poisonReason := some reason })

def Attempt.markProviderDispatchStarting (now : Instant) (attempt : Attempt) : Attempt :=
  if attempt.providerDispatchStartedAt.isNone then
    { attempt with providerDispatchStartedAt := some now }
  else attempt

def Attempt.recordProviderRequestId (providerRequestId : String) (attempt : Attempt) : Attempt :=
  if attempt.providerRequestId.isNone then
    { attempt with providerRequestId := some providerRequestId }
  else attempt

def Attempt.hasEvidence (attempt : Attempt) : Bool :=
  attempt.providerRequestId.isSome || attempt.providerDispatchStartedAt.isSome

def Job.leasedToAnother (workerId : String) (now : Instant) (job : Job Payload) : Bool :=
  decide (job.status = .running) && job.leaseOwner.isSome &&
    job.leaseExpiry.any (fun expiry => decide (expiry ≥ now)) &&
    decide (job.leaseOwner ≠ some workerId)

def Job.grant (attemptId workerId : String) (now : Instant) (job : Job Payload) : Job Payload :=
  { job with
    openAttemptId := some attemptId, status := .running, leaseOwner := some workerId
    leaseExpiry := some (now + lease)
    runningSince := if job.runningSince.isNone then some now else job.runningSince }

def JobStore.putJob (jobId : String) (job : Job Payload) (store : JobStore Payload) :
    JobStore Payload :=
  { store with jobs := store.jobs.insert jobId job }

def JobStore.putAttempt (attempt : Attempt) (store : JobStore Payload) : JobStore Payload :=
  { store with attempts := store.attempts.insert attempt.attemptId attempt }

def JobStore.openAttempt? (job : Job Payload) (store : JobStore Payload) : Option Attempt :=
  job.openAttemptId.bind fun attemptId => store.attempts.lookup attemptId

def mintedAttempt (jobId attemptHex correlationHex : String) : Attempt :=
  { attemptId := newId "att" attemptHex
    jobId := jobId, attemptNumber := 1, providerIdempotencyKey := "pik-" ++ jobId ++ "-1"
    correlationId := newId "cor" correlationHex }

variable (jobId workerId : String) (now : Instant) (attemptHex correlationHex : String)

/-- The last part of a claim: the open attempt is retained, or a new one minted. -/
def JobStore.grantExecution (job : Job Payload) (store : JobStore Payload) :
    Except Raised ClaimResult × JobStore Payload :=
  match job.openAttemptId with
  | some attemptId =>
    match store.attempts.lookup attemptId with
    | none => (.error .keyError, store)
    | some attempt =>
      (.ok ⟨.granted, some attempt⟩, store.putJob jobId (job.grant attemptId workerId now))
  | none =>
    let attempt := mintedAttempt jobId attemptHex correlationHex
    (.ok ⟨.granted, some attempt⟩,
      (store.putAttempt attempt).putJob jobId (job.grant attempt.attemptId workerId now))

def JobStore.claimExecution (store : JobStore Payload) :
    Except Raised ClaimResult × JobStore Payload :=
  match store.jobs.lookup jobId with
  | none => (.error .keyError, store)
  | some job =>
    if job.status ∈ terminalStatuses then (.ok ⟨.alreadyTerminal, none⟩, store)
    else if job.status = .pendingReconciliation then
      (.ok ⟨.reconcileOnly, store.openAttempt? job⟩, store)
    else if job.leasedToAnother workerId now then (.ok ⟨.conflict, none⟩, store)
    else
      match (store.openAttempt? job).filter Attempt.hasEvidence with
      | some existing =>
        (.ok ⟨.reconcileOnly, some existing⟩, store.putJob jobId
          { job with status := .pendingReconciliation, costState := .reconciliationPending })
      | none => store.grantExecution jobId workerId now attemptHex correlationHex job

def JobStore.job (jobId : String) (store : JobStore Payload) : Except Raised (Job Payload) :=
  match store.jobs.lookup jobId with
  | none => .error .keyError
  | some job => .ok job

def JobStore.updateJob {A : Type} (jobId : String) (write : Job Payload → A × Job Payload)
    (store : JobStore Payload) : Except Raised A × JobStore Payload :=
  match store.jobs.lookup jobId with
  | none => (.error .keyError, store)
  | some job =>
    let (answer, written) := write job
    (.ok answer, store.putJob jobId written)

/-- `self._attempts[attempt_id]`, and what is written on it. -/
def JobStore.updateAttempt (attemptId : String) (write : Attempt → Attempt)
    (store : JobStore Payload) : Except Raised Unit × JobStore Payload :=
  match store.attempts.lookup attemptId with
  | none => (.error .keyError, store)
  | some attempt =>
    (.ok (), { store with attempts := store.attempts.insert attemptId (write attempt) })

def perform : (call : Call Payload) → JobStore Payload →
    Except Raised call.Answer × JobStore Payload
  | .get jobId, store => (store.job jobId, store)
  | .openIntent jobId, store => ((store.job jobId).map (·.intent), store)
  | .persistCancellationIntent jobId kind reason actor now, store =>
    store.updateJob jobId (Job.persistCancellationIntent kind reason actor now)
  | .claimExecution jobId workerId now attemptHex correlationHex, store =>
    store.claimExecution jobId workerId now attemptHex correlationHex
  | .markProviderDispatchStarting attemptId now, store =>
    store.updateAttempt attemptId (Attempt.markProviderDispatchStarting now)
  | .recordProviderRequestId attemptId providerRequestId, store =>
    store.updateAttempt attemptId (Attempt.recordProviderRequestId providerRequestId)
  | .markPendingReconciliation jobId, store =>
    store.updateJob jobId Job.markPendingReconciliation
  | .guardedTerminalTransition jobId target _, store =>
    store.updateJob jobId (Job.guardedTerminalTransition target)
  | .guardedCompleteSuccess jobId artifact actualTokens _, store =>
    store.updateJob jobId (Job.guardedCompleteSuccess artifact actualTokens)
  | .quarantineJob jobId reason, store => store.updateJob jobId (Job.quarantine reason)

end Writes

/-! One worker on one broker delivery, and the clients that act on the job beside it. -/

open Interleaving
open Streaming (IntentKind Instant ValidationResult)

structure Envelope where
  (envelopeVersion jobId : String)

structure BrokerDelivery where
  deliveryId : String
  envelope : Envelope

def supportedEnvelopeVersions : List String := ["job.dispatch.v1"]

def supportedContractVersions : List String := ["exec.v1"]

inductive ProviderResultKind
  | success | timeout | transient
  deriving DecidableEq

structure ProviderResult (Payload : Type) where
  kind : ProviderResultKind
  payload : Payload
  usageTokens : Option Int := none
  requestId : String

inductive AckMode
  | early | late
  deriving DecidableEq

inductive WorkerOutcome
  | succeeded | envelopePoisonDeadletter | contractPoisonQuarantine | cancelledPreCall
  | cancelledMidStream | cancelledPreCompletion | duplicateNoop | claimConflict | reconcileNoRecall
  | pendingReconciliation | transientRetry | validationRefused

structure WorkerResult where
  outcome : WorkerOutcome
  acked : Bool
  providerCalls : Nat
  jobStatus : JobStatus

/-- What a worker asks outside the store: the provider for an attempt, and the broker. -/
inductive Question
  | run (attemptId providerIdempotencyKey : String)
  | calls
  | ack (deliveryId : String)
  | visibilityTimeout (deliveryId : String)
  | deadLetterDelivery (deliveryId reason : String)
  | revoke (celeryTaskId : String)

abbrev Question.Reply (Payload : Type) : Question → Type
  | .run .. => ProviderResult Payload
  | .calls => Nat
  | .ack _ => Unit
  | .visibilityTimeout _ => Unit
  | .deadLetterDelivery .. => Unit
  | .revoke _ => Unit

inductive Finished
  | raised (error : Raised)
  | worked (result : WorkerResult)
  | intended (intent : CancellationIntent)
  | transitioned (outcome : TransitionOutcome)

abbrev DeliveryProgram (Payload : Type) :=
  Program (Call Payload) (fun call => Except Raised call.Answer) Question
    (Question.Reply Payload) Finished

/-- The arguments of one `run_worker`, and the digits its claim would draw. -/
structure WorkerExecution (Payload : Type) where
  delivery : BrokerDelivery
  workerId : String
  now : Instant
  ackMode : AckMode := .late
  validate : String → String → Payload → ValidationResult Payload
  cancelBeforeCompletion : Bool := false
  (attemptHex correlationHex : String)

section Programs

variable {Payload : Type}

def call (request : Call Payload) (next : request.Answer → DeliveryProgram Payload) :
    DeliveryProgram Payload :=
  await .raised request next

def finish (outcome : WorkerOutcome) (acked : Bool) (status : JobStatus) :
    DeliveryProgram Payload :=
  .ask .calls fun calls => .done (.worked ⟨outcome, acked, calls, status⟩)

def report (jobId : String) (outcome : WorkerOutcome) (acked : Bool) : DeliveryProgram Payload :=
  .ask .calls fun calls =>
  call (.get jobId) fun job =>
  .done (.worked ⟨outcome, acked, calls, job.status⟩)

namespace WorkerExecution

variable (execution : WorkerExecution Payload)

def ack (next : DeliveryProgram Payload) : DeliveryProgram Payload :=
  .ask (.ack execution.delivery.deliveryId) fun _ => next

def ackLate (next : DeliveryProgram Payload) : DeliveryProgram Payload :=
  if execution.ackMode = .late then execution.ack next else next

def ackEarly (next : DeliveryProgram Payload) : DeliveryProgram Payload :=
  if execution.ackMode = .early then execution.ack next else next

variable (jobId : String)

def cancelPreCall (intent : CancellationIntent) : DeliveryProgram Payload :=
  call (.guardedTerminalTransition jobId (terminalForIntent intent.kind) execution.now) fun _ =>
  execution.ack (report jobId .cancelledPreCall true)

def cancelPreCompletion (intent : CancellationIntent) : DeliveryProgram Payload :=
  call (.guardedTerminalTransition jobId (terminalForIntent intent.kind) execution.now) fun _ =>
  execution.ackLate (report jobId .cancelledPreCompletion true)

def complete (domainResult : Option Payload) (usageTokens : Option Int) : DeliveryProgram Payload :=
  call (.openIntent jobId) fun
    | some intent => execution.cancelPreCompletion jobId intent
    | none =>
      call (.guardedCompleteSuccess jobId domainResult usageTokens execution.now) fun _ =>
      execution.ackLate (report jobId .succeeded true)

variable (attempt : Attempt)

/-- What follows the provider's answer. -/
def settle (result : ProviderResult Payload) : DeliveryProgram Payload :=
  if result.kind = .timeout then
    call (.markPendingReconciliation jobId) fun _ =>
    execution.ackLate (finish .pendingReconciliation true .pendingReconciliation)
  else if result.kind = .transient then
    if execution.ackMode = .late then
      .ask (.visibilityTimeout execution.delivery.deliveryId) fun _ =>
      report jobId .transientRetry false
    else report jobId .transientRetry false
  else
    let checked := execution.validate attempt.schemaName attempt.schemaVersion result.payload
    if checked.outcome ≠ .valid then
      call (.markPendingReconciliation jobId) fun _ =>
      execution.ackLate (report jobId .validationRefused true)
    else if execution.cancelBeforeCompletion then
      call (.persistCancellationIntent jobId .userCancellation "late user cancel" "user"
        execution.now) fun _ =>
      execution.complete jobId checked.domainResult result.usageTokens
    else execution.complete jobId checked.domainResult result.usageTokens

def callProvider : DeliveryProgram Payload :=
  call (.markProviderDispatchStarting attempt.attemptId execution.now) fun _ =>
  .ask (.run attempt.attemptId attempt.providerIdempotencyKey) fun result =>
  call (.recordProviderRequestId attempt.attemptId result.requestId) fun _ =>
  execution.settle jobId attempt result

def execute : DeliveryProgram Payload :=
  call (.openIntent jobId) fun
    | some intent => execution.cancelPreCall jobId intent
    | none => execution.ackEarly (execution.callProvider jobId attempt)

def claim : DeliveryProgram Payload :=
  call (.claimExecution jobId execution.workerId execution.now execution.attemptHex
    execution.correlationHex) fun claim =>
  match claim.status, claim.attempt with
  | .alreadyTerminal, _ => execution.ack (report jobId .duplicateNoop true)
  | .conflict, _ => report jobId .claimConflict false
  | .reconcileOnly, _ => execution.ack (finish .reconcileNoRecall true .pendingReconciliation)
  | .granted, none => .done (.raised .assertionError)
  | .granted, some attempt => execution.execute jobId attempt

def checkContract (job : Job Payload) : DeliveryProgram Payload :=
  if job.executionContractVersion ∉ supportedContractVersions then
    call (.quarantineJob job.jobId
      ("unsupported contract " ++ job.executionContractVersion)) fun _ =>
    execution.ack (report job.jobId .contractPoisonQuarantine true)
  else execution.claim job.jobId

/-- `run_worker`; the live record's status is read behind the intent. -/
def program : DeliveryProgram Payload :=
  let envelope := execution.delivery.envelope
  if envelope.envelopeVersion ∉ supportedEnvelopeVersions then
    .ask (.deadLetterDelivery execution.delivery.deliveryId
      ("unsupported envelope " ++ envelope.envelopeVersion)) fun _ =>
    execution.ack (finish .envelopePoisonDeadletter true .queued)
  else
    call (.get envelope.jobId) fun job =>
    call (.openIntent job.jobId) fun
      | none => execution.checkContract job
      | some intent =>
        call (.get envelope.jobId) fun live =>
        if live.status = .queued then execution.cancelPreCall job.jobId intent
        else execution.checkContract job

end WorkerExecution

def celeryTaskIdForJob (jobId : String) : String := jobId

/-- The arguments of one `request_cancellation`; `revoke` tells whether the callable is given. -/
structure CancellationRequest where
  (jobId actor reason : String)
  now : Instant
  kind : IntentKind := .userCancellation
  revoke : Bool := false

def CancellationRequest.program (request : CancellationRequest) : DeliveryProgram Payload :=
  call (.persistCancellationIntent request.jobId request.kind request.reason request.actor
    request.now) fun intent =>
  if request.revoke then
    .ask (.revoke (celeryTaskIdForJob request.jobId)) fun _ => .done (.intended intent)
  else .done (.intended intent)

end Programs

/-- The parties that act on a job. -/
inductive Client (Payload : Type)
  | runWorker (execution : WorkerExecution Payload)
  | requestCancellation (request : CancellationRequest)
  | markPendingReconciliation (jobId : String)
  | guardedTerminalTransition (jobId : String) (target : JobStatus) (now : Instant)

section Clients

variable {Payload : Type}

def Client.program : Client Payload → DeliveryProgram Payload
  | .runWorker execution => execution.program
  | .requestCancellation request => request.program
  | .markPendingReconciliation jobId =>
    call (.markPendingReconciliation jobId) fun outcome => .done (.transitioned outcome)
  | .guardedTerminalTransition jobId target now =>
    call (.guardedTerminalTransition jobId target now) fun outcome =>
    .done (.transitioned outcome)

/-- One move of the schedule: a client enters, or the client at an index goes on. A client
that no later move resumes has crashed. -/
inductive Action (Payload : Type)
  | enter (client : Client Payload)
  | resume (index : Nat) (oracle : (question : Question) → question.Reply Payload)

def Action.turn : Action Payload → Turn (Call Payload) (fun call => Except Raised call.Answer)
    Question (Question.Reply Payload) Finished
  | .enter client => .start client.program
  | .resume index oracle => .resume index oracle

variable (store : JobStore Payload)

def pool : Pool (JobStore Payload) (Call Payload) (fun call => Except Raised call.Answer) Question
      (Question.Reply Payload) Finished :=
  { state := store, threads := [] }

def storeCalls (actions : List (Action Payload)) : List (Call Payload) :=
  Interleaving.calls perform (pool store) (actions.map Action.turn)

/-- The questions that an interleaving of clients puts outside. -/
def questionsAsked (actions : List (Action Payload)) : List Question :=
  Interleaving.questions perform (pool store) (actions.map Action.turn)

end Clients

end BackendHandbook.Delivery
