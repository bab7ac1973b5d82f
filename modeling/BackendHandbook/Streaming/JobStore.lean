import BackendHandbook.Foundation.Dict
import BackendHandbook.Foundation.Protocols

/-! The durable job facts of a streamed run, and the guarded writes of its store. -/

namespace BackendHandbook.Streaming

inductive JobStatus
  | queued | running | succeeded | failed | cancelled | expired | pendingReconciliation
  deriving DecidableEq

def JobStatus.value : JobStatus → String
  | .queued => "queued"
  | .running => "running"
  | .succeeded => "succeeded"
  | .failed => "failed"
  | .cancelled => "cancelled"
  | .expired => "expired"
  | .pendingReconciliation => "pending_reconciliation"

def terminalStatuses : List JobStatus := [.succeeded, .failed, .cancelled, .expired]

def liveStatuses : List JobStatus := [.queued, .running, .pendingReconciliation]

inductive CostState
  | reserved | settled | reconciliationPending
  deriving DecidableEq

inductive IntentKind
  | userCancellation | deadlineExpiry
  deriving DecidableEq

/-- A point in time, in microseconds. -/
abbrev Instant := Int

structure CancellationIntent where
  (intentId jobId : String)
  kind : IntentKind
  (reason actor : String)
  requestedAt : Instant
  releaseVersion : Option String
  deriving DecidableEq

inductive ValidationOutcome
  | valid | schemaNotFound | contractViolation
  deriving DecidableEq

structure ValidationResult (Payload : Type) where
  outcome : ValidationOutcome
  domainResult : Option Payload := none

structure JobEvent where
  (type jobId : String)
  correlationId : Option String
  safeFields : List (String × Option String) := []

/-- The artifacts that the worker and the late ingestion write. -/
inductive ResultArtifact (Payload : Type)
  | streamed (summary : String) (providerRequestId : Option String)
  | late (domainResult : Option Payload)
      (schemaName schemaVersion providerRequestId correlationId : Option String)
  deriving DecidableEq

structure Job (Payload : Type) where
  jobId : String
  status : JobStatus := .running
  costState : CostState := .reserved
  settledTokens : Option Int := none
  resultArtifact : Option (ResultArtifact Payload) := none
  events : List JobEvent := []
  intents : List CancellationIntent := []
  providerRequestId : Option String := none
  correlationId : Option String := none
  attemptId : Option String := none
  schemaName : Option String := none
  schemaVersion : Option String := none

inductive TransitionOutcome
  | won | zeroRows
  deriving DecidableEq

inductive Raised
  | keyError
  deriving DecidableEq

structure JobStore (Payload : Type) where
  jobs : Dict String (Job Payload) := ∅

def terminalForIntent (kind : IntentKind) : JobStatus :=
  if kind = .deadlineExpiry then .expired else .cancelled

section Writes

variable {Payload : Type}

def Job.addEvent (jobId eventType : String) (safeFields : List (String × Option String))
    (job : Job Payload) : Job Payload :=
  { job with events := job.events ++ [⟨eventType, jobId, job.correlationId, safeFields⟩] }

def Job.guardedCompleteSuccess (jobId : String) (artifact : ResultArtifact Payload)
    (actualTokens : Option Int) (job : Job Payload) : TransitionOutcome × Job Payload :=
  if job.status ∉ liveStatuses then (.zeroRows, job)
  else
    let succeeded := { job with status := .succeeded }
    let settled := match actualTokens with
      | some tokens => { succeeded with costState := .settled, settledTokens := some tokens }
      | none => { succeeded with costState := .reconciliationPending }
    (.won, Job.addEvent jobId "job.succeeded" [] { settled with resultArtifact := some artifact })

def Job.guardedTerminalTransition (jobId : String) (target : JobStatus)
    (fromStatuses : List JobStatus) (job : Job Payload) : TransitionOutcome × Job Payload :=
  if job.status ∉ fromStatuses then (.zeroRows, job)
  else (.won, Job.addEvent jobId ("job." ++ target.value) [] { job with status := target })

def Job.recordTimeoutPending (jobId : String) (job : Job Payload) :
    TransitionOutcome × Job Payload :=
  if job.status ∈ terminalStatuses then (.zeroRows, job)
  else
    (.won, Job.addEvent jobId "job.provider_timeout_pending_reconciliation" []
      { job with status := .pendingReconciliation, costState := .reconciliationPending })

/-- Unguarded: the job may be in any state. -/
def Job.holdCostReconciliation (job : Job Payload) : Job Payload :=
  { job with costState := .reconciliationPending }

def Job.recordProviderRequestId (providerRequestId : String) (job : Job Payload) : Job Payload :=
  if job.providerRequestId.isNone then { job with providerRequestId := some providerRequestId }
  else job

def Job.openIntent (job : Job Payload) : Option CancellationIntent := job.intents.getLast?

end Writes

inductive Call (Payload : Type)
  | find (jobId : String)
  | openIntent (jobId : String)
  | persistCancellationIntent (jobId : String) (kind : IntentKind) (reason actor : String)
      (now : Instant) (releaseVersion : Option String) (intentId : String)
  | guardedTerminalTransition (jobId : String) (target : JobStatus) (now : Instant)
      (fromStatuses : List JobStatus)
  | guardedCompleteSuccess (jobId : String) (artifact : ResultArtifact Payload)
      (actualTokens : Option Int) (now : Instant)
  | addEvent (jobId : String) (eventType : String) (safeFields : List (String × Option String))
  | recordProviderRequestId (jobId : String) (providerRequestId : Option String)
  | recordTimeoutPending (jobId : String)
  | holdCostReconciliation (jobId : String)

abbrev Call.Answer {Payload : Type} : Call Payload → Type
  | .find _ => Option (Job Payload)
  | .openIntent _ => Option CancellationIntent
  | .persistCancellationIntent .. => CancellationIntent
  | .guardedTerminalTransition .. => TransitionOutcome
  | .guardedCompleteSuccess .. => TransitionOutcome
  | .addEvent .. => Unit
  | .recordProviderRequestId .. => Unit
  | .recordTimeoutPending _ => TransitionOutcome
  | .holdCostReconciliation _ => Unit

section Store

variable {Payload : Type}

/-- `self.jobs[job_id]`, and what is written on it. -/
def JobStore.update {A : Type} (jobId : String) (write : Job Payload → A × Job Payload)
    (store : JobStore Payload) : Except Raised A × JobStore Payload :=
  match store.jobs.lookup jobId with
  | none => (.error .keyError, store)
  | some job =>
    let (answer, written) := write job
    (.ok answer, { jobs := store.jobs.insert jobId written })

def perform : (call : Call Payload) → JobStore Payload →
    Except Raised call.Answer × JobStore Payload
  | .find jobId, store => (.ok (store.jobs.lookup jobId), store)
  | .openIntent jobId, store => (.ok ((store.jobs.lookup jobId).bind Job.openIntent), store)
  | .persistCancellationIntent jobId kind reason actor now releaseVersion intentId, store =>
    let intent := ⟨intentId, jobId, kind, reason, actor, now, releaseVersion⟩
    store.update jobId fun job => (intent, { job with intents := job.intents ++ [intent] })
  | .guardedTerminalTransition jobId target _ fromStatuses, store =>
    store.update jobId (Job.guardedTerminalTransition jobId target fromStatuses)
  | .guardedCompleteSuccess jobId artifact actualTokens _, store =>
    store.update jobId (Job.guardedCompleteSuccess jobId artifact actualTokens)
  | .addEvent jobId eventType safeFields, store =>
    store.update jobId fun job => ((), job.addEvent jobId eventType safeFields)
  | .recordProviderRequestId _ none, store => (.ok (), store)
  | .recordProviderRequestId jobId (some providerRequestId), store =>
    store.update jobId fun job => ((), job.recordProviderRequestId providerRequestId)
  | .recordTimeoutPending jobId, store => store.update jobId (Job.recordTimeoutPending jobId)
  | .holdCostReconciliation jobId, store =>
    store.update jobId fun job => ((), job.holdCostReconciliation)

end Store

end BackendHandbook.Streaming
