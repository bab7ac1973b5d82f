import BackendHandbook.Foundation.Dict
import BackendHandbook.StructuredOutput.Contracts

/-! The facts of a job under execution: its attempts at the provider, and the completion that
concludes it. -/

namespace BackendHandbook.StructuredOutput

abbrev Uuid := Nat

inductive JobStatus
  | running | succeeded | failed | pendingReconciliation
  deriving DecidableEq

inductive CostState
  | reserved | settled | reconciliationPending
  deriving DecidableEq

inductive AttemptStatus
  | inFlight | awaitingLateOutcome | processingLateOutcome | consumed | closed
  deriving DecidableEq

structure Attempt where
  attemptId : Uuid
  (jobId correlationId : String)
  status : AttemptStatus := .inFlight
  providerRequestId : Option String := none
  deriving DecidableEq

/-- Safe facts of the configuration that a failure is recorded with. -/
structure Evidence where
  (schemaName schemaVersion approvedModel providerProfileVersion : String)
  providerRequestId : Option String
  deriving DecidableEq

inductive JobEvent
  | succeeded (jobId correlationId : String)
  | attemptFailed (jobId classification correlationId : String)
      (providerRequestId retryAfter : Option String) (evidence : Option Evidence)
  | costRecorded (jobId : String) (usageTotalTokens : Option Int) (costState : CostState)
      (correlationId : String)
  | providerTimeoutPendingReconciliation (jobId classification correlationId : String)
      (providerRequestId : Option String)
  deriving DecidableEq

structure ResultArtifact where
  domainResult : Payload
  (schemaName schemaVersion approvedModel providerProfileVersion : String)
  providerRequestId : Option String
  correlationId : String
  usageTotalTokens : Option Int
  costState : CostState

structure ExecutionJob where
  (jobId tenantId : String)
  contract : ExecutionContract
  reservedTokens : Int
  status : JobStatus := .running
  costState : CostState := .reserved
  settledTokens : Option Int := none
  resultArtifact : Option ResultArtifact := none
  events : List JobEvent := []
  attempts : Dict Uuid Attempt := ∅
  openAttemptId : Option Uuid := none

inductive CompletionOutcome
  | completed | noopZeroRows
  deriving DecidableEq

inductive LateClaimStatus
  | claimed | terminalNoop | alreadyProcessing | rejected

structure JobFacts where
  status : JobStatus
  costState : CostState
  settledTokens : Option Int
  resultArtifact : Option ResultArtifact
  events : List JobEvent

def JobStatus.terminal : JobStatus → Bool
  | .succeeded | .failed => true
  | _ => false

def JobStatus.value : JobStatus → String
  | .running => "running"
  | .succeeded => "succeeded"
  | .failed => "failed"
  | .pendingReconciliation => "pending_reconciliation"

namespace ExecutionJob

variable (job : ExecutionJob)

def putAttempt (attempt : Attempt) : ExecutionJob :=
  { job with attempts := job.attempts.insert attempt.attemptId attempt }

def onAttempt (attemptId : Uuid) (change : Attempt → Attempt) : ExecutionJob :=
  match job.attempts.lookup attemptId with
  | none => job
  | some attempt => { job with attempts := job.attempts.insert attemptId (change attempt) }

/-- The attempt is not open any more. -/
def shut (attemptId : Uuid) : ExecutionJob :=
  if job.openAttemptId = some attemptId then { job with openAttemptId := none } else job

def claimForNewCall (correlationId : String) (attemptId : Uuid) : Option Attempt × ExecutionJob :=
  if job.status ≠ .running then (none, job)
  else if job.openAttemptId.isSome then (none, job)
  else
    let attempt : Attempt := { attemptId, jobId := job.jobId, correlationId }
    (some attempt, { job.putAttempt attempt with openAttemptId := some attemptId })

variable (attemptId : Uuid)

def attachProviderRequestId (providerRequestId : String) : ExecutionJob :=
  job.onAttempt attemptId fun attempt =>
    if attempt.providerRequestId.isNone then
      { attempt with providerRequestId := some providerRequestId }
    else attempt

def markAttemptAwaitingLate : ExecutionJob :=
  job.onAttempt attemptId fun attempt => { attempt with status := .awaitingLateOutcome }

def closeAttempt : ExecutionJob :=
  (job.onAttempt attemptId fun attempt => { attempt with status := .closed }).shut attemptId

def consumeLateOutcome : ExecutionJob :=
  (job.onAttempt attemptId fun attempt => { attempt with status := .consumed }).shut attemptId

def releaseLateOutcomeClaim : ExecutionJob :=
  job.onAttempt attemptId fun attempt =>
    if attempt.status = .processingLateOutcome then
      { attempt with status := .awaitingLateOutcome }
    else attempt

/-- The exclusive claim, with the id that the attempt has by now. -/
def processing (attempt : Attempt) (providerRequestId : String) : ExecutionJob :=
  { job with
    attempts := job.attempts.insert attemptId
      { attempt with
        providerRequestId := some providerRequestId, status := .processingLateOutcome } }

def claimLateOutcome (correlationId : String)
    (incomingProviderRequestId : Option String) : (LateClaimStatus × String) × ExecutionJob :=
  if job.status.terminal then ((.terminalNoop, "terminal_job"), job)
  else
    match job.attempts.lookup attemptId with
    | none => ((.rejected, "attempt_not_found"), job)
    | some attempt =>
      if attempt.status = .closed ∨ attempt.status = .consumed then
        ((.rejected, "attempt_closed"), job)
      else if attempt.status = .processingLateOutcome then
        ((.alreadyProcessing, "already_processing"), job)
      else if attempt.status ≠ .awaitingLateOutcome then
        ((.rejected, "attempt_not_awaiting_late_outcome"), job)
      else if attempt.correlationId ≠ correlationId ∨
          correlationId ≠ job.contract.correlationId then
        ((.rejected, "correlation_mismatch"), job)
      else
        match attempt.providerRequestId, incomingProviderRequestId with
        | some recorded, some incoming =>
          if incoming ≠ recorded then ((.rejected, "provider_request_id_mismatch"), job)
          else ((.claimed, ""), job.processing attemptId attempt recorded)
        | some _, none => ((.rejected, "provider_request_id_mismatch"), job)
        | none, none => ((.rejected, "provider_request_id_missing"), job)
        | none, some incoming => ((.claimed, ""), job.processing attemptId attempt incoming)

def facts : JobFacts :=
  ⟨job.status, job.costState, job.settledTokens, job.resultArtifact, job.events⟩

def restoreFacts (snapshot : JobFacts) : ExecutionJob :=
  { job with
    status := snapshot.status, costState := snapshot.costState
    settledTokens := snapshot.settledTokens, resultArtifact := snapshot.resultArtifact
    events := snapshot.events }

/-- A job that a completion may still conclude. -/
def completable : Bool := job.status = .running || job.status = .pendingReconciliation

/-- The cost axis: usage that is not known stays to be reconciled. -/
def costOf (usage : Usage) : CostState × Option Int :=
  if usage.totalTokens.isSome then (.settled, usage.totalTokens)
  else (.reconciliationPending, job.settledTokens)

def completeSuccess (domainResult : Payload) (usage : Usage) (providerRequestId : Option String) :
    CompletionOutcome × ExecutionJob :=
  if ¬ job.completable then (.noopZeroRows, job)
  else
    (.completed,
      { job with
        status := .succeeded, costState := (job.costOf usage).1
        settledTokens := (job.costOf usage).2
        resultArtifact := some
          { domainResult
            schemaName := job.contract.schemaName, schemaVersion := job.contract.schemaVersion
            approvedModel := job.contract.approvedModel
            providerProfileVersion := job.contract.providerProfileVersion
            providerRequestId
            correlationId := job.contract.correlationId, usageTotalTokens := usage.totalTokens
            costState := (job.costOf usage).1 }
        events := job.events ++ [.succeeded job.jobId job.contract.correlationId] })

def recordNonSuccess (classification : String) (providerRequestId retryAfter : Option String)
    (evidence : Option Evidence) (markFailed : Bool) : ExecutionJob :=
  { job with
    status := if markFailed && job.completable then .failed else job.status
    events := job.events ++
      [.attemptFailed job.jobId classification job.contract.correlationId providerRequestId
        retryAfter evidence] }

def recordCost (usage : Usage) : ExecutionJob :=
  { job with
    costState := (job.costOf usage).1, settledTokens := (job.costOf usage).2
    events := job.events ++
      [.costRecorded job.jobId usage.totalTokens (job.costOf usage).1
        job.contract.correlationId] }

def timeoutClassification : String := "provider_timeout_unknown_execution_and_usage"

def recordTimeoutPending (providerRequestId : Option String) : ExecutionJob :=
  { job with
    status := if job.completable then .pendingReconciliation else job.status
    costState := .reconciliationPending
    events := job.events ++
      [.providerTimeoutPendingReconciliation job.jobId timeoutClassification
        job.contract.correlationId providerRequestId] }

/-- The failures that are on record for the job. -/
def failureFacts : List JobEvent :=
  job.events.filter fun
    | .attemptFailed .. => true
    | _ => false

end ExecutionJob

structure ProviderConfig where
  modelMaxOutputTokens : Option Int := none
  disabled : Bool := false
  disabledReason : Option String := none

def ProviderConfig.disable (config : ProviderConfig) (reason : String) : ProviderConfig :=
  { config with disabled := true, disabledReason := some reason }

/-- The jobs as they are stored, the configuration of the provider, and the requests that the
adapter has been called with, the last one first. -/
structure World where
  jobs : Dict String ExecutionJob := ∅
  config : ProviderConfig := {}
  generated : List ProviderRequest := []
  /-- How many identifiers have been drawn. -/
  drawn : Uuid := 0

namespace World

variable (world : World)

/-- What is done to a job under its id, where there is one. -/
def onJob (jobId : String) (change : ExecutionJob → ExecutionJob) : World :=
  match world.jobs.lookup jobId with
  | none => world
  | some job => { world with jobs := world.jobs.insert jobId (change job) }

end World

end BackendHandbook.StructuredOutput
