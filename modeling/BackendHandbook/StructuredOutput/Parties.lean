import BackendHandbook.Foundation.Protocols
import BackendHandbook.StructuredOutput.JobStore

/-! The parties at a job: executions that start a call of the provider, and late outcomes of
calls that were started before. -/

namespace BackendHandbook.StructuredOutput

open Interleaving

/-- One operation of the store, of the configuration, of the adapter or of the completion. -/
inductive Call
  | disabled | modelMaxOutputTokens
  | disable (reason : String)
  | job (jobId : String)
  | claimForNewCall (jobId correlationId : String)
  | attachProviderRequestId (jobId : String) (attemptId : Uuid) (providerRequestId : String)
  | markAttemptAwaitingLate (jobId : String) (attemptId : Uuid)
  | closeAttempt (jobId : String) (attemptId : Uuid)
  | claimLateOutcome (jobId : String) (attemptId : Uuid) (correlationId : String)
      (incomingProviderRequestId : Option String)
  | consumeLateOutcome (jobId : String) (attemptId : Uuid)
  | snapshotJobFacts (jobId : String)
  | restoreJobFacts (jobId : String) (snapshot : JobFacts)
  | releaseLateOutcomeClaim (jobId : String) (attemptId : Uuid)
  | generate (request : ProviderRequest)
  | completeSuccess (jobId : String) (domainResult : Payload) (usage : Usage)
      (providerRequestId : Option String)
  | recordNonSuccess (jobId classification : String) (providerRequestId retryAfter : Option String)
      (evidence : Option Evidence) (markFailed : Bool)
  | recordCost (jobId : String) (usage : Usage)
  | recordTimeoutPending (jobId : String) (providerRequestId : Option String)

inductive Raised
  | keyError (jobId : String)
  | assertionError
  /-- What the adapter lets through. -/
  | adapterError

abbrev Call.Answer : Call → Type
  | .disabled => Bool
  | .modelMaxOutputTokens => Option Int
  | .job _ => Option ExecutionJob
  | .claimForNewCall .. => Option Attempt
  | .claimLateOutcome .. => LateClaimStatus × String
  | .snapshotJobFacts _ => Option JobFacts
  | .generate _ => Except Raised ProviderOutcome
  | .completeSuccess .. => CompletionOutcome
  | _ => Unit

/-- The reply of the provider to the call of a number. -/
abbrev Provider := Nat → ProviderRequest → Except Raised ProviderOutcome

def perform (provider : Provider) : (call : Call) → World → call.Answer × World
  | .disabled, world => (world.config.disabled, world)
  | .modelMaxOutputTokens, world => (world.config.modelMaxOutputTokens, world)
  | .disable reason, world => ((), { world with config := world.config.disable reason })
  | .job jobId, world => (world.jobs.lookup jobId, world)
  | .claimForNewCall jobId correlationId, world =>
    match world.jobs.lookup jobId with
    | none => (none, world)
    | some job =>
      let result := job.claimForNewCall correlationId world.drawn
      (result.1,
        { world with
          jobs := world.jobs.insert jobId result.2
          drawn := if result.1.isSome then world.drawn + 1 else world.drawn })
  | .attachProviderRequestId jobId attemptId providerRequestId, world =>
    ((), world.onJob jobId (·.attachProviderRequestId attemptId providerRequestId))
  | .markAttemptAwaitingLate jobId attemptId, world =>
    ((), world.onJob jobId (·.markAttemptAwaitingLate attemptId))
  | .closeAttempt jobId attemptId, world => ((), world.onJob jobId (·.closeAttempt attemptId))
  | .claimLateOutcome jobId attemptId correlationId incomingProviderRequestId, world =>
    match world.jobs.lookup jobId with
    | none => ((.rejected, "unknown_job"), world)
    | some job =>
      let result := job.claimLateOutcome attemptId correlationId incomingProviderRequestId
      (result.1, { world with jobs := world.jobs.insert jobId result.2 })
  | .consumeLateOutcome jobId attemptId, world =>
    ((), world.onJob jobId (·.consumeLateOutcome attemptId))
  | .snapshotJobFacts jobId, world => ((world.jobs.lookup jobId).map (·.facts), world)
  | .restoreJobFacts jobId snapshot, world => ((), world.onJob jobId (·.restoreFacts snapshot))
  | .releaseLateOutcomeClaim jobId attemptId, world =>
    ((), world.onJob jobId (·.releaseLateOutcomeClaim attemptId))
  | .generate request, world =>
    (provider world.generated.length request,
      { world with generated := request :: world.generated })
  | .completeSuccess jobId domainResult usage providerRequestId, world =>
    match world.jobs.lookup jobId with
    | none => (.noopZeroRows, world)
    | some job =>
      let result := job.completeSuccess domainResult usage providerRequestId
      (result.1, { world with jobs := world.jobs.insert jobId result.2 })
  | .recordNonSuccess jobId classification providerRequestId retryAfter evidence markFailed,
      world =>
      ((), world.onJob jobId
        (·.recordNonSuccess classification providerRequestId retryAfter evidence markFailed))
  | .recordCost jobId usage, world => ((), world.onJob jobId (·.recordCost usage))
  | .recordTimeoutPending jobId providerRequestId, world =>
    ((), world.onJob jobId (·.recordTimeoutPending providerRequestId))

inductive ExecutionDecision
  | succeeded | validationFailed | refused | incomplete | timeoutUnknownUsage | authConfigFailure
  | rateLimited | capabilityFailure | transportError | blockedConfigDisabled | contractMismatch
  | precallBlocked | lateOutcomeRejected | completionNoop

structure ExecutionResult where
  decision : ExecutionDecision
  completion : Option CompletionOutcome := none
  validation : Option ValidationResult := none
  reason : String := ""
  attemptId : Option Uuid := none

abbrev Finished := Except Raised ExecutionResult

abbrev JobProgram := Program Call Call.Answer Empty (fun _ => Empty) Finished

section Dispatch

variable (pydantic : Pydantic) (jobId : String) (contract : ExecutionContract)
variable (next : Finished → JobProgram)

def evidence (requestId : Option String) : Evidence :=
  ⟨contract.schemaName, contract.schemaVersion, contract.approvedModel,
    contract.providerProfileVersion, requestId⟩

def fails (classification : String) (providerRequestId retryAfter : Option String)
    (evidence : Option Evidence) (then_ : JobProgram) : JobProgram :=
  .call (.recordNonSuccess jobId classification providerRequestId retryAfter evidence true)
    fun _ => then_

/-- A failure that may have been charged. -/
def failsCharged (classification : String) (usage : Usage) (providerRequestId : Option String)
    (result : ExecutionResult) : JobProgram :=
  fails jobId classification providerRequestId none none
    (.call (.recordCost jobId usage) fun _ => next (.ok result))

def dispatchOutcome : ProviderOutcome → JobProgram
  | .success rawPayload usage providerRequestId =>
    match validate pydantic contract.schemaName contract.schemaVersion rawPayload with
    | .valid domainResult =>
      .call (.completeSuccess jobId domainResult usage providerRequestId) fun completion =>
      next (.ok
        { decision := if completion = .completed then .succeeded else .completionNoop
          completion := some completion, validation := some (.valid domainResult) })
    | result =>
      failsCharged jobId next ("validation:" ++ result.outcome) usage providerRequestId
        { decision := .validationFailed, validation := some result }
  | .refusal reasonCode usage providerRequestId =>
    failsCharged jobId next ("provider_refusal:" ++ reasonCode) usage providerRequestId
      { decision := .refused }
  | .incomplete reason usage providerRequestId =>
    failsCharged jobId next ("provider_incomplete:" ++ reason) usage providerRequestId
      { decision := .incomplete }
  | .timeout .. =>
    .call (.recordTimeoutPending jobId none) fun _ =>
    next (.ok { decision := .timeoutUnknownUsage })
  | .authenticationError statusCode =>
    .call (.disable ("provider_auth_" ++ toString statusCode)) fun _ =>
    fails jobId ("provider_auth_config_failure:" ++ toString statusCode) none none
      (some (evidence contract none)) (next (.ok { decision := .authConfigFailure }))
  | .rateLimited retryAfter providerRequestId =>
    fails jobId "provider_rate_limited" providerRequestId retryAfter none
      (next (.ok { decision := .rateLimited }))
  | .capabilityError statusCode _ true providerRequestId =>
    .call (.disable ("provider_capability_config_" ++ toString statusCode)) fun _ =>
    fails jobId ("provider_capability_config_failure:" ++ toString statusCode)
      providerRequestId none (some (evidence contract providerRequestId))
      (next (.ok { decision := .capabilityFailure }))
  | .capabilityError statusCode _ false providerRequestId =>
    fails jobId ("provider_capability_request_failure:" ++ toString statusCode)
      providerRequestId none (some (evidence contract providerRequestId))
      (next (.ok { decision := .capabilityFailure }))
  | .transportError _ =>
    fails jobId "provider_transport_error" none none none
      (next (.ok { decision := .transportError }))
  | .unhandled _ => next (.error .assertionError)

end Dispatch

/-- `replace(result, attempt_id=...)`. -/
def ofAttempt (attemptId : Uuid) (result : ExecutionResult) : ExecutionResult :=
  { result with attemptId := some attemptId }

/-- Behind the dispatch of the execution: the attempt waits for a late outcome, or is closed. -/
def bindOutcome (jobId : String) (attemptId : Uuid) (outcome : ProviderOutcome) :
    Finished → JobProgram
  | .error raised => .done (.error raised)
  | .ok result =>
    if outcome.isTimeout then
      .call (.markAttemptAwaitingLate jobId attemptId) fun _ =>
      .done (.ok (ofAttempt attemptId result))
    else
      .call (.closeAttempt jobId attemptId) fun _ =>
      .done (.ok (ofAttempt attemptId result))

variable (pydantic : Pydantic)

def answered (jobId : String) (contract : ExecutionContract)
    (attemptId : Uuid) (outcome : ProviderOutcome) : JobProgram :=
  let dispatch := dispatchOutcome pydantic jobId contract (bindOutcome jobId attemptId outcome)
    outcome
  match outcome.providerRequestId with
  | none => dispatch
  | some requestId =>
    .call (.attachProviderRequestId jobId attemptId requestId) fun _ => dispatch

def startCall (request : ProviderRequest) (job : ExecutionJob) (attemptId : Uuid) : JobProgram :=
  .call .modelMaxOutputTokens fun modelHardCap =>
  match bindRequestToContract request job.contract modelHardCap with
  | .error mismatch =>
    .call (.closeAttempt request.jobId attemptId) fun _ =>
    .call (.recordNonSuccess request.jobId mismatch none none none false) fun _ =>
    .done (.ok
      { decision := .contractMismatch, reason := mismatch, attemptId := some attemptId })
  | .ok bound =>
    .call (.generate bound) fun
      | .error raised => .done (.error raised)
      | .ok outcome => answered pydantic request.jobId job.contract attemptId outcome

def executeJob (request : ProviderRequest) : JobProgram :=
  .call .disabled fun disabled =>
  if disabled then .done (.ok { decision := .blockedConfigDisabled })
  else
    .call (.job request.jobId) fun
      | none => .done (.ok { decision := .precallBlocked, reason := "unknown_job" })
      | some job =>
        .call (.claimForNewCall request.jobId job.contract.correlationId) fun
          | some attempt => startCall pydantic request job attempt.attemptId
          | none =>
            .call (.job request.jobId) fun current =>
            let status := (current.map (·.status)).getD job.status
            .done (.ok
              { decision := .precallBlocked
                reason := if status = .running then "claim_conflict" else status.value })

/-- The arguments of one `ingest_late_outcome`. -/
structure LateOutcome where
  outcome : ProviderOutcome
  jobId : String
  attemptId : Uuid
  correlationId : String
  providerRequestId : Option String := none

namespace LateOutcome

variable (late : LateOutcome)

def incomingProviderRequestId : Option String :=
  if late.providerRequestId.isSome then late.providerRequestId
  else late.outcome.providerRequestId

/-- Behind the dispatch: the attempt is consumed, or all that was written is undone. -/
def conclude (snapshot : JobFacts) : Finished → JobProgram
  | .ok result =>
    .call (.consumeLateOutcome late.jobId late.attemptId) fun _ =>
    .done (.ok (ofAttempt late.attemptId result))
  | .error raised =>
    .call (.restoreJobFacts late.jobId snapshot) fun _ =>
    .call (.releaseLateOutcomeClaim late.jobId late.attemptId) fun _ =>
    .done (.error raised)

/-- The claim is won: the outcome is dispatched against the contract of the job. -/
def consume (pydantic : Pydantic) : JobProgram :=
  .call (.job late.jobId) fun
    | none => .done (.error (.keyError late.jobId))
    | some job =>
      .call (.snapshotJobFacts late.jobId) fun
        | none => .done (.error (.keyError late.jobId))
        | some snapshot =>
          dispatchOutcome pydantic late.jobId job.contract (late.conclude snapshot)
            late.outcome

def program (pydantic : Pydantic) : JobProgram :=
  .call (.claimLateOutcome late.jobId late.attemptId late.correlationId
    late.incomingProviderRequestId) fun
    | (.claimed, _) => late.consume pydantic
    | (.rejected, reason) =>
      .done (.ok
        { decision := .lateOutcomeRejected, reason, attemptId := some late.attemptId })
    | (_, reason) =>
      .done (.ok { decision := .completionNoop, reason, attemptId := some late.attemptId })

end LateOutcome

inductive Party
  | execute (request : ProviderRequest)
  | ingest (late : LateOutcome)

def Party.program (pydantic : Pydantic) : Party → JobProgram
  | .execute request => executeJob pydantic request
  | .ingest late => late.program pydantic

/-- One move of the schedule: a party enters, or the party at an index goes on. A party that
no later move resumes has crashed. -/
inductive Action
  | enter (party : Party)
  | resume (index : Nat)

abbrev JobTurn := Turn Call Call.Answer Empty (fun _ => Empty) Finished

def Action.turn (pydantic : Pydantic) : Action → JobTurn
  | .enter party => .start (party.program pydantic)
  | .resume index => .resume index nofun

/-- The parties in the order of their threads. -/
def parties : List Action → List Party
  | [] => []
  | .enter party :: actions => party :: parties actions
  | .resume _ :: actions => parties actions

/-- Jobs as `start_running` leaves them. -/
structure AcceptedJobs where
  jobs : Dict String ExecutionJob
  config : ProviderConfig
  fresh : ∀ jobId job, jobs.lookup jobId = some job → ∃ tenantId contract reservedTokens,
    job = { jobId, tenantId, contract, reservedTokens }

def AcceptedJobs.world (opening : AcceptedJobs) : World :=
  { jobs := opening.jobs, config := opening.config }

abbrev JobCallEvent := Run.Event World Call Call.Answer

section Schedules

variable (pydantic : Pydantic) (provider : Provider) (opening : AcceptedJobs)
variable (actions : List Action)

def turns : List JobTurn := actions.map (Action.turn pydantic)

/-- The calls of a schedule, in their order. -/
def scheduleCalls : List Call :=
  Interleaving.calls (perform provider) ⟨opening.world, []⟩ (turns pydantic actions)

def schedule : List JobCallEvent :=
  Run.trace (perform provider) opening.world (scheduleCalls pydantic provider opening actions)

def poolAfter : Pool World Call Call.Answer Empty (fun _ => Empty) Finished :=
  Interleaving.run (perform provider) ⟨opening.world, []⟩ (turns pydantic actions)

def worldAfter : World := (poolAfter pydantic provider opening actions).state

end Schedules

end BackendHandbook.StructuredOutput
