import BackendHandbook.Streaming.JobStore

/-! The cooperative worker, and the other clients that race for a job's terminal fact. -/

namespace BackendHandbook.Streaming

open Interleaving

structure ProviderStream where
  tokens : List String
  totalTokens : Option Int
  requestId : Option String

/-- What a worker asks outside the store: the provider, its counter, and the injected check. -/
inductive Question
  | openStream | calls | cancelCheck

abbrev Question.Reply : Question → Type
  | .openStream => ProviderStream
  | .calls => Nat
  | .cancelCheck => Bool

inductive WorkerOutcome
  | completed | cancelledBeforeCall | cancelledMidStream | cancelledPreCompletion | timedOutPending
  | completionNoop
  deriving DecidableEq

structure WorkerResult where
  outcome : WorkerOutcome
  providerCalls : Nat
  tokensSeen : Nat := 0
  deriving DecidableEq

inductive LateResultOutcome
  | completed | refusedTerminal | refusedNotAwaiting | refusedIdentityMismatch
  | refusedInvalidPayload
  deriving DecidableEq

inductive Finished
  | raised (error : Raised)
  | worked (result : WorkerResult)
  | intended (intent : CancellationIntent)
  | transitioned (outcome : TransitionOutcome)
  | ingested (outcome : LateResultOutcome)
  deriving DecidableEq

abbrev StreamingProgram (Payload : Type) :=
  Program (Call Payload) (fun call => Except Raised call.Answer) Question Question.Reply Finished

/-- The arguments of one `run_worker`; `cancelCheck` tells whether the callable is given. -/
structure WorkerRun where
  jobId : String
  now : Instant
  completeWithTokens : Option Int := none
  simulateTimeout : Bool := false
  cancelCheck : Bool := false

structure LateResult (Payload : Type) where
  (jobId attemptId correlationId providerRequestId : String)
  rawPayload : Payload
  validate : String → String → Payload → ValidationResult Payload
  now : Instant
  actualTokens : Option Int := none

section Programs

variable {Payload : Type}

def call (request : Call Payload) (next : request.Answer → StreamingProgram Payload) :
    StreamingProgram Payload :=
  await .raised request next

namespace WorkerRun

variable (run : WorkerRun)

def finish (outcome : WorkerOutcome) (tokensSeen : Nat) : StreamingProgram Payload :=
  .ask .calls fun calls => .done (.worked ⟨outcome, calls, tokensSeen⟩)

/-- The outcome of a guarded write: the one the winner reports, or a no-op. -/
def settle (won : WorkerOutcome) (tokensSeen : Nat) (outcome : TransitionOutcome) :
    StreamingProgram Payload :=
  finish (if outcome = .won then won else .completionNoop) tokensSeen

def transition (target : JobStatus) (won : WorkerOutcome) (tokensSeen : Nat) :
    StreamingProgram Payload :=
  call (.guardedTerminalTransition run.jobId target run.now liveStatuses)
    (settle won tokensSeen)

def cancelBeforeCall (intent : CancellationIntent) : StreamingProgram Payload :=
  let target := terminalForIntent intent.kind
  call (.guardedTerminalTransition run.jobId target run.now liveStatuses) fun outcome =>
  call (.addEvent run.jobId "job.cancellation_observed"
    [("stage", some "pre_provider_call"), ("terminal", some target.value)]) fun _ =>
  settle .cancelledBeforeCall 0 outcome

def timeOut : StreamingProgram Payload :=
  .ask .openStream fun stream =>
  call (.recordProviderRequestId run.jobId stream.requestId) fun _ =>
  call (.recordTimeoutPending run.jobId) fun _ =>
  finish .timedOutPending 0

variable (stream : ProviderStream)
variable (target : JobStatus) (tokensSeen : Nat)

def cancelMidStream : StreamingProgram Payload :=
  call (.holdCostReconciliation run.jobId) fun _ =>
  call (.addEvent run.jobId "job.cancellation_observed"
    [("stage", some "mid_stream"), ("provider_request_id", stream.requestId)]) fun _ =>
  run.transition target .cancelledMidStream tokensSeen

def cancelPreCompletion : StreamingProgram Payload :=
  call (.holdCostReconciliation run.jobId) fun _ =>
  call (.addEvent run.jobId "job.cancellation_observed"
    [("stage", some "post_stream_pre_completion"), ("provider_request_id", stream.requestId),
      ("terminal", some target.value)]) fun _ =>
  run.transition target .cancelledPreCompletion tokensSeen

def complete (tokensSeen : Nat) : StreamingProgram Payload :=
  let actual := if run.completeWithTokens.isSome then run.completeWithTokens
    else stream.totalTokens
  call (.guardedCompleteSuccess run.jobId
    (.streamed "validated-domain-result" stream.requestId) actual run.now)
    (settle .completed tokensSeen)

/-- The loop over the stream, and the final check behind its last token. -/
def consume : List String → Nat → StreamingProgram Payload
  | [], tokensSeen =>
    call (.openIntent run.jobId) fun
      | some intent =>
        run.cancelPreCompletion stream (terminalForIntent intent.kind) tokensSeen
      | none => run.complete stream tokensSeen
  | _ :: tokens, tokensSeen =>
    call (.openIntent run.jobId) fun
      | some intent =>
        run.cancelMidStream stream (terminalForIntent intent.kind) (tokensSeen + 1)
      | none =>
        if run.cancelCheck then
          .ask .cancelCheck fun fires =>
            if fires then run.cancelMidStream stream .cancelled (tokensSeen + 1)
            else consume tokens (tokensSeen + 1)
        else consume tokens (tokensSeen + 1)

def program : StreamingProgram Payload :=
  call (.openIntent run.jobId) fun
    | some intent => run.cancelBeforeCall intent
    | none =>
      if run.simulateTimeout then run.timeOut
      else
        .ask .openStream fun stream =>
        call (.recordProviderRequestId run.jobId stream.requestId) fun _ =>
        run.consume stream stream.tokens 0

end WorkerRun

def applyCancellation (jobId : String) (now : Instant) (target : Option JobStatus) :
    StreamingProgram Payload :=
  let transition := fun target =>
    call (.guardedTerminalTransition jobId target now liveStatuses) fun outcome =>
    .done (.transitioned outcome)
  match target with
  | some target => transition target
  | none =>
    call (.openIntent jobId) fun intent =>
    transition ((intent.map (terminalForIntent ·.kind)).getD .cancelled)

variable (result : LateResult Payload)

/-- The persisted identities are all present, and all those of the result. -/
def LateResult.bound (job : Job Payload) : Bool :=
  job.attemptId == some result.attemptId && job.correlationId == some result.correlationId &&
    job.providerRequestId == some result.providerRequestId

/-- One read of the live record. -/
def LateResult.read (next : Job Payload → StreamingProgram Payload) : StreamingProgram Payload :=
  call (.find result.jobId) fun
    | none => .done (.ingested .refusedIdentityMismatch)
    | some job => next job

def LateResult.ingest : StreamingProgram Payload :=
  result.read fun job =>
  if job.status ∈ terminalStatuses then .done (.ingested .refusedTerminal) else
  result.read fun job =>
  if job.status ≠ .pendingReconciliation then .done (.ingested .refusedNotAwaiting) else
  result.read fun job =>
  if ¬ result.bound job then .done (.ingested .refusedIdentityMismatch) else
  let checked := result.validate (job.schemaName.getD "") (job.schemaVersion.getD "")
    result.rawPayload
  if checked.outcome ≠ .valid then .done (.ingested .refusedInvalidPayload) else
  call (.guardedCompleteSuccess result.jobId (.late checked.domainResult job.schemaName
    job.schemaVersion job.providerRequestId job.correlationId) result.actualTokens result.now)
    fun outcome =>
    .done (.ingested (if outcome = .won then .completed else .refusedTerminal))

end Programs

/-- The parties of the terminal race. -/
inductive Client (Payload : Type)
  | runWorker (run : WorkerRun)
  | requestCancellation (jobId : String) (kind : IntentKind) (reason actor : String)
      (now : Instant) (releaseVersion : Option String) (intentId : String)
  | timeOut (jobId : String)
  | applyCancellation (jobId : String) (now : Instant) (target : Option JobStatus)
  | ingestLateProviderResult (result : LateResult Payload)

section Clients

variable {Payload : Type}

def Client.program : Client Payload → StreamingProgram Payload
  | .runWorker run => run.program
  | .requestCancellation jobId kind reason actor now releaseVersion intentId =>
    call (.persistCancellationIntent jobId kind reason actor now releaseVersion intentId)
      fun intent => .done (.intended intent)
  | .timeOut jobId =>
    call (.recordTimeoutPending jobId) fun outcome => .done (.transitioned outcome)
  | .applyCancellation jobId now target => Streaming.applyCancellation jobId now target
  | .ingestLateProviderResult result => result.ingest

/-- One move of the schedule: a client enters, or the client at an index goes on. -/
inductive Action (Payload : Type)
  | enter (client : Client Payload)
  | resume (index : Nat) (oracle : (question : Question) → question.Reply)

def Action.turn : Action Payload → Turn (Call Payload) (fun call => Except Raised call.Answer)
    Question Question.Reply Finished
  | .enter client => .start client.program
  | .resume index oracle => .resume index oracle

def pool (store : JobStore Payload) :
    Pool (JobStore Payload) (Call Payload) (fun call => Except Raised call.Answer) Question
      Question.Reply Finished :=
  { state := store, threads := [] }

def storeCalls (store : JobStore Payload) (actions : List (Action Payload)) : List (Call Payload) :=
  Interleaving.calls perform (pool store) (actions.map Action.turn)

end Clients

end BackendHandbook.Streaming
