import BackendHandbook.Foundation.Interleaving
import BackendHandbook.Runtime.AttemptStore
import BackendHandbook.Tools.Admission

/-! The functions that carry a provider candidate through admission, execution and verification,
each as a program over single calls on the store. -/

namespace BackendHandbook.Runtime

open Interleaving Tools

inductive RuntimeStage
  | preparation | providerDispatch | candidateValidation | toolExecution | outcomeVerification
  | completion | costSettlement

inductive RuntimeStatus
  | completed | rejected | blockedPreDispatch | pendingReconciliation
  deriving DecidableEq

inductive RecoveryAction
  | none | reject | reconcileOriginalIdentity
  deriving DecidableEq

inductive EvidenceLevel
  | conceptual | static | executedLocalRuntime | integrationRuntime | production

structure RuntimeResult where
  (jobId attemptId : String)
  stage : RuntimeStage
  status : RuntimeStatus
  recoveryAction : RecoveryAction
  evidenceLevel : EvidenceLevel
  reason : String
  safeEvidence : List (String × String) := []
  operationId : Option String := .none
  identified : jobId ≠ "" ∧ attemptId ≠ "" ∧ reason ≠ ""
  pending : status = .pendingReconciliation → recoveryAction = .reconcileOriginalIdentity
  finished : status = .completed → recoveryAction = .none

inductive ProviderOutcomeKind
  | success | providerResponseInvalid | refusal | truncation | rateLimited | authenticationError
  | capabilityError | timeoutUnknown | transportError
  deriving DecidableEq

/-- A success carries one candidate source and its hash, anything else carries none. -/
structure ProviderExecutionEnvelope where
  (jobId attemptId correlationId : String)
  outcome : ProviderOutcomeKind
  candidateHash : Option String := none
  rawCandidate : Option String := none
  protectedCandidateRef : Option String := none
  sources : if outcome = .success then
      rawCandidate.isSome ≠ protectedCandidateRef.isSome ∧ candidateHash.isSome = true
    else rawCandidate = none ∧ protectedCandidateRef = none ∧ candidateHash = none

inductive BoundaryError
  | providerCandidateBinding (reason : String)
  | protectedCandidateNotLoaded
  | tool (raised : ToolError)
  | store (raised : RuntimeError)
  | notAllowed | notExecuted | unidentifiedResult

def BoundaryError.text : BoundaryError → String
  | .providerCandidateBinding reason => reason
  | .protectedCandidateNotLoaded => "authorized loader not integrated"
  | .tool _ => ""
  | .store raised => raised.text
  | .notAllowed => "only allowed Admission may execute"
  | .notExecuted => "only executed operations produce outcomes"
  | .unidentifiedResult => "job_id, attempt_id, and reason are required"

section Model

variable (loads : String → Option Json.Value) (sha256 : String → String)

def candidateSha256 (rawCandidate : String) : String := "sha256:" ++ sha256 rawCandidate

def admitProviderCandidate (envelope : ProviderExecutionEnvelope) (prepared : PreparedAttempt)
    (expectedCorrelationId : String) (registry : ToolRegistry) (auth : AuthContext)
    (reports : InMemoryReportStore) : Except BoundaryError AdmissionDecision :=
  if envelope.jobId ≠ prepared.providerBinding.jobId ∨
      envelope.attemptId ≠ prepared.providerBinding.attemptId ∨
      envelope.correlationId ≠ expectedCorrelationId then
    .error (.providerCandidateBinding "candidate identity mismatch")
  else if envelope.outcome ≠ .success then
    .error (.providerCandidateBinding "non-success has no candidate")
  else match envelope.rawCandidate with
    | none => .error .protectedCandidateNotLoaded
    | some rawCandidate =>
      if some (candidateSha256 sha256 rawCandidate) ≠ envelope.candidateHash then
        .error (.providerCandidateBinding "candidate hash mismatch")
      else
        (admitToolCall loads sha256 rawCandidate envelope.attemptId envelope.jobId registry auth
          reports).mapError .tool

/-- What a program has returned or raised. -/
inductive RuntimeFinished
  | persisted
  | claimed (record : Option RuntimeAttemptRecord)
  | recorded (record : RuntimeAttemptRecord)
  | executed (result : ExecutionResult)
  | verified (outcome : OutcomeDecision) (result : RuntimeResult)
  | raised (error : BoundaryError)

abbrev RuntimeProgram :=
  Program RuntimeCall RuntimeCall.Answer Empty (fun _ => Empty) RuntimeFinished

def executeAdmittedTool (decision : AdmissionDecision) (workerId : String)
    (expectedFenceToken : Int) (registry : ToolRegistry) : RuntimeProgram :=
  match decision.status, decision.admittedCall with
  | .allowed, some call =>
    .call (.recordToolAdmission workerId call) fun
      | .error raised => .done (.raised (.store raised))
      | .ok _ =>
        .call (.executeAdmittedWithFence call workerId expectedFenceToken registry) fun
          | .error raised => .done (.raised (.store raised))
          | .ok result => .done (.executed result)
  | _, _ => .done (.raised .notAllowed)

def verifiedResult (call : AdmittedToolCall) (operationId : String) (outcome : OutcomeDecision) :
    RuntimeFinished :=
  if identified : call.jobId ≠ "" ∧ call.attemptId ≠ "" ∧ outcome.safeReasonCode ≠ "" then
    .verified outcome {
      jobId := call.jobId, attemptId := call.attemptId
      stage := if outcome.status = .verified then .completion else .outcomeVerification
      status := match outcome.status with
        | .verified => .completed
        | .identityMismatch => .pendingReconciliation
        | _ => .rejected
      recoveryAction := match outcome.status with
        | .verified => .none
        | .identityMismatch => .reconcileOriginalIdentity
        | _ => .reject
      evidenceLevel := .executedLocalRuntime, reason := outcome.safeReasonCode
      safeEvidence := [("outcome_status", outcome.status.value)], operationId := some operationId
      identified
      pending := by cases outcome.status <;> decide
      finished := by cases outcome.status <;> decide }
  else .raised .unidentifiedResult

def verifyOutcomeAndComplete (rawToolOutcome : String) (call : AdmittedToolCall)
    (execution : ExecutionResult) (workerId : String) : RuntimeProgram :=
  match execution.operationId, execution.status with
  | some _, .rejectedDisabled => .done (.raised .notExecuted)
  | none, _ => .done (.raised .notExecuted)
  | some operationId, _ =>
    match verifyPublishOutcome loads rawToolOutcome call operationId with
    | .error raised => .done (.raised (.tool raised))
    | .ok outcome =>
      .call (.recordOutcome workerId call operationId outcome) fun
        | .error raised => .done (.raised (.store raised))
        | .ok _ => .done (verifiedResult call operationId outcome)

/-- One entry into the runtime, with what its caller brings. -/
inductive RuntimeClient
  | persistPrepared (prepared : PreparedAttempt)
  | claimDispatch (attemptId expectedPromptHash workerId : String)
  | markProviderExecutionUnknown (attemptId workerId : String)
  | executeAdmittedTool (envelope : ProviderExecutionEnvelope) (prepared : PreparedAttempt)
      (expectedCorrelationId : String) (auth : AuthContext) (reports : InMemoryReportStore)
      (admission : ToolRegistry) (workerId : String) (expectedFenceToken : Int)
      (registry : ToolRegistry)
  | verifyOutcomeAndComplete (rawToolOutcome : String) (call : AdmittedToolCall)
      (execution : ExecutionResult) (workerId : String)
  | cancelAfterExternalEffect (attemptId : String)

def RuntimeClient.program : RuntimeClient → RuntimeProgram
  | .persistPrepared prepared =>
    .call (.persistPrepared prepared) fun
      | .error raised => .done (.raised (.store raised))
      | .ok _ => .done .persisted
  | .claimDispatch attemptId expectedPromptHash workerId =>
    .call (.claimDispatch attemptId expectedPromptHash workerId) fun answer =>
      .done (.claimed answer)
  | .markProviderExecutionUnknown attemptId workerId =>
    .call (.markProviderExecutionUnknown attemptId workerId) fun
      | .error raised => .done (.raised (.store raised))
      | .ok record => .done (.recorded record)
  | .executeAdmittedTool envelope prepared expectedCorrelationId auth reports admission workerId
      expectedFenceToken registry =>
    match admitProviderCandidate loads sha256 envelope prepared expectedCorrelationId admission
        auth reports with
    | .error raised => .done (.raised raised)
    | .ok decision =>
      Runtime.executeAdmittedTool decision workerId expectedFenceToken registry
  | .verifyOutcomeAndComplete rawToolOutcome call execution workerId =>
    Runtime.verifyOutcomeAndComplete loads rawToolOutcome call execution workerId
  | .cancelAfterExternalEffect attemptId =>
    .call (.cancelAfterExternalEffect attemptId) fun
      | .error raised => .done (.raised (.store raised))
      | .ok record => .done (.recorded record)

inductive RuntimeAction
  | enter (client : RuntimeClient)
  | resume (index : Nat)

def RuntimeAction.turn : RuntimeAction →
    Turn RuntimeCall RuntimeCall.Answer Empty (fun _ => Empty) RuntimeFinished
  | .enter client => .start (client.program loads sha256)
  | .resume index => .resume index fun question => question

/-- The calls that a schedule makes on a store that is empty at first, in their order. -/
def runtimeCalls (executor : InMemoryToolExecutor) (actions : List RuntimeAction) :
    List RuntimeCall :=
  calls (RuntimeState.perform sha256) ⟨{ executor }, []⟩
    (actions.map (RuntimeAction.turn loads sha256))

end Model

end BackendHandbook.Runtime
