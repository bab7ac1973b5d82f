import BackendHandbook.Foundation.Run
import BackendHandbook.Runtime.AttemptStore

/-! What each call on the attempt store can do. -/

namespace BackendHandbook.Runtime

open Run Tools InMemoryRuntimeAttemptStore RuntimeState

/-- The call answers with a record or a result, rather than raise or find nothing to claim. -/
def RuntimeCall.accepts : (call : RuntimeCall) → call.Answer → Bool
  | .persistPrepared _, answer => Except.isOk answer
  | .claimDispatch _ _ _, answer => Option.isSome answer
  | .markProviderExecutionUnknown _ _, answer => Except.isOk answer
  | .recordToolAdmission _ _, answer => Except.isOk answer
  | .recordToolExecution _ _ _, answer => Except.isOk answer
  | .executeAdmittedWithFence _ _ _ _, answer => Except.isOk answer
  | .recordOutcome _ _ _ _, answer => Except.isOk answer
  | .cancelAfterExternalEffect _, answer => Except.isOk answer
  | .createCompensation _ _ _, answer => Except.isOk answer
  | .claimCompensation _ _, answer => Option.isSome answer
  | .markCompensationUnknown _ _, answer => Except.isOk answer

def outcomeStatus : OutcomeStatus → RuntimeAttemptStatus
  | .verified => .completed
  | .identityMismatch => .pendingReconciliation
  | _ => .outcomeRejected

/-- All that a call can do, with all that it has checked. -/
inductive RuntimeStep (sha256 : String → String) (state : RuntimeState) :
    (call : RuntimeCall) → call.Answer × RuntimeState → Prop
  | refused (call : RuntimeCall) (answer : call.Answer) (refuses : call.accepts answer = false) :
      RuntimeStep sha256 state call (answer, state)
  | persisted (prepared : PreparedAttempt)
      (absent : state.store.records.lookup prepared.providerBinding.attemptId = none) :
      RuntimeStep sha256 state (.persistPrepared prepared)
        (.ok (), ⟨state.store.write prepared.providerBinding.attemptId
          { prepared, status := .prepared }, state.executor⟩)
  | claimed (attemptId workerId : String) (current updated : RuntimeAttemptRecord)
      (found : state.store.records.lookup attemptId = some current)
      (status : current.status = .prepared)
      (same : updated = { current with
        status := .dispatchClaimed, claimedBy := some workerId
        fenceToken := some (state.store.nextFenceToken + 1), reason := "dispatch_claimed" }) :
      RuntimeStep sha256 state
        (.claimDispatch attemptId current.prepared.promptBinding.renderedMessageHash workerId)
        (some updated, ⟨(state.store.issueFence).write attemptId updated, state.executor⟩)
  | unknown (attemptId workerId : String) (current updated : RuntimeAttemptRecord)
      (found : state.store.records.lookup attemptId = some current)
      (owner : current.claimedBy = some workerId) (status : current.status = .dispatchClaimed)
      (same : updated = { current with
        status := .pendingReconciliation, reason := "provider_execution_unknown" }) :
      RuntimeStep sha256 state (.markProviderExecutionUnknown attemptId workerId)
        (.ok updated, ⟨state.store.write attemptId updated, state.executor⟩)
  | admitted (workerId : String) (call : AdmittedToolCall)
      (current updated : RuntimeAttemptRecord)
      (found : state.store.records.lookup call.attemptId = some current)
      (owner : current.claimedBy = some workerId) (status : current.status = .dispatchClaimed)
      (job : call.jobId = current.prepared.providerBinding.jobId)
      (same : updated = { current with
        status := .toolAdmitted, reason := "tool_admitted", toolCallId := some call.toolCallId
        toolIdempotencyKey := some call.idempotencyKey }) :
      RuntimeStep sha256 state (.recordToolAdmission workerId call)
        (.ok updated, ⟨state.store.write call.attemptId updated, state.executor⟩)
  | recorded (attemptId workerId : String) (result : ExecutionResult)
      (current : RuntimeAttemptRecord)
      (found : state.store.records.lookup attemptId = some current)
      (owner : current.claimedBy = some workerId) (status : current.status = .toolAdmitted) :
      RuntimeStep sha256 state (.recordToolExecution attemptId workerId result)
        (.ok (executedRecord current result),
          ⟨state.store.write attemptId (executedRecord current result), state.executor⟩)
  | executed (call : AdmittedToolCall) (workerId : String) (fenceToken : Int)
      (registry : ToolRegistry) (current : RuntimeAttemptRecord) (result : ExecutionResult)
      (executor : InMemoryToolExecutor)
      (found : state.store.records.lookup call.attemptId = some current)
      (owner : current.claimedBy = some workerId) (status : current.status = .toolAdmitted)
      (fence : current.fenceToken = some fenceToken)
      (toolCall : current.toolCallId = some call.toolCallId)
      (key : current.toolIdempotencyKey = some call.idempotencyKey)
      (step : InMemoryToolExecutor.Step sha256 call registry state.executor (result, executor)) :
      RuntimeStep sha256 state (.executeAdmittedWithFence call workerId fenceToken registry)
        (.ok result, ⟨state.store.write call.attemptId (executedRecord current result), executor⟩)
  | settled (workerId : String) (call : AdmittedToolCall) (operationId : String)
      (outcome : OutcomeDecision) (current updated : RuntimeAttemptRecord)
      (found : state.store.records.lookup call.attemptId = some current)
      (owner : current.claimedBy = some workerId) (status : current.status = .toolExecuted)
      (toolCall : current.toolCallId = some call.toolCallId)
      (operation : current.operationId = some operationId)
      (job : call.jobId = current.prepared.providerBinding.jobId)
      (same : updated = { current with
        status := outcomeStatus outcome.status, reason := outcome.safeReasonCode }) :
      RuntimeStep sha256 state (.recordOutcome workerId call operationId outcome)
        (.ok updated, ⟨state.store.write call.attemptId updated, state.executor⟩)
  | cancelled (attemptId : String) (current updated : RuntimeAttemptRecord)
      (found : state.store.records.lookup attemptId = some current)
      (status : current.status = .toolExecuted)
      (same : updated = { current with status := .cancelled }) :
      RuntimeStep sha256 state (.cancelAfterExternalEffect attemptId)
        (.ok updated, ⟨state.store.write attemptId updated, state.executor⟩)
  | created (record : CompensationRecord) (source : RuntimeAttemptRecord)
      (found : state.store.records.lookup record.sourceAttemptId = some source)
      (status : source.status = .cancelled)
      (toolCall : source.toolCallId = some record.sourceToolCallId)
      (operation : source.operationId = some record.sourceOperationId)
      (fresh : source.toolIdempotencyKey ≠ some record.idempotencyKey)
      (absent : state.store.compensations.lookup record.compensationId = none)
      (planned : record.status = .planned) (unclaimed : record.claimedBy = none) :
      RuntimeStep sha256 state
        (.createCompensation record.compensationId record.sourceAttemptId record.idempotencyKey)
        (.ok record, ⟨state.store.writeCompensation record.compensationId record, state.executor⟩)
  | compensationClaimed (compensationId workerId : String) (current updated : CompensationRecord)
      (found : state.store.compensations.lookup compensationId = some current)
      (planned : current.status = .planned)
      (same : updated = { current with
        status := .dispatchClaimed, claimedBy := some workerId }) :
      RuntimeStep sha256 state (.claimCompensation compensationId workerId)
        (some updated, ⟨state.store.writeCompensation compensationId updated, state.executor⟩)
  | compensationUnknown (compensationId workerId : String) (current updated : CompensationRecord)
      (found : state.store.compensations.lookup compensationId = some current)
      (owner : current.claimedBy = some workerId) (status : current.status = .dispatchClaimed)
      (same : updated = { current with status := .pendingReconciliation }) :
      RuntimeStep sha256 state (.markCompensationUnknown compensationId workerId)
        (.ok updated, ⟨state.store.writeCompensation compensationId updated, state.executor⟩)

section Inversion

variable {sha256 : String → String} {state : RuntimeState}

theorem owned_cases (store : InMemoryRuntimeAttemptStore) (attemptId workerId : String) :
    store.owned attemptId workerId = .error .notOwner ∨
      ∃ current, store.owned attemptId workerId = .ok current ∧
        store.records.lookup attemptId = some current ∧ current.claimedBy = some workerId := by
  simp only [owned]
  cases found : store.records.lookup attemptId with
  | none => exact .inl rfl
  | some current =>
    dsimp only
    by_cases owner : current.claimedBy = some workerId
    · rw [if_pos owner]
      exact .inr ⟨current, rfl, rfl, owner⟩
    · rw [if_neg owner]
      exact .inl rfl

theorem persistPrepared_step (prepared : PreparedAttempt) :
    RuntimeStep sha256 state (.persistPrepared prepared)
      (perform sha256 (.persistPrepared prepared) state) := by
  simp only [perform, persistPrepared]
  cases found : state.store.records.lookup prepared.providerBinding.attemptId with
  | some => exact .refused _ _ rfl
  | none => exact .persisted prepared found

theorem claimDispatch_step (attemptId expectedPromptHash workerId : String) :
    RuntimeStep sha256 state (.claimDispatch attemptId expectedPromptHash workerId)
      (perform sha256 (.claimDispatch attemptId expectedPromptHash workerId) state) := by
  simp only [perform, claimDispatch]
  cases found : state.store.records.lookup attemptId with
  | none => exact .refused _ _ rfl
  | some current =>
    dsimp only
    by_cases blocked : current.status ≠ .prepared ∨
        current.prepared.promptBinding.renderedMessageHash ≠ expectedPromptHash
    · rw [if_pos blocked]
      exact .refused _ _ rfl
    · rw [if_neg blocked]
      rw [not_or, not_not, not_not] at blocked
      rw [← blocked.2]
      exact .claimed attemptId workerId current _ found blocked.1 rfl

theorem markProviderExecutionUnknown_step (attemptId workerId : String) :
    RuntimeStep sha256 state (.markProviderExecutionUnknown attemptId workerId)
      (perform sha256 (.markProviderExecutionUnknown attemptId workerId) state) := by
  simp only [perform, markProviderExecutionUnknown]
  rcases owned_cases state.store attemptId workerId with unowned | ⟨current, owns, found, owner⟩
  · rw [unowned]
    exact .refused _ _ rfl
  · rw [owns]
    by_cases blocked : current.status ≠ .dispatchClaimed
    · simp only [bind, Except.bind, if_pos blocked]
      exact .refused _ _ rfl
    · simp only [bind, Except.bind, if_neg blocked]
      exact .unknown attemptId workerId current _ found owner (not_not.mp blocked) rfl

theorem recordToolAdmission_step (workerId : String) (call : AdmittedToolCall) :
    RuntimeStep sha256 state (.recordToolAdmission workerId call)
      (perform sha256 (.recordToolAdmission workerId call) state) := by
  simp only [perform, recordToolAdmission]
  rcases owned_cases state.store call.attemptId workerId with
    unowned | ⟨current, owns, found, owner⟩
  · rw [unowned]
    exact .refused _ _ rfl
  · rw [owns]
    by_cases blocked : current.status ≠ .dispatchClaimed ∨
        call.jobId ≠ current.prepared.providerBinding.jobId
    · simp only [bind, Except.bind, if_pos blocked]
      exact .refused _ _ rfl
    · simp only [bind, Except.bind, if_neg blocked]
      rw [not_or, not_not, not_not] at blocked
      exact .admitted workerId call current _ found owner blocked.1 blocked.2 rfl

theorem recordToolExecution_step (attemptId workerId : String) (result : ExecutionResult) :
    RuntimeStep sha256 state (.recordToolExecution attemptId workerId result)
      (perform sha256 (.recordToolExecution attemptId workerId result) state) := by
  simp only [perform, recordToolExecution]
  rcases owned_cases state.store attemptId workerId with unowned | ⟨current, owns, found, owner⟩
  · rw [unowned]
    exact .refused _ _ rfl
  · rw [owns]
    by_cases blocked : current.status ≠ .toolAdmitted
    · simp only [bind, Except.bind, if_pos blocked]
      exact .refused _ _ rfl
    · simp only [bind, Except.bind, if_neg blocked]
      exact .recorded attemptId workerId result current found owner (not_not.mp blocked)

theorem executeAdmittedWithFence_step (call : AdmittedToolCall) (workerId : String)
    (fenceToken : Int) (registry : ToolRegistry) :
    RuntimeStep sha256 state (.executeAdmittedWithFence call workerId fenceToken registry)
      (perform sha256 (.executeAdmittedWithFence call workerId fenceToken registry) state) := by
  simp only [perform, RuntimeState.executeAdmittedWithFence, toolAuthority, recordToolExecution]
  rcases owned_cases state.store call.attemptId workerId with
    unowned | ⟨current, owns, found, owner⟩
  · rw [unowned]
    exact .refused _ _ rfl
  · rw [owns]
    by_cases blocked : current.status ≠ .toolAdmitted ∨ current.fenceToken ≠ some fenceToken ∨
        current.toolCallId ≠ some call.toolCallId ∨
        current.toolIdempotencyKey ≠ some call.idempotencyKey
    · simp only [bind, Except.bind, if_pos blocked]
      exact .refused _ _ rfl
    · have authorized := blocked
      simp only [not_or, not_not] at authorized
      have admitted : ¬ current.status ≠ .toolAdmitted := not_not.mpr authorized.1
      simp only [bind, Except.bind, if_neg blocked, if_neg admitted]
      exact .executed call workerId fenceToken registry current _ _ found owner authorized.1
        authorized.2.1 authorized.2.2.1 authorized.2.2.2
        (InMemoryToolExecutor.execute_step sha256 call registry state.executor)

theorem recordOutcome_step (workerId : String) (call : AdmittedToolCall) (operationId : String)
    (outcome : OutcomeDecision) :
    RuntimeStep sha256 state (.recordOutcome workerId call operationId outcome)
      (perform sha256 (.recordOutcome workerId call operationId outcome) state) := by
  simp only [perform, recordOutcome]
  rcases owned_cases state.store call.attemptId workerId with
    unowned | ⟨current, owns, found, owner⟩
  · rw [unowned]
    exact .refused _ _ rfl
  · rw [owns]
    by_cases blocked : current.status ≠ .toolExecuted ∨
        current.toolCallId ≠ some call.toolCallId ∨ current.operationId ≠ some operationId ∨
        call.jobId ≠ current.prepared.providerBinding.jobId
    · simp only [bind, Except.bind, if_pos blocked]
      exact .refused _ _ rfl
    · simp only [bind, Except.bind, if_neg blocked]
      simp only [not_or, not_not] at blocked
      refine .settled workerId call operationId outcome current _ found owner blocked.1
        blocked.2.1 blocked.2.2.1 blocked.2.2.2 ?_
      cases outcome.status with
      | verified | parseFailure | schemaInvalid | semanticallyInvalid | identityMismatch => rfl

theorem cancelAfterExternalEffect_step (attemptId : String) :
    RuntimeStep sha256 state (.cancelAfterExternalEffect attemptId)
      (perform sha256 (.cancelAfterExternalEffect attemptId) state) := by
  simp only [perform, cancelAfterExternalEffect]
  cases found : state.store.records.lookup attemptId with
  | none => exact .refused _ _ rfl
  | some current =>
    dsimp only
    by_cases blocked : current.status ≠ .toolExecuted
    · rw [if_pos blocked]
      exact .refused _ _ rfl
    · rw [if_neg blocked]
      exact .cancelled attemptId current _ found (not_not.mp blocked) rfl

theorem createCompensation_step (compensationId sourceAttemptId idempotencyKey : String) :
    RuntimeStep sha256 state (.createCompensation compensationId sourceAttemptId idempotencyKey)
      (perform sha256
        (.createCompensation compensationId sourceAttemptId idempotencyKey) state) := by
  simp only [perform, createCompensation]
  cases found : state.store.records.lookup sourceAttemptId with
  | none => exact .refused _ _ rfl
  | some source =>
    dsimp only
    split
    · next toolCallId operationId status toolCall operation =>
      by_cases reused : some idempotencyKey = source.toolIdempotencyKey
      · rw [if_pos reused]
        exact .refused _ _ rfl
      · rw [if_neg reused]
        cases stored : state.store.compensations.lookup compensationId with
        | some => exact .refused _ _ rfl
        | none =>
          exact .created ⟨compensationId, sourceAttemptId, toolCallId, operationId,
            idempotencyKey, .planned, none⟩ source found status toolCall operation
            (fun same => reused same.symm) stored rfl rfl
    · exact .refused _ _ rfl

theorem claimCompensation_step (compensationId workerId : String) :
    RuntimeStep sha256 state (.claimCompensation compensationId workerId)
      (perform sha256 (.claimCompensation compensationId workerId) state) := by
  simp only [perform, claimCompensation]
  cases found : state.store.compensations.lookup compensationId with
  | none => exact .refused _ _ rfl
  | some current =>
    dsimp only
    by_cases blocked : current.status ≠ .planned
    · rw [if_pos blocked]
      exact .refused _ _ rfl
    · rw [if_neg blocked]
      exact .compensationClaimed compensationId workerId current _ found (not_not.mp blocked) rfl

theorem markCompensationUnknown_step (compensationId workerId : String) :
    RuntimeStep sha256 state (.markCompensationUnknown compensationId workerId)
      (perform sha256 (.markCompensationUnknown compensationId workerId) state) := by
  simp only [perform, markCompensationUnknown]
  cases found : state.store.compensations.lookup compensationId with
  | none => exact .refused _ _ rfl
  | some current =>
    dsimp only
    by_cases blocked : current.status ≠ .dispatchClaimed ∨ current.claimedBy ≠ some workerId
    · rw [if_pos blocked]
      exact .refused _ _ rfl
    · rw [if_neg blocked]
      simp only [not_or, not_not] at blocked
      exact .compensationUnknown compensationId workerId current _ found blocked.2 blocked.1 rfl

theorem perform_step (call : RuntimeCall) :
    RuntimeStep sha256 state call (perform sha256 call state) := by
  cases call with
  | persistPrepared => exact persistPrepared_step _
  | claimDispatch => exact claimDispatch_step _ _ _
  | markProviderExecutionUnknown => exact markProviderExecutionUnknown_step _ _
  | recordToolAdmission => exact recordToolAdmission_step _ _
  | recordToolExecution => exact recordToolExecution_step _ _ _
  | executeAdmittedWithFence => exact executeAdmittedWithFence_step _ _ _ _
  | recordOutcome => exact recordOutcome_step _ _ _ _
  | cancelAfterExternalEffect => exact cancelAfterExternalEffect_step _
  | createCompensation => exact createCompensation_step _ _ _
  | claimCompensation => exact claimCompensation_step _ _
  | markCompensationUnknown => exact markCompensationUnknown_step _ _

end Inversion

section Stages

/-- How far an attempt has come; the last stage is never left. -/
def RuntimeAttemptStatus.stage : RuntimeAttemptStatus → Nat
  | .prepared => 1
  | .dispatchClaimed => 2
  | .toolAdmitted => 3
  | .toolExecuted => 4
  | _ => 5

theorem RuntimeAttemptStatus.stage_le (status : RuntimeAttemptStatus) : status.stage ≤ 5 := by
  cases status <;> decide

def InMemoryRuntimeAttemptStore.stage (store : InMemoryRuntimeAttemptStore) (attemptId : String) :
    Nat :=
  (store.records.lookup attemptId).elim 0 (·.status.stage)

variable {attemptId : String} {record : RuntimeAttemptRecord}

theorem stage_of_found {store : InMemoryRuntimeAttemptStore}
    (found : store.records.lookup attemptId = some record) :
    store.stage attemptId = record.status.stage := by
  rw [InMemoryRuntimeAttemptStore.stage, found]
  rfl

theorem stage_le (store : InMemoryRuntimeAttemptStore) (attemptId : String) :
    store.stage attemptId ≤ 5 := by
  cases found : store.records.lookup attemptId with
  | none =>
    rw [InMemoryRuntimeAttemptStore.stage, found]
    exact Nat.zero_le 5
  | some record =>
    rw [stage_of_found found]
    exact record.status.stage_le

def Advances (before after : InMemoryRuntimeAttemptStore) (attemptId : String) : Prop :=
  after.records.lookup attemptId = before.records.lookup attemptId ∨
    before.stage attemptId < after.stage attemptId

theorem write_advances {store after : InMemoryRuntimeAttemptStore}
    (written : after.records = store.records.insert attemptId record)
    (further : store.stage attemptId < record.status.stage) (other : String) :
    Advances store after other := by
  by_cases same : other = attemptId
  · refine .inr ?_
    have found : after.records.lookup other = some record := by
      rw [written, Dict.lookup_insert_eq, if_pos same]
    rw [stage_of_found found, same]
    exact further
  · refine .inl ?_
    rw [written, Dict.lookup_insert_eq, if_neg same]

theorem executedRecord_stage (current : RuntimeAttemptRecord) (result : ExecutionResult) :
    4 ≤ (executedRecord current result).status.stage := by
  simp only [executedRecord]
  split
  · exact Nat.le_refl 4
  · exact Nat.le_succ 4

theorem outcomeStatus_stage (status : OutcomeStatus) : (outcomeStatus status).stage = 5 := by
  cases status <;> rfl

variable {sha256 : String → String} {state : RuntimeState} {call : RuntimeCall}
variable {result : call.Answer × RuntimeState}

theorem RuntimeStep.advances (step : RuntimeStep sha256 state call result) (attemptId : String) :
    Advances state.store result.2.store attemptId := by
  cases step with
  | refused => exact .inl rfl
  | persisted _ absent =>
    refine write_advances rfl ?_ attemptId
    rw [InMemoryRuntimeAttemptStore.stage, absent]
    exact Nat.zero_lt_one
  | claimed _ _ _ updated found status same =>
    refine write_advances rfl ?_ attemptId
    have reached : updated.status = .dispatchClaimed := by rw [same]
    rw [stage_of_found found, status, reached]
    decide
  | unknown _ _ _ updated found _ status same =>
    refine write_advances rfl ?_ attemptId
    have reached : updated.status = .pendingReconciliation := by rw [same]
    rw [stage_of_found found, status, reached]
    decide
  | admitted _ _ _ updated found _ status _ same =>
    refine write_advances rfl ?_ attemptId
    have reached : updated.status = .toolAdmitted := by rw [same]
    rw [stage_of_found found, status, reached]
    decide
  | recorded id workerId result current found owner status
  | executed call workerId fence registry current result executor found owner status =>
    refine write_advances rfl ?_ attemptId
    have reached := executedRecord_stage current result
    rw [stage_of_found found, status]
    exact Nat.lt_of_lt_of_le (by decide) reached
  | settled _ _ _ outcome _ updated found _ status _ _ _ same =>
      refine write_advances rfl ?_ attemptId
      have reached : updated.status.stage = 5 := by
        rw [same]
        exact outcomeStatus_stage outcome.status
      rw [stage_of_found found, status, reached]
      decide
  | cancelled _ _ updated found status same =>
    refine write_advances rfl ?_ attemptId
    have reached : updated.status = .cancelled := by rw [same]
    rw [stage_of_found found, status, reached]
    decide
  | created =>
    exact .inl rfl
  | compensationClaimed => exact .inl rfl
  | compensationUnknown => exact .inl rfl

theorem RuntimeStep.keeps_last (step : RuntimeStep sha256 state call result)
    (found : state.store.records.lookup attemptId = some record) (last : record.status.stage = 5) :
    result.2.store.records.lookup attemptId = some record := by
  rcases step.advances attemptId with same | further
  · exact same.trans found
  · rw [stage_of_found found, last] at further
    exact absurd further (not_lt.mpr (stage_le _ _))

end Stages

abbrev RuntimeEvent := Event RuntimeState RuntimeCall RuntimeCall.Answer

section Runs

variable (sha256 : String → String)

/-- The state behind the calls, from an empty store. -/
def runtimeAfter (executor : InMemoryToolExecutor) (calls : List RuntimeCall) : RuntimeState :=
  final (perform sha256) { executor } calls

def runtimeTrace (state : RuntimeState) (calls : List RuntimeCall) : List RuntimeEvent :=
  trace (perform sha256) state calls

variable {sha256} {state : RuntimeState} {calls : List RuntimeCall} {e : RuntimeEvent}

theorem event_step (member : e ∈ runtimeTrace sha256 state calls) :
    RuntimeStep sha256 e.before e.call (e.response, e.after) := by
  have performed := mem_trace_performed member
  have same : perform sha256 e.call e.before = (e.response, e.after) :=
    Prod.ext performed.1.symm performed.2.symm
  rw [← same]
  exact perform_step e.call

end Runs

end BackendHandbook.Runtime
