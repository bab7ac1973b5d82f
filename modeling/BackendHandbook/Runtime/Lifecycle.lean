import BackendHandbook.Runtime.Compensation
import BackendHandbook.Runtime.Orchestration

/-! The life of an attempt, under every interleaving of the runtime's programs. -/

namespace BackendHandbook.Runtime

open Run Tools InMemoryRuntimeAttemptStore RuntimeState List

def RuntimeAttemptStatus.terminal (status : RuntimeAttemptStatus) : Bool :=
  status ∈ [.pendingReconciliation, .toolExecutionBlocked, .outcomeRejected, .cancelled, .completed]

section Model

variable (loads : String → Option Json.Value) (sha256 : String → String)
variable (executor : InMemoryToolExecutor)

def claimsDispatch (attemptId : String) : RuntimeEvent → Bool
  | ⟨_, .claimDispatch id _ _, answer, _⟩ => id = attemptId && Option.isSome answer
  | _ => false

def entered : RuntimeEvent → Option AdmittedToolCall
  | ⟨before, .executeAdmittedWithFence call workerId fenceToken _, _, _⟩ =>
    if (before.store.toolAuthority call workerId fenceToken).isOk then some call else none
  | _ => none

def entersFor (attemptId : String) (e : RuntimeEvent) : Bool :=
  (entered e).any (·.attemptId = attemptId)

def executedCall : RuntimeEvent → Option (AdmittedToolCall × Option String)
  | ⟨_, .executeAdmittedWithFence call _ _ _, .ok result, _⟩ => some (call, result.operationId)
  | _ => none

structure SameCommand (first second : AdmittedToolCall) : Prop where
  key : first.idempotencyKey = second.idempotencyKey
  report : first.reportId = second.reportId
  version : first.expectedReportVersion = second.expectedReportVersion

def statusOf (state : RuntimeState) (attemptId : String) : Option RuntimeAttemptStatus :=
  (state.store.records.lookup attemptId).map (·.status)

def VerifiedBy (front : List RuntimeEvent) (e : RuntimeEvent) (attemptId : String) : Prop :=
  ∃ workerId call operationId outcome raw,
    e.call = .recordOutcome workerId call operationId outcome ∧ call.attemptId = attemptId ∧
    outcome.status = .verified ∧
    verifyPublishOutcome loads raw call operationId = .ok outcome ∧
    ∃ x ∈ front, ∃ executed, executedCall x = some (executed, some operationId) ∧
      executed.attemptId = attemptId ∧ executed.toolCallId = call.toolCallId ∧
      SameCommand executed call

structure AttemptLifecycle (calls : List RuntimeCall) : Prop where
  claimedOnce : ∀ attemptId,
    (runtimeTrace sha256 { executor } calls).countP (claimsDispatch attemptId) ≤ 1
  fences : ∀ attemptId other record second token,
    (runtimeAfter sha256 executor calls).store.records.lookup attemptId = some record →
      (runtimeAfter sha256 executor calls).store.records.lookup other = some second →
        attemptId ≠ other → record.fenceToken = some token → second.fenceToken ≠ some token
  enteredOnce : ∀ attemptId,
    (runtimeTrace sha256 { executor } calls).countP (entersFor attemptId) ≤ 1
  completed : ∀ front e back attemptId,
    runtimeTrace sha256 { executor } calls = front ++ e :: back →
      statusOf e.before attemptId ≠ some .completed →
        statusOf e.after attemptId = some .completed → VerifiedBy loads front e attemptId
  settled : ∀ front back attemptId record, calls = front ++ back →
    (runtimeAfter sha256 executor front).store.records.lookup attemptId = some record →
      record.status.terminal = true →
        (runtimeAfter sha256 executor calls).store.records.lookup attemptId = some record

/-- The record stands where the outcome of the call is waited for, as far as it is checked. -/
def AwaitsOutcome (state : RuntimeState) (workerId : String) (call : AdmittedToolCall)
    (operationId : String) : Prop :=
  ∃ record, state.store.records.lookup call.attemptId = some record ∧
    record.claimedBy = some workerId ∧ record.status = .toolExecuted ∧
    record.toolCallId = some call.toolCallId ∧ record.operationId = some operationId ∧
    call.jobId = record.prepared.providerBinding.jobId

/-- A checked outcome is recorded for another command than the attempt has executed. -/
def Swaps (front : List RuntimeEvent) (e : RuntimeEvent) : Prop :=
  ∃ workerId call operationId outcome,
    e.call = .recordOutcome workerId call operationId outcome ∧ outcome.status = .verified ∧
    AwaitsOutcome e.before workerId call operationId ∧
    ∃ x ∈ front, ∃ executed operation, executedCall x = some (executed, operation) ∧
      executed.attemptId = call.attemptId ∧ ¬ SameCommand executed call

/-- What the programs of the runtime call: an outcome is the verification of some text. -/
def Issued : RuntimeCall → Prop
  | .recordToolExecution _ _ _ => False
  | .recordOutcome _ call operationId outcome =>
    ∃ raw, verifyPublishOutcome loads raw call operationId = .ok outcome
  | _ => True

end Model

section Programs

open Interleaving

variable (loads : String → Option Json.Value) (sha256 : String → String)

theorem program_issues (client : RuntimeClient) :
    (client.program loads sha256).Issues (Issued loads) := by
  cases client with
  | persistPrepared | markProviderExecutionUnknown | cancelAfterExternalEffect =>
    refine ⟨trivial, ?_⟩
    intro answer
    cases answer with
    | error | ok => exact trivial
  | claimDispatch => exact ⟨trivial, fun _ => trivial⟩
  | executeAdmittedTool =>
      simp only [RuntimeClient.program]
      split
      · exact trivial
      · next decision decided =>
        simp only [executeAdmittedTool]
        split
        · refine ⟨trivial, ?_⟩
          intro answer
          cases answer with
          | error => exact trivial
          | ok =>
            refine ⟨trivial, ?_⟩
            intro second
            cases second with
            | error | ok => exact trivial
        · exact trivial
  | verifyOutcomeAndComplete raw =>
    simp only [RuntimeClient.program, verifyOutcomeAndComplete]
    split
    · exact trivial
    · exact trivial
    · next operationId _ _ _ =>
      split
      · exact trivial
      · next outcome checked =>
        refine ⟨⟨raw, checked⟩, ?_⟩
        intro answer
        cases answer with
        | error | ok => exact trivial

theorem runtimeCalls_issued (executor : InMemoryToolExecutor) (actions : List RuntimeAction) :
    ∀ call ∈ runtimeCalls loads sha256 executor actions, Issued loads call := by
  apply calls_issue (perform sha256) (Issued loads) _ _
  · intro thread member
    cases member
  · intro program started
    rcases mem_map.mp started with ⟨action, _, same⟩
    cases action with
    | enter client =>
      cases same
      exact program_issues loads sha256 client
    | resume => cases same

end Programs

section Steps

variable {sha256 : String → String} {state : RuntimeState} {call : RuntimeCall}
variable {result : call.Answer × RuntimeState}

theorem lookup_write (store : InMemoryRuntimeAttemptStore) (attemptId other : String)
    (record : RuntimeAttemptRecord) : (store.write attemptId record).records.lookup other =
      if other = attemptId then some record else store.records.lookup other :=
  Dict.lookup_insert_eq _ _ _ _

theorem executedRecord_fence (current : RuntimeAttemptRecord) (result : ExecutionResult) :
    (executedRecord current result).fenceToken = current.fenceToken := by
  simp only [executedRecord]
  split
  · rfl
  · rfl

def FenceFrom (before after : InMemoryRuntimeAttemptStore) (attemptId : String) (token : Int) :
    Prop :=
  (∃ earlier, before.records.lookup attemptId = some earlier ∧ earlier.fenceToken = some token) ∨
    token = after.nextFenceToken ∧ before.nextFenceToken < token ∧
      ∀ other, other ≠ attemptId → after.records.lookup other = before.records.lookup other

variable {attemptId : String} {before after : InMemoryRuntimeAttemptStore}
  {record : RuntimeAttemptRecord} {tool : AdmittedToolCall}

variable {token : Int}

theorem write_fenceFrom {written : String}
    {current updated : RuntimeAttemptRecord} (stored : ∀ other, after.records.lookup other =
      if other = written then some updated else before.records.lookup other)
    (found : before.records.lookup written = some current)
    (same : updated.fenceToken = current.fenceToken)
    (behind : after.records.lookup attemptId = some record)
    (fence : record.fenceToken = some token) : FenceFrom before after attemptId token := by
  rw [stored] at behind
  by_cases here : attemptId = written
  · rw [if_pos here] at behind
    cases behind
    exact .inl ⟨current, here ▸ found, same ▸ fence⟩
  · rw [if_neg here] at behind
    exact .inl ⟨record, behind, fence⟩

theorem RuntimeStep.fenceFrom (step : RuntimeStep sha256 state call result)
    (behind : result.2.store.records.lookup attemptId = some record)
    (fence : record.fenceToken = some token) :
    FenceFrom state.store result.2.store attemptId token := by
  cases step with
  | refused => exact .inl ⟨record, behind, fence⟩
  | created | compensationClaimed | compensationUnknown =>
    exact .inl ⟨_, behind, fence⟩
  | persisted =>
    rw [lookup_write] at behind
    split at behind
    · cases behind
      cases fence
    · exact .inl ⟨record, behind, fence⟩
  | claimed id _ _ _ _ _ same =>
    rw [lookup_write] at behind
    by_cases here : attemptId = id
    · rw [if_pos here, same] at behind
      cases behind
      cases fence
      refine .inr ⟨rfl, Int.lt_succ _, ?_⟩
      intro other different
      rw [lookup_write, if_neg (here ▸ different)]
      rfl
    · rw [if_neg here] at behind
      exact .inl ⟨record, behind, fence⟩
  | unknown id workerId current updated found owner status same
  | admitted workerId call current updated found owner status job same =>
    exact write_fenceFrom (lookup_write _ _ · _) found (by rw [same]) behind fence
  | recorded id workerId result current found
  | executed call workerId token registry current result executor found =>
    exact write_fenceFrom (lookup_write _ _ · _) found (executedRecord_fence current result)
      behind fence
  | settled _ _ _ _ _ _ found _ _ _ _ _ same =>
      exact write_fenceFrom (lookup_write _ _ · _) found (by rw [same]) behind fence
  | cancelled _ _ _ found _ same =>
    exact write_fenceFrom (lookup_write _ _ · _) found (by rw [same]) behind fence

theorem RuntimeStep.nextFence_le (step : RuntimeStep sha256 state call result) :
    state.store.nextFenceToken ≤ result.2.store.nextFenceToken := by
  cases step with
  | claimed => exact (Int.lt_succ _).le
  | _ => exact le_refl _

/-- No fence token is ahead of the counter, and no two attempts hold the same. -/
structure Fenced (store : InMemoryRuntimeAttemptStore) : Prop where
  issued : ∀ attemptId record token, store.records.lookup attemptId = some record →
    record.fenceToken = some token → token ≤ store.nextFenceToken
  distinct : ∀ attemptId other record second token,
    store.records.lookup attemptId = some record → store.records.lookup other = some second →
      attemptId ≠ other → record.fenceToken = some token → second.fenceToken ≠ some token

theorem RuntimeStep.fenced (step : RuntimeStep sha256 state call result)
    (fenced : Fenced state.store) : Fenced result.2.store := by
  constructor
  · intro attemptId record token found fence
    rcases step.fenceFrom found fence with ⟨earlier, listed, held⟩ | ⟨same, _, _⟩
    · exact (fenced.issued attemptId earlier token listed held).trans step.nextFence_le
    · exact same.le
  · intro attemptId other record second token found listed different fence shared
    rcases step.fenceFrom found fence with ⟨earlier, stood, held⟩ | ⟨_, ahead, others⟩
    · rcases step.fenceFrom listed shared with ⟨former, stands, holds⟩ | ⟨_, ahead, others⟩
      · exact fenced.distinct attemptId other earlier former token stood stands different held
          holds
      · exact absurd (fenced.issued attemptId earlier token stood held) (not_le.mpr ahead)
    · rw [others other different.symm] at listed
      exact absurd (fenced.issued other second token listed shared) (not_le.mpr ahead)

theorem advances_le (advances : Advances before after attemptId) :
    before.stage attemptId ≤ after.stage attemptId := by
  rcases advances with same | further
  · rw [InMemoryRuntimeAttemptStore.stage, InMemoryRuntimeAttemptStore.stage, same]
  · exact further.le

theorem stage_write (store : InMemoryRuntimeAttemptStore) (attemptId : String)
    (record : RuntimeAttemptRecord) :
    (store.write attemptId record).stage attemptId = record.status.stage := by
  apply stage_of_found
  rw [lookup_write, if_pos rfl]

theorem RuntimeStep.claims (step : RuntimeStep sha256 state call result)
    (claims : claimsDispatch attemptId ⟨state, call, result.1, result.2⟩ = true) :
    state.store.stage attemptId = 1 ∧ 1 < result.2.store.stage attemptId := by
  cases step with
  | refused call _ refuses =>
    cases call with
    | claimDispatch =>
      simp only [claimsDispatch, RuntimeCall.accepts] at claims refuses
      rw [refuses, Bool.and_false] at claims
      cases claims
    | _ => cases claims
  | claimed _ _ _ updated found status same =>
    simp only [claimsDispatch, Option.isSome_some, Bool.and_true, decide_eq_true_eq] at claims
    have reached : updated.status = .dispatchClaimed := by rw [same]
    rw [← claims, stage_of_found found, status, stage_write, reached]
    decide
  | _ => cases claims

variable {workerId : String}

theorem authorized_accepted {fenceToken : Int} {registry : ToolRegistry}
    (authorized : (state.store.toolAuthority tool workerId fenceToken).isOk = true) :
    RuntimeCall.accepts (.executeAdmittedWithFence tool workerId fenceToken registry)
      (perform sha256 (.executeAdmittedWithFence tool workerId fenceToken registry)
        state).1 = true := by
  simp only [perform, RuntimeState.executeAdmittedWithFence]
  simp only [toolAuthority, recordToolExecution] at authorized ⊢
  rcases owned_cases state.store tool.attemptId workerId with
    unowned | ⟨current, owns, _, _⟩
  · rw [unowned] at authorized
    cases authorized
  · rw [owns] at authorized ⊢
    by_cases blocked : current.status ≠ .toolAdmitted ∨ current.fenceToken ≠ some fenceToken ∨
        current.toolCallId ≠ some tool.toolCallId ∨
        current.toolIdempotencyKey ≠ some tool.idempotencyKey
    · simp only [bind, Except.bind, if_pos blocked] at authorized
      cases authorized
    · have admitted : ¬ current.status ≠ .toolAdmitted := fun different => blocked (.inl different)
      simp only [bind, Except.bind, if_neg blocked, if_neg admitted]
      rfl

structure EntersWith (state after : RuntimeState) (tool : AdmittedToolCall)
    (operationId : Option String) : Prop where
  before : state.store.stage tool.attemptId = 3
  behind : ∃ record, after.store.records.lookup tool.attemptId = some record ∧
    3 < record.status.stage ∧ record.toolCallId = some tool.toolCallId ∧
    record.operationId = operationId

theorem RuntimeStep.enters (step : RuntimeStep sha256 state call result)
    {operationId : Option String}
    (executes : executedCall ⟨state, call, result.1, result.2⟩ = some (tool, operationId)) :
    EntersWith state result.2 tool operationId := by
  cases step with
  | refused call answer refuses =>
    cases call with
    | executeAdmittedWithFence =>
      cases answer with
      | error => cases executes
      | ok => cases refuses
    | _ => cases executes
  | executed _ _ _ _ current result _ found _ status _ toolCall =>
      cases executes
      refine ⟨?_, executedRecord current result, ?_, executedRecord_stage current result, ?_, ?_⟩
      · rw [stage_of_found found, status]
        rfl
      · rw [lookup_write, if_pos rfl]
      · simp only [executedRecord]
        split
        · exact toolCall
        · exact toolCall
      · simp only [executedRecord]
        split
        · rfl
        · rfl
  | _ => cases executes

theorem entered_executes (enters : entered (event (perform sha256) state call) = some tool) :
    ∃ operationId, executedCall (event (perform sha256) state call) = some (tool, operationId) := by
  cases call with
  | executeAdmittedWithFence _ workerId fence registry =>
    simp only [event, entered] at enters ⊢
    split at enters
    · next authorized =>
      cases enters
      have accepted : RuntimeCall.accepts
          (.executeAdmittedWithFence tool workerId fence registry)
          (perform sha256
            (.executeAdmittedWithFence tool workerId fence registry) state).1 = true :=
        authorized_accepted authorized
      generalize perform sha256
        (.executeAdmittedWithFence tool workerId fence registry) state = result at accepted ⊢
      rcases result with ⟨answer, _⟩
      cases answer with
      | error => cases accepted
      | ok result => exact ⟨result.operationId, rfl⟩
    · cases enters
  | _ => cases enters

theorem RuntimeStep.executed_from (step : RuntimeStep sha256 state call result)
    {loads : String → Option Json.Value} (issued : Issued loads call)
    (found : result.2.store.records.lookup attemptId = some record)
    (executed : record.status = .toolExecuted) :
    state.store.records.lookup attemptId = some record ∨
      ∃ tool, executedCall ⟨state, call, result.1, result.2⟩ = some (tool, record.operationId) ∧
        tool.attemptId = attemptId ∧ record.toolCallId = some tool.toolCallId := by
  cases step with
  | refused | compensationClaimed | compensationUnknown => exact .inl found
  | created =>
    exact .inl found
  | recorded => exact False.elim issued
  | persisted =>
    rw [lookup_write] at found
    split at found
    · cases found
      cases executed
    · exact .inl found
  | claimed id workerId current updated listed status same
  | unknown id workerId current updated listed owner status same
  | admitted workerId call current updated listed owner status job same =>
    rw [lookup_write] at found
    split at found
    · cases found
      rw [same] at executed
      cases executed
    · exact .inl found
  | executed tool workerId fence registry current result executor listed owner status token
      toolCall key step =>
      have enters := (RuntimeStep.executed tool workerId fence registry current result executor
        listed owner status token toolCall key step).enters rfl
      by_cases here : attemptId = tool.attemptId
      · rcases enters.behind with ⟨_, stands, _, call, operation⟩
        rw [here] at found
        cases found.symm.trans stands
        exact .inr ⟨tool, by rw [operation]; rfl, here.symm, call⟩
      · rw [lookup_write, if_neg here] at found
        exact .inl found
  | settled _ _ _ outcome _ _ _ _ _ _ _ _ same =>
      rw [lookup_write] at found
      split at found
      · cases found
        rw [same] at executed
        have stage := outcomeStatus_stage outcome.status
        rw [show outcomeStatus outcome.status = .toolExecuted from executed] at stage
        cases stage
      · exact .inl found
  | cancelled _ _ _ _ _ same =>
    rw [lookup_write] at found
    split at found
    · cases found
      rw [same] at executed
      cases executed
    · exact .inl found

theorem outcomeStatus_completed {status : OutcomeStatus}
    (completed : outcomeStatus status = .completed) : status = .verified := by
  cases status with
  | verified => rfl
  | parseFailure | schemaInvalid | semanticallyInvalid | identityMismatch => cases completed

theorem executedRecord_incomplete (current : RuntimeAttemptRecord) (result : ExecutionResult) :
    (executedRecord current result).status ≠ .completed := by
  simp only [executedRecord]
  split
  · simp
  · simp

theorem RuntimeStep.completes (step : RuntimeStep sha256 state call result)
    (before : statusOf state attemptId ≠ some .completed)
    (behind : statusOf result.2 attemptId = some .completed) : ∃ workerId tool operationId outcome,
      call = .recordOutcome workerId tool operationId outcome ∧ tool.attemptId = attemptId ∧
        outcome.status = .verified ∧ AwaitsOutcome state workerId tool operationId := by
  have unwritten : ∀ {id : String} {updated : RuntimeAttemptRecord}
      {store : InMemoryRuntimeAttemptStore}, store.records = state.store.records →
        updated.status ≠ .completed →
          ¬ ((store.write id updated).records.lookup attemptId).map (·.status) =
            some .completed := by
    intro id updated store same incomplete completed
    rw [lookup_write, same] at completed
    split at completed
    · exact incomplete (Option.some.inj completed)
    · exact before completed
  simp only [statusOf] at behind
  cases step with
  | refused => exact absurd behind before
  | created | compensationClaimed | compensationUnknown =>
    exact absurd behind before
  | persisted => exact absurd behind (unwritten rfl nofun)
  | claimed id workerId current updated listed status same
  | unknown id workerId current updated listed owner status same
  | admitted workerId call current updated listed owner status job same
  | cancelled id current updated listed status same =>
    exact absurd behind (unwritten rfl (by rw [same]; nofun))
  | recorded id workerId result current | executed tool workerId fence registry current result =>
    exact absurd behind (unwritten rfl (executedRecord_incomplete current result))
  | settled workerId tool operationId outcome current _ listed owner status toolCall operation
      job same =>
      rw [lookup_write] at behind
      by_cases here : attemptId = tool.attemptId
      · rw [if_pos here, same] at behind
        exact ⟨workerId, tool, operationId, outcome, rfl, here.symm,
          outcomeStatus_completed (Option.some.inj behind),
          current, listed, owner, status, toolCall, operation, job⟩
      · rw [if_neg here] at behind
        exact absurd behind before

theorem awaited_completes {operationId : String}
    {outcome : OutcomeDecision} (verified : outcome.status = .verified)
    (awaits : AwaitsOutcome state workerId tool operationId) :
    statusOf state tool.attemptId ≠ some .completed ∧
      statusOf (perform sha256 (.recordOutcome workerId tool operationId outcome)
        state).2 tool.attemptId = some .completed := by
  rcases awaits with ⟨record, found, owner, status, toolCall, operation, job⟩
  constructor
  · rw [statusOf, found, Option.map_some, status]
    nofun
  · have unblocked : ¬ (record.status ≠ .toolExecuted ∨ record.toolCallId ≠ some tool.toolCallId ∨
        record.operationId ≠ some operationId ∨
        tool.jobId ≠ record.prepared.providerBinding.jobId) := by
      simp only [not_or, not_not]
      exact ⟨status, toolCall, operation, job⟩
    simp only [perform, recordOutcome, owned, found, if_pos owner, bind, Except.bind,
      if_neg unblocked, verified]
    simp [statusOf, commit, pure, Except.pure, lookup_write]

end Steps

section Runs

variable {loads : String → Option Json.Value} {sha256 : String → String}
variable {executor : InMemoryToolExecutor} {state : RuntimeState} {calls : List RuntimeCall}
variable {e : RuntimeEvent}

theorem event_stage_le (member : e ∈ runtimeTrace sha256 state calls) (attemptId : String) :
    e.before.store.stage attemptId ≤ e.after.store.stage attemptId :=
  advances_le ((event_step member).advances attemptId)

theorem claimed_once (calls : List RuntimeCall) (attemptId : String) :
    (runtimeTrace sha256 { executor } calls).countP (claimsDispatch attemptId) ≤ 1 := by
  refine counted_once (perform sha256) (fun state => state.store.stage attemptId) 1
    _ _ _ (fun e member => event_stage_le member attemptId) ?_
  intro e member claims
  exact (event_step member).claims claims

def executesFor (attemptId : String) (e : RuntimeEvent) : Bool :=
  (executedCall e).any (·.1.attemptId = attemptId)

theorem executesFor_iff (attemptId : String) (e : RuntimeEvent) : executesFor attemptId e = true ↔
      ∃ tool operationId, executedCall e = some (tool, operationId) ∧
        tool.attemptId = attemptId := by
  rw [executesFor, Option.any_eq_true_iff_get]
  constructor
  · rintro ⟨present, same⟩
    exact ⟨_, _, (Option.some_get present).symm, of_decide_eq_true same⟩
  · rintro ⟨_, _, found, same⟩
    refine ⟨Option.isSome_of_eq_some found, ?_⟩
    simp only [found]
    exact decide_eq_true same

theorem executed_once (calls : List RuntimeCall) (attemptId : String) :
    (runtimeTrace sha256 { executor } calls).countP (executesFor attemptId) ≤ 1 := by
  refine counted_once (perform sha256) (fun state => state.store.stage attemptId) 3
    _ _ _ (fun e member => event_stage_le member attemptId) ?_
  intro e member executes
  rcases (executesFor_iff attemptId e).mp executes with ⟨_, _, found, same⟩
  have enters := (event_step member).enters found
  rcases enters.behind with ⟨_, written, past, _⟩
  rw [← same, stage_of_found written]
  exact ⟨enters.before, past⟩

variable {attemptId : String}

theorem entersFor_executesFor (member : e ∈ runtimeTrace sha256 state calls)
    (enters : entersFor attemptId e = true) : executesFor attemptId e = true := by
  rw [mem_trace_event _ _ _ e member] at enters ⊢
  simp only [entersFor] at enters
  cases found : entered (event (perform sha256) e.before e.call) with
  | none =>
    rw [found] at enters
    cases enters
  | some tool =>
    rw [found] at enters
    rcases entered_executes found with ⟨operationId, executes⟩
    exact (executesFor_iff attemptId _).mpr
      ⟨tool, operationId, executes, of_decide_eq_true enters⟩

theorem executed_traced (calls : List RuntimeCall) (issued : ∀ call ∈ calls, Issued loads call)
    {record : RuntimeAttemptRecord}
    (found : (runtimeAfter sha256 executor calls).store.records.lookup attemptId = some record)
    (executed : record.status = .toolExecuted) :
    ∃ x ∈ runtimeTrace sha256 { executor } calls, ∃ tool,
      executedCall x = some (tool, record.operationId) ∧ tool.attemptId = attemptId ∧
        record.toolCallId = some tool.toolCallId := by
  induction calls using reverseRecOn with
  | nil =>
    cases found
  | append_singleton calls call ih =>
    have step : RuntimeStep sha256 (runtimeAfter sha256 executor calls) call _ := perform_step call
    rw [runtimeAfter, final_append] at found
    rw [runtimeTrace, trace_append]
    rcases step.executed_from (issued call (mem_append_right _ mem_cons_self)) found
      executed with before | ⟨tool, executes, same, called⟩
    · rcases ih (fun other member => issued other (mem_append_left _ member)) before with
        ⟨x, member, tool, executes, same, called⟩
      exact ⟨x, mem_append_left _ member, tool, executes, same, called⟩
    · exact ⟨_, mem_append_right _ mem_cons_self, tool, executes, same, called⟩

theorem eq_of_countP_le_one {α : Type} {p : α → Bool} {items : List α} (once : items.countP p ≤ 1)
    {first second : α} (member : first ∈ items) (holds : p first = true) (listed : second ∈ items)
    (counts : p second = true) : first = second := by
  rw [countP_eq_length_filter] at once
  have inside := mem_filter.mpr ⟨member, holds⟩
  have within := mem_filter.mpr ⟨listed, counts⟩
  generalize items.filter p = kept at once inside within
  match kept, once with
  | [], _ => cases inside
  | [only], _ => rw [mem_singleton.mp inside, mem_singleton.mp within]

theorem terminal_stage {status : RuntimeAttemptStatus} (terminal : status.terminal = true) :
    status.stage = 5 := by
  cases status with
  | prepared | dispatchClaimed | toolAdmitted | toolExecuted => cases terminal
  | _ => rfl

theorem runtimeAfter_fenced (calls : List RuntimeCall) :
    Fenced (runtimeAfter sha256 executor calls).store := by
  refine kept_final (perform sha256) (fun state => Fenced state.store) { executor }
    calls (fun e member => (event_step member).fenced) ⟨?_, ?_⟩
  · intro attemptId record token found
    cases found
  · intro attemptId other record second token found
    cases found

theorem AttemptLifecycle.unswapped
    (law : AttemptLifecycle loads sha256 executor calls) {front back : List RuntimeEvent}
    (split : runtimeTrace sha256 { executor } calls = front ++ e :: back) : ¬ Swaps front e := by
  rintro ⟨workerId, call, operationId, outcome, called, verified, awaits, x, listed, executed,
    operation, executes, same, different⟩
  have member : e ∈ runtimeTrace sha256 { executor } calls := by
    rw [split]
    exact mem_append_right _ mem_cons_self
  have ends : statusOf e.before call.attemptId ≠ some .completed ∧
      statusOf (perform sha256 (.recordOutcome workerId call operationId outcome)
        e.before).2 call.attemptId = some .completed := awaited_completes verified awaits
  rw [← called, ← (mem_trace_performed member).2] at ends
  rcases law.completed front e back call.attemptId split ends.1 ends.2 with
    ⟨_, _, _, _, _, records, _, _, _, y, inside, tool, runs, own, _, command⟩
  cases called.symm.trans records
  have both : x = y := by
    have once : (runtimeTrace sha256 { executor } calls).countP
        (executesFor call.attemptId) ≤ 1 := executed_once calls call.attemptId
    rw [split] at once
    exact eq_of_countP_le_one once (mem_append_left _ listed)
      ((executesFor_iff _ _).mpr ⟨executed, operation, executes, same⟩)
      (mem_append_left _ inside) ((executesFor_iff _ _).mpr ⟨tool, _, runs, own⟩)
  rw [both] at executes
  cases executes.symm.trans runs
  exact different command

/-- Without a swap, what completes an attempt has verified the call that was executed for it. -/
theorem completion_verified
    (issued : ∀ call ∈ calls, Issued loads call) {front back : List RuntimeEvent}
    (split : runtimeTrace sha256 { executor } calls = front ++ e :: back)
    (quiet : ¬ Swaps front e) (before : statusOf e.before attemptId ≠ some .completed)
    (behind : statusOf e.after attemptId = some .completed) :
    VerifiedBy loads front e attemptId := by
  have member : e ∈ runtimeTrace sha256 { executor } calls := by
    rw [split]
    exact mem_append_right _ mem_cons_self
  rcases (event_step member).completes before behind with
    ⟨workerId, tool, operationId, outcome, called, own, verified, awaits⟩
  rcases trace_eq_append_cons _ _ _ _ _ _ split with ⟨early, _, parts, fronts, same, _⟩
  have here : e.before = runtimeAfter sha256 executor early := congrArg Event.before same
  have recorded := issued e.call
    (by rw [parts]; exact mem_append_right _ mem_cons_self)
  rw [called] at recorded
  rcases recorded with ⟨raw, checked⟩
  rcases awaits with ⟨record, found, owner, status, toolCall, operation, job⟩
  rw [here] at found
  rcases executed_traced early (fun call inside => issued call (by
      rw [parts]; exact mem_append_left _ inside)) found status with
    ⟨x, listed, executed, executes, attempt, run⟩
  rw [operation] at executes
  have listed : x ∈ front := by
    rw [fronts]
    exact listed
  refine ⟨workerId, tool, operationId, outcome, raw, called, own, verified, checked, x, listed,
    executed, executes, attempt.trans own, ?_, ?_⟩
  · exact Option.some.inj (run.symm.trans toolCall)
  · by_contra different
    refine quiet ⟨workerId, tool, operationId, outcome, called, verified,
      ⟨record, here ▸ found, owner, status, toolCall, operation, job⟩, x, listed, executed,
      some operationId, executes, attempt, different⟩

/-- The lifecycle law holds of calls as the programs make them exactly where no checked outcome
is recorded for another command than the one executed. -/
theorem lifecycle_of_calls (calls : List RuntimeCall) (issued : ∀ call ∈ calls, Issued loads call) :
    AttemptLifecycle loads sha256 executor calls ↔
      ∀ front e back, runtimeTrace sha256 { executor } calls = front ++ e :: back →
        ¬ Swaps front e := by
  constructor
  · intro law front e back split
    exact law.unswapped split
  · intro quiet
    constructor
    · exact claimed_once calls
    · exact (runtimeAfter_fenced calls).distinct
    · intro attemptId
      refine le_trans (countP_mono_left ?_) (executed_once calls attemptId)
      intro e member enters
      exact entersFor_executesFor member enters
    · intro front e back attemptId split before behind
      exact completion_verified issued split (quiet front e back split) before behind
    · intro front back attemptId record split found terminal
      rw [split, runtimeAfter, final_append]
      refine kept_final (perform sha256)
        (fun state => state.store.records.lookup attemptId = some record) _ back ?_ found
      intro e member stands
      exact (event_step member).keeps_last stands (terminal_stage terminal)

end Runs

/-- The lifecycle law holds of an interleaving exactly where no verified outcome is recorded for
an attempt through a call with its tool call identity but of another command. -/
theorem attempt_lifecycle (loads : String → Option Json.Value) (sha256 : String → String)
    (executor : InMemoryToolExecutor) (actions : List RuntimeAction) :
    AttemptLifecycle loads sha256 executor (runtimeCalls loads sha256 executor actions) ↔
      ∀ front e back, runtimeTrace sha256 { executor }
        (runtimeCalls loads sha256 executor actions) = front ++ e :: back → ¬ Swaps front e :=
  lifecycle_of_calls _ (runtimeCalls_issued loads sha256 executor actions)

namespace Sample

variable (reportId : String)

def candidateText : String :=
  Json.object
    [("kind", Json.string "tool_call"), ("tool_call_id", Json.string "call-1"),
     ("tool_name", Json.string "publish_report"), ("tool_version", Json.string "v1"),
     ("arguments", Json.object
       [("tenant_id", Json.string "tenant-a"), ("report_id", Json.string reportId)])]

def candidate : Json.Value :=
  .object
    [("kind", .text "tool_call"), ("tool_call_id", .text "call-1"),
     ("tool_name", .text "publish_report"), ("tool_version", .text "v1"),
     ("arguments", .object [("tenant_id", .text "tenant-a"), ("report_id", .text reportId)])]

def idempotencyKey : String := "sha256:publish_report:v1:tenant-a:" ++ reportId ++ ":1"

def operationId : String := "op:" ++ idempotencyKey "report-7"

/-- What the tool reports: another report, under the operation of the executed call. -/
def outcomeText : String :=
  Json.object
    [("operation_id", Json.string operationId), ("published", "true"),
     ("report", Json.object [("report_id", Json.string "report-8"), ("version", "1")]),
     ("warnings", "[]")]

def outcomeValue : Json.Value :=
  .object
    [("operation_id", .text operationId), ("published", .boolean true),
     ("report", .object [("report_id", .text "report-8"), ("version", .integer 1)]),
     ("warnings", .array [])]

def loads (raw : String) : Option Json.Value :=
  if raw = candidateText "report-7" then some (candidate "report-7")
  else if raw = candidateText "report-8" then some (candidate "report-8")
  else if raw = outcomeText then some outcomeValue
  else none

def reports : InMemoryReportStore :=
  .create [⟨"tenant-a", "report-7", .draft, 1⟩, ⟨"tenant-a", "report-8", .draft, 1⟩]

def auth : AuthContext := ⟨"tenant-a", "user-1", "publisher"⟩

variable (reportId : String)

def envelope : ProviderExecutionEnvelope where
  jobId := "J1"
  attemptId := "A1"
  correlationId := "C1"
  outcome := .success
  candidateHash := some ("sha256:" ++ candidateText reportId)
  rawCandidate := some (candidateText reportId)
  sources := by simp

def admittedCall : AdmittedToolCall :=
  ⟨"A1", "J1", "call-1", "publish_report", "v1", "tenant-a", reportId, 1, idempotencyKey reportId⟩

theorem admitted (known : reportId ∈ ["report-7", "report-8"]) :
    admitProviderCandidate loads digest (envelope reportId) prepared "C1" registry auth reports =
      .ok ⟨.allowed, some "call-1", "ADMISSION_PASSED", some (admittedCall reportId)⟩ := by
  have decisions : ∀ id ∈ ["report-7", "report-8"],
      (admitProviderCandidate loads digest (envelope id) prepared "C1" registry auth
        reports).toOption.map (fun decision => decision) =
        some ⟨.allowed, some "call-1", "ADMISSION_PASSED", some (admittedCall id)⟩ := by
    decide +kernel
  rcases Fallible.exists_of_toOption (decisions reportId known) with ⟨_, decided, same⟩
  rw [decided, same]

theorem verified : verifyPublishOutcome loads outcomeText (admittedCall "report-8") operationId =
      .ok ⟨.verified, "OUTCOME_VERIFIED"⟩ := by
  have outcome : (verifyPublishOutcome loads outcomeText (admittedCall "report-8")
      operationId).toOption.map (fun decision => decision) =
        some ⟨.verified, "OUTCOME_VERIFIED"⟩ := by decide +kernel
  rcases Fallible.exists_of_toOption outcome with ⟨_, decided, same⟩
  rw [decided, same]

/-- One candidate is executed, the outcome is verified for the other. -/
def swapped : List RuntimeAction :=
  [.enter (.persistPrepared prepared), .resume 0,
   .enter (.claimDispatch "A1" "sha256:prompt" "W1"), .resume 1,
   .enter (.executeAdmittedTool (envelope "report-7") prepared "C1" auth reports registry "W1" 1
     registry), .resume 2, .resume 2,
   .enter (.verifyOutcomeAndComplete outcomeText (admittedCall "report-8")
     ⟨.executed, some operationId⟩ "W1"), .resume 3]

def executedFirst : List RuntimeCall :=
  [.persistPrepared prepared, .claimDispatch "A1" "sha256:prompt" "W1",
   .recordToolAdmission "W1" (admittedCall "report-7"),
   .executeAdmittedWithFence (admittedCall "report-7") "W1" 1 registry]

theorem swapped_calls : runtimeCalls loads digest {} swapped = executedFirst ++
    [.recordOutcome "W1" (admittedCall "report-8") operationId ⟨.verified, "OUTCOME_VERIFIED"⟩] := by
  simp only [runtimeCalls, swapped, map, RuntimeAction.turn, RuntimeClient.program,
    admitted "report-7" (by decide), verifyOutcomeAndComplete, verified]
  rfl

/-- The attempt is completed by an outcome for a report that was not published for it. -/
theorem swapped_completed :
    ¬ AttemptLifecycle loads digest {} (runtimeCalls loads digest {} swapped) := by
  rw [swapped_calls]
  intro law
  rcases law.completed (runtimeTrace digest {} executedFirst) _ [] "A1" (trace_append _ _ _ _)
    (by decide +kernel) (by decide +kernel) with
    ⟨_, _, _, _, _, called, _, _, _, x, listed, _, executes, _, _, command⟩
  have published : (runtimeTrace digest {} executedFirst).all
      (fun e => (executedCall e).all (·.1.reportId = "report-7")) = true := by decide +kernel
  have report := all_eq_true.mp published x listed
  rw [executes] at report
  cases called
  exact absurd (command.report.symm.trans (of_decide_eq_true report)) (by decide)

end Sample

end BackendHandbook.Runtime
