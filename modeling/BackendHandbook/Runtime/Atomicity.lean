import BackendHandbook.Foundation.Threads
import BackendHandbook.Runtime.Compensation
import BackendHandbook.Runtime.Orchestration

/-! What a call of the runtime leaves behind when it raises. -/

namespace BackendHandbook.Runtime

open Interleaving Run Tools InMemoryRuntimeAttemptStore RuntimeState

def raisedBy {α : Type} : Except RuntimeError α → Option RuntimeError
  | .error raised => some raised
  | .ok _ => none

def RuntimeCall.raises : (call : RuntimeCall) → call.Answer → Option RuntimeError
  | .persistPrepared _, answer => raisedBy answer
  | .claimDispatch _ _ _, _ => none
  | .markProviderExecutionUnknown _ _, answer => raisedBy answer
  | .recordToolAdmission _ _, answer => raisedBy answer
  | .recordToolExecution _ _ _, answer => raisedBy answer
  | .executeAdmittedWithFence _ _ _ _, answer => raisedBy answer
  | .recordOutcome _ _ _ _, answer => raisedBy answer
  | .cancelAfterExternalEffect _, answer => raisedBy answer
  | .createCompensation _ _ _, answer => raisedBy answer
  | .claimCompensation _ _, _ => none
  | .markCompensationUnknown _ _, answer => raisedBy answer

def RuntimeFinished.raises : RuntimeFinished → Option BoundaryError
  | .raised error => some error
  | _ => none

/-- A call on the runtime: one of the two functions over the store, or a method of the store. -/
inductive RuntimeEntry
  | executeAdmittedTool (decision : AdmissionDecision) (workerId : String)
      (expectedFenceToken : Int) (registry : ToolRegistry)
  | verifyOutcomeAndComplete (rawToolOutcome : String) (call : AdmittedToolCall)
      (execution : ExecutionResult) (workerId : String)
  | method (call : RuntimeCall)

section Model

variable (loads : String → Option Json.Value) (sha256 : String → String)

def programAlone (program : RuntimeProgram) (state : RuntimeState) :
    Option BoundaryError × RuntimeState :=
  let (finished, after) := program.alone (perform sha256) nofun state
  (finished.raises, after)

def RuntimeEntry.run : RuntimeEntry → RuntimeState → Option BoundaryError × RuntimeState
  | .executeAdmittedTool decision workerId expectedFenceToken registry, state =>
    programAlone sha256 (Runtime.executeAdmittedTool decision workerId expectedFenceToken registry)
      state
  | .verifyOutcomeAndComplete rawToolOutcome call execution workerId, state =>
    programAlone sha256
      (Runtime.verifyOutcomeAndComplete loads rawToolOutcome call execution workerId) state
  | .method call, state =>
    let (answer, after) := perform sha256 call state
    ((call.raises answer).map .store, after)

end Model

/-- Every attempt record, compensation and executed operation is as it was. -/
structure Untouched (before after : RuntimeState) : Prop where
  records : after.store.records = before.store.records
  compensations : after.store.compensations = before.store.compensations
  executor : after.executor = before.executor

theorem Untouched.refl (state : RuntimeState) : Untouched state state := ⟨rfl, rfl, rfl⟩

structure Allows (decision : AdmissionDecision) (call : AdmittedToolCall) : Prop where
  status : decision.status = .allowed
  call : decision.admittedCall = some call

theorem Allows.unique {decision : AdmissionDecision} {call other : AdmittedToolCall}
    (allows : Allows decision call) (same : Allows decision other) : call = other :=
  Option.some.inj (allows.call.symm.trans same.call)

variable (state : RuntimeState) (workerId : String) (call : AdmittedToolCall)

/-- The worker's attempt is claimed for dispatch, and of the job of the call. -/
structure Admissible (current : RuntimeAttemptRecord) : Prop where
  found : state.store.records.lookup call.attemptId = some current
  owner : current.claimedBy = some workerId
  status : current.status = .dispatchClaimed
  job : call.jobId = current.prepared.providerBinding.jobId

/-- The worker's attempt has executed the call, under this operation. -/
structure Concludable (operationId : String) (current : RuntimeAttemptRecord) : Prop where
  found : state.store.records.lookup call.attemptId = some current
  owner : current.claimedBy = some workerId
  status : current.status = .toolExecuted
  toolCall : current.toolCallId = some call.toolCallId
  operation : current.operationId = some operationId
  job : call.jobId = current.prepared.providerBinding.jobId

/-- The calls that write and then raise: an admission that its fence does not follow, and a
conclusion that has no result. -/
def Torn (loads : String → Option Json.Value) (state : RuntimeState) : RuntimeEntry → Prop
  | .executeAdmittedTool decision workerId expectedFenceToken _ =>
    ∃ call current, Allows decision call ∧ Admissible state workerId call current ∧
      current.fenceToken ≠ some expectedFenceToken
  | .verifyOutcomeAndComplete rawToolOutcome call execution workerId =>
    ∃ operationId outcome current, execution.operationId = some operationId ∧
      execution.status ≠ .rejectedDisabled ∧
      verifyPublishOutcome loads rawToolOutcome call operationId = .ok outcome ∧
      Concludable state workerId call operationId current ∧ (call.jobId = "" ∨ call.attemptId = "")
  | .method _ => False

section Guards

variable {state : RuntimeState} {workerId : String} {call : AdmittedToolCall}
  {current : RuntimeAttemptRecord}

variable {attemptId : String}

theorem owned_of_found {store : InMemoryRuntimeAttemptStore}
    (found : store.records.lookup attemptId = some current)
    (owner : current.claimedBy = some workerId) : store.owned attemptId workerId = .ok current := by
  simp only [owned, found]
  rw [if_pos owner]

def admittedRecord (current : RuntimeAttemptRecord) (call : AdmittedToolCall) :
    RuntimeAttemptRecord :=
  { current with
    status := .toolAdmitted, reason := "tool_admitted", toolCallId := some call.toolCallId
    toolIdempotencyKey := some call.idempotencyKey }

def afterAdmission (state : RuntimeState) (call : AdmittedToolCall)
    (current : RuntimeAttemptRecord) : RuntimeState :=
  { state with store := state.store.write call.attemptId (admittedRecord current call) }

theorem Admissible.admission (admissible : Admissible state workerId call current) :
    state.store.recordToolAdmission workerId call =
      .ok (admittedRecord current call, (afterAdmission state call current).store) := by
  have passes : ¬ (current.status ≠ .dispatchClaimed ∨
      call.jobId ≠ current.prepared.providerBinding.jobId) := by
    rw [not_or, not_not, not_not]
    exact ⟨admissible.status, admissible.job⟩
  simp only [recordToolAdmission, owned_of_found admissible.found admissible.owner, bind,
    Except.bind, if_neg passes]
  rfl

theorem admission_cases (state : RuntimeState) (workerId : String) (call : AdmittedToolCall) :
    (∃ raised, state.store.recordToolAdmission workerId call = .error raised) ∨
      ∃ current, Admissible state workerId call current := by
  rcases owned_cases state.store call.attemptId workerId with
    unowned | ⟨current, owns, found, owner⟩
  · refine .inl ⟨.notOwner, ?_⟩
    simp only [recordToolAdmission, unowned]
    rfl
  · by_cases blocked : current.status ≠ .dispatchClaimed ∨
        call.jobId ≠ current.prepared.providerBinding.jobId
    · refine .inl ⟨.admissionMismatch, ?_⟩
      simp only [recordToolAdmission, owns, bind, Except.bind, if_pos blocked]
      rfl
    · rw [not_or, not_not, not_not] at blocked
      exact .inr ⟨current, found, owner, blocked.1, blocked.2⟩

def concludedRecord (current : RuntimeAttemptRecord) (outcome : OutcomeDecision) :
    RuntimeAttemptRecord :=
  { current with status := outcomeStatus outcome.status, reason := outcome.safeReasonCode }

theorem Concludable.conclusion {operationId : String}
    (concludable : Concludable state workerId call operationId current)
    (outcome : OutcomeDecision) : state.store.recordOutcome workerId call operationId outcome =
      .ok (concludedRecord current outcome,
        state.store.write call.attemptId (concludedRecord current outcome)) := by
  have passes : ¬ (current.status ≠ .toolExecuted ∨ current.toolCallId ≠ some call.toolCallId ∨
      current.operationId ≠ some operationId ∨
      call.jobId ≠ current.prepared.providerBinding.jobId) := by
    simp only [not_or, not_not]
    exact ⟨concludable.status, concludable.toolCall, concludable.operation, concludable.job⟩
  simp only [recordOutcome, owned_of_found concludable.found concludable.owner, bind, Except.bind,
    if_neg passes]
  obtain ⟨status, _⟩ := outcome
  cases status <;> rfl

theorem recordOutcome_cases (state : RuntimeState) (workerId : String) (call : AdmittedToolCall)
    (operationId : String) (outcome : OutcomeDecision) :
    (∃ raised, state.store.recordOutcome workerId call operationId outcome = .error raised) ∨
      ∃ current, Concludable state workerId call operationId current := by
  rcases owned_cases state.store call.attemptId workerId with
    unowned | ⟨current, owns, found, owner⟩
  · refine .inl ⟨.notOwner, ?_⟩
    simp only [recordOutcome, unowned]
    rfl
  · by_cases blocked : current.status ≠ .toolExecuted ∨
        current.toolCallId ≠ some call.toolCallId ∨ current.operationId ≠ some operationId ∨
        call.jobId ≠ current.prepared.providerBinding.jobId
    · refine .inl ⟨.outcomeMismatch, ?_⟩
      simp only [recordOutcome, owns, bind, Except.bind, if_pos blocked]
      rfl
    · simp only [not_or, not_not] at blocked
      exact .inr ⟨current, found, owner, blocked.1, blocked.2.1, blocked.2.2.1, blocked.2.2.2⟩

theorem not_untouched_of_write {after : RuntimeState}
    {updated : RuntimeAttemptRecord} (found : state.store.records.lookup attemptId = some current)
    (written : after.store = state.store.write attemptId updated)
    (moved : updated.status ≠ current.status) : ¬ Untouched state after := by
  intro untouched
  have same : (state.store.write attemptId updated).records.lookup attemptId = some current := by
    rw [← written, untouched.records, found]
  rw [write, Dict.lookup_insert_eq, if_pos rfl] at same
  exact moved (congrArg _ (Option.some.inj same))

end Guards

section Entries

variable {loads : String → Option Json.Value} {sha256 : String → String} {state : RuntimeState}
  {workerId : String} {call : AdmittedToolCall} {current : RuntimeAttemptRecord}

def Atomic (loads : String → Option Json.Value) (sha256 : String → String) (state : RuntimeState)
    (entry : RuntimeEntry) : Prop :=
  (entry.run loads sha256 state).1.isSome → Untouched state (entry.run loads sha256 state).2

theorem atomic_of_untouched {entry : RuntimeEntry}
    (same : (entry.run loads sha256 state).2 = state) : Atomic loads sha256 state entry := by
  intro _
  rw [same]
  exact .refl state

theorem perform_raises {request : RuntimeCall}
    (raises : (request.raises (perform sha256 request state).1).isSome) :
    (perform sha256 request state).2 = state := by
  have step : RuntimeStep sha256 state request (perform sha256 request state) :=
    perform_step request
  generalize perform sha256 request state = result at step raises
  cases step with
  | refused => rfl
  | persisted | claimed | unknown | admitted | recorded | executed | settled | cancelled
  | created | compensationClaimed | compensationUnknown => cases raises

theorem authority_after_admission (admissible : Admissible state workerId call current)
    (fenceToken : Int) :
    (afterAdmission state call current).store.toolAuthority call workerId fenceToken =
      if current.fenceToken = some fenceToken then .ok (admittedRecord current call)
      else .error .staleAuthority := by
  have found : (afterAdmission state call current).store.records.lookup call.attemptId =
      some (admittedRecord current call) := by
    rw [afterAdmission, write, Dict.lookup_insert_eq, if_pos rfl]
  simp only [toolAuthority, owned_of_found found admissible.owner, bind, Except.bind]
  by_cases fenced : current.fenceToken = some fenceToken
  · have passes : ¬ ((admittedRecord current call).status ≠ .toolAdmitted ∨
        (admittedRecord current call).fenceToken ≠ some fenceToken ∨
        (admittedRecord current call).toolCallId ≠ some call.toolCallId ∨
        (admittedRecord current call).toolIdempotencyKey ≠ some call.idempotencyKey) := by
      simp only [not_or, not_not]
      exact ⟨rfl, fenced, rfl, rfl⟩
    rw [if_neg passes, if_pos fenced]
    rfl
  · rw [if_pos (.inr (.inl fenced)), if_neg fenced]
    rfl

variable {fenceToken : Int}

theorem executes_after_admission (admissible : Admissible state workerId call current)
    (fenced : current.fenceToken = some fenceToken) (registry : ToolRegistry) :
    ((afterAdmission state call current).executeAdmittedWithFence sha256 call workerId fenceToken
      registry).1 = .ok (state.executor.execute sha256 call registry).1 := by
  have found : (afterAdmission state call current).store.records.lookup call.attemptId =
      some (admittedRecord current call) := by
    rw [afterAdmission, write, Dict.lookup_insert_eq, if_pos rfl]
  simp only [executeAdmittedWithFence, authority_after_admission admissible,
    if_pos fenced, recordToolExecution, owned_of_found found admissible.owner]
  rfl

variable {decision : AdmissionDecision}

theorem admission_raises (allows : Allows decision call) {registry : ToolRegistry}
    {raised : RuntimeError}
    (refused : state.store.recordToolAdmission workerId call = .error raised) :
    programAlone sha256 (executeAdmittedTool decision workerId fenceToken registry) state =
      (some (.store raised), state) := by
  simp only [programAlone, executeAdmittedTool, allows.status, allows.call, Program.alone,
    perform, refused]
  rfl

theorem stale_raises (allows : Allows decision call)
    (admissible : Admissible state workerId call current)
    (stale : current.fenceToken ≠ some fenceToken) (registry : ToolRegistry) :
    programAlone sha256 (executeAdmittedTool decision workerId fenceToken registry) state =
      (some (.store .staleAuthority), afterAdmission state call current) := by
  have refused : (afterAdmission state call current).executeAdmittedWithFence sha256 call workerId
      fenceToken registry = (.error .staleAuthority, afterAdmission state call current) := by
    simp [executeAdmittedWithFence, authority_after_admission admissible, if_neg stale]
  have admits : perform sha256 (.recordToolAdmission workerId call) state =
      (.ok (admittedRecord current call), afterAdmission state call current) := by
    simp only [perform, admissible.admission]
    rfl
  simp only [programAlone, executeAdmittedTool, allows.status, allows.call, Program.alone, admits]
  simp only [perform, refused]
  rfl

theorem fenced_executes (allows : Allows decision call)
    (admissible : Admissible state workerId call current)
    (fenced : current.fenceToken = some fenceToken) (registry : ToolRegistry) :
    (programAlone sha256 (executeAdmittedTool decision workerId fenceToken registry) state).1 =
      none := by
  have admits : perform sha256 (.recordToolAdmission workerId call) state =
      (.ok (admittedRecord current call), afterAdmission state call current) := by
    simp only [perform, admissible.admission]
    rfl
  have executes : ((afterAdmission state call current).executeAdmittedWithFence sha256 call workerId
      fenceToken registry).1 = .ok (state.executor.execute sha256 call registry).1 :=
    executes_after_admission admissible fenced registry
  simp only [programAlone, executeAdmittedTool, allows.status, allows.call, Program.alone, admits]
  simp only [perform, executes]
  rfl

/-- An execution that raises leaves what it found, unless its fence is stale after an admission. -/
theorem executeAdmittedTool_atomic (decision : AdmissionDecision) (workerId : String)
    (fenceToken : Int) (registry : ToolRegistry) :
    Atomic loads sha256 state (.executeAdmittedTool decision workerId fenceToken registry) ↔
      ¬ Torn loads state (.executeAdmittedTool decision workerId fenceToken registry) := by
  by_cases allowed : ∃ call, Allows decision call
  · obtain ⟨call, allows⟩ := allowed
    rcases admission_cases state workerId call with ⟨_, refused⟩ | ⟨current, admissible⟩
    · refine iff_of_true (atomic_of_untouched ?_) ?_
      · rw [RuntimeEntry.run, admission_raises allows refused]
      · rintro ⟨other, current, same, admissible, _⟩
        cases allows.unique same
        cases refused.symm.trans admissible.admission
    · by_cases fenced : current.fenceToken = some fenceToken
      · apply iff_of_true
        · intro raises
          rw [RuntimeEntry.run, fenced_executes allows admissible fenced registry] at raises
          cases raises
        · rintro ⟨_, _, same, holds, stale⟩
          cases allows.unique same
          cases Option.some.inj (admissible.found.symm.trans holds.found)
          exact stale fenced
      · refine iff_of_false ?_ (not_not.mpr ⟨call, current, allows, admissible, fenced⟩)
        intro atomic
        have untouched := atomic (by
          rw [RuntimeEntry.run, stale_raises allows admissible fenced registry]
          rfl)
        rw [RuntimeEntry.run, stale_raises allows admissible fenced registry] at untouched
        have moved : (admittedRecord current call).status ≠ current.status := by
          rw [admissible.status]
          exact nofun
        exact not_untouched_of_write admissible.found rfl moved untouched
  · refine iff_of_true (atomic_of_untouched ?_) ?_
    · simp only [RuntimeEntry.run, executeAdmittedTool]
      split
      · next call status given => exact absurd ⟨call, status, given⟩ allowed
      · rfl
    · rintro ⟨call, _, allows, _⟩
      exact allowed ⟨call, allows⟩

variable {rawToolOutcome operationId : String}

theorem reason_of_verifyPublishOutcome {outcome : OutcomeDecision}
    (verified : verifyPublishOutcome loads rawToolOutcome call operationId = .ok outcome) :
    outcome.safeReasonCode ≠ "" := by
  unfold verifyPublishOutcome at verified
  split at verified
  · cases verified
    exact of_decide_eq_true rfl
  · cases verified
    exact of_decide_eq_true rfl
  · obtain ⟨_, _, verified⟩ := Fallible.bind_eq_ok.mp verified
    split at verified
    · cases verified
      exact of_decide_eq_true rfl
    · obtain ⟨_, _, verified⟩ := Fallible.bind_eq_ok.mp verified
      split_ifs at verified
      · cases verified
        exact of_decide_eq_true rfl
      · obtain ⟨_, _, verified⟩ := Fallible.bind_eq_ok.mp verified
        obtain ⟨_, _, verified⟩ := Fallible.bind_eq_ok.mp verified
        obtain ⟨_, _, verified⟩ := Fallible.bind_eq_ok.mp verified
        obtain ⟨_, _, verified⟩ := Fallible.bind_eq_ok.mp verified
        split at verified
        · cases verified
          exact of_decide_eq_true rfl
        · cases verified
          exact of_decide_eq_true rfl

theorem verifiedResult_raises {outcome : OutcomeDecision}
    (reasoned : outcome.safeReasonCode ≠ "") : (verifiedResult call operationId outcome).raises =
      if call.jobId = "" ∨ call.attemptId = "" then some .unidentifiedResult else none := by
  unfold verifiedResult
  by_cases unidentified : call.jobId = "" ∨ call.attemptId = ""
  · rw [if_pos unidentified, dif_neg]
    · rfl
    · rintro ⟨job, attempt, _⟩
      exact unidentified.elim job attempt
  · have identified := not_or.mp unidentified
    rw [if_neg unidentified, dif_pos ⟨identified.1, identified.2, reasoned⟩]
    rfl

variable {execution : ExecutionResult}

theorem verifyOutcome_stops
    (stops : ∀ operationId outcome, execution.operationId = some operationId →
      execution.status ≠ .rejectedDisabled →
      verifyPublishOutcome loads rawToolOutcome call operationId ≠ .ok outcome) :
    (programAlone sha256 (verifyOutcomeAndComplete loads rawToolOutcome call execution workerId)
      state).2 = state := by
  unfold verifyOutcomeAndComplete
  split
  · rfl
  · rfl
  · next operationId given enabled =>
    split
    · rfl
    · next outcome verified => exact absurd verified (stops operationId outcome given enabled)

theorem verifyOutcome_records
    {outcome : OutcomeDecision} (given : execution.operationId = some operationId)
    (enabled : execution.status ≠ .rejectedDisabled)
    (verified : verifyPublishOutcome loads rawToolOutcome call operationId = .ok outcome) :
    programAlone sha256 (verifyOutcomeAndComplete loads rawToolOutcome call execution workerId)
        state = match state.store.recordOutcome workerId call operationId outcome with
      | .error raised => (some (.store raised), state)
      | .ok (_, store) =>
        ((verifiedResult call operationId outcome).raises, { state with store }) := by
  obtain ⟨status, _⟩ := execution
  cases given
  cases status with
  | rejectedDisabled => exact absurd rfl enabled
  | _ =>
    simp only [programAlone, verifyOutcomeAndComplete, verified, Program.alone, perform]
    cases state.store.recordOutcome workerId call operationId outcome <;> rfl

theorem verifyOutcomeAndComplete_atomic (rawToolOutcome : String) (call : AdmittedToolCall)
    (execution : ExecutionResult) (workerId : String) :
    Atomic loads sha256 state (.verifyOutcomeAndComplete rawToolOutcome call execution workerId) ↔
      ¬ Torn loads state (.verifyOutcomeAndComplete rawToolOutcome call execution workerId) := by
  by_cases proceeds : ∃ operationId outcome, execution.operationId = some operationId ∧
      execution.status ≠ .rejectedDisabled ∧
      verifyPublishOutcome loads rawToolOutcome call operationId = .ok outcome
  · obtain ⟨operationId, outcome, given, enabled, verified⟩ := proceeds
    have runs := @verifyOutcome_records _ sha256 state workerId _ _ _ _ _ given enabled verified
    rcases recordOutcome_cases state workerId call operationId outcome with
      ⟨raised, refused⟩ | ⟨current, concludable⟩
    · rw [refused] at runs
      refine iff_of_true (atomic_of_untouched ?_) ?_
      · rw [RuntimeEntry.run, runs]
      · rintro ⟨_, _, current, same, _, _, concludable, _⟩
        cases Option.some.inj (given.symm.trans same)
        cases refused.symm.trans (concludable.conclusion outcome)
    · rw [concludable.conclusion outcome] at runs
      have raises := @verifiedResult_raises call operationId _
        (reason_of_verifyPublishOutcome verified)
      by_cases unidentified : call.jobId = "" ∨ call.attemptId = ""
      · refine iff_of_false ?_ (not_not.mpr ⟨operationId, outcome, current, given, enabled,
          verified, concludable, unidentified⟩)
        intro atomic
        rw [if_pos unidentified] at raises
        have untouched := atomic (by rw [RuntimeEntry.run, runs, raises]; rfl)
        rw [RuntimeEntry.run, runs] at untouched
        have moved : (concludedRecord current outcome).status ≠ current.status := by
          rw [concludable.status]
          change outcomeStatus outcome.status ≠ .toolExecuted
          cases outcome.status <;> exact nofun
        exact not_untouched_of_write concludable.found rfl moved untouched
      · rw [if_neg unidentified] at raises
        apply iff_of_true
        · intro raised
          rw [RuntimeEntry.run, runs, raises] at raised
          cases raised
        · rintro ⟨_, _, _, _, _, _, _, empty⟩
          exact unidentified empty
  · refine iff_of_true (atomic_of_untouched (verifyOutcome_stops ?_)) ?_
    · intro operationId outcome given enabled verified
      exact proceeds ⟨operationId, outcome, given, enabled, verified⟩
    · rintro ⟨operationId, outcome, _, given, enabled, verified, _⟩
      exact proceeds ⟨operationId, outcome, given, enabled, verified⟩

theorem method_atomic (request : RuntimeCall) :
    Atomic loads sha256 state (.method request) ↔ ¬ Torn loads state (.method request) := by
  refine iff_of_true ?_ not_false
  intro raises
  rw [RuntimeEntry.run, Option.isSome_map] at raises
  rw [RuntimeEntry.run, perform_raises raises]
  exact .refl state

theorem entry_atomic (entry : RuntimeEntry) :
    Atomic loads sha256 state entry ↔ ¬ Torn loads state entry := by
  cases entry with
  | executeAdmittedTool => exact executeAdmittedTool_atomic _ _ _ _
  | verifyOutcomeAndComplete => exact verifyOutcomeAndComplete_atomic _ _ _ _
  | method => exact method_atomic _

end Entries

/-- In every run, behind any calls on the store: what raises leaves what it found, exactly where no
call of the run is torn. -/
theorem run_atomic_iff (loads : String → Option Json.Value) (sha256 : String → String)
    (executor : InMemoryToolExecutor) (calls : List RuntimeCall) (entries : List RuntimeEntry) :
    (∀ e ∈ trace (RuntimeEntry.run loads sha256) (runtimeAfter sha256 executor calls) entries,
      e.response.isSome → Untouched e.before e.after) ↔
      ∀ e ∈ trace (RuntimeEntry.run loads sha256) (runtimeAfter sha256 executor calls) entries,
        ¬ Torn loads e.before e.call := by
  refine forall₂_congr fun e member => ?_
  obtain ⟨response, after⟩ := mem_trace_performed member
  rw [← @entry_atomic loads sha256, Atomic, response, after]

namespace Sample

/-- A prepared attempt, claimed by a worker with the first fence token. -/
def claimedOnce : List RuntimeCall :=
  [.persistPrepared prepared, .claimDispatch "A1" "sha256:prompt" "W1"]

def publishDecision : AdmissionDecision :=
  ⟨.allowed, some "call-1", "ADMISSION_PASSED", some publish⟩

def executesWith (fenceToken : Int) : RuntimeEntry :=
  .executeAdmittedTool publishDecision "W1" fenceToken registry

def claimedState : RuntimeState := runtimeAfter digest {} claimedOnce

/-- A stale fence is refused with the admission written, and the rightful one behind it too. -/
theorem stale_fence_keeps_admission :
    (¬ ∀ e ∈ trace (RuntimeEntry.run (fun _ => none) digest) (runtimeAfter digest {} claimedOnce)
        [executesWith 0], e.response.isSome → Untouched e.before e.after) ∧
      ((executesWith 1).run (fun _ => none) digest claimedState).1.isNone ∧
      ((executesWith 1).run (fun _ => none) digest
        ((executesWith 0).run (fun _ => none) digest claimedState).2).1.isSome := by
  refine ⟨?_, by decide +kernel, by decide +kernel⟩
  intro atomic
  have untouched := atomic _ List.mem_cons_self (by decide +kernel)
  have status := congrArg
    (fun records => (records.lookup "A1").map RuntimeAttemptRecord.status) untouched.records
  exact absurd status (by decide +kernel)

end Sample

end BackendHandbook.Runtime
