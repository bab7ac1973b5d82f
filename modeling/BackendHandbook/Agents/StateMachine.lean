import BackendHandbook.Agents.HumanControl
import BackendHandbook.Foundation.Run

/-! The transitions of an agent job: one deterministic candidate from a snapshot, and the store
that applies it under its current record. -/

namespace BackendHandbook.Agents

inductive ControlDecision
  | continue_ | complete | wait | fail | reconcile
  deriving DecidableEq

inductive TransitionAction
  | continue_ | wait | reconcile | complete | terminate | fail | noop
  deriving DecidableEq

def TransitionAction.value : TransitionAction → String
  | .continue_ => "CONTINUE"
  | .wait => "WAIT"
  | .reconcile => "RECONCILE"
  | .complete => "COMPLETE"
  | .terminate => "TERMINATE"
  | .fail => "FAIL"
  | .noop => "NOOP"

inductive TerminationReason
  | goalSatisfied | noProgressLoopDetected | stepBudgetExhausted | tokenBudgetExhausted
  | costBudgetExhausted | authorizationRevoked | nonRecoverableFailure
  deriving DecidableEq

inductive RecoveryAction
  | none | reconcileOriginalIdentity | waitForPrerequisite | waitForReplan
  | replanWithCurrentCapabilities
  deriving DecidableEq

inductive TransitionApplyStatus
  | applied | duplicateReplay | noopTerminal | noopStale | reservationConflict | notApplicable
  deriving DecidableEq

def InvocationGovernanceStatus.value : InvocationGovernanceStatus → String
  | .allowedToDay74Admission => "ALLOWED_TO_DAY74_ADMISSION"
  | .originalSnapshotMismatch => "ORIGINAL_SNAPSHOT_MISMATCH"
  | .originalToolNotVisible => "ORIGINAL_TOOL_NOT_VISIBLE"
  | .currentPermissionRevoked => "CURRENT_PERMISSION_REVOKED"
  | .currentRegistryBlocked => "CURRENT_REGISTRY_BLOCKED"
  | .schemaBindingMismatch => "SCHEMA_BINDING_MISMATCH"

structure BudgetSnapshot where
  (stepLimit stepsUsed tokenLimit settledTokens heldTokenReservations costLimit settledCost
   heldCostReservations : Int)
  nonnegative : ∀ value ∈ [stepLimit, stepsUsed, tokenLimit, settledTokens,
    heldTokenReservations, costLimit, settledCost, heldCostReservations], 0 ≤ value
  deriving DecidableEq

namespace BudgetSnapshot

variable (budget : BudgetSnapshot)

def remainingSteps : Int := budget.stepLimit - budget.stepsUsed

def availableTokens : Int := budget.tokenLimit - budget.settledTokens - budget.heldTokenReservations

def availableCost : Int := budget.costLimit - budget.settledCost - budget.heldCostReservations

/-- One step more, with its reservations; the constructor check runs again. -/
def reserve (tokens cost : Int) : Except String BudgetSnapshot :=
  if fits : 0 ≤ budget.heldTokenReservations + tokens ∧ 0 ≤ budget.heldCostReservations + cost then
    .ok { budget with
      stepsUsed := budget.stepsUsed + 1
      heldTokenReservations := budget.heldTokenReservations + tokens
      heldCostReservations := budget.heldCostReservations + cost
      nonnegative := by
        have before := budget.nonnegative
        simp only [List.forall_mem_cons, List.not_mem_nil, false_implies, implies_true, and_true]
          at before ⊢
        omega }
  else .error "budget values must be non-negative"

end BudgetSnapshot

structure ContextBudget where
  (inputTokens reservedOutputTokens safetyMargin permittedContextBudget providerContextLimit : Nat)
  deriving DecidableEq

def ContextBudget.requiredCapacity (budget : ContextBudget) : Nat :=
  budget.inputTokens + budget.reservedOutputTokens + budget.safetyMargin

def ContextBudget.admitted (budget : ContextBudget) : Prop :=
  budget.requiredCapacity ≤ budget.permittedContextBudget ∧
    budget.permittedContextBudget ≤ budget.providerContextLimit
  deriving Decidable

structure NextStepRequest where
  (tenantId jobId stepId parentStepId runtimeAttemptId controlDecisionId : String)
  verifiedObservationIds : List String
  deriving DecidableEq

structure AgentStepResult where
  (tenantId jobId stepId sourceAttemptId controlDecisionId : String)
  decision : ControlDecision
  reason : String
  nextStep : Option NextStepRequest := none
  named : reason ≠ "" ∧ controlDecisionId ≠ ""
  carries : decision = .continue_ ↔ nextStep.isSome = true
  deriving DecidableEq

structure AgentTransitionInput where
  (tenantId jobId stepId attemptId : String)
  state : AgentState
  fenceToken : Int
  day79Result : AgentStepResult
  goalVerified : Bool
  pendingReconciliationIdentity : Option String
  currentAuthorization : Bool
  day80Governance : Option InvocationGovernanceStatus
  hardLoopDetected : Bool
  budget : BudgetSnapshot
  contextBudget : ContextBudget
  (requestedTokenReservation requestedCostReservation : Int)
  identities : tenantId ≠ "" ∧ jobId ≠ "" ∧ stepId ≠ "" ∧ attemptId ≠ ""
  requests : 0 ≤ fenceToken ∧ 0 ≤ requestedTokenReservation ∧ 0 ≤ requestedCostReservation
  bound : day79Result.tenantId = tenantId ∧ day79Result.jobId = jobId ∧
    day79Result.stepId = stepId ∧ day79Result.sourceAttemptId = attemptId
  deriving DecidableEq

structure TransitionDecision where
  (phase status transitionId tenantId jobId stepId attemptId : String)
  expectedState : AgentState
  expectedFenceToken : Int
  action : TransitionAction
  proposedNextState : AgentState
  terminationReason : Option TerminationReason
  recoveryAction : RecoveryAction
  nextStep : Option NextStepRequest
  (requestedTokenReservation requestedCostReservation : Int)
  evidence : List String
  carries : action = .continue_ ↔ nextStep.isSome = true
  deriving DecidableEq

section Decision

-- `sha256` stands for `hashlib.sha256(text.encode("utf-8")).hexdigest()`.
variable (sha256 : String → String) (item : AgentTransitionInput)

def transitionId (action : TransitionAction) (status : String) : String :=
  "transition-" ++ String.ofList ((sha256 ("\x1f".intercalate [item.tenantId, item.jobId,
    item.stepId, item.attemptId, toString item.fenceToken, item.day79Result.controlDecisionId,
    action.value, status])).toList.take 20)

/-- A candidate without a next step, as all but one of the branches build it. -/
def halting (action : TransitionAction) (nextState : AgentState) (status : String)
    (terminationReason : Option TerminationReason := none)
    (recoveryAction : RecoveryAction := .none) (evidence : List String := [])
    (halts : action ≠ .continue_ := by decide) : TransitionDecision :=
  { phase := "PRE_NEXT_STEP_GUARD", status
    transitionId := transitionId sha256 item action status, tenantId := item.tenantId
    jobId := item.jobId, stepId := item.stepId, attemptId := item.attemptId
    expectedState := item.state, expectedFenceToken := item.fenceToken
    action
    proposedNextState := nextState
    terminationReason, recoveryAction
    nextStep := none, requestedTokenReservation := 0, requestedCostReservation := 0
    evidence
    carries := by simp [halts] }

/-- The candidate of the last branch: the next step of the control result, and its
reservations. -/
def continuing (nextStep : NextStepRequest) : TransitionDecision :=
  { phase := "PRE_NEXT_STEP_GUARD", status := "NEXT_STEP_CANDIDATE"
    transitionId := transitionId sha256 item .continue_ "NEXT_STEP_CANDIDATE"
    tenantId := item.tenantId, jobId := item.jobId, stepId := item.stepId
    attemptId := item.attemptId, expectedState := item.state, expectedFenceToken := item.fenceToken
    action := .continue_, proposedNextState := .running, terminationReason := none
    recoveryAction := .none, nextStep := some nextStep
    requestedTokenReservation := item.requestedTokenReservation
    requestedCostReservation := item.requestedCostReservation
    evidence := ["snapshot_guards_passed_candidate_only"]
    carries := by simp }

def decideTransition : TransitionDecision :=
  if item.state ∈ terminalStates then
    halting sha256 item .noop item.state "ALREADY_TERMINAL" none .none
      ["terminal_history_preserved"]
  else if item.pendingReconciliationIdentity ≠ none ∨ item.day79Result.decision = .reconcile then
    halting sha256 item .reconcile .pendingReconciliation "EXTERNAL_OUTCOME_UNKNOWN" none
      .reconcileOriginalIdentity
      [if Text.truthy item.pendingReconciliationIdentity then
          item.pendingReconciliationIdentity.getD "" else item.day79Result.sourceAttemptId,
        "reservation_must_remain_held"]
  else if item.goalVerified then
    halting sha256 item .complete .completed "GOAL_VERIFIED" (some .goalSatisfied) .none
      ["verified_goal_evidence"]
  else if item.day79Result.decision = .wait then
    halting sha256 item .wait .waiting "KNOWN_PREREQUISITE_PENDING" none .waitForPrerequisite
  else if item.day79Result.decision = .fail then
    halting sha256 item .fail .failed "NON_RECOVERABLE_CONTROL_FAILURE"
      (some .nonRecoverableFailure)
  else if item.hardLoopDetected then
    halting sha256 item .terminate .terminated "HARD_LOOP_DETECTED"
      (some .noProgressLoopDetected) .none ["no_progress_threshold_reached"]
  else if ¬ item.currentAuthorization then
    halting sha256 item .terminate .terminated "CURRENT_AUTHORIZATION_REVOKED"
      (some .authorizationRevoked) .none ["current_authorization_recheck_failed"]
  else if item.day80Governance = some .currentPermissionRevoked then
    halting sha256 item .terminate .terminated "DAY80_CURRENT_PERMISSION_REVOKED"
      (some .authorizationRevoked) .none
      [InvocationGovernanceStatus.currentPermissionRevoked.value]
  else if item.day80Governance ≠ none ∧ item.day80Governance ≠ some .allowedToDay74Admission then
    halting sha256 item .wait .waiting "DAY80_GOVERNANCE_REPLAN_REQUIRED" none
      .replanWithCurrentCapabilities
      [(item.day80Governance.map (·.value)).getD "", "old_binding_not_rewritten"]
  else if other : item.day79Result.decision ≠ .continue_ then
    halting sha256 item .fail .failed "UNSUPPORTED_DAY79_DECISION"
      (some .nonRecoverableFailure)
  else if item.budget.remainingSteps ≤ 0 then
    halting sha256 item .terminate .terminated "STEP_BUDGET_EXHAUSTED"
      (some .stepBudgetExhausted)
  else if ¬ item.contextBudget.admitted then
    halting sha256 item .wait .waiting "CONTEXT_BUDGET_EXCEEDED" none .waitForReplan
      ["required_capacity=" ++ toString item.contextBudget.requiredCapacity,
        "identity_authorization_and_evidence_must_be_preserved"]
  else if item.budget.availableTokens < item.requestedTokenReservation then
    halting sha256 item .terminate .terminated "TOKEN_BUDGET_EXHAUSTED"
      (some .tokenBudgetExhausted)
  else if item.budget.availableCost < item.requestedCostReservation then
    halting sha256 item .terminate .terminated "COST_BUDGET_EXHAUSTED"
      (some .costBudgetExhausted)
  else
    continuing sha256 item (item.day79Result.nextStep.get
      (item.day79Result.carries.mp (not_not.mp other)))

end Decision

structure AuthoritativeAgentRecord where
  (tenantId jobId currentStepId : String)
  state : AgentState
  fenceToken : Int
  budget : BudgetSnapshot
  deriving DecidableEq

structure AgentStateStore where
  record : AuthoritativeAgentRecord
  applied : Dict String TransitionDecision := ∅
  deriving DecidableEq

namespace InMemoryAgentStateStore

def advance (decision : TransitionDecision) (record : AuthoritativeAgentRecord)
    (store : AgentStateStore) : Except String TransitionApplyStatus × AgentStateStore :=
  (.ok .applied,
    { record, applied := store.applied.insert decision.transitionId decision })

def apply (decision : TransitionDecision) (store : AgentStateStore) :
    Except String TransitionApplyStatus × AgentStateStore :=
  let current := store.record
  if (store.applied.lookup decision.transitionId).isSome then (.ok .duplicateReplay, store)
  else if current.tenantId ≠ decision.tenantId ∨ current.jobId ≠ decision.jobId then
    (.ok .noopStale, store)
  else if current.state ∈ terminalStates then (.ok .noopTerminal, store)
  else if current.state ≠ decision.expectedState ∨ current.currentStepId ≠ decision.stepId ∨
      current.fenceToken ≠ decision.expectedFenceToken then (.ok .noopStale, store)
  else match action : decision.action with
  | .continue_ =>
    if current.budget.remainingSteps ≤ 0 ∨
        current.budget.availableTokens < decision.requestedTokenReservation ∨
        current.budget.availableCost < decision.requestedCostReservation then
      (.ok .reservationConflict, store)
    else match current.budget.reserve decision.requestedTokenReservation
        decision.requestedCostReservation with
    | .error raised => (.error raised, store)
    | .ok budget =>
      advance decision { current with
        currentStepId := (decision.nextStep.get (decision.carries.mp action)).stepId
        state := decision.proposedNextState, fenceToken := current.fenceToken + 1
        budget } store
  | .wait | .reconcile | .complete | .terminate | .fail =>
    advance decision { current with
      state := decision.proposedNextState, fenceToken := current.fenceToken + 1 } store
  | .noop => (.ok .notApplicable, store)

end InMemoryAgentStateStore
/-! Planners decide on snapshots, and one store applies what they decide: the budgets, the
terminal states and the fence hold for every order of the decisions. -/

open Run InMemoryAgentStateStore

variable {sha256 : String → String}

/-- A reservation that fits the budget, as the store checks it. -/
structure Reserved (before : BudgetSnapshot) (tokens cost : Int) (after : BudgetSnapshot) :
    Prop where
  stepsLeft : 0 < before.remainingSteps
  tokensFit : tokens ≤ before.availableTokens
  costFits : cost ≤ before.availableCost
  reserved : before.reserve tokens cost = .ok after

/-- What an applied decision does to the record. -/
structure Advanced (before after : AuthoritativeAgentRecord) (decision : TransitionDecision) :
    Prop where
  running : before.state ∉ terminalStates
  expected : before.fenceToken = decision.expectedFenceToken
  fence : after.fenceToken = before.fenceToken + 1
  budget : decision.action = .continue_ ∧ Reserved before.budget
      decision.requestedTokenReservation decision.requestedCostReservation after.budget ∨
    after.budget = before.budget ∧ after.currentStepId = before.currentStepId

/-- The step lemma of the store. -/
theorem apply_decision_cases (decision : TransitionDecision) (store : AgentStateStore) :
    ((apply decision store).1 ≠ .ok .applied ∧ (apply decision store).2 = store) ∨
      ((apply decision store).1 = .ok .applied ∧
        Advanced store.record (apply decision store).2.record decision) := by
  unfold apply
  by_cases replayed : (store.applied.lookup decision.transitionId).isSome = true
  · rw [if_pos replayed]
    exact .inl ⟨nofun, rfl⟩
  rw [if_neg replayed]
  by_cases foreign : store.record.tenantId ≠ decision.tenantId ∨ store.record.jobId ≠ decision.jobId
  · rw [if_pos foreign]
    exact .inl ⟨nofun, rfl⟩
  rw [if_neg foreign]
  by_cases ended : store.record.state ∈ terminalStates
  · rw [if_pos ended]
    exact .inl ⟨nofun, rfl⟩
  rw [if_neg ended]
  by_cases stale : store.record.state ≠ decision.expectedState ∨
      store.record.currentStepId ≠ decision.stepId ∨
      store.record.fenceToken ≠ decision.expectedFenceToken
  · rw [if_pos stale]
    exact .inl ⟨nofun, rfl⟩
  rw [if_neg stale]
  have expected : store.record.fenceToken = decision.expectedFenceToken := by
    by_contra other
    exact stale (.inr (.inr other))
  split
  · next action =>
    by_cases conflict : store.record.budget.remainingSteps ≤ 0 ∨
        store.record.budget.availableTokens < decision.requestedTokenReservation ∨
        store.record.budget.availableCost < decision.requestedCostReservation
    · rw [if_pos conflict]
      exact .inl ⟨nofun, rfl⟩
    rw [if_neg conflict]
    rw [not_or, not_or] at conflict
    split
    · exact .inl ⟨nofun, rfl⟩
    · next budget reserved =>
      refine .inr ⟨rfl, ended, expected, rfl, .inl ⟨action, ?_⟩⟩
      exact ⟨not_le.mp conflict.1, not_lt.mp conflict.2.1, not_lt.mp conflict.2.2, reserved⟩
  · exact .inr ⟨rfl, ended, expected, rfl, .inr ⟨rfl, rfl⟩⟩
  · exact .inr ⟨rfl, ended, expected, rfl, .inr ⟨rfl, rfl⟩⟩
  · exact .inr ⟨rfl, ended, expected, rfl, .inr ⟨rfl, rfl⟩⟩
  · exact .inr ⟨rfl, ended, expected, rfl, .inr ⟨rfl, rfl⟩⟩
  · exact .inr ⟨rfl, ended, expected, rfl, .inr ⟨rfl, rfl⟩⟩
  · exact .inl ⟨nofun, rfl⟩

structure Within (budget : BudgetSnapshot) : Prop where
  steps : budget.stepsUsed ≤ budget.stepLimit
  tokens : budget.settledTokens + budget.heldTokenReservations ≤ budget.tokenLimit
  cost : budget.settledCost + budget.heldCostReservations ≤ budget.costLimit

theorem Reserved.within {before after : BudgetSnapshot} {tokens cost : Int}
    (reserved : Reserved before tokens cost after) : Within after := by
  rcases reserved with ⟨steps, tokensFit, costFits, done⟩
  unfold BudgetSnapshot.reserve at done
  split at done
  · cases done
    simp only [BudgetSnapshot.remainingSteps, BudgetSnapshot.availableTokens,
      BudgetSnapshot.availableCost] at steps tokensFit costFits
    constructor
    · show before.stepsUsed + 1 ≤ before.stepLimit
      omega
    · show before.settledTokens + (before.heldTokenReservations + tokens) ≤ before.tokenLimit
      omega
    · show before.settledCost + (before.heldCostReservations + cost) ≤ before.costLimit
      omega
  · cases done

section Runs

variable (sha256 : String → String)

def performTransition (item : AgentTransitionInput) (store : AgentStateStore) :
    Except String TransitionApplyStatus × AgentStateStore :=
  apply (decideTransition sha256 item) store

abbrev TransitionEvent := Event AgentStateStore AgentTransitionInput
  fun _ => Except String TransitionApplyStatus

def appliedAt (fence : Int) (e : TransitionEvent) : Bool :=
  e.response matches .ok .applied &&
    (decideTransition sha256 e.call).expectedFenceToken == fence

structure StateSafe (record : AuthoritativeAgentRecord) (items : List AgentTransitionInput) :
    Prop where
  budgets : ∀ front back, items = front ++ back →
    Within (final (performTransition sha256) ⟨record, ∅⟩ front).record.budget
  terminal : ∀ state ∈ terminalStates, Permanent (performTransition sha256)
    (fun store => store.record.state = state) ⟨record, ∅⟩ items
  fence : ∀ e ∈ trace (performTransition sha256) ⟨record, ∅⟩ items,
    e.response = .ok .applied → e.after.record.fenceToken = e.before.record.fenceToken + 1
  unchanged : ∀ e ∈ trace (performTransition sha256) ⟨record, ∅⟩ items,
    e.response ≠ .ok .applied → e.after = e.before
  once : ∀ fence, (trace (performTransition sha256) ⟨record, ∅⟩ items).countP
    (appliedAt sha256 fence) ≤ 1
  continued : ∀ e ∈ trace (performTransition sha256) ⟨record, ∅⟩ items,
    e.after.record.budget ≠ e.before.record.budget ∨
      e.after.record.currentStepId ≠ e.before.record.currentStepId →
    e.response = .ok .applied ∧ (decideTransition sha256 e.call).action = .continue_

end Runs

theorem within_step (item : AgentTransitionInput) (store : AgentStateStore)
    (within : Within store.record.budget) :
    Within (performTransition sha256 item store).2.record.budget := by
  rcases apply_decision_cases (decideTransition sha256 item) store with
    ⟨_, same⟩ | ⟨_, advanced⟩
  · unfold performTransition
    rw [same]
    exact within
  · rcases advanced.budget with ⟨_, reserved⟩ | ⟨same, _⟩
    · exact reserved.within
    · unfold performTransition
      rw [same]
      exact within

theorem transition_event {record : AuthoritativeAgentRecord} {items : List AgentTransitionInput}
    {e : TransitionEvent} (member : e ∈ trace (performTransition sha256) ⟨record, ∅⟩ items) :
    (e.response ≠ .ok .applied ∧ e.after = e.before) ∨ (e.response = .ok .applied ∧
        Advanced e.before.record e.after.record (decideTransition sha256 e.call)) := by
  rcases mem_trace_performed member with ⟨answered, left⟩
  rw [answered, left]
  exact apply_decision_cases (decideTransition sha256 e.call) e.before

theorem agent_state_safe (sha256 : String → String) (record : AuthoritativeAgentRecord)
    (items : List AgentTransitionInput) (within : Within record.budget) :
    StateSafe sha256 record items := by
  refine ⟨?_, ?_, ?_, ?_, ?_, ?_⟩
  · intro front _ _
    exact invariant_final (performTransition sha256) (fun store => Within store.record.budget)
      (fun _ => True) (fun store item _ => within_step item store) ⟨record, ∅⟩ front
      (fun _ _ => trivial) within
  · intro state ended
    rw [permanent_iff]
    intro e member here
    rcases transition_event member with ⟨_, same⟩ | ⟨_, advanced⟩
    · rw [same]
      exact here
    · exact absurd (here ▸ ended) advanced.running
  · intro e member applied
    rcases transition_event member with ⟨other, _⟩ | ⟨_, advanced⟩
    · exact absurd applied other
    · exact advanced.fence
  · intro e member other
    rcases transition_event member with ⟨_, same⟩ | ⟨applied, _⟩
    · exact same
    · exact absurd applied other
  · intro fence
    apply counted_once (performTransition sha256) (fun store => store.record.fenceToken) fence
    · intro e member
      rcases transition_event member with ⟨_, same⟩ | ⟨_, advanced⟩
      · rw [same]
      · rw [advanced.fence]
        omega
    · intro e member counts
      simp only [appliedAt, Bool.and_eq_true, beq_iff_eq] at counts
      rcases transition_event member with ⟨other, _⟩ | ⟨_, advanced⟩
      · refine absurd ?_ other
        have applied := counts.1
        revert applied
        cases e.response with
        | error => exact nofun
        | ok status => cases status <;> simp
      · have expected := advanced.expected.trans counts.2
        exact ⟨expected, by rw [advanced.fence]; omega⟩
  · intro e member changed
    rcases transition_event member with ⟨_, same⟩ | ⟨applied, advanced⟩
    · rw [same] at changed
      rcases changed with budget | step
      · exact absurd rfl budget
      · exact absurd rfl step
    · refine ⟨applied, ?_⟩
      rcases advanced.budget with ⟨action, _⟩ | ⟨budget, step⟩
      · exact action
      · rcases changed with other | other
        · exact absurd budget other
        · exact absurd step other

namespace StateMachine.Sample

/-- A short digest that tells the sample texts apart. -/
def digest (text : String) : String :=
  toString (text.toList.foldl (fun code c => (31 * code + c.toNat) % 2305843009213693951) 7)

def budget : BudgetSnapshot :=
  { stepLimit := 2, stepsUsed := 0, tokenLimit := 1000, settledTokens := 100
    heldTokenReservations := 0, costLimit := 50, settledCost := 0, heldCostReservations := 0
    nonnegative := by decide }

def record : AuthoritativeAgentRecord := ⟨"tenant-a", "job-1", "step-1", .running, 1, budget⟩

def plan (stepId nextStepId : String) (fenceToken : Int) (named : stepId ≠ "" := by decide)
    (counted : 0 ≤ fenceToken := by decide) : AgentTransitionInput :=
  { tenantId := "tenant-a", jobId := "job-1", stepId, attemptId := "attempt-1"
    state := .running, fenceToken
    day79Result :=
      { tenantId := "tenant-a", jobId := "job-1", stepId, sourceAttemptId := "attempt-1"
        controlDecisionId := "decision-1", decision := .continue_, reason := "MORE_EVIDENCE"
        nextStep := some ⟨"tenant-a", "job-1", nextStepId, stepId, "attempt-2", "decision-1", []⟩
        named := by decide, carries := by simp }
    goalVerified := false, pendingReconciliationIdentity := none, currentAuthorization := true
    day80Governance := none, hardLoopDetected := false, budget
    contextBudget := ⟨400, 100, 50, 800, 1000⟩
    requestedTokenReservation := 600, requestedCostReservation := 10
    identities := ⟨by decide, by decide, named, by decide⟩
    requests := ⟨counted, by decide, by decide⟩, bound := ⟨rfl, rfl, rfl, rfl⟩ }

/-- Two planners race on the first step, and a third plans on a stale budget. -/
def race : List AgentTransitionInput :=
  [plan "step-1" "step-2" 1, plan "step-1" "step-3" 1, plan "step-2" "step-4" 2]

end StateMachine.Sample

theorem agent_state_safe_race : Within StateMachine.Sample.budget ∧
      StateSafe StateMachine.Sample.digest StateMachine.Sample.record StateMachine.Sample.race :=
  ⟨⟨by decide, by decide, by decide⟩, agent_state_safe StateMachine.Sample.digest
    StateMachine.Sample.record StateMachine.Sample.race ⟨by decide, by decide, by decide⟩⟩

example : (trace (performTransition StateMachine.Sample.digest) ⟨StateMachine.Sample.record, ∅⟩
    StateMachine.Sample.race).map (·.response) =
      [.ok .applied, .ok .duplicateReplay, .ok .reservationConflict] := by
  decide +kernel

end BackendHandbook.Agents
