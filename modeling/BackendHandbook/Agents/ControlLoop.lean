import BackendHandbook.Agents.StateMachine
import BackendHandbook.Runtime.Orchestration

/-! The control decisions of the agent loop, and the store through which a decision to
continue executes one further step. -/

namespace BackendHandbook.Agents

open BackendHandbook.Runtime (RuntimeResult)

def ControlDecision.value : ControlDecision → String
  | .continue_ => "CONTINUE"
  | .complete => "COMPLETE"
  | .wait => "WAIT"
  | .fail => "FAIL"
  | .reconcile => "RECONCILE"

inductive ControlApplyStatus
  | created | duplicateReplay | noopStale | noopTerminal | notApplicable
  deriving DecidableEq

structure AgentStepInput where
  (tenantId jobId currentStepId runtimeAttemptId : String)
  goalRequiredObservations : Int
  verifiedObservationIds : List String
  jobIsTerminal : Bool := false
  runtimeResult : Option RuntimeResult := none
  pendingReconciliationIdentity : Option String := none
  waitingFor : Option String := none
  modelProposal : Option String := none
  identities : tenantId ≠ "" ∧ jobId ≠ "" ∧ currentStepId ≠ "" ∧ runtimeAttemptId ≠ ""
  goal : 1 ≤ goalRequiredObservations
  unique : verifiedObservationIds.Nodup
  bound : ∀ result ∈ runtimeResult, result.jobId = jobId ∧ result.attemptId = runtimeAttemptId

def unitSeparator : Char := '\x1f'

section Decisions

variable (digest : String → String)

/-- The digest is the truncated one, of the joined parts. -/
def stableId (label : String) (parts : List String) : String :=
  label ++ ("-" ++ digest ((String.singleton unitSeparator).intercalate parts))

theorem stableId_ne_empty (label : String) (parts : List String) :
    stableId digest label parts ≠ "" := by
  intro empty
  have letters := congrArg String.toList empty
  simp [stableId] at letters

theorem stableId_inj {digest : String → String} (injective : Function.Injective digest)
    {label : String} {first second : List String} :
    stableId digest label first = stableId digest label second ↔
      (String.singleton unitSeparator).intercalate first =
        (String.singleton unitSeparator).intercalate second := by
  constructor
  · intro same
    have letters := congrArg String.toList same
    simp only [stableId, String.toList_append] at letters
    exact injective (String.toList_inj.mp
      (List.append_cancel_left (List.append_cancel_left letters)))
  · intro same
    rw [stableId, stableId, same]

namespace AgentStepInput

variable (step : AgentStepInput)

/-- The parts that identify a decision. -/
def parts (decision : ControlDecision) (reason : String) : List String :=
  [step.tenantId, step.jobId, step.currentStepId, step.runtimeAttemptId, decision.value, reason,
    (String.singleton ',').intercalate step.verifiedObservationIds]

def decisionId (decision : ControlDecision) (reason : String) : String :=
  stableId digest "decision" (step.parts decision reason)

def nextStep (decisionId : String) : NextStepRequest :=
  let stepId := stableId digest "step" [step.jobId, step.currentStepId, decisionId]
  { tenantId := step.tenantId, jobId := step.jobId, stepId, parentStepId := step.currentStepId
    runtimeAttemptId := stableId digest "attempt" [step.jobId, stepId]
    controlDecisionId := decisionId, verifiedObservationIds := step.verifiedObservationIds }

def result (decision : ControlDecision) (reason : String) (named : reason ≠ "") : AgentStepResult :=
  let decisionId := step.decisionId digest decision reason
  { tenantId := step.tenantId
    jobId := step.jobId, stepId := step.currentStepId, sourceAttemptId := step.runtimeAttemptId
    controlDecisionId := decisionId
    decision
    reason
    nextStep := if decision = .continue_ then some (step.nextStep digest decisionId) else none
    named := ⟨named, stableId_ne_empty digest _ _⟩
    carries := by split <;> simp_all }

end AgentStepInput

def decideControl (step : AgentStepInput) : AgentStepResult :=
  if step.jobIsTerminal then step.result digest .complete "job_already_terminal" (by decide)
  else if step.pendingReconciliationIdentity ≠ none then
    step.result digest .reconcile "external_outcome_unknown" (by decide)
  else if step.runtimeResult.any (·.status = .pendingReconciliation) then
    step.result digest .reconcile "runtime_pending_reconciliation" (by decide)
  else if step.runtimeResult.any (·.status ∈ [.rejected, .blockedPreDispatch]) then
    step.result digest .fail "runtime_explicit_non_success" (by decide)
  else if step.goalRequiredObservations ≤ step.verifiedObservationIds.length then
    step.result digest .complete "goal_satisfied_by_verified_observations" (by decide)
  else if step.waitingFor ≠ none then
    step.result digest .wait "known_prerequisite_pending" (by decide)
  else step.result digest .continue_ "goal_not_yet_satisfied" (by decide)

end Decisions

structure AgentJobState where
  (tenantId jobId currentStepId : String)
  isTerminal : Bool := false

structure InMemoryControlStore where
  state : AgentJobState
  nextStepsByDecision : Dict String NextStepRequest := ∅

def InMemoryControlStore.applyContinue (result : AgentStepResult) (store : InMemoryControlStore) :
    Except String ControlApplyStatus × InMemoryControlStore :=
  if result.tenantId ≠ store.state.tenantId ∨ result.jobId ≠ store.state.jobId then
    (.error "control result does not match store identity", store)
  else if continues : result.decision ≠ .continue_ then (.ok .notApplicable, store)
  else if store.state.isTerminal then (.ok .noopTerminal, store)
  else if (store.nextStepsByDecision.lookup result.controlDecisionId).isSome then
    (.ok .duplicateReplay, store)
  else if store.state.currentStepId ≠ result.stepId then (.ok .noopStale, store)
  else
    let nextStep := result.nextStep.get (result.carries.mp (not_not.mp continues))
    (.ok .created,
      { state := { store.state with currentStepId := nextStep.stepId }
        nextStepsByDecision := store.nextStepsByDecision.insert result.controlDecisionId nextStep })

/-- A runtime answers each request; it may answer the next time otherwise. -/
abbrev AgentRuntimePort := NextStepRequest → RuntimeResult

/-- The store, and the requests that its runtime has executed, the first one first. -/
structure AgentLoop where
  store : InMemoryControlStore
  executed : List NextStepRequest := []

def orchestrateNextStep (result : AgentStepResult) (runtime : AgentRuntimePort) (loop : AgentLoop) :
    Except String (ControlApplyStatus × Option RuntimeResult) × AgentLoop :=
  let (applied, store) := loop.store.applyContinue result
  match applied, result.nextStep with
  | .ok .created, some request =>
    (.ok (.created, some (runtime request)), { store, executed := loop.executed ++ [request] })
  | .ok status, _ => (.ok (status, none), { loop with store })
  | .error raised, _ => (.error raised, { loop with store })

end BackendHandbook.Agents
