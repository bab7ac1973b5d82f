import BackendHandbook.Mcp.Reconciliation

/-! Any number of reconciliations and commits, call by call: each operation is resolved once. -/

namespace BackendHandbook.Mcp

open Interleaving Run

inductive ReconciliationClient
  | addPending (binding : ApplicationOperationBinding)
  | commit (query : ApplicationOperationBinding → AuthoritativeResultEvidence)
      (failure : FailureEvidence) (binding : ApplicationOperationBinding)
      (expectedVersion : Int) (authorizationValidAtEffect : Bool)

def ReconciliationClient.program : ReconciliationClient → ReconciliationProgram
  | .addPending binding => .call (.addPending binding) fun answer => .done (.registered answer)
  | .commit query failure binding expectedVersion authorizationValidAtEffect =>
    Mcp.commit (reconcileOnce query failure binding) expectedVersion authorizationValidAtEffect

inductive ReconciliationAction
  | enter (client : ReconciliationClient)
  | resume (index : Nat)

def ReconciliationAction.turn : ReconciliationAction →
    Turn ReconciliationCall ReconciliationCall.Answer Empty (fun _ => Empty) ReconciliationFinished
  | .enter client => .start client.program
  | .resume index => .resume index fun question => question

def clients : List ReconciliationAction → List ReconciliationClient
  | [] => []
  | .enter client :: actions => client :: clients actions
  | .resume _ :: actions => clients actions

abbrev ReconciliationPool :=
  Pool ReconciliationStore ReconciliationCall ReconciliationCall.Answer Empty (fun _ => Empty)
    ReconciliationFinished

open ReconciliationAction

/-- The store and the clients behind a schedule from an empty store. -/
def reconciliationPool (actions : List ReconciliationAction) : ReconciliationPool :=
  run ReconciliationStore.perform ⟨∅, []⟩ (actions.map turn)

def commits (operationId : String) : ReconciliationFinished → Bool
  | .registered _ => false
  | .committed result => result.outcome = .committed ∧
      result.record.any (fun record => record.binding.operationId = operationId) = true

structure Resolves (proposal : ReconciliationDecision) (expectedVersion : Int)
    (authorizationValidAtEffect : Bool) (record : ReconciliationRecord) : Prop where
  binding : record.binding = proposal.binding
  state : record.state = .completed
  version : record.version = expectedVersion + 1
  resolved : record.businessOutcome.isSome
  business : record.businessOutcome = proposal.kind.businessOutcome
  compliance : record.complianceOutcome = record.businessOutcome.map fun outcome =>
    complianceOutcome outcome authorizationValidAtEffect
  external : record.externalObjectId = proposal.externalObjectId
  source : record.evidenceSource = proposal.evidenceSource

variable (actions : List ReconciliationAction)

def Returned (index : Nat) (result : ReconciliationCommitResult) : Prop :=
  (reconciliationPool actions).threads[index]? = some (.done (.committed result))

structure ResolvedOnce : Prop where
  once : ∀ operationId, (reconciliationPool actions).threads.countP
    (·.finishes (commits operationId)) ≤ 1
  recorded : ∀ index query failure binding expectedVersion valid result,
    (clients actions)[index]? =
        some (ReconciliationClient.commit query failure binding expectedVersion valid) →
      Returned actions index result →
        result.outcome = .committed → ∃ record, result.record = some record ∧
          Resolves (reconcileOnce query failure binding) expectedVersion valid record ∧
          (reconciliationPool actions).state.lookup record.binding.operationId = some record
  permanent : ∀ front back operationId record, actions = front ++ back →
    (reconciliationPool front).state.lookup operationId = some record →
      record.state = .completed →
        (reconciliationPool actions).state.lookup operationId = some record
  unchanged : ∀ front action back, actions = front ++ action :: back →
    (reconciliationPool (front ++ [action])).state ≠ (reconciliationPool front).state →
      ∃ index, action = .resume index ∧
        ((∃ binding, (clients actions)[index]? = some (ReconciliationClient.addPending binding)) ∨
          ∃ result, Returned (front ++ [action]) index result ∧ result.outcome = .committed)
  retry : ∀ index result originalFailure evidence,
    Returned actions index result →
      authoritativeNotExecutedEvidence result originalFailure = .ok evidence →
        ∃ record, (reconciliationPool actions).state.lookup evidence.operationId = some record ∧
          record.state = .completed ∧ record.businessOutcome = some .notExecuted

variable {record : ReconciliationRecord} {operationId : String}

section Store

variable {store : ReconciliationStore}

theorem compareAndSetCompleted_cases (store : ReconciliationStore)
    (binding : ApplicationOperationBinding) (expectedVersion : Int)
    (outcome : ReconciledBusinessOutcome) (compliance : ComplianceOutcome)
    (externalObjectId : Option String) (source : String) :
    store.compareAndSetCompleted binding expectedVersion outcome compliance externalObjectId
        source = (none, store) ∨
      ∃ current updated, store.lookup binding.operationId = some current ∧
        current.state = .pendingReconciliation ∧
        updated = ⟨binding, .completed, expectedVersion + 1, some outcome, some compliance,
          externalObjectId, some source⟩ ∧
        store.compareAndSetCompleted binding expectedVersion outcome compliance externalObjectId
          source = (some updated, store.insert binding.operationId updated) := by
  simp only [ReconciliationStore.compareAndSetCompleted]
  cases found : store.lookup binding.operationId with
  | none => exact .inl rfl
  | some current =>
    dsimp only
    by_cases refused : current.binding ≠ binding ∨ current.state ≠ .pendingReconciliation ∨
        current.version ≠ expectedVersion
    · rw [if_pos refused]
      exact .inl rfl
    · rw [if_neg refused]
      simp only [not_or, not_not] at refused
      refine .inr ⟨current, _, rfl, refused.2.1, ?_, rfl⟩
      rw [refused.1, refused.2.2]

theorem perform_completed (call : ReconciliationCall)
    (found : store.lookup operationId = some record) (completed : record.state = .completed) :
    (ReconciliationStore.perform call store).2.lookup operationId = some record := by
  cases call with
  | read => exact found
  | addPending other =>
    simp only [ReconciliationStore.perform, ReconciliationStore.addPending]
    by_cases registered : (store.lookup other.operationId).isSome = true
    · rw [if_pos registered]
      exact found
    · have different : operationId ≠ other.operationId := by
        intro same
        rw [← same, found] at registered
        exact registered rfl
      rw [if_neg registered, Dict.lookup_insert_eq, if_neg different]
      exact found
  | compareAndSetCompleted other version business complianceOf external evidence =>
    simp only [ReconciliationStore.perform]
    rcases compareAndSetCompleted_cases store other version business complianceOf external
      evidence with same | ⟨_, _, listed, pending, _, same⟩
    · rw [same]
      exact found
    · have different : operationId ≠ other.operationId := by
        intro equal
        rw [← equal, found] at listed
        cases listed
        rw [completed] at pending
        cases pending
      rw [same, Dict.lookup_insert_eq, if_neg different]
      exact found

end Store

variable {result : ReconciliationCommitResult}

section Threads

variable {store : ReconciliationStore} {program : ReconciliationProgram}
variable {client : ReconciliationClient}

/-- How far a client has come, and what the store shows of it. -/
inductive Phase (store : ReconciliationStore) (program : ReconciliationProgram) :
    ReconciliationClient → Prop
  | waiting (client : ReconciliationClient) (same : program = client.program) :
      Phase store program client
  | registered (binding : ApplicationOperationBinding) (answer : Except Raised Unit)
      (same : program = .done (.registered answer)) : Phase store program (.addPending binding)
  | completing (query : ApplicationOperationBinding → AuthoritativeResultEvidence)
      (failure : FailureEvidence) (binding : ApplicationOperationBinding)
      (expectedVersion : Int) (valid : Bool) (outcome : ReconciledBusinessOutcome)
      (source : String)
      (resolved : (reconcileOnce query failure binding).kind.businessOutcome = some outcome)
      (sourced : (reconcileOnce query failure binding).evidenceSource = some source)
      (same : program = completeRecord (reconcileOnce query failure binding) expectedVersion valid
        outcome source) :
      Phase store program (.commit query failure binding expectedVersion valid)
  | returned (query : ApplicationOperationBinding → AuthoritativeResultEvidence)
      (failure : FailureEvidence) (binding : ApplicationOperationBinding)
      (expectedVersion : Int) (valid : Bool) (result : ReconciliationCommitResult)
      (same : program = .done (.committed result))
      (told : result.outcome = .committed → ∃ record, result.record = some record ∧
        Resolves (reconcileOnce query failure binding) expectedVersion valid record ∧
        store.lookup record.binding.operationId = some record) :
      Phase store program (.commit query failure binding expectedVersion valid)

theorem commitRefusal_uncommitted {binding : ApplicationOperationBinding} {expectedVersion : Int}
    {current : Option ReconciliationRecord} {refused : ReconciliationCommitOutcome}
    (refusal : commitRefusal binding expectedVersion current = some refused) :
    refused ≠ .committed := by
  cases current with
  | none =>
    cases refusal
    decide
  | some =>
    simp only [commitRefusal] at refusal
    split at refusal
    · cases refusal
      decide
    split at refusal
    · cases refusal
      decide
    split at refusal
    · cases refusal
      decide
    · cases refusal

variable {request : ReconciliationCall}

theorem Phase.advance {next : request.Answer → ReconciliationProgram}
    (phase : Phase store (.call request next) client) :
    Phase (ReconciliationStore.perform request store).2
      (next (ReconciliationStore.perform request store).1) client := by
  cases phase with
  | waiting _ same =>
    cases client with
    | addPending binding =>
      cases same
      exact .registered binding _ rfl
    | commit query failure binding expectedVersion valid =>
      simp only [ReconciliationClient.program, commit] at same
      split at same
      · next outcome source resolved sourced =>
        cases same
        dsimp only
        cases refusal : commitRefusal (reconcileOnce query failure binding).binding
            expectedVersion (ReconciliationStore.perform
              (.read (reconcileOnce query failure binding).binding.operationId) store).1 with
        | none =>
          exact .completing query failure binding expectedVersion valid outcome source
            resolved sourced rfl
        | some refused =>
          refine .returned query failure binding expectedVersion valid _ rfl ?_
          intro committed
          exact absurd committed (commitRefusal_uncommitted refusal)
      · cases same
  | registered binding answer same
  | returned query failure binding expectedVersion valid result same => cases same
  | completing query failure binding expectedVersion valid outcome source resolved sourced same =>
    cases same
    simp only [ReconciliationStore.perform]
    rcases compareAndSetCompleted_cases store (reconcileOnce query failure binding).binding
      expectedVersion outcome (complianceOutcome outcome valid)
      (reconcileOnce query failure binding).externalObjectId source with
      same | ⟨_, updated, _, _, written, same⟩
    · rw [same]
      refine .returned query failure binding expectedVersion valid _ rfl ?_
      intro committed
      cases committed
    · rw [same]
      refine .returned query failure binding expectedVersion valid _ rfl ?_
      intro committed
      refine ⟨updated, rfl, ?_, ?_⟩
      · rw [written]
        exact ⟨rfl, rfl, rfl, rfl, resolved.symm, rfl, rfl, sourced.symm⟩
      · rw [written]
        exact AList.lookup_insert store

theorem Phase.kept (phase : Phase store program client) (request : ReconciliationCall) :
    Phase (ReconciliationStore.perform request store).2 program client := by
  cases phase with
  | waiting _ same => exact .waiting client same
  | registered binding answer same => exact .registered binding answer same
  | completing query failure binding expectedVersion valid outcome source resolved sourced same =>
    exact .completing query failure binding expectedVersion valid outcome source resolved sourced
      same
  | returned query failure binding expectedVersion valid result same told =>
    refine .returned query failure binding expectedVersion valid result same ?_
    intro committed
    rcases told committed with ⟨record, holds, resolves, found⟩
    exact ⟨record, holds, resolves, perform_completed request found resolves.state⟩

theorem Phase.told (phase : Phase store (.done (.committed result)) client)
    (committed : result.outcome = .committed) :
    ∃ query failure binding expectedVersion valid record,
      client = .commit query failure binding expectedVersion valid ∧ result.record = some record ∧
        Resolves (reconcileOnce query failure binding) expectedVersion valid record ∧
        store.lookup record.binding.operationId = some record := by
  cases phase with
  | waiting _ same =>
    cases client with
    | addPending => cases same
    | commit =>
      simp only [ReconciliationClient.program, commit] at same
      split at same
      · cases same
      · cases same
        cases committed
  | registered _ _ same => cases same
  | completing _ _ _ _ _ _ _ _ _ same =>
    cases same
  | returned query failure binding expectedVersion valid _ same told =>
    cases same
    rcases told committed with ⟨record, holds⟩
    exact ⟨query, failure, binding, expectedVersion, valid, record, rfl, holds⟩

theorem Phase.changes {next : request.Answer → ReconciliationProgram}
    (phase : Phase store (.call request next) client)
    (changed : (ReconciliationStore.perform request store).2 ≠ store) :
    (∃ binding, client = .addPending binding) ∨
      ∃ result, next (ReconciliationStore.perform request store).1 = .done (.committed result) ∧
        result.outcome = .committed := by
  cases phase with
  | waiting _ same =>
    cases client with
    | addPending binding => exact .inl ⟨binding, rfl⟩
    | commit =>
      simp only [ReconciliationClient.program, commit] at same
      split at same
      · cases same
        exact absurd rfl changed
      · cases same
  | registered binding answer same
  | returned query failure binding expectedVersion valid result same => cases same
  | completing query failure binding expectedVersion valid outcome source _ _ same =>
    cases same
    simp only [ReconciliationStore.perform] at changed ⊢
    rcases compareAndSetCompleted_cases store (reconcileOnce query failure binding).binding
      expectedVersion outcome (complianceOutcome outcome valid)
      (reconcileOnce query failure binding).externalObjectId source with
      same | ⟨_, _, _, _, _, same⟩
    · rw [same] at changed
      exact absurd rfl changed
    · rw [same]
      exact .inr ⟨_, rfl, rfl⟩

end Threads

section Schedules

variable {actions : List ReconciliationAction}

theorem clients_append (front back : List ReconciliationAction) :
    clients (front ++ back) = clients front ++ clients back := by
  induction front with
  | nil => rfl
  | cons action _ ih =>
    cases action with
    | enter | resume => simp [clients, ih]

theorem started_clients (actions : List ReconciliationAction) : started (actions.map turn) =
      (clients actions).map ReconciliationClient.program := by
  induction actions with
  | nil => rfl
  | cons action _ ih =>
    cases action with
    | enter client => exact congrArg (client.program :: ·) ih
    | resume => exact ih

theorem reconciliationPool_append (front back : List ReconciliationAction) :
    reconciliationPool (front ++ back) = run ReconciliationStore.perform (reconciliationPool front)
        (back.map turn) := by
  simp [reconciliationPool, run_append]

theorem thread_phase (actions : List ReconciliationAction) (index : Nat)
    (thread : ReconciliationProgram)
    (found : (reconciliationPool actions).threads[index]? = some thread) :
    ∃ client, (clients actions)[index]? = some client ∧
      Phase (reconciliationPool actions).state thread client := by
  have holds := (threads_hold ReconciliationStore.perform (fun _ => True)
    (fun index store program => ∀ client, (clients actions)[index]? = some client →
      Phase store program client)
    (fun _ _ _ => trivial)
    (fun _ _ _ _ _ phase client listed => (phase client listed).advance)
    (fun _ _ _ request _ _ _ phase _ client listed => (phase client listed).kept request)
    (fun _ question _ _ _ answer => nomatch question) ∅
    (actions.map turn) trivial (by
      intro index program listed reached _ client found
      rw [started_clients, List.getElem?_map, found] at listed
      cases listed
      exact .waiting client rfl)).2 index thread found
  have inside := (List.getElem?_eq_some_iff.mp found).1
  rw [reconciliationPool, run_threads_length, started_clients, List.length_map] at inside
  exact ⟨(clients actions)[index], List.getElem?_eq_getElem inside,
    holds _ (List.getElem?_eq_getElem inside)⟩

def resolves (operationId : String) : (request : ReconciliationCall) → request.Answer → Bool
  | .compareAndSetCompleted _ _ _ _ _ _, some record => record.binding.operationId = operationId
  | _, _ => false

theorem program_counts (operationId : String) (client : ReconciliationClient) :
    client.program.finishes (commits operationId) = false ∧
      client.program.Everywhere (Program.Counts (commits operationId) (resolves operationId)) := by
  have uncommitted : ∀ outcome, outcome ≠ .committed →
      commits operationId (.committed { outcome := outcome }) = false := by
    intro outcome other
    simp [commits]
  cases client with
  | addPending => exact ⟨rfl, fun _ => rfl, fun _ => trivial⟩
  | commit query failure binding expectedVersion =>
    simp only [ReconciliationClient.program, commit]
    split
    · next outcome source resolved sourced =>
      refine ⟨rfl, ?_, ?_⟩
      · intro current
        dsimp only
        cases refusal : commitRefusal (reconcileOnce query failure binding).binding
            expectedVersion current with
        | none => rfl
        | some refused => exact uncommitted refused (commitRefusal_uncommitted refusal)
      · intro current
        dsimp only
        cases commitRefusal (reconcileOnce query failure binding).binding expectedVersion
            current with
        | some refused => trivial
        | none =>
          refine ⟨?_, ?_⟩
          · intro updated
            cases updated with
            | none => rfl
            | some =>
              simp [Program.finishes, commits, resolves]
          · intro updated
            cases updated with
            | none | some => trivial
    · exact ⟨uncommitted .proposalNotResolved (by decide), trivial⟩

theorem perform_resolves (store : ReconciliationStore) (call : ReconciliationCall)
    (operationId : String)
    (resolved : resolves operationId call (ReconciliationStore.perform call store).1 = true) :
    (store.lookup operationId).any (fun record => record.state = .completed) = false ∧
      ((ReconciliationStore.perform call store).2.lookup operationId).any
        (fun record => record.state = .completed) = true := by
  cases call with
  | addPending | read => cases resolved
  | compareAndSetCompleted binding expectedVersion outcome compliance externalObjectId source =>
    simp only [ReconciliationStore.perform] at resolved ⊢
    rcases compareAndSetCompleted_cases store binding expectedVersion outcome compliance
      externalObjectId source with same | ⟨_, _, found, pending, written, same⟩
    · rw [same] at resolved
      cases resolved
    · rw [same, written] at resolved ⊢
      have named : binding.operationId = operationId := of_decide_eq_true resolved
      rw [← named, found, AList.lookup_insert, Option.any_some, pending]
      exact ⟨rfl, rfl⟩

theorem committed_once (actions : List ReconciliationAction) (operationId : String) :
    (reconciliationPool actions).threads.countP (·.finishes (commits operationId)) ≤ 1 := by
  have counted := finished_counted ReconciliationStore.perform (commits operationId)
    (resolves operationId) ∅ (actions.map turn) (by
      intro program member
      rw [started_clients] at member
      rcases List.mem_map.mp member with ⟨client, _, rfl⟩
      exact program_counts operationId client)
  rw [reconciliationPool, counted]
  apply counted_once ReconciliationStore.perform (fun store =>
    (store.lookup operationId).any fun record => record.state = .completed) false
  · intro e member
    rw [(mem_trace_performed member).2]
    cases found : e.before.lookup operationId with
    | none => exact Bool.false_le _
    | some record =>
      rw [Option.any_some]
      by_cases completed : record.state = .completed
      · rw [perform_completed e.call found completed, Option.any_some]
      · rw [decide_eq_false completed]
        exact Bool.false_le _
  · intro e member resolved
    rw [(mem_trace_performed member).1] at resolved
    rw [(mem_trace_performed member).2]
    have step := perform_resolves e.before e.call operationId resolved
    rw [step.1, step.2]
    exact ⟨rfl, by decide⟩

theorem completed_stays {front back : List ReconciliationAction}
    (found : (reconciliationPool front).state.lookup operationId = some record)
    (completed : record.state = .completed) :
    (reconciliationPool (front ++ back)).state.lookup operationId = some record := by
  rw [reconciliationPool_append, run_state]
  refine kept_final ReconciliationStore.perform
    (fun store => store.lookup operationId = some record) _ _ ?_ found
  intro e member before
  rw [(mem_trace_performed member).2]
  exact perform_completed e.call before completed

/-- An action that changes the store is a client's last: a registration, or a commit that has
gone through. -/
theorem changed_by {front : List ReconciliationAction} {action : ReconciliationAction}
    (changed : (reconciliationPool (front ++ [action])).state ≠ (reconciliationPool front).state) :
    ∃ index client, action = .resume index ∧ (clients front)[index]? = some client ∧
      ((∃ binding, client = .addPending binding) ∨
        ∃ result, Returned (front ++ [action]) index result ∧ result.outcome = .committed) := by
  rw [reconciliationPool_append] at changed
  cases action with
  | enter => exact absurd rfl changed
  | resume index =>
    simp only [Returned]
    rw [reconciliationPool_append]
    simp only [List.map_cons, List.map_nil, run, turn] at changed ⊢
    cases found : (reconciliationPool front).threads[index]? with
    | none =>
      rw [step_idle _ (by simp [found])] at changed
      exact absurd rfl changed
    | some thread =>
    cases thread with
    | done =>
      rw [step_idle _ (by simp [found])] at changed
      exact absurd rfl changed
    | ask question => cases question
    | call =>
      have inside := (List.getElem?_eq_some_iff.mp found).1
      rcases thread_phase front index _ found with ⟨client, listed, phase⟩
      rw [step_call _ found] at changed ⊢
      refine ⟨index, client, rfl, listed, ?_⟩
      rcases phase.changes changed with registers | ⟨result, ends, committed⟩
      · exact .inl registers
      · refine .inr ⟨result, ?_, committed⟩
        rw [List.getElem?_set_self inside, ends]

theorem retry_recorded {index : Nat}
    {originalFailure evidence : FailureEvidence} (returned : Returned actions index result)
    (retried : authoritativeNotExecutedEvidence result originalFailure = .ok evidence) :
    ∃ record, (reconciliationPool actions).state.lookup evidence.operationId = some record ∧
      record.state = .completed ∧ record.businessOutcome = some .notExecuted := by
  rcases thread_phase actions index _ returned with ⟨_, _, phase⟩
  simp only [authoritativeNotExecutedEvidence] at retried
  split at retried
  · cases retried
  next record held =>
  split at retried
  · cases retried
  next source sourced =>
  split at retried
  · cases retried
  next required =>
  split at retried
  · cases retried
  split at retried
  · cases retried
    simp only [not_or, not_not] at required
    rcases phase.told required.1 with ⟨_, _, _, _, _, _, _, same, resolves, found⟩
    rw [held] at same
    cases same
    exact ⟨record, found, resolves.state, required.2⟩
  · cases retried

/-- However the commits interleave, each operation is resolved by one of them and for good. -/
theorem reconciliation_resolves_once (actions : List ReconciliationAction) :
    ResolvedOnce actions := by
  constructor
  · exact committed_once actions
  · intro index query failure binding expectedVersion valid result listed returned committed
    rcases thread_phase actions index _ returned with ⟨client, found, phase⟩
    rw [listed] at found
    cases found
    rcases phase.told committed with ⟨_, _, _, _, _, record, same, holds⟩
    cases same
    exact ⟨record, holds⟩
  · intro front back operationId record split found completed
    rw [split]
    exact completed_stays found completed
  · intro front action back split changed
    rcases changed_by changed with ⟨index, _, resumed, listed, registers | committed⟩
    · rcases registers with ⟨binding, same⟩
      refine ⟨index, resumed, .inl ⟨binding, ?_⟩⟩
      rw [split, clients_append,
        List.getElem?_append_left (List.getElem?_eq_some_iff.mp listed).1, listed, same]
    · exact ⟨index, resumed, .inr committed⟩
  · intro index result originalFailure evidence returned retried
    exact retry_recorded returned retried

end Schedules

end BackendHandbook.Mcp
