import BackendHandbook.Mcp.Orchestrator

/-! Dispatch at most once, under every interleaving of registrations, runs and commits. -/

namespace BackendHandbook.Mcp

open Interleaving Run

abbrev DispatchEvent := Event InMemoryRetryDispatchStore DispatchCall DispatchCall.Answer

def dispatchAfter (calls : List DispatchCall) : InMemoryRetryDispatchStore :=
  final InMemoryRetryDispatchStore.perform ∅ calls

def dispatchTrace (calls : List DispatchCall) : List DispatchEvent :=
  trace InMemoryRetryDispatchStore.perform ∅ calls

def claimsFor (operationId : String) : (call : DispatchCall) → call.Answer → Bool
  | .claimDispatch claim, answer =>
    claim.dispatch.attempt.operationId = operationId &&
      RetryDispatchClaim.outcome answer = .claimed
  | _, _ => false

def executesFor (operationId : String) (execution : TransportExecution) : Bool :=
  execution.identity.operationId = operationId

section Model

variable (prints : CapstonePrints)

structure DispatchedOnce (actions : List OrchestratorAction) : Prop where
  executedOnce : ∀ operationId, (transportCalls prints actions).countP (executesFor operationId) ≤ 1
  fromReady : ∀ e ∈ dispatchTrace (dispatchCalls prints actions), ∀ operationId,
    claimsFor operationId e.call e.response = true →
      ∃ record, e.before.lookup operationId = some record ∧ record.state.ready = true
  completedFinal : ∀ operationId record, record.state = .completed →
    Permanent InMemoryRetryDispatchStore.perform
      (fun store => store.lookup operationId = some record) ∅ (dispatchCalls prints actions)
  advances : ∀ e ∈ dispatchTrace (dispatchCalls prints actions), ∀ operationId,
    claimsFor operationId e.call e.response = true →
      ∃ before after, e.before.lookup operationId = some before ∧
        e.after.lookup operationId = some after ∧ before.version < after.version ∧
        before.fenceToken < after.fenceToken

def DurableDispatchGuard.copies (guard : DurableDispatchGuard)
    (store : InMemoryRetryDispatchStore) : Bool :=
  (store.lookup guard.operationId).any fun record =>
    guard.currentState = record.state.value ∧ guard.currentVersion = record.version ∧
      guard.currentFence = record.fenceToken

/-- Behind the actions that are past, every run enters with a guard that copies the record. -/
def truthfulGuards (past : List OrchestratorAction) : List OrchestratorAction → Bool
  | [] => true
  | .enter (.run request) :: actions =>
    request.guard.copies (dispatchAfter (dispatchCalls prints past)) &&
      truthfulGuards (past ++ [.enter (.run request)]) actions
  | action :: actions => truthfulGuards (past ++ [action]) actions

end Model

/-- The claim and the record it finds have all in common that a claim is checked for. -/
structure Agrees (claim : ClaimArguments) (record : RetryDispatchRecord) : Prop where
  key : record.idempotencyKey = claim.dispatch.attempt.idempotencyKey
  tenant : claim.tenantId.isSome → record.tenantId = claim.tenantId
  resource : claim.resourceId.isSome → record.resourceId = claim.resourceId
  tool : claim.toolName.isSome → record.toolName = claim.toolName
  state : record.state = claim.expectedState
  version : record.version = claim.expectedVersion
  fence : ∀ fence, claim.expectedFence = some fence → record.fenceToken = fence
  newFence : ∀ fence newFence, claim.expectedFence = some fence →
    claim.newFence = some newFence → fence < newFence
  attempt : claim.dispatch.attempt.attemptNumber = record.attemptNumber + 1
  generation : record.tenantId.isSome → claim.dispatch.attempt.transportGeneration.isSome

/-- A claim expects an operation that is started or completed, and agrees with its record. -/
def Redispatches (store : InMemoryRetryDispatchStore) (call : DispatchCall) : Prop :=
  ∃ claim record, call = .claimDispatch claim ∧ claim.dispatch.admitted = true ∧
    claim.expectedState.ready = false ∧
    store.lookup claim.dispatch.attempt.operationId = some record ∧ Agrees claim record

/-- What the programs call: a claim with the next fence, a completion of what is not complete. -/
def Issued : DispatchCall → Prop
  | .claimDispatch claim =>
    ∃ fence, claim.expectedFence = some fence ∧ claim.newFence = some (fence + 1)
  | .compareAndSetCompleted completion => completion.expectedState ≠ .completed
  | _ => True

section Programs

theorem committedAlready_none {proposal : CapstoneSuccessTransitionProposal}
    {expectedState : RetryDispatchRecordState} {expectedVersion expectedFence : Int}
    {snapshot : Option RetryDispatchRecord}
    (goes : committedAlready proposal expectedState expectedVersion expectedFence snapshot =
      none) : expectedState ≠ .completed := by
  cases snapshot with
  | none => cases goes
  | some current =>
    have unbound := Fallible.passed goes nofun
    have attempted := Fallible.passed unbound.2 nofun
    by_cases completed : current.state = .completed
    · rw [if_pos completed] at attempted
      by_cases same : current.externalObjectId = some proposal.externalObjectId
      · rw [if_pos same] at attempted
        cases attempted.2
      · rw [if_neg same] at attempted
        cases attempted.2
    · rw [if_neg completed] at attempted
      have stands := (Fallible.passed attempted.2 nofun).1
      rw [not_not] at stands
      rw [← stands]
      exact completed

/-- The program calls as it may, and executes for the operation right behind its claim only. -/
structure Orderly (operationId : String) (program : OrchestratorProgram) : Prop where
  issues : program.Issues Issued
  quiet : program.Quiet (claimsFor operationId) (executesFor operationId)

variable {operationId : String}

theorem done_orderly (result : OrchestratorFinished) :
    Orderly operationId (.done result) := ⟨trivial, done_quiet result⟩

theorem call_orderly {request : DispatchCall} {next : request.Answer → OrchestratorProgram}
    (issued : Issued request) (later : ∀ response, Orderly operationId (next response)) :
    Orderly operationId (.call request next) :=
  ⟨⟨issued, fun response => (later response).issues⟩,
    call_quiet fun response => (later response).quiet⟩

theorem commitCandidate_orderly (decision : CapstoneCandidateDecision)
    (expectedState : RetryDispatchRecordState) (expectedVersion expectedFence : Int)
    {next : CapstoneCommitResult → OrchestratorProgram}
    (later : ∀ result, Orderly operationId (next result)) : Orderly operationId
      (commitCandidate decision expectedState expectedVersion expectedFence next) := by
  simp only [commitCandidate]
  cases decision.proposal with
  | none => exact later _
  | some proposal =>
    refine call_orderly trivial ?_
    intro snapshot
    cases goes : committedAlready proposal expectedState expectedVersion expectedFence
        snapshot with
    | some => exact later _
    | none =>
      refine call_orderly (committedAlready_none goes) ?_
      intro updated
      cases updated with
      | none | some => exact later _

variable (request : CapstoneOrchestrationInput) (candidate : GovernedToolCandidate)

theorem settle_orderly (claimed : RetryDispatchRecord) (answer : TransportAnswer) :
    Orderly operationId (settle request candidate claimed answer) := by
  cases answer with
  | raised | unknown => exact done_orderly _
  | exchanged =>
    simp only [settle]
    split
    · exact done_orderly _
    · exact commitCandidate_orderly _ _ _ _ fun result => done_orderly _

/-- The transport is called right behind the claim, and for the operation of the claim. -/
theorem claimAndExecute_orderly (attempt : RemoteRequestBinding)
    (same : attempt.operationId = request.identity.operationId) :
    Orderly operationId (claimAndExecute request candidate attempt) := by
  simp only [claimAndExecute, claimOf]
  cases RetryDispatchRecordState.ofValue request.guard.currentState with
  | none => exact done_orderly _
  | some =>
    have settled : ∀ claimed answer, Orderly operationId
        (settle request candidate claimed answer) := settle_orderly request candidate
    constructor
    · refine ⟨⟨request.guard.currentFence, rfl, rfl⟩, ?_⟩
      intro claim
      dsimp only
      split
      · exact fun answer => (settled _ answer).issues
      · trivial
    · refine ⟨rfl, ?_, ?_⟩
      · intro claim waits
        dsimp only at waits
        split at waits
        · next record outcome _ =>
          have executed : request.identity.operationId = operationId := of_decide_eq_true waits
          simp [claimsFor, outcome, same, executed]
        · cases waits
      · intro claim
        dsimp only
        split
        · exact ⟨fun answer => (settled _ answer).quiet.1, fun answer => (settled _ answer).quiet.2⟩
        · trivial

theorem evaluatePreflight_attempt {identity : CapstoneOperationIdentity}
    {access : CapstoneAccessDecision} {guard : DurableDispatchGuard}
    {attempt passed : RemoteRequestBinding} {deadline : DeadlineBudget} {now : ℚ}
    {negotiation : VersionNegotiationResult} {versionedPermit : VersionedPermitOutcome}
    {capacity : TenantCapacityOutcome} {circuitAllowsRequest : Bool}
    (ready : (evaluatePreflight identity access guard attempt deadline now negotiation
      versionedPermit capacity circuitAllowsRequest).attempt = some passed) :
    passed = attempt ∧ attempt.operationId = identity.operationId := by
  simp only [evaluatePreflight, apply_ite CapstonePreflightDecision.attempt] at ready
  have accessed := Fallible.passed ready nofun
  have bound := Fallible.passed accessed.2 nofun
  have owned := Fallible.passed bound.2 nofun
  have intended := Fallible.passed owned.2 nofun
  have timely := Fallible.passed intended.2 nofun
  have negotiated := Fallible.passed timely.2 nofun
  have current := Fallible.passed negotiated.2 nofun
  have permitted := Fallible.passed current.2 nofun
  have admitted := Fallible.passed permitted.2 nofun
  have allowed := Fallible.passed admitted.2 nofun
  simp only [not_or, not_not] at bound
  exact ⟨(Option.some.inj allowed.2).symm, bound.1.2.2.1⟩

variable (prints : CapstonePrints)

theorem runOrchestrator_orderly (request : CapstoneOrchestrationInput) :
    Orderly operationId (runOrchestrator prints request) := by
  simp only [runOrchestrator]
  split
  · exact done_orderly _
  split
  · exact done_orderly _
  split
  · exact done_orderly _
  split
  · exact done_orderly _
  · next attempt ready =>
    have passed := evaluatePreflight_attempt ready
    rw [← passed.1] at passed
    exact claimAndExecute_orderly request _ attempt passed.2

theorem client_orderly (client : OrchestratorClient) :
    Orderly operationId (client.program prints) := by
  cases client with
  | addRetryable | addReadyOperation => exact call_orderly trivial fun answer => done_orderly _
  | run => exact runOrchestrator_orderly prints _
  | commit =>
    exact commitCandidate_orderly _ _ _ _ fun result => done_orderly _

variable (actions : List OrchestratorAction)

theorem started_orderly {program : OrchestratorProgram}
    (member : .start program ∈ actions.map (OrchestratorAction.turn prints)) :
    Orderly operationId program := by
  rcases List.mem_map.mp member with ⟨action, _, same⟩
  cases action with
  | enter client =>
    cases same
    exact client_orderly prints client
  | resume => cases same

theorem dispatchCalls_issued : ∀ call ∈ dispatchCalls prints actions, Issued call := by
  apply calls_issue InMemoryRetryDispatchStore.perform Issued _ _
  · intro thread member
    cases member
  · intro program member
    have orderly : Orderly "" program := started_orderly prints actions member
    exact orderly.issues

theorem executed_le_claimed (operationId : String) :
    (transportCalls prints actions).countP (executesFor operationId) ≤
      (dispatchTrace (dispatchCalls prints actions)).countP
        fun e => claimsFor operationId e.call e.response := by
  have bound := @asked_le_opened _ _ _ _ _ _ InMemoryRetryDispatchStore.perform
    (claimsFor operationId) (executesFor operationId) ⟨∅, []⟩
    (actions.map (OrchestratorAction.turn prints)) (fun thread member => by cases member)
    (fun program member => (started_orderly prints actions member).quiet)
  rw [show waiting (executesFor operationId) _ = 0 from rfl, Nat.zero_add] at bound
  exact bound

end Programs

variable {e : DispatchEvent}

section Steps

variable {store : InMemoryRetryDispatchStore} {call : DispatchCall}
variable {result : call.Answer × InMemoryRetryDispatchStore} {operationId : String}
variable {claim : ClaimArguments} {current : RetryDispatchRecord}

theorem ClaimArguments.refusal_none : claim.refusal current = none ↔ Agrees claim current := by
  simp only [ClaimArguments.refusal]
  constructor
  · intro goes
    have identified := Fallible.passed goes nofun
    have stands := Fallible.passed identified.2 nofun
    have versioned := Fallible.passed stands.2 nofun
    have fenced := Fallible.passed versioned.2 nofun
    have renewed := Fallible.passed fenced.2 nofun
    have sequenced := Fallible.passed renewed.2 nofun
    have generated := (Fallible.passed sequenced.2 nofun).1
    simp only [not_or, not_and, not_not] at identified stands versioned sequenced generated
    refine ⟨identified.1.1, identified.1.2.1, identified.1.2.2.1, identified.1.2.2.2, stands.1,
      versioned.1, ?_, ?_, sequenced.1, ?_⟩
    · intro fence expected
      simpa [expected] using fenced.1
    · intro fence newFence expected new
      simpa [expected, new] using renewed.1
    · intro tenant
      exact Option.isSome_iff_ne_none.mpr (generated tenant)
  · intro agrees
    have fence : ¬ claim.expectedFence.any (current.fenceToken ≠ ·) = true := by
      cases expected : claim.expectedFence with
      | none => simp
      | some fence => simpa [expected] using agrees.fence fence expected
    have newFence : ¬ claim.newFence.any (fun fence => claim.expectedFence.any (fence ≤ ·)) =
        true := by
      cases new : claim.newFence with
      | none => simp
      | some newFence =>
        cases expected : claim.expectedFence with
        | none => simp
        | some fence => simpa using agrees.newFence fence newFence expected new
    rw [if_neg, if_neg (not_not.mpr agrees.state), if_neg (not_not.mpr agrees.version),
      if_neg fence, if_neg newFence, if_neg (not_not.mpr agrees.attempt), if_neg]
    · rintro ⟨tenant, missing⟩
      exact Option.isSome_iff_ne_none.mp (agrees.generation tenant) missing
    · rintro (key | ⟨named, other⟩ | ⟨named, other⟩ | ⟨named, other⟩)
      · exact key agrees.key
      · exact other (agrees.tenant named)
      · exact other (agrees.resource named)
      · exact other (agrees.tool named)

theorem ClaimArguments.refusal_unclaimed
    {outcome : RetryDispatchClaimOutcome} (refusal : claim.refusal current = some outcome) :
    outcome ≠ .claimed := by
  rintro rfl
  have identified := Fallible.passed refusal nofun
  have stands := Fallible.passed identified.2 nofun
  have versioned := Fallible.passed stands.2 nofun
  have fenced := Fallible.passed versioned.2 nofun
  have renewed := Fallible.passed fenced.2 nofun
  have sequenced := Fallible.passed renewed.2 nofun
  cases (Fallible.passed sequenced.2 nofun).2

/-- What one call does. -/
inductive DispatchStep (store : InMemoryRetryDispatchStore) : (call : DispatchCall) →
    call.Answer × InMemoryRetryDispatchStore → Prop
  | kept (call : DispatchCall) (answer : call.Answer)
      (quiet : ∀ operationId, claimsFor operationId call answer = false) :
      DispatchStep store call (answer, store)
  | registered (call : DispatchCall) (answer : call.Answer) (record : RetryDispatchRecord)
      (quiet : ∀ operationId, claimsFor operationId call answer = false)
      (absent : store.lookup record.operationId = none) :
      DispatchStep store call (answer, store.insert record.operationId record)
  | claimed (claim : ClaimArguments) (current : RetryDispatchRecord)
      (admitted : claim.dispatch.admitted = true)
      (found : store.lookup claim.dispatch.attempt.operationId = some current)
      (agrees : Agrees claim current) :
      DispatchStep store (.claimDispatch claim)
        ({ outcome := .claimed
           record := some (claim.claimed current)
           durableTransition := true },
          store.insert claim.dispatch.attempt.operationId (claim.claimed current))
  | completed (completion : CompletionArguments) (current : RetryDispatchRecord)
      (found : store.lookup completion.operationId = some current)
      (expected : current.state = completion.expectedState) :
      DispatchStep store (.compareAndSetCompleted completion)
        (some (completion.completed current),
          store.insert completion.operationId (completion.completed current))

theorem register_cases (store : InMemoryRetryDispatchStore) (record : RetryDispatchRecord) :
    ∃ answer, store.register record = (answer, store) ∨ (store.lookup record.operationId = none ∧
        store.register record = (answer, store.insert record.operationId record)) := by
  simp only [InMemoryRetryDispatchStore.register]
  cases found : store.lookup record.operationId with
  | some => exact ⟨_, .inl rfl⟩
  | none => exact ⟨_, .inr ⟨rfl, rfl⟩⟩

theorem perform_step (store : InMemoryRetryDispatchStore) (call : DispatchCall) :
    DispatchStep store call (InMemoryRetryDispatchStore.perform call store) := by
  cases call with
  | read => exact .kept _ _ fun _ => rfl
  | addRetryable registration =>
    simp only [InMemoryRetryDispatchStore.perform, InMemoryRetryDispatchStore.addRetryable]
    split
    · exact .kept _ _ fun _ => rfl
    split
    · exact .kept _ _ fun _ => rfl
    split
    · exact .kept _ _ fun _ => rfl
    · rcases register_cases store registration.record with ⟨answer, same | ⟨absent, same⟩⟩
      · rw [same]
        exact .kept _ _ fun _ => rfl
      · rw [same]
        exact .registered _ _ _ (fun _ => rfl) absent
  | addReadyOperation registration =>
    simp only [InMemoryRetryDispatchStore.perform, InMemoryRetryDispatchStore.addReadyOperation]
    split
    · exact .kept _ _ fun _ => rfl
    split
    · exact .kept _ _ fun _ => rfl
    · rcases register_cases store registration.record with ⟨_, same | ⟨absent, same⟩⟩
      · rw [same]
        exact .kept _ _ fun _ => rfl
      · rw [same]
        exact .registered _ _ _ (fun _ => rfl) absent
  | claimDispatch claim =>
    have refused : ∀ outcome, outcome ≠ .claimed →
        DispatchStep store (.claimDispatch claim) ({ outcome := outcome }, store) := by
      intro outcome unclaimed
      refine .kept _ _ ?_
      intro operationId
      simp [claimsFor, unclaimed]
    simp only [InMemoryRetryDispatchStore.perform, InMemoryRetryDispatchStore.claimDispatch]
    by_cases admitted : claim.dispatch.admitted = false
    · rw [if_pos admitted]
      exact refused _ (by decide)
    rw [if_neg admitted]
    cases found : store.lookup claim.dispatch.attempt.operationId with
    | none => exact refused _ (by decide)
    | some current =>
      dsimp only
      cases refusal : claim.refusal current with
      | some outcome => exact refused outcome (ClaimArguments.refusal_unclaimed refusal)
      | none =>
        exact .claimed claim current (by simpa using admitted) found
          (ClaimArguments.refusal_none.mp refusal)
  | compareAndSetCompleted completion =>
    simp only [InMemoryRetryDispatchStore.perform,
      InMemoryRetryDispatchStore.compareAndSetCompleted]
    cases found : store.lookup completion.operationId with
    | none => exact .kept _ _ fun _ => rfl
    | some current =>
      dsimp only
      by_cases matched : completion.matched current = false
      · rw [if_pos matched]
        exact .kept _ _ fun _ => rfl
      · rw [if_neg matched]
        simp only [CompletionArguments.matched, Bool.not_eq_false, decide_eq_true_eq] at matched
        exact .completed completion current found matched.2.2.2.2.2.2.2.1

theorem perform_event {calls : List DispatchCall}
    (member : e ∈ dispatchTrace calls) : DispatchStep e.before e.call (e.response, e.after) := by
  have performed := mem_trace_performed member
  rw [performed.1, performed.2]
  exact perform_step e.before e.call

theorem DispatchStep.claims (step : DispatchStep store call result)
    (counts : claimsFor operationId call result.1 = true) :
    ∃ claim current, call = .claimDispatch claim ∧ claim.dispatch.admitted = true ∧
      claim.dispatch.attempt.operationId = operationId ∧
      store.lookup operationId = some current ∧ Agrees claim current ∧
      result.2.lookup operationId = some (claim.claimed current) := by
  cases step with
  | kept call answer quiet | registered call answer record quiet =>
    rw [quiet operationId] at counts
    cases counts
  | completed => cases counts
  | claimed claim current admitted found agrees =>
    simp only [claimsFor, decide_true, Bool.and_true, decide_eq_true_eq] at counts
    refine ⟨claim, current, rfl, admitted, counts, ?_, agrees, ?_⟩
    · rw [← counts]
      exact found
    · rw [← counts]
      exact AList.lookup_insert store

def startedFor (operationId : String) (store : InMemoryRetryDispatchStore) : Bool :=
  (store.lookup operationId).any fun record => !record.state.ready

theorem startedFor_insert (store : InMemoryRetryDispatchStore) (written operationId : String)
    (record : RetryDispatchRecord) : startedFor operationId (store.insert written record) =
      if operationId = written then !record.state.ready else startedFor operationId store := by
  simp only [startedFor, Dict.lookup_insert_eq]
  by_cases same : operationId = written
  · rw [if_pos same, if_pos same]
    rfl
  · rw [if_neg same, if_neg same]

theorem DispatchStep.started (step : DispatchStep store call result) (operationId : String) :
    startedFor operationId store ≤ startedFor operationId result.2 := by
  cases step with
  | kept => exact le_refl _
  | registered _ _ record _ absent =>
    rw [startedFor_insert]
    by_cases same : operationId = record.operationId
    · rw [startedFor, same, absent]
      exact Bool.false_le _
    · rw [if_neg same]
  | claimed | completed =>
    rw [startedFor_insert]
    split
    · exact Bool.le_true _
    · exact le_refl _

theorem DispatchStep.completedFinal (step : DispatchStep store call result) (issued : Issued call)
    (quiet : ¬ Redispatches store call) {record : RetryDispatchRecord}
    (completed : record.state = .completed) (stored : store.lookup operationId = some record) :
    result.2.lookup operationId = some record := by
  cases step with
  | kept => exact stored
  | registered _ _ _ _ absent =>
    rw [Dict.lookup_insert_eq, if_neg]
    · exact stored
    · intro same
      rw [same, absent] at stored
      cases stored
  | claimed claim _ admitted found agrees =>
    rw [Dict.lookup_insert_eq, if_neg]
    · exact stored
    · intro same
      rw [same, found] at stored
      cases stored
      refine quiet ⟨claim, record, rfl, admitted, ?_, found, agrees⟩
      rw [← agrees.state, completed]
      decide
  | completed _ _ found expected =>
    rw [Dict.lookup_insert_eq, if_neg]
    · exact stored
    · intro same
      rw [same, found] at stored
      cases stored
      exact issued (expected.symm.trans completed)

theorem redispatch_claims (redispatches : Redispatches store call) :
    ∃ operationId record, store.lookup operationId = some record ∧ record.state.ready = false ∧
      claimsFor operationId call (InMemoryRetryDispatchStore.perform call store).1 = true := by
  rcases redispatches with ⟨claim, record, called, admitted, unready, found, agrees⟩
  refine ⟨claim.dispatch.attempt.operationId, record, found, ?_, ?_⟩
  · rw [agrees.state]
    exact unready
  · rw [called]
    simp [InMemoryRetryDispatchStore.perform, InMemoryRetryDispatchStore.claimDispatch,
      admitted, found, ClaimArguments.refusal_none.mpr agrees,
      claimsFor]

end Steps

section Runs

variable {calls : List DispatchCall}

variable {operationId : String}

theorem claims_ready (member : e ∈ dispatchTrace calls) (quiet : ¬ Redispatches e.before e.call)
    (counts : claimsFor operationId e.call e.response = true) :
    ∃ record, e.before.lookup operationId = some record ∧ record.state.ready = true := by
  rcases (perform_event member).claims counts with
    ⟨claim, current, called, admitted, same, found, agrees, _⟩
  refine ⟨current, found, ?_⟩
  by_contra unready
  rw [← same] at found
  refine quiet ⟨claim, current, called, admitted, ?_, found, agrees⟩
  rw [← agrees.state]
  simpa using unready

theorem claimed_once (quiet : ∀ e ∈ dispatchTrace calls, ¬ Redispatches e.before e.call)
    (operationId : String) :
    (dispatchTrace calls).countP (fun e => claimsFor operationId e.call e.response) ≤ 1 := by
  refine counted_once InMemoryRetryDispatchStore.perform (startedFor operationId) false _ _ _
    (fun e member => (perform_event member).started operationId) ?_
  intro e member counts
  rcases claims_ready member (quiet e member) counts with ⟨_, found, ready⟩
  rcases (perform_event member).claims counts with ⟨_, _, _, _, _, _, _, left⟩
  constructor
  · simp [startedFor, found, ready]
  · rw [startedFor, left]
    exact Bool.false_lt_true

theorem claims_advance (member : e ∈ dispatchTrace calls) (issued : Issued e.call)
    (counts : claimsFor operationId e.call e.response = true) :
    ∃ before after, e.before.lookup operationId = some before ∧
      e.after.lookup operationId = some after ∧ before.version < after.version ∧
      before.fenceToken < after.fenceToken := by
  rcases (perform_event member).claims counts with
    ⟨_, current, called, _, _, found, agrees, left⟩
  rw [called] at issued
  rcases issued with ⟨fence, expected, new⟩
  refine ⟨current, _, found, left, Int.lt_succ _, ?_⟩
  rw [ClaimArguments.claimed, new, agrees.fence fence expected]
  exact Int.lt_succ fence

end Runs

/-- The dispatch law holds of an interleaving exactly where no claim expects an operation that is
started or completed and agrees with its record. -/
theorem dispatched_once (prints : CapstonePrints) (actions : List OrchestratorAction) :
    DispatchedOnce prints actions ↔
      ∀ e ∈ dispatchTrace (dispatchCalls prints actions), ¬ Redispatches e.before e.call := by
  have issued := dispatchCalls_issued prints actions
  constructor
  · intro law e member redispatches
    rcases redispatch_claims redispatches with ⟨operationId, record, found, unready, claims⟩
    rw [← (mem_trace_performed member).1] at claims
    rcases law.fromReady e member operationId claims with ⟨_, stored, ready⟩
    cases found.symm.trans stored
    rw [unready] at ready
    cases ready
  · intro quiet
    constructor
    · intro operationId
      exact (executed_le_claimed prints actions operationId).trans (claimed_once quiet operationId)
    · intro e member operationId counts
      exact claims_ready member (quiet e member) counts
    · intro operationId record completed
      rw [permanent_iff]
      intro e member stored
      exact (perform_event member).completedFinal
        (issued e.call (mem_of_mem_trace _ _ _ e member)) (quiet e member) completed stored
    · intro e member operationId counts
      exact claims_advance member (issued e.call (mem_of_mem_trace _ _ _ e member)) counts

namespace Sample

def prints : CapstonePrints := ⟨fun _ => "arguments", fun _ => "action"⟩

def operation : CapstoneOperationIdentity := ⟨"op-1", "key-1", "tenant-a", "report-7", by decide⟩

def proposal : AgentMCPToolProposal :=
  ⟨"publish_report", "v1", [("resource_id", .text "report-7")], by decide⟩

def snapshot : ToolCapabilitySnapshot :=
  ⟨"S1", "tenant-a", "user-1", "publisher", "J1", "step-1", [⟨"publish_report", "v1", "schema"⟩]⟩

def action : Agents.ActionBinding :=
  { tenantId := "tenant-a"
    jobId := "J1", stepId := "step-1", attemptId := "A1", operationId := "op-1"
    actionType := "publish", toolName := "publish_report", toolVersion := "v1"
    argumentsFingerprint := "arguments", artifactId := "report-7", artifactVersion := "1"
    requesterId := "user-1", policyId := "P1", policyVersion := "1", risk := .high
    executionBindingFingerprint := "binding" }

def authorization : AuthorizationDecision where
  outcome := .authorized
  safeExternalMessage := "authorized"
  permit := some
    ⟨"issuer", "user-1", "op-1", "key-1", "tenant-a", "publish_report", some "report-7"⟩
  carries := by decide

def attempt (number : Nat) : RemoteRequestBinding :=
  ⟨⟨1, .number number, by decide⟩, "op-1", "key-1", number + 1, by decide, by omega⟩

def copied (state : RetryDispatchRecordState) (version fence : Nat) : DurableDispatchGuard where
  operationId := "op-1"
  idempotencyKey := "key-1"
  expectedState := state.value
  currentState := state.value
  expectedVersion := version
  currentVersion := version
  expectedFence := fence
  currentFence := fence
  callerIntentActive := true
  cancelled := false
  identified := by cases state <;> decide
  counted := by omega

def orchestration (guard : DurableDispatchGuard) (attempt : RemoteRequestBinding) :
    CapstoneOrchestrationInput where
  proposal := proposal
  capabilitySnapshot := snapshot
  identity := operation
  approvalStatus := .approved
  approvalRequest := ⟨"R1", action, 0, 50, 100, ["reviewer"], true, 1, 1, none⟩
  approvalDecision := some ⟨"D1", "R1", "action", "user-2", "tenant-a", .approved, 5, "OK"⟩
  authorizationDecision := some authorization
  guard := guard
  attempt := attempt
  deadline := ⟨60, 0, by decide⟩
  now := 10
  negotiation := ⟨.negotiated, 1⟩
  versionedPermit := .admitted
  capacity := .admitted
  circuitAllowsRequest := true

/-- The transport has sent the request, and no credible answer has come back. -/
def timedOut (execution : TransportExecution) : TransportAnswer :=
  .unknown
    { evidence :=
        { operationId := execution.attempt.operationId
          idempotencyKey := execution.attempt.idempotencyKey
          protocolRequestId := execution.attempt.key.protocolRequestId
          attemptNumber := execution.attempt.attemptNumber, phase := .read, kind := .readTimeout
          dispatchCertainty := .possiblySent, executionCertainty := .possiblyExecuted
          evidenceSource := "adapter", operationId_nonEmpty := execution.attempt.identified.1
          idempotencyKey_nonEmpty := execution.attempt.identified.2
          attempt_pos := execution.attempt.attempt_pos
          evidenceSource_nonEmpty := by decide
          unsent := nofun }
      possible := rfl }

/-- A run whose transport times out, then a second run whose guard copies what the first left. -/
def replayed : List OrchestratorAction :=
  [.enter (.addReadyOperation ⟨"op-1", "key-1", "tenant-a", "report-7", "publish_report", 1, 0, 0⟩),
   .resume 0 timedOut,
   .enter (.run (orchestration (copied .readyForDispatch 1 0) (attempt 0))),
   .resume 1 timedOut, .resume 1 timedOut,
   .enter (.run (orchestration (copied .dispatchStarted 2 1) (attempt 1))),
   .resume 2 timedOut, .resume 2 timedOut]

/-- The possibly executed operation is claimed once more, and executed once more. -/
theorem replayed_executed_twice :
    truthfulGuards prints [] replayed = true ∧ ¬ DispatchedOnce prints replayed := by
  refine ⟨by decide +kernel, ?_⟩
  intro law
  have twice : (transportCalls prints replayed).countP (executesFor "op-1") = 2 := by
    decide +kernel
  have once := law.executedOnce "op-1"
  omega

end Sample

end BackendHandbook.Mcp
