import BackendHandbook.Dispatch.Dispatching
import BackendHandbook.Foundation.Closing

/-! Every attempt is sent at most once, as its contract binds it. -/

namespace BackendHandbook.Dispatch

open Interleaving DispatchState Program

section Statement

variable (start : DispatchState) (moves : List DispatchMove)

abbrev DispatchTurn := Turn DispatchCall DispatchAnswer Empty Empty.elim OperationResult

abbrev dispatchTurns : List DispatchTurn := turns DispatchOperation.program moves

abbrev dispatchReached : Pool DispatchState DispatchCall DispatchAnswer Empty Empty.elim
    OperationResult :=
  reached DispatchOperation.program perform start moves

abbrev dispatchBehind (front : List DispatchTurn) : DispatchState := stateBehind perform start front

abbrev DispatchCallsAt (index : Nat) (front : List DispatchTurn) (call : DispatchCall) : Prop :=
  PerformsAt DispatchOperation.program perform start moves index front call

/-- Attempts are never removed or bound anew, and one that is not planned any more stays. -/
def AttemptsKept (before after : DispatchState) : Prop :=
  Dict.Kept AttemptRecord.contract (·.state = .planned) before.records after.records

/-- A send of the dispatch of the request, as the stored contract binds it. -/
structure SentAsBound (index : Nat) (front : List DispatchTurn) (adapter : Adapter)
    (wire : WireRequest) (request : ApplicationRequest) (contract : AttemptExecutionContract) :
    Prop where
  wire : wire = buildWireRequest adapter.dialect adapter.profile request
  stored : (dispatchBehind start front).records.lookup contract.attemptId =
    some ⟨contract, .dispatched⟩
  agrees : adapter.profile.Agrees contract
  supports : adapter.profile.supports contract.applicationContract
  jobId : request.jobId = contract.jobId
  applicationContract : request.applicationContract = contract.applicationContract
  active : ∃ moment, DispatchCallsAt start moves index moment (.status contract.profileId) ∧
    (dispatchBehind start moment).statusOf contract.profileId = .active

/-- The results of an operation that has changed no attempt if it has not sent anything. -/
def OperationResult.Refused : OperationResult → Prop
  | .dispatched (.error _) => True
  | .dispatched (.ok result) =>
    result.outcome.kind = .capabilityError ∧ result.outcome.detail = "contract_not_supported"
  | .written (.error _) => True
  | .written (.ok _) => False

/-- What dispatching promises over a run. -/
structure DispatchSafe : Prop where
  once : ∀ index other request asked contract bound front late adapter sender wire sent,
    (operations moves)[index]? = some (.dispatchAttempt request contract) →
    (operations moves)[other]? = some (.dispatchAttempt asked bound) →
    contract.attemptId = bound.attemptId →
    DispatchCallsAt start moves index front (.send adapter wire) →
    DispatchCallsAt start moves other late (.send sender sent) → index = other ∧ front = late
  asBound : ∀ index front adapter wire,
    DispatchCallsAt start moves index front (.send adapter wire) →
    ∃ request contract, (operations moves)[index]? = some (.dispatchAttempt request contract) ∧
      SentAsBound start moves index front adapter wire request contract
  kept : ∀ early late, early <+: late → late <+: dispatchTurns moves →
    AttemptsKept (dispatchBehind start early) (dispatchBehind start late)
  unchanged : ∀ index result,
    (dispatchReached start moves).threads[index]? = some (.done result) → result.Refused →
    (∀ front adapter wire, ¬ DispatchCallsAt start moves index front (.send adapter wire)) →
    ∀ front call, DispatchCallsAt start moves index front call →
      (perform call (dispatchBehind start front)).2.records = (dispatchBehind start front).records
  concluded : ∀ index front adapter wire result,
    DispatchCallsAt start moves index front (.send adapter wire) →
    (dispatchReached start moves).threads[index]? = some (.done result) →
    result = .dispatched ((concludeSend adapter.dialect adapter.profile
      (perform (.send adapter wire) (dispatchBehind start front)).1).map
        fun outcome => { outcome, providerCalls := 1, attemptState := .dispatched })

end Statement

section Calls

/-- What the operations call: transitions from `PLANNED`. -/
def FromPlanned : DispatchCall → Prop
  | .compareAndSet _ expected _ => expected = .planned
  | _ => True

variable (adapter : Adapter) (request : ApplicationRequest)

theorem send_issues : (send adapter request).Issues FromPlanned := ⟨trivial, fun _ => trivial⟩

variable (authoritative : AttemptExecutionContract)

theorem dispatchOnce_issues : (dispatchOnce adapter request authoritative).Issues FromPlanned := by
  refine ⟨rfl, fun moved => ?_⟩
  dsimp only
  split
  · exact send_issues adapter request
  · trivial

theorem block_issues (outcome : ProviderOutcome) :
    (block authoritative outcome).Issues FromPlanned := by
  refine ⟨rfl, fun moved => ?_⟩
  dsimp only
  split
  · trivial
  · trivial

theorem admitOrBlock_issues (adapter : Adapter) (request : ApplicationRequest)
    (authoritative : AttemptExecutionContract) :
    (admitOrBlock adapter request authoritative).Issues FromPlanned := by
  refine ⟨trivial, fun currentStatus => ?_⟩
  dsimp only
  split
  · trivial
  split
  · split
    · exact block_issues _ _
    · trivial
  · exact dispatchOnce_issues _ _ _

theorem dispatchAttempt_issues (request : ApplicationRequest)
    (contract : AttemptExecutionContract) :
    (dispatchAttempt request contract).Issues FromPlanned := by
  refine ⟨trivial, fun record => ?_⟩
  dsimp only
  split
  · trivial
  split
  · trivial
  split
  · trivial
  refine ⟨trivial, fun resolved => ?_⟩
  dsimp only
  split
  · trivial
  split
  · trivial
  · exact admitOrBlock_issues _ _ _

theorem operation_fromPlanned (operation : DispatchOperation) :
    operation.program.Issues FromPlanned := by
  cases operation with
  | plan | setStatus | disable | quarantine => exact ⟨trivial, fun _ => trivial⟩
  | register =>
    refine ⟨trivial, fun answer => ?_⟩
    dsimp only
    split
    · trivial
    · exact ⟨trivial, fun _ => trivial⟩
  | dispatchAttempt request contract =>
    exact issues_map (dispatchAttempt_issues request contract)

variable {call : DispatchCall} {state : DispatchState}

theorem attempts_cases (planned : FromPlanned call) :
    (perform call state).2.records = state.records ∨
      (∃ contract, call = .plan contract ∧ state.records.lookup contract.attemptId = none ∧
        (perform call state).2.records =
          state.records.insert contract.attemptId ⟨contract, .planned⟩) ∨
      ∃ contract new, call = .compareAndSet contract .planned new ∧
        state.records.lookup contract.attemptId = some ⟨contract, .planned⟩ ∧
        (perform call state).2.records =
          state.records.insert contract.attemptId ⟨contract, new⟩ := by
  cases call with
  | plan contract =>
    simp only [perform]
    cases held : state.records.lookup contract.attemptId with
    | some => exact .inl rfl
    | none => exact .inr (.inl ⟨contract, rfl, held, rfl⟩)
  | compareAndSet contract expected new =>
    have same : expected = .planned := planned
    subst same
    simp only [perform]
    split
    · next held => exact .inr (.inr ⟨contract, new, rfl, held, rfl⟩)
    · exact .inl rfl
  | registerAdapter =>
    left
    simp only [perform]
    split
    · rfl
    · rfl
  | getRecord | registerProfile | resolveBoundAttempt | status | setStatus | send => exact .inl rfl

theorem perform_attemptsKept (planned : FromPlanned call) :
    AttemptsKept state (perform call state).2 := by
  unfold AttemptsKept
  rcases @attempts_cases call state planned with
    same | ⟨_, _, absent, written⟩ | ⟨_, _, _, stands, written⟩
  · rw [same]
    exact Dict.Kept.refl _
  · rw [written]
    exact Dict.Kept.insert_absent absent
  · rw [written]
    exact Dict.Kept.insert_open stands rfl rfl

theorem attempt_swapped {contract : AttemptExecutionContract} (new : AttemptState)
    (planned : state.records.lookup contract.attemptId = some ⟨contract, .planned⟩) :
    (perform (.compareAndSet contract .planned new) state).2.records.lookup
      contract.attemptId = some ⟨contract, new⟩ := by
  simp only [perform]
  rw [if_pos (show AttemptRecord.Expected _ _ _ from planned)]
  exact AList.lookup_insert _

end Calls

section Path

variable {γ : Type} {At : γ → DispatchCall → Prop} {state : γ → DispatchState}
variable {request : ApplicationRequest} {contract : AttemptExecutionContract} {adapter : Adapter}
variable {answer : Except DispatchRaised DispatchResult} {moments : List γ}

/-- What a dispatch that sends has found on its way. -/
structure SendingCall (At : γ → DispatchCall → Prop) (state : γ → DispatchState)
    (request : ApplicationRequest) (contract : AttemptExecutionContract) (adapter : Adapter)
    (admitted moved sending : γ) : Prop where
  admittedAt : At admitted (.status contract.profileId)
  movedAt : At moved (.compareAndSet contract .planned .dispatched)
  sendingAt : At sending (.send adapter (buildWireRequest adapter.dialect adapter.profile request))
  active : (state admitted).statusOf contract.profileId = .active
  planned : (state moved).records.lookup contract.attemptId = some ⟨contract, .planned⟩
  agrees : adapter.profile.Agrees contract
  supports : adapter.profile.supports contract.applicationContract
  jobId : request.jobId = contract.jobId
  applicationContract : request.applicationContract = contract.applicationContract

variable {wire : WireRequest} {front : γ}

theorem later_of_mem {call other : DispatchCall} {moment : γ} {later : List γ}
    (unique : ∀ moment call other, At moment call → At moment other → call = other)
    (member : front ∈ moment :: later) (here : At moment call) (there : At front other)
    (apart : call ≠ other) : front ∈ later := by
  rcases List.mem_cons.mp member with rfl | later
  · exact absurd (unique _ _ _ here there) apart
  · exact later

/-- A dispatch with a send has come there by all of its checks, and concludes the send. -/
theorem dispatchAttempt_path
    (unique : ∀ moment call other, At moment call → At moment other → call = other)
    (path : (dispatchAttempt request contract).Path perform At state moments answer)
    (member : front ∈ moments) (sendingAt : At front (.send adapter wire)) :
    wire = buildWireRequest adapter.dialect adapter.profile request ∧
      (∃ read resolved admitted moved, moments = [read, resolved, admitted, moved, front] ∧
        SendingCall At state request contract adapter admitted moved front) ∧
      answer = (concludeSend adapter.dialect adapter.profile
        (perform (.send adapter wire) (state front)).1).map fun outcome =>
          { outcome, providerCalls := 1, attemptState := .dispatched } := by
  rcases path with ⟨read, later, rfl, readAt, path⟩
  have member := later_of_mem unique member readAt sendingAt nofun
  dsimp only at path
  split at path
  · exact (not_mem_done path member).elim
  next record found =>
  split at path
  · exact (not_mem_done path member).elim
  next same =>
  split at path
  · exact (not_mem_done path member).elim
  rw [← not_not.mp same] at path
  rcases path with ⟨resolved, later, rfl, resolvedAt, path⟩
  have member := later_of_mem unique member resolvedAt sendingAt nofun
  dsimp only at path
  split at path
  · exact (not_mem_done path member).elim
  next bound _ =>
  split at path
  · exact (not_mem_done path member).elim
  next valid =>
  rcases validateAttemptBinding_none valid with ⟨jobId, applicationContract, agrees⟩
  rcases path with ⟨admitted, later, rfl, admittedAt, path⟩
  have member := later_of_mem unique member admittedAt sendingAt nofun
  dsimp only at path
  split at path
  · exact (not_mem_done path member).elim
  split at path
  · split at path
    · rcases path with ⟨_, later, rfl, blockedAt, path⟩
      have member := later_of_mem unique member blockedAt sendingAt nofun
      dsimp only at path
      split at path
      · exact (not_mem_done path member).elim
      · exact (not_mem_done path member).elim
    · exact (not_mem_done path member).elim
  next passes =>
  rcases admitCapability_admitted passes with ⟨active, supports⟩
  rcases path with ⟨moved, later, rfl, movedAt, path⟩
  have member := later_of_mem unique member movedAt sendingAt nofun
  dsimp only at path
  split at path
  · next swapped =>
    rcases path with ⟨_, _, rfl, sentAt, rfl, answered⟩
    rcases List.mem_singleton.mp member with rfl
    cases unique _ _ _ sentAt sendingAt
    have planned : (state moved).records.lookup contract.attemptId = some ⟨contract, .planned⟩ := by
      simp only [perform] at swapped
      split at swapped
      · assumption
      · cases swapped
    exact ⟨rfl, ⟨read, resolved, admitted, moved, rfl,
      { admittedAt, movedAt, sendingAt, active, planned, agrees, supports, jobId,
        applicationContract }⟩, answered.symm⟩
  · exact (not_mem_done path member).elim

end Path

section Programs

def DispatchCall.IsSend (call : DispatchCall) : Prop := ∃ adapter wire, call = .send adapter wire

/-- The call leaves the attempts as they are. -/
def KeepsAttempts (call : DispatchCall) (state : DispatchState) : Prop :=
  (perform call state).2.records = state.records

/-- The operation is about to send, or its result tells that it has changed an attempt. -/
def MarkedDispatch (program : DispatchProgram OperationResult) : Prop :=
  (∃ adapter wire next, program = .call (.send adapter wire) next) ∨
    ∃ result, program = .done result ∧ ¬ result.Refused

abbrev DispatchClosing : DispatchProgram OperationResult → Prop :=
  Program.Closing perform KeepsAttempts MarkedDispatch

abbrev SendFinishes : DispatchProgram OperationResult → Prop := Program.Finishes DispatchCall.IsSend

abbrev EndsWithSend (program : DispatchProgram OperationResult) : Prop :=
  DispatchClosing program ∧ SendFinishes program

theorem call_endsWithSend {call : DispatchCall}
    {next : DispatchAnswer call → DispatchProgram OperationResult}
    (quiet : ∀ state, KeepsAttempts call state)
    (other : ∀ adapter wire, call ≠ .send adapter wire) : EndsWithSend (.call call next) := by
  refine ⟨fun state => .inl (quiet state), ?_⟩
  rintro ⟨adapter, wire, same⟩
  exact absurd same (other adapter wire)

variable (adapter : Adapter) (request : ApplicationRequest)

theorem send_endsWithSend :
    ((send adapter request).map OperationResult.dispatched).Everywhere EndsWithSend :=
  ⟨⟨fun _ => .inl rfl, fun _ _ => ⟨_, rfl⟩⟩, fun _ => ⟨trivial, trivial⟩⟩

theorem dispatchOnce_endsWithSend (authoritative : AttemptExecutionContract) :
    ((dispatchOnce adapter request authoritative).map OperationResult.dispatched).Everywhere
      EndsWithSend := by
  refine ⟨⟨fun state => ?_, ?_⟩, fun moved => ?_⟩
  · simp only [KeepsAttempts, perform]
    split
    · exact .inr (.inl ⟨_, _, _, rfl⟩)
    · exact .inl rfl
  · rintro ⟨_, _, same⟩
    cases same
  · dsimp only
    split
    · exact send_endsWithSend adapter request
    · exact ⟨trivial, trivial⟩

theorem block_endsWithSend {authoritative : AttemptExecutionContract} {outcome : ProviderOutcome}
    (other : outcome.detail ≠ "contract_not_supported") :
    ((block authoritative outcome).map OperationResult.dispatched).Everywhere EndsWithSend := by
  refine ⟨⟨fun state => ?_, ?_⟩, fun moved => ?_⟩
  · simp only [KeepsAttempts, perform]
    split
    · exact .inr (.inr ⟨_, rfl, fun refused => other refused.2⟩)
    · exact .inl rfl
  · rintro ⟨_, _, same⟩
    cases same
  · dsimp only
    split
    · exact ⟨trivial, trivial⟩
    · exact ⟨trivial, trivial⟩

theorem admitOrBlock_endsWithSend (adapter : Adapter) (request : ApplicationRequest)
    (authoritative : AttemptExecutionContract) :
    ((admitOrBlock adapter request authoritative).map OperationResult.dispatched).Everywhere
      EndsWithSend := by
  refine ⟨call_endsWithSend (fun _ => rfl) nofun, fun currentStatus => ?_⟩
  dsimp only
  split
  · exact ⟨trivial, trivial⟩
  split
  · split
    · next selectable =>
      apply block_endsWithSend
      rw [selectable]
      decide
    · exact ⟨trivial, trivial⟩
  · exact dispatchOnce_endsWithSend _ _ _

theorem dispatchAttempt_endsWithSend (request : ApplicationRequest)
    (contract : AttemptExecutionContract) :
    ((dispatchAttempt request contract).map OperationResult.dispatched).Everywhere
      EndsWithSend := by
  refine ⟨call_endsWithSend (fun _ => rfl) nofun, fun record => ?_⟩
  dsimp only
  split
  · exact ⟨trivial, trivial⟩
  split
  · exact ⟨trivial, trivial⟩
  split
  · exact ⟨trivial, trivial⟩
  refine ⟨call_endsWithSend (fun _ => rfl) nofun, fun resolved => ?_⟩
  dsimp only
  split
  · exact ⟨trivial, trivial⟩
  split
  · exact ⟨trivial, trivial⟩
  · exact admitOrBlock_endsWithSend _ _ _

theorem registering_keepsAttempts (adapter : Adapter) (state : DispatchState) :
    KeepsAttempts (.registerAdapter adapter) state := by
  simp only [KeepsAttempts, perform]
  split
  · rfl
  · rfl

theorem operation_endsWithSend (operation : DispatchOperation) :
    operation.program.Everywhere EndsWithSend := by
  have writes : ∀ profileId status, (setStatus profileId status).Everywhere EndsWithSend :=
    fun profileId status => ⟨call_endsWithSend (fun _ => rfl) nofun, fun _ => ⟨trivial, trivial⟩⟩
  cases operation with
  | plan =>
    refine ⟨⟨fun state => ?_, ?_⟩, fun _ => ⟨trivial, trivial⟩⟩
    · simp only [KeepsAttempts, perform]
      split
      · exact .inl rfl
      · exact .inr (.inr ⟨_, rfl, id⟩)
    · rintro ⟨_, _, same⟩
      cases same
  | register adapter =>
    refine ⟨call_endsWithSend (registering_keepsAttempts adapter) nofun, fun answer => ?_⟩
    dsimp only
    split
    · exact ⟨trivial, trivial⟩
    · exact ⟨call_endsWithSend (fun _ => rfl) nofun, fun _ => ⟨trivial, trivial⟩⟩
  | setStatus => exact writes _ _
  | disable => exact writes _ .disabled
  | quarantine => exact writes _ .quarantined
  | dispatchAttempt => exact dispatchAttempt_endsWithSend _ _

end Programs

section Runs

variable {start : DispatchState} {moves : List DispatchMove} {index other : Nat}
variable {front late : List DispatchTurn} {adapter sender : Adapter} {wire sent : WireRequest}
variable {request asked : ApplicationRequest} {contract bound : AttemptExecutionContract}
variable {call : DispatchCall} {result : OperationResult}

theorem dispatches_fromPlanned : ∀ e ∈ systemTrace DispatchOperation.program perform
    start moves, FromPlanned e.call :=
  system_issues _ FromPlanned fun operation _ => operation_fromPlanned operation

theorem attempts_along (before : front <+: late) (inside : late <+: dispatchTurns moves) :
    AttemptsKept (dispatchBehind start front) (dispatchBehind start late) := by
  refine @system_along _ _ _ _ _ _ _ _ _ _ _ AttemptsKept (fun state => Dict.Kept.refl _)
    (fun _ _ _ first second => Dict.Kept.trans first second) (fun e member => ?_) _ _ before inside
  rw [(Run.mem_trace_performed member).2]
  exact perform_attemptsKept (dispatches_fromPlanned e member)

theorem started_endsWithSend : ∀ program ∈ started (dispatchTurns moves),
    program.Everywhere EndsWithSend := by
  intro program member
  rw [started_turns] at member
  rcases List.mem_map.mp member with ⟨operation, _, rfl⟩
  exact operation_endsWithSend operation

theorem sent_behind (movedAt : DispatchCallsAt start moves index front
      (.compareAndSet contract .planned .dispatched))
    (planned : (dispatchBehind start front).records.lookup contract.attemptId =
      some ⟨contract, .planned⟩) (inside : late <+: dispatchTurns moves)
    (longer : front.length < late.length) :
    (dispatchBehind start late).records.lookup contract.attemptId =
      some ⟨contract, .dispatched⟩ := by
  exact Performs.stands
    (P := fun state => state.records.lookup contract.attemptId = some ⟨contract, .dispatched⟩)
    (fun before inside found => (attempts_along before inside).stays found (by simp)) movedAt
    (attempt_swapped .dispatched planned) inside longer

theorem calls_unique : ∀ moment call other, DispatchCallsAt start moves index moment call →
    DispatchCallsAt start moves index moment other → call = other :=
  fun _ _ _ first second => Performs.call_eq first second

theorem sending_operation {γ : Type} {At : γ → DispatchCall → Prop} {state : γ → DispatchState}
    (unique : ∀ moment call other, At moment call → At moment other → call = other)
    {operation : DispatchOperation} {moments : List γ} {front : γ}
    (path : operation.program.Path perform At state moments result)
    (member : front ∈ moments) (sendingAt : At front (.send adapter wire)) :
    ∃ request contract, operation = .dispatchAttempt request contract := by
  have writes : ∀ profileId status,
      ¬ (setStatus profileId status).Path perform At state moments result := by
    rintro profileId status ⟨moment, later, rfl, here, path⟩
    exact not_mem_done path (later_of_mem unique member here sendingAt nofun)
  cases operation with
  | plan =>
    rcases path with ⟨moment, later, rfl, here, path⟩
    exact (not_mem_done path (later_of_mem unique member here sendingAt nofun)).elim
  | register =>
    rcases path with ⟨moment, later, rfl, here, path⟩
    have member := later_of_mem unique member here sendingAt nofun
    dsimp only at path
    split at path
    · exact (not_mem_done path member).elim
    · rcases path with ⟨_, _, rfl, here, path⟩
      exact (not_mem_done path (later_of_mem unique member here sendingAt nofun)).elim
  | setStatus profileId status => exact absurd path (writes profileId status)
  | disable profileId => exact absurd path (writes profileId .disabled)
  | quarantine profileId => exact absurd path (writes profileId .quarantined)
  | dispatchAttempt request contract => exact ⟨request, contract, rfl⟩

theorem send_found (sendingAt : DispatchCallsAt start moves index front (.send adapter wire)) :
    ∃ request contract, (operations moves)[index]? = some (.dispatchAttempt request contract) ∧
      wire = buildWireRequest adapter.dialect adapter.profile request ∧
      ∃ admitted moved, SendingCall (DispatchCallsAt start moves index) (dispatchBehind start)
        request contract adapter admitted moved front ∧ moved.length < front.length := by
  rcases performed_path (fun operation => (operation_endsWithSend operation).imp fun _ => And.right)
    sendingAt ⟨adapter, wire, rfl⟩ with ⟨_, _, _, listed, path, ordered, member⟩
  rcases sending_operation calls_unique path member sendingAt with ⟨request, contract, rfl⟩
  rcases path_map path with ⟨_, _, path⟩
  rcases dispatchAttempt_path calls_unique path member sendingAt with
    ⟨words, ⟨_, _, admitted, moved, rfl, call⟩, _⟩
  refine ⟨request, contract, listed, words, admitted, moved, call, ?_⟩
  have behind : Moved index moved front := by
    simp only [List.pairwise_cons, List.mem_cons, List.not_mem_nil, or_false] at ordered
    exact ordered.2.2.2.1 front rfl
  exact behind.length_lt

theorem send_asBound (sendingAt : DispatchCallsAt start moves index front (.send adapter wire)) :
    ∃ request contract, (operations moves)[index]? = some (.dispatchAttempt request contract) ∧
      SentAsBound start moves index front adapter wire request contract := by
  rcases send_found sendingAt with
    ⟨request, contract, listed, words, admitted, _, call, order⟩
  refine ⟨request, contract, listed, ?_⟩
  exact { wire := words
          stored := sent_behind call.movedAt call.planned sendingAt.inside order
          agrees := call.agrees, supports := call.supports, jobId := call.jobId
          applicationContract := call.applicationContract
          active := ⟨admitted, call.admittedAt, call.active⟩ }

theorem send_once (listed : (operations moves)[index]? = some (.dispatchAttempt request contract))
    (again : (operations moves)[other]? = some (.dispatchAttempt asked bound))
    (same : contract.attemptId = bound.attemptId)
    (first : DispatchCallsAt start moves index front (.send adapter wire))
    (second : DispatchCallsAt start moves other late (.send sender sent)) :
    index = other ∧ front = late := by
  rcases send_found first with ⟨_, _, present, _, _, moved, call, _⟩
  rw [listed] at present
  cases present
  rcases send_found second with ⟨_, _, present, _, _, swapped, found, _⟩
  rw [again] at present
  cases present
  have free : (dispatchBehind start swapped).records.lookup contract.attemptId =
      some ⟨bound, .planned⟩ := same ▸ found.planned
  rcases Performs.once
    (P := fun state => ∃ own, state.records.lookup contract.attemptId = some ⟨own, .dispatched⟩)
    (fun before inside ⟨own, found⟩ => ⟨own, (attempts_along before inside).stays found (by simp)⟩)
    call.movedAt found.movedAt ⟨_, attempt_swapped .dispatched call.planned⟩
    ⟨_, same ▸ attempt_swapped .dispatched found.planned⟩
    (fun ⟨_, held⟩ => nomatch held.symm.trans call.planned)
    (fun ⟨_, held⟩ => nomatch held.symm.trans free) with ⟨rfl, -⟩
  have starts : ∀ program ∈ started (dispatchTurns moves), program.Everywhere SendFinishes :=
    fun program member => (started_endsWithSend program member).imp fun _ => And.right
  have after := Performs.last starts first ⟨adapter, wire, rfl⟩ second
  have before := Performs.last starts second ⟨sender, sent, rfl⟩ first
  exact ⟨rfl, Performs.eq_of_length first second (le_antisymm before after)⟩

theorem refused_keepsAttempts
    (ended : (dispatchReached start moves).threads[index]? = some (.done result))
    (refused : result.Refused)
    (unsent : ∀ front adapter wire, ¬ DispatchCallsAt start moves index front (.send adapter wire))
    (performs : DispatchCallsAt start moves index front call) :
    KeepsAttempts call (dispatchBehind start front) := by
  have starts : ∀ program ∈ started (dispatchTurns moves), program.Everywhere DispatchClosing :=
    fun program member => (started_endsWithSend program member).imp fun _ => And.left
  have last : (run perform ⟨start, []⟩ (dispatchTurns moves)).threads[index]? =
      some (.done result) := ended
  rcases quiet_or_marked starts performs with
    quiet |
    ⟨_, back, _, split, stands, ⟨adapter, wire, _, rfl⟩ | ⟨_, rfl, changed⟩⟩
  · exact quiet
  · rw [split] at last
    rcases performs_of_done stands last with ⟨moment, sends⟩
    rw [← split] at sends
    exact absurd sends (unsent moment adapter wire)
  · rw [split, run_append, run_done stands back] at last
    cases last
    exact absurd refused changed

theorem send_concluded (sendingAt : DispatchCallsAt start moves index front (.send adapter wire))
    (ended : (dispatchReached start moves).threads[index]? = some (.done result)) :
    result = .dispatched ((concludeSend adapter.dialect adapter.profile
      (perform (.send adapter wire) (dispatchBehind start front)).1).map
        fun outcome => { outcome, providerCalls := 1, attemptState := .dispatched }) := by
  rcases send_found sendingAt with ⟨_, _, listed, _⟩
  rcases operation_path listed ended with ⟨_, _, _, _, path, _, _, all⟩
  rcases path_map path with ⟨_, same, path⟩
  rcases dispatchAttempt_path calls_unique path (all front _ sendingAt) sendingAt with
    ⟨_, _, concluded⟩
  rw [← same, concluded]

/-- Dispatching is safe in every run. -/
theorem moves_safe (start : DispatchState) (moves : List DispatchMove) :
    DispatchSafe start moves where
  once _ _ _ _ _ _ _ _ _ _ _ _ listed again same first second :=
    send_once listed again same first second
  asBound _ _ _ _ sendingAt := send_asBound sendingAt
  kept _ _ before inside := attempts_along before inside
  unchanged _ _ ended refused unsent _ _ performs :=
    refused_keepsAttempts ended refused unsent performs
  concluded _ _ _ _ _ sendingAt ended := send_concluded sendingAt ended

end Runs

/-- Dispatching is safe in every run, and what a transport answers is mapped as it should be,
exactly where an error of the SDK that is a connection error certifies that nothing was sent, and
one that is a rate limit or a timeout has its attribute. -/
theorem dispatch_bound_iff (start : DispatchState) (moves : List DispatchMove) (adapter : Adapter)
    (sent : Sent) :
    DispatchSafe start moves ∧ Mapped adapter.dialect adapter.profile sent ↔ sent.Certified := by
  constructor
  · rintro ⟨_, mapped⟩
    exact (mapped_iff sent).mp mapped
  · intro certified
    exact ⟨moves_safe start moves, (mapped_iff sent).mpr certified⟩

namespace Sample

def profile : CapabilityProfile :=
  { profileId := "profile-a", providerName := "provider-a", model := "model-a", apiVersion := "1"
    profileVersion := "1", adapterVersion := "1", supportedContracts := {"research_claims.v1"}
    requiresRequestIdentity := true }

def adapter : Adapter :=
  { object := 0, dialect := providerA, spoken := .inl rfl, profile }

def contract : AttemptExecutionContract :=
  { attemptId := "attempt-1", jobId := "job-1", profileId := "profile-a"
    providerName := "provider-a", model := "model-a", apiVersion := "1", profileVersion := "1"
    adapterVersion := "1", applicationContract := "research_claims.v1" }

def request : ApplicationRequest :=
  { jobId := "job-1", applicationContract := "research_claims.v1", maxOutputTokens := 100
    correlationId := "trace-1" }

/-- A connection that broke behind the send: a subclass of the connection error, with the certainty
that the base class of the SDK has. -/
def broken : SDKError :=
  { classes := {.connectionError}, executionCertainty := some .executionUnknown
    retryAfter := none, requestId := none }

def resume (index : Nat) : DispatchMove := .resume index nofun

def dispatching : List DispatchMove :=
  [.start (.plan contract), resume 0, .start (.register adapter), resume 1, resume 1,
    .start (.dispatchAttempt request contract), resume 2, resume 2, resume 2, resume 2, resume 2]

theorem broken_taken_for_unsent :
    ¬ (DispatchSafe { transport := fun _ _ _ => .sdkError broken } dispatching ∧
      Mapped adapter.dialect adapter.profile (.sdkError broken)) := by
  rintro ⟨_, _, concluded, certifies⟩
  cases concluded
  exact absurd (certifies rfl) (by decide)

end Sample

end BackendHandbook.Dispatch
