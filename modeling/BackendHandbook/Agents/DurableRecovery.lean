import BackendHandbook.Agents.DurableJobs
import BackendHandbook.Foundation.Run

/-! What one call on the durable job store can do, in terms of the request alone. -/

namespace BackendHandbook.Agents

open Fallible Run InMemoryDurableAgentJobStore DurableRecoveryCandidate

section Decision

variable (record : DurableAgentJobRecord) (recovery : RecoveryOperation) (request : RecoveryRequest)

/-- The answer copies the identity, the expected versions and the usage of its request. -/
def Answers (answer : DurableRecoveryCandidate) : Prop :=
  ∃ decision status reason nextState reservationAction outboxAction evidence,
    answer = candidate request decision status reason nextState reservationAction outboxAction
      evidence

theorem Answers.fields {request : RecoveryRequest} {answer : DurableRecoveryCandidate}
    (answers : Answers request answer) :
    answer.recoveryId = request.recoveryId ∧ answer.attemptId = request.attemptId ∧
      answer.verifiedUsageUnits = request.verifiedUsageUnits := by
  rcases answers with ⟨_, _, _, _, _, _, _, rfl⟩
  exact ⟨rfl, rfl, rfl⟩

theorem decide_answers : Answers request (decideDurableRecovery record recovery request) := by
  repeat' refine iteInduction (fun _ => ?_) (fun _ => ?_)
  all_goals exact ⟨_, _, _, _, _, _, _, rfl⟩

/-- The request is about this record, in time, and its outcome is known. -/
structure Considered : Prop where
  identified : request.identifies record
  upToDate : request.upToDate record
  available : recovery.attemptsUsed < recovery.attemptLimit
  inTime : request.nowEpochMs < recovery.deadlineEpochMs
  known : request.externalCertainty ≠ .outcomeUnknown
  noRepair : request.internalRepairRequired = false
  wanted : request.verifiedEffectUnwanted = false

/-- The requests that give the reservation back: the job is open, and its binding is no
longer allowed or its attempt was certainly not dispatched. -/
structure Releasing : Prop extends Considered record recovery request where
  noUsage : request.verifiedUsageUnits = none
  open_ : record.state ∉ terminalStates
  cause : request.originalBindingCurrentlyAllowed = false ∨
    request.externalCertainty = .definitelyNotDispatched

structure Settling : Prop extends Considered record recovery request where
  usage : request.verifiedUsageUnits.isSome = true

variable (answer : DurableRecoveryCandidate)

/-- What the action on the reservations says about the request that asked for it. -/
structure Justified : Prop where
  releasing : answer.reservationAction = .release → Releasing record recovery request
  settling : answer.reservationAction = .settleVerified → Settling record recovery request

theorem Justified.unchanged
    (quiet : answer.reservationAction = .noChange ∨ answer.reservationAction = .keepHeld) :
    Justified record recovery request answer := by
  constructor
  · intro action
    rw [action] at quiet
    rcases quiet with other | other <;> cases other
  · intro action
    rw [action] at quiet
    rcases quiet with other | other <;> cases other

theorem decide_justified :
    Justified record recovery request (decideDurableRecovery record recovery request) := by
  apply iteInduction
  · exact fun _ => .unchanged _ _ _ _ (.inl rfl)
  intro identified
  apply iteInduction
  · exact fun _ => .unchanged _ _ _ _ (.inl rfl)
  intro upToDate
  apply iteInduction
  · exact fun _ => .unchanged _ _ _ _ (.inr rfl)
  intro inWindow
  apply iteInduction
  · exact fun _ => .unchanged _ _ _ _ (.inr rfl)
  intro known
  apply iteInduction
  · exact fun _ => .unchanged _ _ _ _ (.inl rfl)
  intro noRepair
  apply iteInduction
  · intro _
    split <;> exact .unchanged _ _ _ _ (.inl rfl)
  intro wanted
  have considered : Considered record recovery request := by
    have window := not_or.mp inWindow
    simp only [RecoveryOperation.automaticRecoveryAvailable, Bool.not_eq_false,
      decide_eq_true_eq, Int.not_le] at window
    exact ⟨not_not.mp identified, not_not.mp upToDate, window.1, window.2, known,
      eq_false_of_ne_true noRepair, eq_false_of_ne_true wanted⟩
  apply iteInduction
  · intro usage
    refine ⟨?_, fun _ => ⟨considered, usage⟩⟩
    intro action
    cases action
  intro noUsage
  apply iteInduction
  · exact fun _ => .unchanged _ _ _ _ (.inl rfl)
  intro open_
  -- the four answers that release differ in the cause and in the authorization only
  have releasing : ∀ (answer : DurableRecoveryCandidate) (_ : answer.reservationAction = .release),
      request.originalBindingCurrentlyAllowed = false ∨
        request.externalCertainty = .definitelyNotDispatched →
      Justified record recovery request answer := by
    intro answer action cause
    refine ⟨fun _ => ⟨considered, Option.not_isSome_iff_eq_none.mp noUsage, open_, cause⟩, ?_⟩
    intro other
    rw [action] at other
    cases other
  apply iteInduction
  · intro disallowed
    split <;> exact releasing _ rfl (.inl (eq_false_of_ne_true disallowed))
  intro _
  apply iteInduction
  · intro certain
    split <;> exact releasing _ rfl (.inr certain)
  · exact fun _ => .unchanged _ _ _ _ (.inl rfl)

variable {record recovery request}

theorem Considered.decide_eq (considered : Considered record recovery request) :
    ¬ ¬ request.identifies record ∧ ¬ ¬ request.upToDate record ∧
      ¬ (recovery.automaticRecoveryAvailable = false ∨
        recovery.deadlineEpochMs ≤ request.nowEpochMs) := by
  refine ⟨not_not.mpr considered.identified, not_not.mpr considered.upToDate, ?_⟩
  rintro (spent | late)
  · simp [RecoveryOperation.automaticRecoveryAvailable, considered.available] at spent
  · exact absurd considered.inTime (Int.not_lt.mpr late)

theorem decide_eq_release_iff :
    (decideDurableRecovery record recovery request).reservationAction = .release ↔
      Releasing record recovery request := by
  refine ⟨(decide_justified record recovery request).releasing, ?_⟩
  intro releasing
  rcases releasing.toConsidered.decide_eq with ⟨identified, upToDate, inWindow⟩
  unfold decideDurableRecovery
  simp only [if_neg identified, if_neg upToDate, if_neg inWindow, if_neg releasing.known,
    releasing.noRepair, releasing.wanted, releasing.noUsage, if_neg releasing.open_]
  rcases releasing.cause with disallowed | certain
  · simp only [disallowed]
    cases request.currentAuthorization <;> rfl
  · simp only [certain]
    cases request.currentAuthorization <;> cases request.originalBindingCurrentlyAllowed <;> rfl

theorem Settling.decide_eq (settling : Settling record recovery request) :
    (decideDurableRecovery record recovery request).reservationAction = .settleVerified ∧
      (decideDurableRecovery record recovery request).decision = .settle := by
  rcases settling.toConsidered.decide_eq with ⟨identified, upToDate, inWindow⟩
  unfold decideDurableRecovery
  simp only [if_neg identified, if_neg upToDate, if_neg inWindow, if_neg settling.known,
    settling.noRepair, settling.wanted, if_pos settling.usage]
  exact ⟨rfl, rfl⟩

theorem decide_eq_settle_iff :
    (decideDurableRecovery record recovery request).reservationAction = .settleVerified ↔
      Settling record recovery request :=
  ⟨(decide_justified record recovery request).settling, fun settling => settling.decide_eq.1⟩

/-- An answer that acts on the reservations is none of those the store turns down. -/
def Applicable (answer : DurableRecoveryCandidate) : Prop :=
  answer.reservationAction = .release ∨ answer.reservationAction = .settleVerified →
    answer.decision ∈ [DurableRecoveryDecision.blocked, .replan, .retry, .settle]

theorem decide_applicable : Applicable (decideDurableRecovery record recovery request) := by
  repeat' refine iteInduction (fun _ => ?_) (fun _ => ?_)
  all_goals simp [Applicable, candidate]

def Stays (state : AgentState) (answer : DurableRecoveryCandidate) : Prop :=
  answer.nextState = state

theorem decide_terminal (recovery : RecoveryOperation) (request : RecoveryRequest)
    (ended : record.state ∈ terminalStates) :
    Stays record.state (decideDurableRecovery record recovery request) := by
  repeat' refine iteInduction (fun _ => ?_) (fun _ => ?_)
  all_goals first
    | rfl
    | exact if_pos ended
    | contradiction

/-- Where an answer that keeps the units leads, and what a settlement does with them. -/
def Routed (state : AgentState) (answer : DurableRecoveryCandidate) : Prop :=
  (answer.decision = .escalate ∨ answer.decision = .reconcile →
    answer.nextState = unresolvedState state ∧ answer.reservationAction = .keepHeld) ∧
  (answer.decision = .settle → answer.reservationAction = .settleVerified)

theorem decide_routed : Routed record.state (decideDurableRecovery record recovery request) := by
  repeat' refine iteInduction (fun _ => ?_) (fun _ => ?_)
  all_goals simp [Routed, candidate]

/-- A query is asked for only while attempts are left and the outcome is unknown. -/
def Queried (recovery : RecoveryOperation) (request : RecoveryRequest)
    (answer : DurableRecoveryCandidate) : Prop :=
  answer.decision = .reconcile →
    recovery.attemptsUsed < recovery.attemptLimit ∧ request.externalCertainty = .outcomeUnknown

theorem decide_queried :
    Queried recovery request (decideDurableRecovery record recovery request) := by
  apply iteInduction
  · exact fun _ other => by cases other
  intro _
  apply iteInduction
  · exact fun _ other => by cases other
  intro _
  apply iteInduction
  · exact fun _ other => by cases other
  intro inWindow
  apply iteInduction
  · intro unknown _
    have window := (not_or.mp inWindow).1
    simp only [RecoveryOperation.automaticRecoveryAvailable, Bool.not_eq_false,
      decide_eq_true_eq] at window
    exact ⟨window, unknown⟩
  intro _
  repeat' refine iteInduction (fun _ => ?_) (fun _ => ?_)
  all_goals exact fun other => by cases other

end Decision

section Apply

variable (sha256 : String → String)

/-- The request is unspent and about the state of the record, exactly. -/
structure Current (store : DurableAgentJobStore) (request : RecoveryRequest) : Prop where
  unspent : request.recoveryId ∉ store.appliedRecoveryIds
  identified : request.identifies store.record
  upToDate : request.upToDate store.record

def DurableAgentJobRecord.Advances (record : DurableAgentJobRecord) : Prop :=
  0 ≤ record.stateVersion + 1 ∧ 0 ≤ record.fenceToken + 1

theorem nextCheckpointId_named (checkpoint : DurableCheckpoint) (recoveryId : String) :
    nextCheckpointId sha256 checkpoint recoveryId ≠ "" := by
  intro empty
  have letters := congrArg String.toList empty
  simp [nextCheckpointId] at letters

variable {checkpointVersion stateVersion fenceToken : Int}

variable {checkpointId : String}

theorem replace_ok {checkpoint next : DurableCheckpoint}
    {state : AgentState} {previous : Option String}
    (done : checkpoint.replace checkpointId checkpointVersion state stateVersion fenceToken
      previous = .ok next) : 0 ≤ stateVersion ∧ 0 ≤ fenceToken ∧ next.checkpointId = checkpointId ∧
      next.checkpointVersion = checkpointVersion ∧ next.authoritativeState = state ∧
      next.stateVersion = stateVersion ∧ next.fenceToken = fenceToken ∧
      next.previousCheckpointId = previous ∧ next.bindings = checkpoint.bindings := by
  unfold DurableCheckpoint.replace at done
  split_ifs at done with named counted
  cases Except.ok.inj done
  exact ⟨counted.2.1, counted.2.2, rfl, rfl, rfl, rfl, rfl, rfl, rfl⟩

theorem replace_succeeds (checkpoint : DurableCheckpoint)
    (state : AgentState) (previous : Option String) (named : checkpointId ≠ "")
    (counted : 0 ≤ checkpointVersion ∧ 0 ≤ stateVersion ∧ 0 ≤ fenceToken) :
    ∃ next, checkpoint.replace checkpointId checkpointVersion state stateVersion fenceToken
      previous = .ok next := by
  unfold DurableCheckpoint.replace
  rw [dif_neg named, dif_pos counted]
  exact ⟨_, rfl⟩

variable {candidate : DurableRecoveryCandidate}

namespace DurableRecoveryCandidate

theorem write_ok {current record : DurableAgentJobRecord}
    (written : candidate.write sha256 current = .ok record) :
    List.Forall₂ (fun before after => candidate.adjust before = .ok after)
        current.reservations record.reservations ∧ current.currentCheckpoint.replace
        (nextCheckpointId sha256 current.currentCheckpoint candidate.recoveryId)
        (current.currentCheckpoint.checkpointVersion + 1) candidate.nextState
        (current.stateVersion + 1) (current.fenceToken + 1)
        (some current.currentCheckpoint.checkpointId) = .ok record.currentCheckpoint ∧
      record = { current with
        state := candidate.nextState, stateVersion := current.stateVersion + 1
        fenceToken := current.fenceToken + 1, currentCheckpoint := record.currentCheckpoint
        reservations := record.reservations
        recoveryOperations := current.recoveryOperations ++ [candidate.operation sha256 current]
        outboxIntents := current.outboxIntents ++ candidate.intents current
        auditEvents := current.auditEvents ++ ["recovery_applied:" ++ candidate.recoveryId] } := by
  rcases bind_eq_ok.mp written with ⟨_, adjusted, rest⟩
  rcases bind_eq_ok.mp rest with ⟨_, replaced, same⟩
  cases Except.ok.inj same
  exact ⟨mapM_eq_ok.mp adjusted, replaced, rfl⟩

theorem write_succeeds (candidate : DurableRecoveryCandidate) (current : DurableAgentJobRecord)
    (adjusts : ∀ reservation ∈ current.reservations,
      ∃ after, candidate.adjust reservation = .ok after)
    (advances : current.Advances) : ∃ record, candidate.write sha256 current = .ok record := by
  rcases mapM_total adjusts with ⟨reservations, adjusted⟩
  have counted : 0 ≤ current.currentCheckpoint.checkpointVersion + 1 := by
    have bounds := current.currentCheckpoint.versions
    omega
  rcases replace_succeeds current.currentCheckpoint candidate.nextState
    (some current.currentCheckpoint.checkpointId)
    (nextCheckpointId_named sha256 current.currentCheckpoint candidate.recoveryId)
    ⟨counted, advances⟩ with ⟨checkpoint, replaced⟩
  exact ⟨_, bind_eq_ok.mpr ⟨reservations, adjusted, bind_eq_ok.mpr ⟨checkpoint, replaced, rfl⟩⟩⟩

end DurableRecoveryCandidate

theorem apply_cases (candidate : DurableRecoveryCandidate) (store : DurableAgentJobStore) :
    ((apply sha256 candidate store).1 ≠ .ok .applied ∧ (apply sha256 candidate store).2 = store) ∨
    ∃ record, candidate.refusal store = none ∧ candidate.write sha256 store.record = .ok record ∧
      apply sha256 candidate store =
        (.ok .applied, ⟨record, store.appliedRecoveryIds ++ [candidate.recoveryId]⟩) := by
  unfold apply
  cases refused : candidate.refusal store with
  | some =>
    refine .inl ⟨?_, rfl⟩
    rintro ⟨⟩
    unfold refusal at refused
    split_ifs at refused <;> cases refused
  | none =>
    cases written : candidate.write sha256 store.record with
    | error =>
      refine .inl ⟨?_, rfl⟩
      rintro ⟨⟩
    | ok record => exact .inr ⟨record, rfl, rfl, rfl⟩

theorem refusal_eq_none {store : DurableAgentJobStore} : candidate.refusal store = none ↔
      candidate.recoveryId ∉ store.appliedRecoveryIds ∧ candidate.agrees store.record ∧
      (store.record.state ∈ terminalStates → candidate.decision ∈ terminalAllowed) ∧
      candidate.decision ≠ .rejectStale ∧ candidate.decision ≠ .terminalNoop ∧
      (candidate.decision = .blocked → candidate.reservationAction = .noChange →
        candidate.outboxAction ≠ .none) := by
  unfold refusal
  split_ifs <;> grind

theorem decide_agrees {snapshot current : DurableAgentJobRecord} {recovery : RecoveryOperation}
    {request : RecoveryRequest} : (decideDurableRecovery snapshot recovery request).agrees current ↔
      request.identifies current ∧ request.upToDate current := by
  rcases decide_answers snapshot recovery request with
    ⟨_, _, _, _, _, _, _, same⟩
  rw [same]
  simp [DurableRecoveryCandidate.agrees, RecoveryRequest.identifies,
    RecoveryRequest.upToDate, candidate, and_assoc]

end Apply

section Calls

inductive JobCall
  | apply (snapshot : DurableAgentJobRecord) (recovery : RecoveryOperation)
      (request : RecoveryRequest)
  | takeOverExpiredLease (workerId : String) (nowEpochMs : Int)
  | acceptResult (workerId : String) (resultFenceToken : Int) (evidenceId : String)

abbrev JobCall.Response : JobCall → Type
  | .apply .. => Except String RecoveryApplyStatus
  | .takeOverExpiredLease .. => Bool
  | .acceptResult .. => Bool

variable (sha256 : String → String)

/-- `apply` gets the candidate decided from the snapshot, which may be out of date. -/
def performJob : (call : JobCall) → DurableAgentJobStore → call.Response × DurableAgentJobStore
  | .apply snapshot recovery request =>
    apply sha256 (decideDurableRecovery snapshot recovery request)
  | .takeOverExpiredLease workerId nowEpochMs => takeOverExpiredLease workerId nowEpochMs
  | .acceptResult workerId resultFenceToken evidenceId =>
    acceptResult workerId resultFenceToken evidenceId

theorem takeOver_cases (workerId : String) (nowEpochMs : Int) (store : DurableAgentJobStore) :
    takeOverExpiredLease workerId nowEpochMs store = (false, store) ∨
    (store.record.state ∉ terminalStates ∧ takeOverExpiredLease workerId nowEpochMs store =
        (true, { store with record := { store.record with
          leaseOwner := some workerId, leaseExpiryEpochMs := none
          leaseGeneration := store.record.leaseGeneration + 1
          fenceToken := store.record.fenceToken + 1
          auditEvents := store.record.auditEvents ++ ["lease_taken_over:" ++ workerId] } })) := by
  cases expires : store.record.leaseExpiryEpochMs with
  | none => exact .inl (by simp [takeOverExpiredLease, expires])
  | some expiry =>
    by_cases kept : nowEpochMs < expiry ∨ store.record.state ∈ terminalStates
    · exact .inl (by simp [takeOverExpiredLease, expires, if_pos kept])
    · exact .inr ⟨fun ended => kept (.inr ended),
        by simp [takeOverExpiredLease, expires, if_neg kept]⟩

def releaseAttempt (attemptId : String) (reservation : ReservationRecord) : ReservationRecord :=
  if reservation.attemptId = attemptId then reservation.release else reservation

def Settles (attemptId : String) (usage : Option Int) (before after : ReservationRecord) : Prop :=
  if before.attemptId = attemptId then before.settle usage = .ok after else after = before

variable {candidate : DurableRecoveryCandidate}

theorem adjust_release
    (action : candidate.reservationAction = .release) (reservation : ReservationRecord) :
    candidate.adjust reservation = .ok (releaseAttempt candidate.attemptId reservation) := by
  unfold adjust releaseAttempt
  by_cases own : reservation.attemptId = candidate.attemptId
  · rw [if_neg (not_not.mpr own), if_pos own, action]
  · rw [if_pos own, if_neg own]

theorem adjust_settle
    (action : candidate.reservationAction = .settleVerified) (before after : ReservationRecord) :
    candidate.adjust before = .ok after ↔
      Settles candidate.attemptId candidate.verifiedUsageUnits before after := by
  unfold adjust Settles
  by_cases own : before.attemptId = candidate.attemptId
  · rw [if_neg (not_not.mpr own), if_pos own, action]
  · rw [if_pos own, if_neg own]
    exact ⟨fun same => (Except.ok.inj same).symm, fun same => congrArg _ same.symm⟩

theorem adjust_unchanged (release : candidate.reservationAction ≠ .release)
    (settle : candidate.reservationAction ≠ .settleVerified) (reservation : ReservationRecord) :
    candidate.adjust reservation = .ok reservation := by
  unfold adjust
  cases action : candidate.reservationAction with
  | release => exact absurd action release
  | settleVerified => exact absurd action settle
  | noChange | keepHeld => exact ite_self _

/-- What a call does to the reservations: nothing, a release or a settlement. -/
theorem reservations_performJob (call : JobCall) (store : DurableAgentJobStore) :
    let next := (performJob sha256 call store).2.record.reservations
    next = store.record.reservations ∨
    ∃ snapshot recovery request, call = .apply snapshot recovery request ∧
      Current store request ∧ store.record.Advances ∧
      (Releasing snapshot recovery request ∧
          next = store.record.reservations.map (releaseAttempt request.attemptId) ∨
        Settling snapshot recovery request ∧
          List.Forall₂ (Settles request.attemptId request.verifiedUsageUnits)
            store.record.reservations next) := by
  cases call with
  | acceptResult => exact .inl rfl
  | takeOverExpiredLease workerId nowEpochMs =>
    rcases takeOver_cases workerId nowEpochMs store with same | ⟨_, same⟩
    · exact .inl (congrArg (·.2.record.reservations) same)
    · exact .inl (congrArg (·.2.record.reservations) same)
  | apply snapshot recovery request =>
    rcases apply_cases sha256 (decideDurableRecovery snapshot recovery request) store with
      ⟨_, same⟩ | ⟨record, admitted, written, same⟩
    · exact .inl (congrArg (·.record.reservations) same)
    have after : (performJob sha256 (.apply snapshot recovery request) store).2.record =
        record := congrArg (·.2.record) same
    rcases DurableRecoveryCandidate.write_ok sha256 written with ⟨adjusted, replaced, _⟩
    have advances : store.record.Advances := ⟨(replace_ok replaced).1, (replace_ok replaced).2.1⟩
    rcases refusal_eq_none.mp admitted with ⟨unspent, agrees, _⟩
    rcases (decide_answers snapshot recovery request).fields with ⟨named, owner, usage⟩
    have current : Current store request :=
      ⟨named ▸ unspent, (decide_agrees.mp agrees).1, (decide_agrees.mp agrees).2⟩
    simp only [after]
    by_cases release : (decideDurableRecovery snapshot recovery request).reservationAction =
        .release
    · refine .inr ⟨snapshot, recovery, request, rfl, current, advances,
        .inl ⟨decide_eq_release_iff.mp release, ?_⟩⟩
      rw [← owner]
      exact (forall₂_ok_iff (adjust_release release)).mp adjusted
    by_cases settle : (decideDurableRecovery snapshot recovery request).reservationAction =
        .settleVerified
    · refine .inr ⟨snapshot, recovery, request, rfl, current, advances,
        .inr ⟨decide_eq_settle_iff.mp settle, ?_⟩⟩
      rw [← owner, ← usage]
      exact adjusted.imp fun before after => (adjust_settle settle before after).mp
    · left
      rw [(forall₂_ok_iff (adjust_unchanged release settle)).mp adjusted, List.map_id']

theorem performJob_acts {snapshot : DurableAgentJobRecord} {recovery : RecoveryOperation}
    {request : RecoveryRequest} {store : DurableAgentJobStore} (current : Current store request)
    (advances : store.record.Advances)
    (acts : (decideDurableRecovery snapshot recovery request).reservationAction = .release ∨
      (decideDurableRecovery snapshot recovery request).reservationAction = .settleVerified)
    (open_ : store.record.state ∈ terminalStates →
      (decideDurableRecovery snapshot recovery request).decision = .settle)
    (adjusts : ∀ reservation ∈ store.record.reservations, ∃ after,
      (decideDurableRecovery snapshot recovery request).adjust reservation = .ok after) :
    List.Forall₂ (fun before after =>
        (decideDurableRecovery snapshot recovery request).adjust before = .ok after)
      store.record.reservations
      (performJob sha256 (.apply snapshot recovery request) store).2.record.reservations := by
  have applicable := @decide_applicable snapshot recovery request acts
  have admitted : (decideDurableRecovery snapshot recovery request).refusal store = none := by
    rw [refusal_eq_none, (decide_answers snapshot recovery request).fields.1, decide_agrees]
    refine ⟨current.unspent, ⟨current.identified, current.upToDate⟩, ?_, ?_, ?_, ?_⟩
    · intro ended
      rw [open_ ended]
      decide
    · intro rejected
      rw [rejected] at applicable
      revert applicable
      decide
    · intro ended
      rw [ended] at applicable
      revert applicable
      decide
    · intro _ quiet
      rw [quiet] at acts
      rcases acts with other | other <;> cases other
  rcases DurableRecoveryCandidate.write_succeeds sha256
    (decideDurableRecovery snapshot recovery request) store.record adjusts advances with
    ⟨record, written⟩
  have same : (performJob sha256 (.apply snapshot recovery request) store).2.record = record := by
    simp [performJob, InMemoryDurableAgentJobStore.apply, admitted, written]
  rw [same]
  exact (DurableRecoveryCandidate.write_ok sha256 written).1

theorem state_eq_of_upToDate {snapshot current : DurableAgentJobRecord}
    {request : RecoveryRequest} (early : request.upToDate snapshot)
    (now : request.upToDate current) : snapshot.state = current.state :=
  early.1.symm.trans now.1

variable {snapshot : DurableAgentJobRecord} {recovery : RecoveryOperation}
  {request : RecoveryRequest} {store : DurableAgentJobStore}

theorem performJob_releases (current : Current store request)
    (advances : store.record.Advances) (releasing : Releasing snapshot recovery request) :
    (performJob sha256 (.apply snapshot recovery request) store).2.record.reservations =
      store.record.reservations.map (releaseAttempt request.attemptId) := by
  have action := decide_eq_release_iff.mpr releasing
  have written := performJob_acts sha256 current advances (.inl action)
    (fun ended => absurd (state_eq_of_upToDate releasing.upToDate current.upToDate ▸ ended)
      releasing.open_)
    (fun reservation _ => ⟨_, adjust_release action reservation⟩)
  rw [(forall₂_ok_iff (adjust_release action)).mp written,
    (decide_answers snapshot recovery request).fields.2.1]

theorem performJob_settles (current : Current store request)
    (advances : store.record.Advances) (settling : Settling snapshot recovery request)
    (fits : ∀ reservation ∈ store.record.reservations, ∃ after,
      Settles request.attemptId request.verifiedUsageUnits reservation after) :
    List.Forall₂ (Settles request.attemptId request.verifiedUsageUnits) store.record.reservations
      (performJob sha256 (.apply snapshot recovery request) store).2.record.reservations := by
  rcases settling.decide_eq with ⟨action, decision⟩
  rcases (decide_answers snapshot recovery request).fields with ⟨_, owner, usage⟩
  rw [← owner, ← usage] at fits ⊢
  have written := performJob_acts sha256 current advances (.inr action) (fun _ => decision)
    (fun reservation member => by
      rcases fits reservation member with ⟨after, settles⟩
      exact ⟨after, (adjust_settle action reservation after).mpr settles⟩)
  exact written.imp fun before after => (adjust_settle action before after).mp

end Calls
/-! Recovery of a durable job is linear: one applied candidate per version and fence, each
adding one link to the checkpoint chain, and no terminal job is opened again. -/

theorem decide_stale {record : DurableAgentJobRecord} (recovery : RecoveryOperation)
    {request : RecoveryRequest} (stale : ¬ (request.identifies record ∧ request.upToDate record)) :
    (decideDurableRecovery record recovery request).decision = .rejectStale := by
  unfold decideDurableRecovery
  by_cases identified : request.identifies record
  · rw [if_neg (not_not.mpr identified), if_pos fun current => stale ⟨identified, current⟩]
    rfl
  · rw [if_pos identified]
    rfl

/-- The record that an applied candidate leaves, against the one it found. -/
structure Extends (candidate : DurableRecoveryCandidate) (before after : DurableAgentJobRecord) :
    Prop where
  version : after.stateVersion = before.stateVersion + 1
  fence : after.fenceToken = before.fenceToken + 1
  previous : after.currentCheckpoint.previousCheckpointId =
    some before.currentCheckpoint.checkpointId
  carried : after.currentCheckpoint.authoritativeState = after.state ∧
    after.currentCheckpoint.stateVersion = after.stateVersion ∧
    after.currentCheckpoint.fenceToken = after.fenceToken
  outbox : ∃ added : List OutboxIntent, after.outboxIntents = before.outboxIntents ++ added ∧
    added.map (·.eventId) = if candidate.outboxAction = .createRecoveryIntent then
      ["recovery:" ++ candidate.recoveryId] else []

/-- What a call leaves alone when it does not answer `APPLIED`. -/
structure Untouched (before after : DurableAgentJobRecord) : Prop where
  state : after.state = before.state
  version : after.stateVersion = before.stateVersion
  reservations : after.reservations = before.reservations
  checkpoint : after.currentCheckpoint = before.currentCheckpoint
  outbox : after.outboxIntents = before.outboxIntents

def appliedId : (call : JobCall) → call.Response → Option String
  | .apply _ _ request, .ok .applied => some request.recoveryId
  | _, _ => none

variable (sha256 : String → String)

/-- The step lemma of the store: the write of an applied candidate, or no write at all. -/
theorem performJob_cases (call : JobCall) (store : DurableAgentJobStore) :
    let answer := performJob sha256 call store
    (appliedId call answer.1 = none ∧ Untouched store.record answer.2.record ∧
        store.record.fenceToken ≤ answer.2.record.fenceToken ∧
        answer.2.appliedRecoveryIds = store.appliedRecoveryIds) ∨
      ∃ snapshot recovery request, call = .apply snapshot recovery request ∧
        appliedId call answer.1 = some request.recoveryId ∧ Current store request ∧
        request.upToDate snapshot ∧
        answer.2.record.state = (decideDurableRecovery snapshot recovery request).nextState ∧
        Extends (decideDurableRecovery snapshot recovery request) store.record answer.2.record ∧
        answer.2.appliedRecoveryIds = store.appliedRecoveryIds ++ [request.recoveryId] := by
  cases call with
  | acceptResult => exact .inl ⟨rfl, ⟨rfl, rfl, rfl, rfl, rfl⟩, Int.le_refl _, rfl⟩
  | takeOverExpiredLease workerId nowEpochMs =>
    left
    simp only [performJob]
    rcases takeOver_cases workerId nowEpochMs store with same | ⟨_, same⟩
    · rw [same]
      exact ⟨rfl, ⟨rfl, rfl, rfl, rfl, rfl⟩, Int.le_refl _, rfl⟩
    · rw [same]
      exact ⟨rfl, ⟨rfl, rfl, rfl, rfl, rfl⟩, Int.le.intro 1 rfl, rfl⟩
  | apply snapshot recovery request =>
    simp only [performJob]
    rcases (decide_answers snapshot recovery request).fields with ⟨named, _, _⟩
    rcases apply_cases sha256 (decideDurableRecovery snapshot recovery request) store with
      ⟨refused, same⟩ | ⟨_, admitted, written, same⟩
    · left
      rw [same]
      refine ⟨?_, ⟨rfl, rfl, rfl, rfl, rfl⟩, Int.le_refl _, rfl⟩
      unfold appliedId
      split
      · next answer => exact absurd answer refused
      · rfl
    · right
      rw [same]
      rcases DurableRecoveryCandidate.write_ok sha256 written with ⟨_, replaced, built⟩
      rcases replace_ok replaced with ⟨_, _, _, _, state, version, fence, previous, _⟩
      rcases refusal_eq_none.mp admitted with ⟨unspent, agrees, _, notStale, _⟩
      rcases decide_agrees.mp agrees with ⟨identified, upToDate⟩
      refine ⟨snapshot, recovery, request, rfl, rfl, ⟨named ▸ unspent, identified, upToDate⟩,
        ?_, ?_, ?_, ?_⟩
      · by_contra old
        exact notStale (decide_stale recovery fun both => old both.2)
      · exact congrArg (·.state) built
      · refine ⟨congrArg (·.stateVersion) built, congrArg (·.fenceToken) built, previous,
          ⟨state.trans (congrArg (·.state) built).symm,
            version.trans (congrArg (·.stateVersion) built).symm,
            fence.trans (congrArg (·.fenceToken) built).symm⟩,
          _, congrArg (·.outboxIntents) built, ?_⟩
        unfold intents
        split <;> rfl
      · rw [named]

/-- Linear recovery over a run of the store that `record` was put in. -/
structure LinearRecovery (record : DurableAgentJobRecord) (calls : List JobCall) : Prop where
  terminal : ∀ state ∈ terminalStates,
    Permanent (performJob sha256) (fun store => store.record.state = state) ⟨record, []⟩ calls
  once : ∀ recoveryId, (trace (performJob sha256) ⟨record, []⟩ calls).countP
    (fun e => appliedId e.call e.response = some recoveryId) ≤ 1
  perFence : ∀ stateVersion fenceToken, (trace (performJob sha256) ⟨record, []⟩ calls).countP
    (fun e => (appliedId e.call e.response).isSome ∧ e.before.record.stateVersion = stateVersion ∧
      e.before.record.fenceToken = fenceToken) ≤ 1
  applied : ∀ e ∈ trace (performJob sha256) ⟨record, []⟩ calls,
    appliedId e.call e.response ≠ none → ∃ snapshot recovery request,
      e.call = .apply snapshot recovery request ∧
      Extends (decideDurableRecovery snapshot recovery request) e.before.record e.after.record
  refused : ∀ e ∈ trace (performJob sha256) ⟨record, []⟩ calls,
    appliedId e.call e.response = none → Untouched e.before.record e.after.record

theorem event_cases {record : DurableAgentJobRecord} {calls : List JobCall}
    (e : Event DurableAgentJobStore JobCall JobCall.Response)
    (member : e ∈ trace (performJob sha256) ⟨record, []⟩ calls) :
    (appliedId e.call e.response = none ∧ Untouched e.before.record e.after.record ∧
        e.before.record.fenceToken ≤ e.after.record.fenceToken ∧
        e.after.appliedRecoveryIds = e.before.appliedRecoveryIds) ∨
      ∃ snapshot recovery request, e.call = .apply snapshot recovery request ∧
        appliedId e.call e.response = some request.recoveryId ∧ Current e.before request ∧
        request.upToDate snapshot ∧
        e.after.record.state = (decideDurableRecovery snapshot recovery request).nextState ∧
        Extends (decideDurableRecovery snapshot recovery request) e.before.record
          e.after.record ∧
        e.after.appliedRecoveryIds = e.before.appliedRecoveryIds ++ [request.recoveryId] := by
  rcases mem_trace_performed member with ⟨response, after⟩
  rw [response, after]
  exact performJob_cases sha256 e.call e.before

theorem durable_recovery_linear (record : DurableAgentJobRecord) (calls : List JobCall) :
    LinearRecovery sha256 record calls := by
  refine ⟨?_, ?_, ?_, ?_, ?_⟩
  · intro state ended
    rw [permanent_iff]
    intro e member here
    rcases event_cases sha256 e member with
      ⟨_, same, _⟩ | ⟨snapshot, recovery, request, _, _, current, upToDate, moved, _⟩
    · exact same.state.trans here
    · have snapshotState : snapshot.state = state :=
        (state_eq_of_upToDate upToDate current.upToDate).trans here
      have stays : (decideDurableRecovery snapshot recovery request).nextState =
          snapshot.state := decide_terminal recovery request (snapshotState ▸ ended)
      rw [moved, stays, snapshotState]
  · intro recoveryId
    -- an applied id is spent: before its step it is not in the set, afterwards it is
    apply counted_once (performJob sha256)
      (fun store => if recoveryId ∈ store.appliedRecoveryIds then 1 else 0) 0
    · intro e member
      rcases event_cases sha256 e member with
        ⟨_, _, _, same⟩ | ⟨_, _, _, _, _, _, _, _, _, same⟩
      · rw [same]
      · rw [same]
        split
        · next spent => rw [if_pos (List.mem_append_left _ spent)]
        · exact Nat.zero_le _
    · intro e member counted
      rcases event_cases sha256 e member with
        ⟨none, _⟩ | ⟨_, _, request, _, here, current, _, _, _, same⟩
      · simp [none] at counted
      · simp only [here, Option.some.injEq, decide_eq_true_eq] at counted
        rw [same, ← counted, if_neg current.unspent,
          if_pos (List.mem_append_right _ (List.mem_singleton_self _))]
        decide
  · intro stateVersion fenceToken
    apply counted_once (performJob sha256) (fun store => store.record.fenceToken) fenceToken
    · intro e member
      rcases event_cases sha256 e member with
        ⟨_, _, grows, _⟩ | ⟨_, _, _, _, _, _, _, _, extends_, _⟩
      · exact grows
      · rw [extends_.fence]
        exact Int.le.intro 1 rfl
    · intro e member counted
      rcases event_cases sha256 e member with
        ⟨none, _⟩ | ⟨_, _, _, _, _, _, _, _, extends_, _⟩
      · simp [none] at counted
      · simp only [decide_eq_true_eq] at counted
        refine ⟨counted.2.2, ?_⟩
        rw [extends_.fence, counted.2.2]
        exact Int.lt_succ fenceToken
  · intro e member applied
    rcases event_cases sha256 e member with
      ⟨none, _⟩ | ⟨snapshot, recovery, request, called, _, _, _, _, extends_, _⟩
    · exact absurd none applied
    · exact ⟨snapshot, recovery, request, called, extends_⟩
  · intro e member refused
    rcases event_cases sha256 e member with
      ⟨_, same, _⟩ | ⟨_, _, _, _, applied, _⟩
    · exact same
    · rw [refused] at applied
      cases applied

end BackendHandbook.Agents
