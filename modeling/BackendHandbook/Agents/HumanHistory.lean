import BackendHandbook.Agents.DispatchSafety

/-! The accounts and the history of an action under human control: its units, its approval,
its checkpoint, its publish intent and the number of its reconciliation queries. -/

namespace BackendHandbook.Agents

open Text Fallible Run HumanControl InMemoryHumanControlStore List

variable {sha256 : String → String} {prints : Fingerprints}

def Matched (job : DurableAgentJobRecord) : Prop :=
  job.currentCheckpoint.authoritativeState = job.state ∧
    job.currentCheckpoint.stateVersion = job.stateVersion ∧
    job.currentCheckpoint.fenceToken = job.fenceToken

def publishes (job : DurableAgentJobRecord) : Nat :=
  job.outboxIntents.countP (·.eventType = "PUBLISH")

def Rewritten (attemptId : String) (before after : ReservationRecord) : Prop :=
  after = before ∨ before.attemptId = attemptId ∧ before.status = .held ∧
    (after = before.release ∨ ∃ usage, before.settle usage = .ok after)

variable {current : Snapshot}

theorem staged_rewritten {usage : Option Int} {reservations : List ReservationRecord}
    (reserved : StagedReservations current usage reservations) :
    List.Forall₂ (Rewritten current.action.attemptId) current.job.reservations reservations := by
  cases reserved with
  | kept => exact forall₂_same.mpr fun _ _ => .inl rfl
  | settled reservation _ one held settles =>
    have both := (forall₂_and_left (p := fun before =>
      before ∈ current.job.reservations) _ _).mpr ⟨fun _ member => member, settles⟩
    refine both.imp fun before after => ?_
    rintro ⟨member, settle⟩
    unfold Settles at settle
    split at settle
    · next own =>
      -- the attempt has one reservation, and that one is held
      have only : before ∈ attemptReservations current :=
        mem_filter.mpr ⟨member, decide_eq_true own⟩
      rw [one, mem_singleton] at only
      exact .inr ⟨own, only ▸ held, .inr ⟨usage, settle⟩⟩
    · exact .inl settle

variable {attemptId : String}

theorem Rewritten.release {before after : ReservationRecord}
    (rewritten : Rewritten attemptId before after) :
    Rewritten attemptId before (releaseHeld attemptId after) := by
  unfold releaseHeld
  split
  · next applies =>
    rcases rewritten with rfl | ⟨_, _, rfl | ⟨_, settled⟩⟩
    · exact .inr ⟨applies.1, applies.2, .inl rfl⟩
    · exact absurd applies.2 (show ReservationStatus.released ≠ .held by decide)
    · rcases settle_eq_ok.mp settled with ⟨_, _, _, status, _⟩
      rw [status] at applies
      exact absurd applies.2 (by decide)
  · exact rewritten

variable (call : HumanCall) (store : HumanControlStore)

theorem reservations_step :
    List.Forall₂ (Rewritten store.snapshot.action.attemptId) store.snapshot.job.reservations
      (performHuman sha256 prints call store).2.snapshot.job.reservations := by
  rcases performHuman_cases sha256 prints call store with
    ⟨_, _, _, _, same⟩ | ⟨_, _, _, _, _, _, applied⟩ |
      ⟨_, _, _, _, _, _, _, _, claim⟩
  · rw [same]
    exact forall₂_same.mpr fun _ _ => .inl rfl
  · rcases applied.committed with ⟨_, checkpoint, prepared, _, _, _, same⟩
    rw [same]
    have rewritten := staged_rewritten prepared.reservations
    simp only [committed, nextReservations]
    split
    · exact forall₂_map_right_iff.mpr (rewritten.imp fun _ _ => Rewritten.release)
    · exact rewritten
  · rcases claim.claimed with ⟨_, _, _, _, same⟩
    rw [same]
    exact forall₂_same.mpr fun _ _ => .inl rfl

theorem identity_step :
    (performHuman sha256 prints call store).2.snapshot.action = store.snapshot.action ∧
      (performHuman sha256 prints call store).2.snapshot.request = store.snapshot.request := by
  rcases performHuman_cases sha256 prints call store with
    ⟨_, _, _, _, same⟩ | ⟨_, _, _, _, _, _, applied⟩ |
      ⟨_, _, _, _, _, _, _, _, claim⟩
  · rw [same]
    exact ⟨rfl, rfl⟩
  · rcases applied.committed with ⟨_, checkpoint, _, _, _, _, same⟩
    rw [same]
    exact ⟨rfl, rfl⟩
  · rcases claim.claimed with ⟨_, _, _, _, same⟩
    rw [same]
    exact ⟨rfl, rfl⟩

/-- A reservation of the attempt is within its units, and a held one is still whole. -/
structure Covered (reservation : ReservationRecord) : Prop where
  fits : reservation.Fits
  whole : reservation.status = .held → reservation.settledUnits.getD 0 = 0

theorem Rewritten.covered {before after : ReservationRecord}
    (rewritten : Rewritten attemptId before after)
    (covers : before.attemptId = attemptId → Covered before) :
    after.attemptId = attemptId → Covered after := by
  intro own
  rcases rewritten with rfl | ⟨mine, held, rfl | ⟨_, settled⟩⟩
  · exact covers own
  · have whole := (covers mine).whole held
    refine ⟨?_, fun other => by cases other⟩
    simp [ReservationRecord.Fits, ReservationRecord.release, whole]
  · rcases settle_eq_ok.mp settled with ⟨_, _, _, status, _⟩
    refine ⟨fits_of_settle settled, fun other => ?_⟩
    rw [status] at other
    cases other

variable (call : HumanCall) (store : HumanControlStore)

theorem covered_step (covers : ∀ reservation ∈ store.snapshot.job.reservations,
      reservation.attemptId = store.snapshot.action.attemptId → Covered reservation) :
    ∀ reservation ∈ (performHuman sha256 prints call store).2.snapshot.job.reservations,
      reservation.attemptId = (performHuman sha256 prints call store).2.snapshot.action.attemptId →
      Covered reservation := by
  intro after member
  rw [(identity_step call store).1]
  rcases forall₂_mem_right (reservations_step call store) member with ⟨before, inside, rewritten⟩
  exact rewritten.covered (covers before inside)

theorem matched_step (matched : Matched store.snapshot.job) :
    Matched (performHuman sha256 prints call store).2.snapshot.job := by
  rcases performHuman_cases sha256 prints call store with
    ⟨_, _, _, _, same⟩ | ⟨_, _, _, _, _, _, applied⟩ |
      ⟨_, _, _, _, _, _, _, _, claim⟩
  · rw [same]
    exact matched
  · rcases applied.committed with ⟨_, checkpoint, _, state, version, fence, same⟩
    rw [same]
    exact ⟨state, version, fence⟩
  · rcases claim.claimed with ⟨_, state, version, fence, same⟩
    rw [same]
    exact ⟨state.trans matched.1, version, fence.trans matched.2.2⟩

def publishId (prints : Fingerprints) (snapshot : Snapshot) : String :=
  prints.texts [prints.action snapshot.action, snapshot.request.requestId, "PUBLISH", ""]

/-- At most one publish intent, and it bears the one id. -/
def PublishesOnce (prints : Fingerprints) (snapshot : Snapshot) : Prop :=
  publishes snapshot.job ≤ 1 ∧ ∀ intent ∈ snapshot.job.outboxIntents,
    intent.eventType = "PUBLISH" → intent.eventId = publishId prints snapshot

theorem publishesOnce_events {candidate : HumanControlCandidate} {events : List OutboxIntent}
    (alone : candidate.outboxAction = "PUBLISH" → candidate.escalation = none)
    (few : events.countP (·.eventType = "PUBLISH") ≤ 1)
    (named : ∀ intent ∈ events, intent.eventType = "PUBLISH" →
      intent.eventId = publishId prints current) :
    (nextEvents prints current candidate events).countP (·.eventType = "PUBLISH") ≤ 1 ∧
      ∀ intent ∈ nextEvents prints current candidate events, intent.eventType = "PUBLISH" →
        intent.eventId = publishId prints current := by
  unfold nextEvents
  split
  · exact ⟨few, named⟩
  split
  · exact ⟨few, named⟩
  next absent =>
  by_cases publish : candidate.outboxAction = "PUBLISH"
  · have same : eventId prints current candidate = publishId prints current := by
      simp [eventId, publishId, publish, alone publish]
    -- an earlier publish intent would carry the id that is absent
    have none : events.countP (·.eventType = "PUBLISH") = 0 := by
      apply countP_eq_zero.mpr
      intro intent inside published
      apply absent
      refine any_eq_true.mpr ⟨intent, inside, ?_⟩
      rw [same]
      exact decide_eq_true (named intent inside (of_decide_eq_true published))
    constructor
    · rw [countP_append, none]
      simp [publish]
    · intro intent inside published
      rcases mem_append.mp inside with old | new
      · exact named intent old published
      · rw [mem_singleton.mp new]
        exact same
  · constructor
    · simpa [publish] using few
    · intro intent inside published
      rcases mem_append.mp inside with old | new
      · exact named intent old published
      · rw [mem_singleton.mp new] at published
        exact absurd published publish

variable (call : HumanCall) (store : HumanControlStore)

theorem publishesOnce_step (holds : PublishesOnce prints store.snapshot) :
    PublishesOnce prints (performHuman sha256 prints call store).2.snapshot := by
  rcases performHuman_cases sha256 prints call store with
    ⟨_, _, _, _, same⟩ | ⟨candidate, facts, now, _, _, _, applied⟩ |
      ⟨_, _, _, _, _, _, _, _, claim⟩
  · rw [same]
    exact holds
  · rcases applied.committed with ⟨_, checkpoint, prepared, _, _, _, same⟩
    have proposal := decide_proposal prints store.snapshot candidate.command facts now
    rw [← applied.decided] at proposal
    rw [same]
    simp only [committed, prepared.outbox]
    exact publishesOnce_events proposal.publish holds.1 holds.2
  · rcases claim.claimed with ⟨_, _, _, _, same⟩
    rw [same]
    exact holds

theorem terminal_step (ended : store.snapshot.job.state ∈ terminalStates) :
    (performHuman sha256 prints call store).2.snapshot.job.state = store.snapshot.job.state := by
  rcases performHuman_cases sha256 prints call store with
    ⟨_, _, _, _, same⟩ | ⟨candidate, facts, now, _, _, _, applied⟩ |
      ⟨_, _, _, _, _, _, _, _, claim⟩
  · rw [same]
  · rcases applied.committed with ⟨_, checkpoint, _, _, _, _, same⟩
    have proposal := decide_proposal prints store.snapshot candidate.command facts now
    rw [← applied.decided] at proposal
    rw [same]
    exact proposal.terminal ended
  · rcases claim.claimed with ⟨_, _, _, _, same⟩
    rw [same]
    rfl

theorem approval_step (closed : store.snapshot.approval ∈ closedApprovals) :
    (performHuman sha256 prints call store).2.snapshot.approval ∈ closedApprovals := by
  rcases performHuman_cases sha256 prints call store with
    ⟨_, _, _, _, same⟩ | ⟨candidate, facts, now, _, _, _, applied⟩ |
      ⟨_, _, _, _, _, _, _, _, claim⟩
  · rw [same]
    exact closed
  · rcases applied.committed with ⟨_, checkpoint, _, _, _, _, same⟩
    have proposal := decide_proposal prints store.snapshot candidate.command facts now
    rw [← applied.decided] at proposal
    rw [same]
    exact proposal.approval closed
  · rcases claim.claimed with ⟨_, _, _, _, same⟩
    rw [same]
    exact closed

/-! The reconciliation queries of an attempt are counted by its last recorded operation. -/

def recordedOperation (snapshot : Snapshot) : Option RecoveryOperation :=
  (snapshot.job.recoveryOperations.filter
    (·.sourceAttemptId = snapshot.action.attemptId)).getLast?

def queriesLeft (operation : RecoveryOperation) : Nat :=
  (operation.attemptLimit - operation.attemptsUsed).toNat

variable (e : Event HumanControlStore HumanCall HumanCall.Response)

def reconciles : Bool := (appliedCandidate e.call e.response).any (·.status = "RECONCILE")

def stages : Bool := (appliedCandidate e.call e.response).any (·.recoveryCandidate.isSome)

def recovers : Bool := (appliedCandidate e.call e.response).any (·.command.operation = .recover)

/-- From the first counted step on, the queries stay within its operation in force. -/
def QueriesBounded (sha256 : String → String) (prints : Fingerprints)
    (first : Event HumanControlStore HumanCall HumanCall.Response → Bool)
    (bound : RecoveryOperation → Int) (snapshot : Snapshot) (calls : List HumanCall) : Prop :=
  ∀ front e back candidate facts now failBeforeCommit,
    trace (performHuman sha256 prints) ⟨snapshot, ∅⟩ calls = front ++ e :: back →
    first e = true → (∀ earlier ∈ front, first earlier = false) →
    e.call = .apply candidate facts now failBeforeCommit →
    ((trace (performHuman sha256 prints) ⟨snapshot, ∅⟩ calls).countP reconciles : Int) ≤
      bound (recoveryInForce e.before.snapshot.job e.before.snapshot.action.attemptId
        facts.recovery)

theorem operation_step (call : HumanCall) (store : HumanControlStore) :
    let e := event (performHuman sha256 prints) store call
    (stages e = false ∧ reconciles e = false ∧
        recordedOperation e.after.snapshot = recordedOperation store.snapshot) ∨
      ∃ candidate facts now, call = .apply candidate facts now false ∧ stages e = true ∧
        let inForce := recoveryInForce store.snapshot.job store.snapshot.action.attemptId
          facts.recovery
        ∃ recorded, recordedOperation e.after.snapshot = some recorded ∧
          recorded.attemptLimit = inForce.attemptLimit ∧
          recorded.attemptsUsed = inForce.attemptsUsed + (if reconciles e then 1 else 0) ∧
          (reconciles e = true → inForce.attemptsUsed < inForce.attemptLimit) := by
  intro e
  rcases performHuman_cases sha256 prints call store with
    ⟨_, none, _, _, same⟩ | ⟨candidate, facts, now, called, _, some, applied⟩ |
      ⟨_, _, _, _, _, _, _, none, claim⟩
  · have quiet : appliedCandidate e.call e.response = .none := none
    have kept : e.after.snapshot.job.recoveryOperations = store.snapshot.job.recoveryOperations ∧
        e.after.snapshot.action = store.snapshot.action := by
      constructor <;> simp only [e, event, same]
    exact .inl ⟨by simp [stages, quiet], by simp [reconciles, quiet],
      by simp [recordedOperation, kept.1, kept.2]⟩
  · rcases applied.committed with ⟨nextJob, checkpoint, prepared, _, _, _, same⟩
    have made : appliedCandidate e.call e.response = .some candidate := some
    have operations : e.after.snapshot.job.recoveryOperations = nextJob.recoveryOperations :=
      congrArg (·.job.recoveryOperations) same
    have action : e.after.snapshot.action = store.snapshot.action := congrArg (·.action) same
    have proposal := decide_proposal prints store.snapshot candidate.command facts now
    rw [← applied.decided] at proposal
    have counts : reconciles e = decide (candidate.status = "RECONCILE") := by
      simp [reconciles, made]
    cases planned : candidate.recoveryCandidate with
    | none =>
      have calm : reconciles e = false := by
        rw [counts]
        apply decide_eq_false
        intro queried
        have staged := proposal.reconcile queried
        rw [planned] at staged
        cases staged
      refine .inl ⟨by simp [stages, made, planned], calm, ?_⟩
      simp [recordedOperation, operations, action, prepared.operations, planned]
    | some staged =>
      rcases proposal.recovery staged planned with ⟨_, staging⟩
      refine .inr ⟨candidate, facts, now, called, by simp [stages, made, planned],
        recordedRecovery prints store.snapshot candidate facts, ?_, rfl, ?_, ?_⟩
      · have owned : (recordedRecovery prints store.snapshot candidate facts).sourceAttemptId =
            store.snapshot.action.attemptId := staging.owned
        simp [recordedOperation, operations, action, prepared.operations, planned, owned]
      · rw [counts]
        simp [recordedRecovery]
      · intro queried
        rw [counts, decide_eq_true_eq] at queried
        rcases staging.kind with ⟨_, other⟩ | ⟨_, _, left⟩ | ⟨_, other, _⟩
        · rw [queried] at other
          exact absurd other (by decide)
        · exact left
        · rw [queried] at other
          exact absurd other (by decide)
  · rcases claim.claimed with ⟨_, _, _, _, same⟩
    have quiet : appliedCandidate e.call e.response = .none := none
    have kept : e.after.snapshot.job.recoveryOperations = store.snapshot.job.recoveryOperations ∧
        e.after.snapshot.action = store.snapshot.action := by
      constructor <;> simp only [e, event, same] <;> rfl
    exact .inl ⟨by simp [stages, quiet], by simp [reconciles, quiet],
      by simp [recordedOperation, kept.1, kept.2]⟩

theorem queries_run (calls : List HumanCall) (store : HumanControlStore)
    (operation : RecoveryOperation) (onRecord : recordedOperation store.snapshot = some operation) :
    (trace (performHuman sha256 prints) store calls).countP reconciles ≤ queriesLeft operation := by
  induction calls generalizing store operation with
  | nil => exact Nat.zero_le _
  | cons call _ ih =>
    have inForce : ∀ given, recoveryInForce store.snapshot.job
        store.snapshot.action.attemptId given = operation := by
      intro given
      have found := onRecord
      simp only [recordedOperation] at found
      simp [recoveryInForce, found]
    rw [trace]
    rcases @operation_step sha256 prints call store with
      ⟨_, calm, kept⟩ | ⟨_, facts, _, _, _, recorded, now', limit, used, left⟩
    · rw [countP_cons_of_neg (by rw [calm]; decide)]
      exact ih _ operation (kept.trans onRecord)
    · rw [inForce facts.recovery] at limit used left
      have later := ih _ recorded now'
      rw [countP_cons]
      by_cases queries : reconciles (event (performHuman sha256 prints) store call) = true
      · have bound := left queries
        rw [if_pos queries] at used ⊢
        simp only [queriesLeft] at later ⊢
        simp only [event] at later ⊢
        omega
      · rw [if_neg queries] at used ⊢
        simp only [queriesLeft] at later ⊢
        simp only [event] at later ⊢
        omega

def queryBudget (operation : RecoveryOperation) : Int :=
  max 0 (operation.attemptLimit - operation.attemptsUsed)

variable {calls : List HumanCall}

theorem operation_event {store : HumanControlStore}
    {e : Event HumanControlStore HumanCall HumanCall.Response}
    (member : e ∈ trace (performHuman sha256 prints) store calls) :
    e = event (performHuman sha256 prints) e.before e.call := by
  rcases mem_trace_split (performHuman sha256 prints) store calls e member with ⟨front, _, _, same⟩
  have before : e.before = final (performHuman sha256 prints) store front :=
    congrArg Event.before same
  rw [before]
  exact same

theorem queries_bounded (snapshot : Snapshot) (calls : List HumanCall) :
    QueriesBounded sha256 prints stages queryBudget snapshot calls := by
  intro front e back candidate facts now failBeforeCommit split first early called
  rcases trace_eq_append_cons (performHuman sha256 prints)
    ⟨snapshot, ∅⟩ calls front back e split with ⟨_, late, _, _, _, after⟩
  have present : ∀ other ∈ front ++ e :: back,
      other ∈ trace (performHuman sha256 prints) ⟨snapshot, ∅⟩ calls := by
    intro other inside
    rw [split]
    exact inside
  have same := operation_event (present e (mem_append_right _ mem_cons_self))
  have calm : front.countP reconciles = 0 := by
    apply countP_eq_zero.mpr
    intro other inside
    have known := operation_event (present other (mem_append_left _ inside))
    rcases @operation_step sha256 prints other.call other.before with
      ⟨_, quiet, _⟩ | ⟨_, _, _, _, staged, _⟩
    · rw [known, quiet]
      decide
    · have none := early other inside
      rw [known, staged] at none
      cases none
  rcases @operation_step sha256 prints e.call e.before with
    ⟨none, _⟩ | ⟨_, given, _, asked, _, recorded, onRecord, limit, used, left⟩
  · rw [same, none] at first
    cases first
  · rw [← same] at onRecord used left
    have known : given = facts := by
      rw [called] at asked
      exact ((HumanCall.apply.inj asked).2.1).symm
    subst known
    have later := @queries_run sha256 prints late e.after recorded onRecord
    rw [split, countP_append, countP_cons, after]
    simp only [queryBudget]
    simp only [queriesLeft, used] at later
    by_cases queries : reconciles e = true
    · have bound := left queries
      rw [if_pos queries] at later ⊢
      omega
    · rw [if_neg queries] at later ⊢
      omega

/-- The history of an action, with the bound on its queries from the first counted step. -/
structure HistoryKept (sha256 : String → String) (prints : Fingerprints)
    (first : Event HumanControlStore HumanCall HumanCall.Response → Bool)
    (bound : RecoveryOperation → Int) (snapshot : Snapshot) (calls : List HumanCall) : Prop where
  fits : ∀ front back, calls = front ++ back → ∀ reservation ∈
    (final (performHuman sha256 prints) ⟨snapshot, ∅⟩ front).snapshot.job.reservations,
    reservation.attemptId = snapshot.action.attemptId → reservation.Fits
  permanent : ∀ (index : Nat) (reservation : ReservationRecord), reservation.status ≠ .held →
    Permanent (performHuman sha256 prints)
      (fun store => store.snapshot.job.reservations[index]? = some reservation)
      ⟨snapshot, ∅⟩ calls
  terminal : ∀ state ∈ terminalStates, Permanent (performHuman sha256 prints)
    (fun store => store.snapshot.job.state = state) ⟨snapshot, ∅⟩ calls
  approval : Permanent (performHuman sha256 prints)
    (fun store => store.snapshot.approval ∈ closedApprovals) ⟨snapshot, ∅⟩ calls
  checkpoint : ∀ front back, calls = front ++ back →
    Matched (final (performHuman sha256 prints) ⟨snapshot, ∅⟩ front).snapshot.job
  publish : ∀ front back, calls = front ++ back →
    publishes (final (performHuman sha256 prints) ⟨snapshot, ∅⟩ front).snapshot.job ≤ 1
  queries : QueriesBounded sha256 prints first bound snapshot calls

def AttemptHeld (snapshot : Snapshot) : Prop :=
  ∃ reservation, attemptReservations snapshot = [reservation] ∧ reservation.status = .held ∧
    reservation.settledUnits.getD 0 = 0 ∧ reservation.releasedUnits = 0

theorem human_history (sha256 : String → String) (prints : Fingerprints) (snapshot : Snapshot)
    (calls : List HumanCall) (held : AttemptHeld snapshot) (matched : Matched snapshot.job)
    (unpublished : publishes snapshot.job = 0) :
    HistoryKept sha256 prints stages queryBudget snapshot calls := by
  have reached : ∀ (Inv : HumanControlStore → Prop),
      (∀ store call, Inv store → Inv (performHuman sha256 prints call store).2) →
      Inv ⟨snapshot, ∅⟩ → ∀ front, Inv (final (performHuman sha256 prints) ⟨snapshot, ∅⟩ front) :=
    fun Inv kept holds front => invariant_final (performHuman sha256 prints) Inv (fun _ => True)
      (fun store call _ => kept store call) _ front (fun _ _ => trivial) holds
  refine ⟨?_, ?_, ?_, ?_, ?_, ?_, queries_bounded snapshot calls⟩
  · intro front _ _ reservation member own
    have action := reached (fun store => store.snapshot.action = snapshot.action)
      (fun store call same => (identity_step call store).1.trans same) rfl front
    have covers := reached (fun store => ∀ reservation ∈ store.snapshot.job.reservations,
        reservation.attemptId = store.snapshot.action.attemptId → Covered reservation)
      (fun store call => covered_step call store) ?_ front
    · exact (covers reservation member (action ▸ own)).fits
    · intro other inside mine
      rcases held with ⟨_, one, status, settled, released⟩
      have listed : other ∈ attemptReservations snapshot :=
        mem_filter.mpr ⟨inside, decide_eq_true mine⟩
      rw [one, mem_singleton] at listed
      subst listed
      refine ⟨?_, fun _ => settled⟩
      simp [ReservationRecord.Fits, settled, released]
  · intro index reservation status
    rw [permanent_iff]
    intro e member found
    rw [(mem_trace_performed member).2]
    rcases forall₂_getElem? (@reservations_step sha256 prints e.call
      e.before) index with ⟨absent, _⟩ | ⟨_, _, here, there, moved⟩
    · rw [found] at absent
      cases absent
    · cases Option.some.inj (found.symm.trans here)
      rcases moved with rfl | ⟨_, other, _⟩
      · exact there
      · exact absurd other status
  · intro state ended
    rw [permanent_iff]
    intro e member here
    rw [(mem_trace_performed member).2, terminal_step e.call e.before (here ▸ ended), here]
  · rw [permanent_iff]
    intro e member closed
    rw [(mem_trace_performed member).2]
    exact approval_step e.call e.before closed
  · intro front _ _
    exact reached (fun store => Matched store.snapshot.job)
      (fun store call => matched_step call store) matched front
  · intro front _ _
    refine (reached (fun store => PublishesOnce prints store.snapshot)
      (fun store call => publishesOnce_step call store) ⟨?_, ?_⟩ front).1
    · exact unpublished ▸ Nat.zero_le 1
    · intro intent inside published
      have none := countP_eq_zero.mp unpublished intent inside
      exact absurd (decide_eq_true published) none

/-- The bound as a difference, which an exhausted operation takes below zero. -/
def queriesAllowed (operation : RecoveryOperation) : Int :=
  operation.attemptLimit - operation.attemptsUsed

/-- The queries of a run, against the operation of its first counted step. -/
def overspent (sha256 : String → String) (prints : Fingerprints)
    (first : Event HumanControlStore HumanCall HumanCall.Response → Bool)
    (bound : RecoveryOperation → Int) (snapshot : Snapshot) (calls : List HumanCall) : Bool :=
  let events := trace (performHuman sha256 prints) ⟨snapshot, ∅⟩ calls
  (events.find? first).any fun e =>
    match e.call with
    | .apply _ facts _ _ =>
      decide (bound (recoveryInForce e.before.snapshot.job e.before.snapshot.action.attemptId
        facts.recovery) < (events.countP reconciles : Int))
    | .dispatchOnce .. => false

theorem not_bounded_of_overspent
    {first : Event HumanControlStore HumanCall HumanCall.Response → Bool}
    {bound : RecoveryOperation → Int} {snapshot : Snapshot}
    (exceeded : overspent sha256 prints first bound snapshot calls = true) :
    ¬ QueriesBounded sha256 prints first bound snapshot calls := by
  intro bounded
  rcases (Option.any_eq_true _ _).mp exceeded with ⟨e, found, exceeds⟩
  rcases find?_eq_some_iff_append.mp found with ⟨counts, front, back, split, early⟩
  have fits := bounded front e back
  cases called : e.call with
  | dispatchOnce =>
    rw [called] at exceeds
    cases exceeds
  | apply candidate facts now failBeforeCommit =>
    rw [called] at exceeds
    have within := fits candidate facts now failBeforeCommit split counts
      (fun earlier inside => Bool.not_eq_true' _ ▸ early earlier inside) called
    have beyond := of_decide_eq_true exceeds
    omega

section Counterexamples

open HumanControl.Sample

/-- The sample job, published before by another event. -/
def published : Snapshot :=
  { HumanControl.Sample.snapshot with
    job := { HumanControl.Sample.job with
      outboxIntents := [⟨"publish-0", "J1", "S1", "A1", "PUBLISH", none⟩] } }

def republishing : List HumanCall := HumanControl.Sample.calls ⟨published, ∅⟩ (dispatched.take 2)

/-- A released reservation, whose settlement is escalated without an operation on record, and
two queries under another operation. -/
def conflicting : List HumanCall :=
  HumanControl.Sample.calls ⟨HumanControl.Sample.snapshot, ∅⟩
    [.plan .interrupt "interrupt-1" worker none facts,
      .plan .recover "recover-1" worker none { facts with
        certainty := .verifiedTerminal, verifiedUsage := some 10
        outcomeEvidenceId := some "outcome-1"
        recovery := { HumanControl.Sample.recovery with attemptLimit := 1 } },
      .plan .recover "recover-2" worker none { facts with certainty := .outcomeUnknown },
      .plan .recover "recover-3" worker none { facts with certainty := .outcomeUnknown }]

def exhausting : List HumanCall :=
  HumanControl.Sample.calls ⟨HumanControl.Sample.snapshot, ∅⟩ (dispatched.take 3 ++
    [.plan .recover "recover-1" worker none { facts with
      certainty := .outcomeUnknown
      recovery := { HumanControl.Sample.recovery with attemptsUsed := 5 } }])

end Counterexamples

theorem human_history_sample :
    HistoryKept HumanControl.Sample.sha256 HumanControl.Sample.prints stages queryBudget
      HumanControl.Sample.snapshot (HumanControl.Sample.calls ⟨HumanControl.Sample.snapshot, ∅⟩
        HumanControl.Sample.dispatched) :=
  human_history HumanControl.Sample.sha256 HumanControl.Sample.prints
    HumanControl.Sample.snapshot _
    ⟨HumanControl.Sample.reservation, by decide, by decide, by decide, by decide⟩
    ⟨by decide, by decide, by decide⟩ (by decide)

/-- The history fails for a second publish intent beside an initial one, for the queries after
a settlement conflict and, as a difference, for an operation used beyond its limit. -/
theorem history_unbounded : (AttemptHeld published ∧ Matched published.job ∧
        ¬ HistoryKept HumanControl.Sample.sha256 HumanControl.Sample.prints recovers
          queriesAllowed published republishing) ∧
      (AttemptHeld HumanControl.Sample.snapshot ∧ Matched HumanControl.Sample.job ∧
        publishes HumanControl.Sample.job = 0 ∧
        ¬ HistoryKept HumanControl.Sample.sha256 HumanControl.Sample.prints recovers
          queriesAllowed HumanControl.Sample.snapshot conflicting) ∧
      ¬ HistoryKept HumanControl.Sample.sha256 HumanControl.Sample.prints recovers
        queriesAllowed HumanControl.Sample.snapshot exhausting := by
  refine ⟨⟨⟨HumanControl.Sample.reservation, by decide, by decide, by decide, by decide⟩,
    ⟨by decide, by decide, by decide⟩, fun history => ?_⟩,
    ⟨⟨HumanControl.Sample.reservation, by decide, by decide, by decide, by decide⟩,
    ⟨by decide, by decide, by decide⟩, by decide, fun history => ?_⟩, fun history => ?_⟩
  · have once := history.publish republishing [] (append_nil _).symm
    revert once
    decide +kernel
  · exact not_bounded_of_overspent (by decide +kernel) history.queries
  · exact not_bounded_of_overspent (by decide +kernel) history.queries

end BackendHandbook.Agents
