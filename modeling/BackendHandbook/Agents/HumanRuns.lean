import BackendHandbook.Agents.HumanDecisions

/-! The store of human control: one snapshot, moved by `apply` and by `dispatchOnce` only. -/

namespace BackendHandbook.Agents

open Text HumanControl

/-- `str.startswith`. -/
def startsWith (text start : String) : Bool := start.toList.isPrefixOf text.toList

inductive HumanApplyStatus
  | applied | auditOnly | duplicateCommand | commandIdentityConflict | staleCandidate
  | currentFactsChanged | recoveryApplyRejected | unsafeReleaseRejected
  deriving DecidableEq

structure HumanControlStore where
  snapshot : Snapshot
  commands : Dict String Command := ∅

namespace HumanControlCandidate

/-- The statuses that advance the job; all others only add evidence. -/
def transitions : List String :=
  ["DECISION_RECORDED", "EXECUTION_CANDIDATE", "APPROVAL_PENDING", "APPROVAL_EXPIRED",
    "APPROVAL_REVOKED", "APPROVAL_CANCELLED", "APPROVAL_SUPERSEDED", "POLICY_UNAVAILABLE",
    "RECONCILE", "SETTLE", "CANCELLATION_OBSERVED", "AUTHORIZATION_REVOKED"]

def lifecycleChanges : List String :=
  ["APPROVAL_REVOKED", "APPROVAL_CANCELLED", "APPROVAL_SUPERSEDED"]

variable (candidate : HumanControlCandidate)

def interrupting : Bool := startsWith candidate.status "INTERRUPTED_"

def transitional : Bool :=
  decide (candidate.status ∈ transitions ∧ ¬ (candidate.command.operation ≠ .invalidate ∧
      candidate.status ∈ lifecycleChanges)) ||
    startsWith candidate.status "ESCALATE_" || candidate.interrupting

end HumanControlCandidate

namespace InMemoryHumanControlStore

section Apply

variable (sha256 : String → String) (prints : Fingerprints) (current : Snapshot)
  (candidate : HumanControlCandidate) (facts : CurrentFacts)

def audited : Snapshot :=
  { current with
    decisionEvidence := current.decisionEvidence ++ candidate.command.decision.toList
    job := { current.job with
      auditEvents := current.job.auditEvents ++ [candidate.status] ++ candidate.evidence } }

def recordedRecovery : RecoveryOperation :=
  let control := recoveryInForce current.job current.action.attemptId facts.recovery
  { control with
    recoveryId := candidate.command.commandId
    attemptsUsed := control.attemptsUsed + if candidate.status = "RECONCILE" then 1 else 0
    lastEvidenceFingerprint := some (prints.texts candidate.evidence) }

def staged : Except String (Option DurableAgentJobRecord) :=
  match candidate.recoveryCandidate with
  | none => .ok (some current.job)
  | some recovery =>
    match InMemoryDurableAgentJobStore.apply sha256 recovery ⟨current.job, []⟩ with
    | (.error raised, _) => .error raised
    | (.ok .applied, store) =>
      .ok (some { store.record with
        recoveryOperations := current.job.recoveryOperations ++
          [recordedRecovery prints current candidate facts]
        outboxIntents := current.job.outboxIntents })
    | (.ok _, _) => .ok none

def unsafeRelease : Bool :=
  candidate.reservationAction = .release ∧
    (current.dispatchStarted ∨ facts.certainty ≠ .definitelyNotDispatched)

def releaseHeld (attemptId : String) (reservation : ReservationRecord) : ReservationRecord :=
  if reservation.attemptId = attemptId ∧ reservation.status = .held then reservation.release
  else reservation

def nextReservations (reservations : List ReservationRecord) : List ReservationRecord :=
  if candidate.reservationAction = .release then
    reservations.map (releaseHeld current.action.attemptId)
  else reservations

def eventId : String :=
  prints.texts [prints.action current.action, current.request.requestId, candidate.outboxAction,
    if candidate.escalation.isSome ∨ candidate.outboxAction = "RECONCILIATION_QUERY" then
      candidate.command.commandId else ""]

def nextEvents (events : List OutboxIntent) : List OutboxIntent :=
  if candidate.outboxAction = "NONE" then events
  else if events.any (·.eventId = eventId prints current candidate) then events
  else events ++ [{ eventId := eventId prints current candidate
                    jobId := current.job.jobId, stepId := current.job.currentStepId
                    attemptId := current.job.currentAttemptId
                    eventType := candidate.outboxAction }]

def nextFence (nextJob : DurableAgentJobRecord) : Int :=
  if candidate.recoveryCandidate.isSome then nextJob.fenceToken
  else current.job.fenceToken + if candidate.interrupting then 1 else 0

def committed (nextJob : DurableAgentJobRecord) (checkpoint : DurableCheckpoint) : Snapshot :=
  { current with
    job := { nextJob with
      state := candidate.nextState, stateVersion := current.job.stateVersion + 1
      fenceToken := nextFence current candidate nextJob, currentCheckpoint := checkpoint
      leaseOwner := if candidate.interrupting then none else nextJob.leaseOwner
      leaseExpiryEpochMs := if candidate.interrupting then none else nextJob.leaseExpiryEpochMs
      reservations := nextReservations current candidate nextJob.reservations
      outboxIntents := nextEvents prints current candidate nextJob.outboxIntents
      auditEvents := nextJob.auditEvents ++ [candidate.status] ++ candidate.evidence }
    approval := candidate.approvalStatus
    decisions := current.decisions ++
      if candidate.status = "DECISION_RECORDED" then candidate.command.decision.toList else []
    decisionEvidence := current.decisionEvidence ++ candidate.command.decision.toList
    interruptId :=
      if candidate.interrupting then some candidate.command.commandId else current.interruptId
    cancellationObservedBy := current.cancellationObservedBy ++
      if candidate.status = "CANCELLATION_OBSERVED" then [candidate.command.actor.actorId] else []
    escalations := current.escalations ++ candidate.escalation.toList
    checkpointHistory := current.checkpointHistory ++ [current.job.currentCheckpoint] }

/-- The outcome of a transitional candidate: a snapshot to swap in, or why there is none. -/
def transition (failBeforeCommit : Bool) : Except String (Except HumanApplyStatus Snapshot) :=
  match staged sha256 prints current candidate facts with
  | .error raised => .error raised
  | .ok none => .ok (.error .recoveryApplyRejected)
  | .ok (some nextJob) =>
    if unsafeRelease current candidate facts then .ok (.error .unsafeReleaseRejected)
    else
      match nextJob.currentCheckpoint.replace ("human:" ++ candidate.command.commandId)
          (current.job.currentCheckpoint.checkpointVersion + 1) candidate.nextState
          (current.job.stateVersion + 1) (nextFence current candidate nextJob)
          (some current.job.currentCheckpoint.checkpointId) with
      | .error raised => .error raised
      | .ok checkpoint =>
        if failBeforeCommit then .error "INJECTED_BEFORE_COMMIT"
        else .ok (.ok (committed prints current candidate nextJob checkpoint))

def apply (now : Int) (failBeforeCommit : Bool) (store : HumanControlStore) :
    Except String HumanApplyStatus × HumanControlStore :=
  match store.commands.lookup candidate.command.commandId with
  | some previous =>
    (.ok (if previous = candidate.command then .duplicateCommand
      else .commandIdentityConflict), store)
  | none =>
    if candidate.snapshotFingerprint ≠ prints.snapshot store.snapshot then
      (.ok .staleCandidate, store)
    else if decideHumanControl prints store.snapshot candidate.command facts now ≠ candidate then
      (.ok .currentFactsChanged, store)
    else if ¬ candidate.transitional then
      if failBeforeCommit then (.error "INJECTED_BEFORE_COMMIT", store)
      else (.ok .auditOnly, ⟨audited store.snapshot candidate,
        store.commands.insert candidate.command.commandId candidate.command⟩)
    else
      match transition sha256 prints store.snapshot candidate facts failBeforeCommit with
      | .error raised => (.error raised, store)
      | .ok (.error status) => (.ok status, store)
      | .ok (.ok snapshot) => (.ok .applied,
          ⟨snapshot, store.commands.insert candidate.command.commandId candidate.command⟩)

end Apply

section Dispatch

variable (prints : Fingerprints) (eventId : String) (worker : Principal) (expectedFence : Int)
  (facts : CurrentFacts) (now : Int)

def dispatchCommand (snapshot : Snapshot) : Command :=
  { commandId := "dispatch:" ++ eventId
    operation := .gate, actor := worker, expectedState := snapshot.job.state
    expectedStateVersion := snapshot.job.stateVersion
    expectedFence }

/-- The intent is there, unclaimed, and the worker holds the lease at the expected fence. -/
def claimable (snapshot : Snapshot) : Prop :=
  (snapshot.job.outboxIntents.find? fun intent =>
      intent.eventId = eventId ∧ intent.eventType = "PUBLISH").isSome = true ∧
    eventId ∉ snapshot.claimedEvents ∧ expectedFence = snapshot.job.fenceToken ∧
    some worker.actorId = snapshot.job.leaseOwner ∧
    ∃ expiry ∈ snapshot.job.leaseExpiryEpochMs, now < expiry

instance (snapshot : Snapshot) :
    Decidable (claimable eventId worker expectedFence now snapshot) := by
  unfold claimable
  infer_instance

def claimed (snapshot : Snapshot) (checkpoint : DurableCheckpoint) : Snapshot :=
  { snapshot with
    dispatchStarted := true, claimedEvents := snapshot.claimedEvents ++ [eventId]
    checkpointHistory := snapshot.checkpointHistory ++ [snapshot.job.currentCheckpoint]
    job := { snapshot.job with
      stateVersion := snapshot.job.stateVersion + 1, currentCheckpoint := checkpoint
      auditEvents := snapshot.job.auditEvents ++ ["DISPATCH_CLAIMED"] } }

/-- The answer is `true` exactly when the effect is invoked, on the action of the snapshot. -/
def dispatchOnce (store : HumanControlStore) : Except String Bool × HumanControlStore :=
  let s := store.snapshot
  if ¬ claimable eventId worker expectedFence now s then (.ok false, store)
  else if ¬ (decideHumanControl prints s (dispatchCommand eventId worker expectedFence s) facts
      now).executionAllowed then (.ok false, store)
  else
    let checkpoint := s.job.currentCheckpoint
    match checkpoint.replace ("dispatch:" ++ eventId) (checkpoint.checkpointVersion + 1)
        checkpoint.authoritativeState (s.job.stateVersion + 1) checkpoint.fenceToken
        (some checkpoint.checkpointId) with
    | .error raised => (.error raised, store)
    | .ok next => (.ok true, ⟨claimed eventId s next, store.commands⟩)

end Dispatch
end InMemoryHumanControlStore
/-! The calls on the human-control store, and everything that one of them can change. -/

open Fallible Run InMemoryHumanControlStore

inductive HumanCall
  | apply (candidate : HumanControlCandidate) (facts : CurrentFacts) (now : Int)
      (failBeforeCommit : Bool)
  | dispatchOnce (eventId : String) (worker : Principal) (expectedFence : Int)
      (facts : CurrentFacts) (now : Int)

abbrev HumanCall.Response : HumanCall → Type
  | .apply .. => Except String HumanApplyStatus
  | .dispatchOnce .. => Except String Bool

section Runs

variable (sha256 : String → String) (prints : Fingerprints)

def performHuman : (call : HumanCall) → HumanControlStore → call.Response × HumanControlStore
  | .apply candidate facts now failBeforeCommit =>
    apply sha256 prints candidate facts now failBeforeCommit
  | .dispatchOnce eventId worker expectedFence facts now =>
    dispatchOnce prints eventId worker expectedFence facts now

def invoked : (call : HumanCall) → call.Response → Bool
  | .dispatchOnce .., .ok true => true
  | _, _ => false

def appliedCandidate : (call : HumanCall) → call.Response → Option HumanControlCandidate
  | .apply candidate .., .ok .applied => some candidate
  | _, _ => none

/-- The snapshots differ in their evidence only. -/
def SameBusiness (before after : Snapshot) : Prop :=
  ∃ evidence events, after = { before with
    decisionEvidence := evidence, job := { before.job with auditEvents := events } }

/-- The settlement that a staged recovery makes, if it makes one. -/
inductive StagedReservations (current : Snapshot) (usage : Option Int) :
    List ReservationRecord → Prop
  | kept : StagedReservations current usage current.job.reservations
  | settled (reservation : ReservationRecord) (after : List ReservationRecord)
      (one : attemptReservations current = [reservation]) (held : reservation.status = .held)
      (settles : List.Forall₂ (Settles current.action.attemptId usage) current.job.reservations
        after) : StagedReservations current usage after

/-- The job that a candidate is committed on, once its recovery is staged. -/
structure StagedJob (current : Snapshot) (candidate : HumanControlCandidate)
    (facts : CurrentFacts) (nextJob : DurableAgentJobRecord) : Prop where
  outbox : nextJob.outboxIntents = current.job.outboxIntents
  reservations : StagedReservations current facts.verifiedUsage nextJob.reservations
  operations : nextJob.recoveryOperations = current.job.recoveryOperations ++
    if candidate.recoveryCandidate.isSome then
      [recordedRecovery prints current candidate facts] else []

/-- A transition that the store has made, with the guards it passed. -/
structure Applied (before after : HumanControlStore) (candidate : HumanControlCandidate)
    (facts : CurrentFacts) (now : Int) : Prop where
  fresh : before.commands.lookup candidate.command.commandId = none
  decided : candidate = decideHumanControl prints before.snapshot candidate.command facts now
  transitional : candidate.transitional = true
  safe : candidate.reservationAction = .release → before.snapshot.dispatchStarted = false
  committed : ∃ nextJob checkpoint, StagedJob prints before.snapshot candidate facts nextJob ∧
    checkpoint.authoritativeState = candidate.nextState ∧
    checkpoint.stateVersion = before.snapshot.job.stateVersion + 1 ∧
    checkpoint.fenceToken = nextFence before.snapshot candidate nextJob ∧
    after.snapshot = committed prints before.snapshot candidate nextJob checkpoint
  recorded : after.commands = before.commands.insert candidate.command.commandId candidate.command

/-- A dispatch claim, right before its effect. -/
structure Claimed (before after : HumanControlStore) (eventId : String) (facts : CurrentFacts) :
    Prop where
  permit : Dispatchable prints before.snapshot facts
  claimed : ∃ checkpoint,
    checkpoint.authoritativeState = before.snapshot.job.currentCheckpoint.authoritativeState ∧
    checkpoint.stateVersion = before.snapshot.job.stateVersion + 1 ∧
    checkpoint.fenceToken = before.snapshot.job.currentCheckpoint.fenceToken ∧
    after.snapshot = InMemoryHumanControlStore.claimed eventId before.snapshot checkpoint

variable {current : Snapshot}

theorem staged_reservations {command : Command} {facts : CurrentFacts}
    {now : Int} {status : String} {recovery : RecoveryOperation}
    {staged : DurableRecoveryCandidate} {record : DurableAgentJobRecord}
    (staging : Staging current command facts now status recovery staged)
    (written : staged.write sha256 current.job = .ok record) :
    StagedReservations current facts.verifiedUsage record.reservations := by
  rcases DurableRecoveryCandidate.write_ok sha256 written with ⟨adjusted, _, _⟩
  have routed := @decide_routed current.job recovery
    (recoveryRequest current command facts now)
  rcases (decide_answers current.job recovery
    (recoveryRequest current command facts now)).fields with ⟨_, owner, usage⟩
  rw [← staging.decided] at routed owner usage
  have unchanged : staged.reservationAction = .keepHeld →
      record.reservations = current.job.reservations := by
    intro action
    rw [(forall₂_ok_iff (adjust_unchanged (by rw [action]; decide)
      (by rw [action]; decide))).mp adjusted, List.map_id']
  rcases staging.kind with ⟨escalates, _⟩ | ⟨reconciles, _⟩ | ⟨settles, _, reservation, one, held⟩
  · rw [unchanged (routed.1 (.inl escalates)).2]
    exact .kept
  · rw [unchanged (routed.1 (.inr reconciles)).2]
    exact .kept
  · refine .settled reservation _ one held (adjusted.imp fun before after done => ?_)
    have settled := (adjust_settle (routed.2 settles) before after).mp done
    rw [owner, usage] at settled
    exact settled

theorem staged_ok {candidate : HumanControlCandidate}
    {facts : CurrentFacts} {now : Int} {nextJob : DurableAgentJobRecord}
    (decided : candidate = decideHumanControl prints current candidate.command facts now)
    (done : staged sha256 prints current candidate facts = .ok (some nextJob)) :
    StagedJob prints current candidate facts nextJob := by
  have proposal := decide_proposal prints current candidate.command facts now
  rw [← decided] at proposal
  unfold staged at done
  cases planned : candidate.recoveryCandidate with
  | none =>
    rw [planned] at done
    cases Option.some.inj (Except.ok.inj done)
    exact ⟨rfl, .kept, by simp [planned]⟩
  | some recovery =>
    rcases proposal.recovery recovery planned with ⟨_, staging⟩
    rw [planned] at done
    dsimp only at done
    rcases apply_cases sha256 recovery ⟨current.job, []⟩ with
      ⟨refused, _⟩ | ⟨_, _, written, same⟩
    · split at done
      · cases done
      · next answer => exact absurd (congrArg (·.1) answer) refused
      · cases done
    · rw [same] at done
      cases Option.some.inj (Except.ok.inj done)
      have reserved := staged_reservations sha256 staging written
      exact ⟨rfl, reserved, by simp [planned]⟩

variable {failBeforeCommit : Bool}

theorem transition_ok {next : Snapshot} {candidate : HumanControlCandidate} {facts : CurrentFacts}
    (done : transition sha256 prints current candidate facts failBeforeCommit =
      .ok (.ok next)) : failBeforeCommit = false ∧ ∃ nextJob checkpoint,
      staged sha256 prints current candidate facts = .ok (some nextJob) ∧
      unsafeRelease current candidate facts = false ∧
      nextJob.currentCheckpoint.replace ("human:" ++ candidate.command.commandId)
        (current.job.currentCheckpoint.checkpointVersion + 1) candidate.nextState
        (current.job.stateVersion + 1) (nextFence current candidate nextJob)
        (some current.job.currentCheckpoint.checkpointId) = .ok checkpoint ∧
      next = committed prints current candidate nextJob checkpoint := by
  unfold transition at done
  split at done
  · cases done
  · cases done
  next nextJob prepared =>
  split at done
  · cases done
  next safe =>
  split at done
  · cases done
  next checkpoint replaced =>
  split at done
  · cases done
  next committing =>
  cases Except.ok.inj (Except.ok.inj done)
  exact ⟨eq_false_of_ne_true committing, nextJob, checkpoint, prepared, eq_false_of_ne_true safe,
    replaced, rfl⟩

theorem transition_refused {candidate : HumanControlCandidate}
    {facts : CurrentFacts} {status : HumanApplyStatus}
    (done : transition sha256 prints current candidate facts failBeforeCommit =
      .ok (.error status)) : status ≠ .applied := by
  unfold transition at done
  split at done
  · cases done
  · cases Except.error.inj (Except.ok.inj done)
    decide
  split at done
  · cases Except.error.inj (Except.ok.inj done)
    decide
  split at done
  · cases done
  split at done
  · cases done
  · cases Except.ok.inj done

/-- The step lemma of the store. -/
theorem performHuman_cases (call : HumanCall) (store : HumanControlStore) :
    let answer := performHuman sha256 prints call store
    (invoked call answer.1 = false ∧ appliedCandidate call answer.1 = none ∧
        SameBusiness store.snapshot answer.2.snapshot) ∨
      (∃ candidate facts now, call = .apply candidate facts now false ∧
        invoked call answer.1 = false ∧ appliedCandidate call answer.1 = some candidate ∧
        Applied prints store answer.2 candidate facts now) ∨
      ∃ eventId worker fence facts now, call = .dispatchOnce eventId worker fence facts now ∧
        invoked call answer.1 = true ∧ appliedCandidate call answer.1 = none ∧
        Claimed prints store answer.2 eventId facts := by
  cases call with
  | dispatchOnce eventId worker fence facts now =>
    simp only [performHuman]
    unfold dispatchOnce
    dsimp only
    split
    · exact .inl ⟨rfl, rfl, _, _, rfl⟩
    split
    · exact .inl ⟨rfl, rfl, _, _, rfl⟩
    next allowed =>
    split
    · exact .inl ⟨rfl, rfl, _, _, rfl⟩
    · next next replaced =>
      rcases replace_ok replaced with ⟨_, _, _, _, state, version, held, _⟩
      have permit := (decide_proposal prints store.snapshot _ facts now).allowed
        (not_not.mp allowed)
      exact .inr (.inr ⟨eventId, worker, fence, facts, now, rfl, rfl, rfl, permit, next, state,
        version, held, rfl⟩)
  | apply candidate facts now =>
    simp only [performHuman]
    unfold apply
    split
    · refine .inl ⟨rfl, ?_, _, _, rfl⟩
      split <;> rfl
    next fresh =>
    split
    · exact .inl ⟨rfl, rfl, _, _, rfl⟩
    split
    · exact .inl ⟨rfl, rfl, _, _, rfl⟩
    next decided =>
    split
    · split
      · exact .inl ⟨rfl, rfl, _, _, rfl⟩
      · exact .inl ⟨rfl, rfl, _, _, rfl⟩
    next transitional =>
    split
    · exact .inl ⟨rfl, rfl, _, _, rfl⟩
    · next status refused =>
      refine .inl ⟨rfl, ?_, _, _, rfl⟩
      unfold appliedCandidate
      split
      · next same =>
        exact absurd (Except.ok.inj same) (transition_refused sha256 prints refused)
      · rfl
    · next snapshot done =>
      rcases transition_ok sha256 prints done with
        ⟨rfl, nextJob, checkpoint, prepared, safe, replaced, same⟩
      rcases replace_ok replaced with ⟨_, _, _, _, state, version, fence, _⟩
      have planned := (not_not.mp decided).symm
      refine .inr (.inl ⟨candidate, facts, now, rfl, rfl, rfl, fresh, planned,
        not_not.mp transitional, ?_, ⟨nextJob, checkpoint,
          staged_ok sha256 prints planned prepared, state, version, fence, same⟩, rfl⟩)
      intro release
      simp only [unsafeRelease, release, true_and, decide_eq_false_iff_not, not_or] at safe
      exact eq_false_of_ne_true safe.1

end Runs

namespace HumanControl.Sample

-- Nothing in the sample runs depends on what a digest looks like.
def sha256 (text : String) : String := text

def prints : Fingerprints where
  action action := "action:" ++ action.operationId
  decision decision := "decision:" ++ decision.decisionId
  snapshot snapshot := "snapshot:" ++ toString snapshot.job.stateVersion
  bindings bindings := "bindings:" ++ bindings.controllerRelease
  texts values := "|".intercalate values

def bindings : ExecutionBindings :=
  ⟨"controller-v1", "prompt-v3", "provider-v1", "publish_research_report.v1",
    "approval-policy-v6", by decide⟩

theorem checkpoint_identities : "tenant-a" ≠ "" ∧ "J1" ≠ "" ∧ "S1" ≠ "" ∧ "A1" ≠ "" ∧
    "CP1" ≠ "" ∧ "progress-1" ≠ "" := by
  decide

def checkpoint : DurableCheckpoint :=
  { tenantId := "tenant-a", jobId := "J1", stepId := "S1", attemptId := "A1"
    checkpointId := "CP1", checkpointVersion := 1, authoritativeState := .running
    stateVersion := 12, fenceToken := 8, leaseGeneration := 1, bindings
    progressFingerprint := "progress-1", verifiedObservationIds := ["observation-1"]
    reservationIds := ["RES1"], pendingReconciliationIds := []
    identities := checkpoint_identities, versions := by decide, observations := by decide }

theorem reservation_identity : "RES1" ≠ "" ∧ "A1" ≠ "" := by decide

theorem reservation_unsettled : ∀ units ∈ (none : Option Nat), units ≤ 6000 := by simp

def reservation : ReservationRecord :=
  { reservationId := "RES1", attemptId := "A1", reservedUnits := 6000
    identity := reservation_identity, settled_fits := reservation_unsettled }

def job : DurableAgentJobRecord :=
  { tenantId := "tenant-a", jobId := "J1", currentStepId := "S1", currentAttemptId := "A1"
    state := .running, stateVersion := 12, fenceToken := 8, leaseOwner := some "W1"
    leaseExpiryEpochMs := some 1000, leaseGeneration := 1, currentCheckpoint := checkpoint
    reservations := [reservation] }

def action : ActionBinding :=
  { tenantId := "tenant-a", jobId := "J1", stepId := "S1", attemptId := "A1"
    operationId := "op:1", actionType := "publish", toolName := "publish_research_report"
    toolVersion := "v1", argumentsFingerprint := "arguments-1", artifactId := "report-7"
    artifactVersion := "7", requesterId := "requester", policyId := "approval-policy"
    policyVersion := "v6", risk := .high, executionBindingFingerprint := "bindings:controller-v1" }

def request : ApprovalRequest :=
  { requestId := "approval-request-1", binding := action, requestedAt := 10, respondBy := 500
    expiresAt := 800, eligibleRoles := ["Manager"], separationRequired := true
    issuedStateVersion := 12, issuedFence := 8 }

def snapshot : Snapshot := { job, action, request }

def executor : Principal := ⟨"tenant-a", "requester", "publisher", true, ["publish"]⟩

def approver : Principal := ⟨"tenant-a", "manager", "Manager", true, ["control", "approve"]⟩

def worker : Principal := ⟨"tenant-a", "W1", "worker", true, ["control", "operate", "interrupt"]⟩

def owner : Principal := ⟨"tenant-a", "operations", "operator", true, ["operate"]⟩

def recovery : RecoveryOperation := ⟨"recovery-1", "A1", 1, 0, 3, 900, none⟩

def facts : CurrentFacts :=
  { executor, approver, policyAvailable := true, policyId := "approval-policy"
    policyVersion := "v6", policyQuarantined := false, approvalRequired := true
    governance := .allowedToDay74Admission, admissionAllowed := true, businessValid := true
    budgetAllowed := true, certainty := .definitelyNotDispatched, recovery
    policyWaitDeadline := 400, owner, fallbackOwner := { owner with actorId := "backup-operations" }
    ownerAvailable := true, escalationDeadline := 2000 }

/-- The next call of an operator who plans on the snapshot that the earlier calls left. -/
inductive Move
  | plan (operation : Operation) (commandId : String) (actor : Principal)
      (decision : Option ApprovalDecision) (facts : CurrentFacts)
  | dispatch (eventId : String) (facts : CurrentFacts)

def call (store : HumanControlStore) : Move → HumanCall
  | .plan operation commandId actor decision facts =>
    let command : Command :=
      { commandId, operation, actor, decision, expectedState := store.snapshot.job.state
        expectedStateVersion := store.snapshot.job.stateVersion
        expectedFence := store.snapshot.job.fenceToken }
    .apply (decideHumanControl prints store.snapshot command facts 30) facts 30 false
  | .dispatch eventId facts =>
    .dispatchOnce eventId worker store.snapshot.job.fenceToken facts 30

def calls (store : HumanControlStore) : List Move → List HumanCall
  | [] => []
  | move :: moves =>
    call store move :: calls (performHuman sha256 prints (call store move) store).2 moves

def approval : ApprovalDecision :=
  { decisionId := "decision-1", requestId := "approval-request-1"
    bindingFingerprint := "action:op:1", actorId := "manager", tenantId := "tenant-a"
    choice := .approved, decidedAt := 20, reasonCode := "REVIEWED_SYNTHETIC_REPORT" }

def dispatched : List Move :=
  [.plan .decision "callback-1" approver (some approval) facts,
    .plan .gate "publish-intent" worker none facts,
    .dispatch "action:op:1|approval-request-1|PUBLISH|" facts,
    .plan .recover "recover-1" worker none { facts with certainty := .outcomeUnknown }]

end HumanControl.Sample
/-! Whether a dispatched action with an unresolved outcome stays in reconciliation.

The wait for an approval policy is answered before anything asks whether the action was
dispatched. `PolicyWait` is that answer, and the only one that leads out. -/

variable {sha256 : String → String} {prints : Fingerprints}

def Unresolved (store : HumanControlStore) : Prop :=
  store.snapshot.dispatchStarted = true ∧ store.snapshot.job.state = .pendingReconciliation

/-- A new command, planned on the present snapshot, that waits for the policy. -/
def Waits (prints : Fingerprints) (store : HumanControlStore) (call : HumanCall) : Prop :=
  ∃ candidate facts now, call = .apply candidate facts now false ∧
    store.commands.lookup candidate.command.commandId = none ∧
    candidate = decideHumanControl prints store.snapshot candidate.command facts now ∧
    0 ≤ store.snapshot.job.stateVersion + 1 ∧ 0 ≤ store.snapshot.job.fenceToken ∧
    PolicyWait prints store.snapshot candidate.command facts now

variable {candidate : HumanControlCandidate} (status : String)

theorem transitional_of_listed
    (named : candidate.status = status) (listed : status ∈ HumanControlCandidate.transitions)
    (plain : status ∉ HumanControlCandidate.lifecycleChanges) : candidate.transitional = true := by
  simp [HumanControlCandidate.transitional, named, listed, plain]

theorem transitional_of_escalated
    (named : candidate.status = status) (escalated : startsWith status "ESCALATE_" = true) :
    candidate.transitional = true := by
  simp [HumanControlCandidate.transitional, named, escalated]

theorem quiet_of_status
    (named : candidate.status = status) (plain : startsWith status "INTERRUPTED_" = false) :
    candidate.interrupting = false := by
  rw [HumanControlCandidate.interrupting, named, plain]

/-- The answer to a policy wait: a plain transition to WAITING. -/
structure WaitingAnswer (prints : Fingerprints) (snapshot : Snapshot)
    (answer : HumanControlCandidate) : Prop where
  planned : answer.snapshotFingerprint = prints.snapshot snapshot
  nextState : answer.nextState = .waiting
  transitional : answer.transitional = true
  quiet : answer.interrupting = false
  noRecovery : answer.recoveryCandidate = none
  keeps : answer.reservationAction ≠ .release

variable {snapshot : Snapshot} {command : Command} {facts : CurrentFacts} {now : Int}

theorem policyWait_gate (wait : PolicyWait prints snapshot command facts now) :
    WaitingAnswer prints snapshot (decideGate prints snapshot command facts now) := by
  unfold decideGate
  rw [if_neg wait.openJob, if_neg (by rw [wait.uninterrupted]; decide), if_neg wait.approvalOpen,
    if_neg (not_not.mpr wait.requested), if_neg wait.unexpired,
    if_neg (by rw [wait.unquarantined]; decide), if_pos (by rw [wait.unavailable]; decide)]
  by_cases late : facts.policyWaitDeadline ≤ now
  · rw [if_pos late, escalate, if_neg (Int.not_le.mpr (wait.routed late))]
    refine ⟨rfl, rfl,
      transitional_of_escalated "ESCALATE_APPROVAL_POLICY_UNAVAILABLE" (by rfl) (by decide),
      quiet_of_status "ESCALATE_APPROVAL_POLICY_UNAVAILABLE" (by rfl) (by decide), rfl, ?_⟩
    dsimp only
    split <;> decide
  · rw [if_neg late]
    exact ⟨rfl, rfl, transitional_of_listed "POLICY_UNAVAILABLE" rfl (by decide) (by decide),
      quiet_of_status "POLICY_UNAVAILABLE" rfl (by decide), rfl,
      show ReservationAction.noChange ≠ .release by decide⟩

theorem policyWait_answer (wait : PolicyWait prints snapshot command facts now) :
    WaitingAnswer prints snapshot (decideHumanControl prints snapshot command facts now) := by
  have gate := policyWait_gate wait
  unfold decideHumanControl
  rw [if_neg (not_not.mpr wait.wellFormed), if_neg (not_not.mpr wait.controls),
    if_neg (not_not.mpr wait.bound)]
  rcases wait.gate with asked | ⟨asked, callback⟩
  · simp only [asked, decideOperation, if_neg (not_not.mpr wait.upToDate)]
    exact gate
  · simp only [asked, callback, decideOperation, if_neg (not_not.mpr wait.upToDate)]
    exact gate

theorem unresolved_performHuman (call : HumanCall) (store : HumanControlStore)
    (holds : Unresolved store) (closed : ¬ Waits prints store call) :
    Unresolved (performHuman sha256 prints call store).2 := by
  rcases holds with ⟨started, pending⟩
  rcases performHuman_cases sha256 prints call store with
    ⟨_, _, _, _, same⟩ | ⟨candidate, facts, now, called, _, _, applied⟩ |
      ⟨_, _, _, _, _, _, _, _, claim⟩
  · exact ⟨by rw [same]; exact started, by rw [same]; exact pending⟩
  · rcases applied.committed with ⟨nextJob, checkpoint, _, _, version, fence, same⟩
    refine ⟨by rw [same]; exact started, ?_⟩
    have proposal := decide_proposal prints store.snapshot candidate.command facts now
    rw [← applied.decided] at proposal
    rw [same]
    rcases proposal.unresolved started pending with stays | waits
    · exact stays
    · have answer := policyWait_answer waits
      rw [← applied.decided] at answer
      have level : nextFence store.snapshot candidate nextJob = store.snapshot.job.fenceToken := by
        simp [nextFence, answer.noRecovery, answer.quiet]
      have counted := checkpoint.versions
      rw [version, fence, level] at counted
      exact absurd ⟨candidate, facts, now, called, applied.fresh, applied.decided, counted.2.1,
        counted.2.2.1, waits⟩ closed
  · have undispatched := claim.permit.undispatched
    rw [started] at undispatched
    cases undispatched

theorem waits_leaves {call : HumanCall} {store : HumanControlStore}
    (waits : Waits prints store call) :
    (performHuman sha256 prints call store).2.snapshot.job.state = .waiting := by
  rcases waits with ⟨candidate, facts, now, rfl, fresh, decided, version, fence, wait⟩
  have answer := policyWait_answer wait
  rw [← decided] at answer
  have prepared : staged sha256 prints store.snapshot candidate facts =
      .ok (some store.snapshot.job) := by
    simp [staged, answer.noRecovery]
  have level : nextFence store.snapshot candidate store.snapshot.job =
      store.snapshot.job.fenceToken := by
    simp [nextFence, answer.quiet]
  have counted : 0 ≤ store.snapshot.job.currentCheckpoint.checkpointVersion + 1 := by
    have bounds := store.snapshot.job.currentCheckpoint.versions
    omega
  have named : "human:" ++ candidate.command.commandId ≠ "" := by
    intro empty
    have letters := congrArg String.toList empty
    simp at letters
  rcases replace_succeeds store.snapshot.job.currentCheckpoint
    candidate.nextState (some store.snapshot.job.currentCheckpoint.checkpointId) named
    ⟨counted, version, level ▸ fence⟩ with ⟨checkpoint, replaced⟩
  have moved : transition sha256 prints store.snapshot candidate facts false =
      .ok (.ok (committed prints store.snapshot candidate store.snapshot.job checkpoint)) := by
    simp [transition, prepared, unsafeRelease, answer.keeps, replaced]
  have done : performHuman sha256 prints (.apply candidate facts now false) store =
      (.ok .applied, ⟨committed prints store.snapshot candidate store.snapshot.job checkpoint,
        store.commands.insert candidate.command.commandId candidate.command⟩) := by
    simp [performHuman, apply, fresh, answer.planned, ← decided, answer.transitional, moved]
  rw [done]
  exact answer.nextState

/-- Unresolved jobs stay in reconciliation exactly when none of them waits for a policy. -/
theorem unresolved_permanent_iff (sha256 : String → String) (prints : Fingerprints)
    (snapshot : Snapshot) (calls : List HumanCall) :
    Permanent (performHuman sha256 prints) Unresolved ⟨snapshot, ∅⟩ calls ↔
      ∀ e ∈ trace (performHuman sha256 prints) ⟨snapshot, ∅⟩ calls,
        Unresolved e.before → ¬ Waits prints e.before e.call := by
  rw [permanent_iff]
  constructor
  · intro stays e member holds waits
    have after := (stays e member holds).2
    rw [(mem_trace_performed member).2, waits_leaves waits] at after
    cases after
  · intro closed e member holds
    rw [(mem_trace_performed member).2]
    exact unresolved_performHuman e.call e.before holds (closed e member holds)

/-- The dispatched sample job, and a gate command while the policy is unavailable. -/
def reopening : List HumanCall :=
  HumanControl.Sample.calls ⟨HumanControl.Sample.snapshot, ∅⟩ (HumanControl.Sample.dispatched ++
    [.plan .gate "gate-2" HumanControl.Sample.worker none
      { HumanControl.Sample.facts with policyAvailable := false }])

theorem policy_wait_reopens :
    ¬ Permanent (performHuman HumanControl.Sample.sha256 HumanControl.Sample.prints) Unresolved
      ⟨HumanControl.Sample.snapshot, ∅⟩ reopening := by
  intro permanent
  have parts : reopening = reopening.take 4 ++ (reopening.drop 4 ++ []) := by
    rw [List.append_nil, List.take_append_drop]
  have reached : Unresolved (final
      (performHuman HumanControl.Sample.sha256 HumanControl.Sample.prints)
      ⟨HumanControl.Sample.snapshot, ∅⟩ (reopening.take 4)) := by
    constructor <;> decide +kernel
  have still := permanent (reopening.take 4) (reopening.drop 4) [] parts reached
  rw [List.take_append_drop] at still
  have left : (final (performHuman HumanControl.Sample.sha256 HumanControl.Sample.prints)
      ⟨HumanControl.Sample.snapshot, ∅⟩ reopening).snapshot.job.state = .waiting := by
    decide +kernel
  rw [still.2] at left
  cases left

end BackendHandbook.Agents
