import BackendHandbook.Agents.DurableRecovery
import BackendHandbook.Agents.HumanControl

/-! What every answer of `decideHumanControl` respects, whichever branch it comes from. -/

namespace BackendHandbook.Agents

namespace HumanControl

open Text

section Specification

variable (prints : Fingerprints) (snapshot : Snapshot) (command : Command)
  (facts : CurrentFacts) (now : Int)

structure Dispatchable : Prop where
  openJob : snapshot.job.state ∉ terminalStates
  uninterrupted : truthy snapshot.interruptId = false
  approvalOpen : snapshot.approval ∉ closedApprovals
  undispatched : snapshot.dispatchStarted = false
  held : held snapshot = true
  approved : snapshot.action.risk = .high →
    ∃ decision ∈ snapshot.decisions, approvedBy prints snapshot facts decision

/-- The recovery that an answer with this status stages. -/
structure Staging (status : String) (recovery : RecoveryOperation)
    (staged : DurableRecoveryCandidate) : Prop where
  decided : staged =
    decideDurableRecovery snapshot.job recovery (recoveryRequest snapshot command facts now)
  owned : (recoveryInForce snapshot.job snapshot.action.attemptId facts.recovery).sourceAttemptId =
    snapshot.action.attemptId
  kind : (staged.decision = .escalate ∧ status = "ESCALATE_BOUNDED_RECOVERY_EXHAUSTED") ∨
    (staged.decision = .reconcile ∧ status = "RECONCILE" ∧
      (recoveryInForce snapshot.job snapshot.action.attemptId facts.recovery).attemptsUsed <
        (recoveryInForce snapshot.job snapshot.action.attemptId facts.recovery).attemptLimit) ∨
    (staged.decision = .settle ∧ status = "SETTLE" ∧ ∃ reservation,
      attemptReservations snapshot = [reservation] ∧ reservation.status = .held)

/-- The wait for an approval policy, at a snapshot that nothing else holds back. -/
structure PolicyWait : Prop where
  wellFormed : wellFormed snapshot command now
  controls : permitted command.actor snapshot.action.tenantId "control" = true
  bound : bindingHolds prints snapshot
  upToDate : upToDate snapshot command
  gate : command.operation = .gate ∨
    command.operation = .decision ∧ decideCallback prints snapshot command facts now = none
  openJob : snapshot.job.state ∉ terminalStates
  uninterrupted : truthy snapshot.interruptId = false
  approvalOpen : snapshot.approval ∉ closedApprovals
  requested : snapshot.request.binding = snapshot.action
  unexpired : ¬ (snapshot.request.expiresAt ≤ now ∧ facts.approvalRequired = true)
  unquarantined : facts.policyQuarantined = false
  unavailable : facts.policyAvailable = false
  routed : facts.policyWaitDeadline ≤ now → now < facts.escalationDeadline

structure Proposal (answer : HumanControlCandidate) : Prop where
  command_eq : answer.command = command
  approval : snapshot.approval ∈ closedApprovals → answer.approvalStatus ∈ closedApprovals
  terminal : snapshot.job.state ∈ terminalStates → answer.nextState = snapshot.job.state
  allowed : answer.executionAllowed = true → Dispatchable prints snapshot facts
  publish : answer.outboxAction = "PUBLISH" → answer.escalation = none
  recovery : ∀ staged, answer.recoveryCandidate = some staged →
    ∃ recovery, Staging snapshot command facts now answer.status recovery staged
  reconcile : answer.status = "RECONCILE" → answer.recoveryCandidate.isSome = true
  unresolved : snapshot.dispatchStarted = true → snapshot.job.state = .pendingReconciliation →
    answer.nextState = .pendingReconciliation ∨ PolicyWait prints snapshot command facts now

variable {prints snapshot command facts now}

theorem result_proposal (status : String) (plain : (status == "RECONCILE") = false) :
    Proposal prints snapshot command facts now (result prints snapshot command facts status) where
  command_eq := rfl
  approval := id
  terminal := fun _ => rfl
  allowed := fun permit => by cases permit
  publish := fun _ => rfl
  recovery := fun _ staged => by cases staged
  reconcile := fun same => absurd same (ne_of_beq_false plain)
  unresolved := fun _ pending => .inl pending

theorem noted_proposal (status : String) (evidence : List String)
    (plain : (status == "RECONCILE") = false) : Proposal prints snapshot command facts now
      (noted prints snapshot command facts status evidence) :=
  { result_proposal status plain with }

theorem ite_proposal {chosen : Prop} [Decidable chosen] {one other : HumanControlCandidate}
    (first : chosen → Proposal prints snapshot command facts now one)
    (second : ¬ chosen → Proposal prints snapshot command facts now other) :
    Proposal prints snapshot command facts now (if chosen then one else other) :=
  iteInduction first second

/-- A guard that only reports is passed. -/
theorem refused_proposal {refused : Prop} [Decidable refused] {status : String}
    {other : HumanControlCandidate} (plain : (status == "RECONCILE") = false)
    (passed : ¬ refused → Proposal prints snapshot command facts now other) :
    Proposal prints snapshot command facts now
      (if refused then result prints snapshot command facts status else other) :=
  ite_proposal (fun _ => result_proposal status plain) passed

variable (reason : String)

theorem escalated_ne_reconcile : "ESCALATE_" ++ reason ≠ "RECONCILE" := by
  intro same
  have letters := congrArg String.toList same
  simp at letters

variable {approval : ApprovalStatus}

theorem escalate_proposal {state : AgentState}
    {recovery : Option DurableRecoveryCandidate} (evidence : List String)
    (closes : snapshot.approval ∈ closedApprovals → approval ∈ closedApprovals)
    (ends : snapshot.job.state ∈ terminalStates → state = snapshot.job.state)
    (stages : ∀ staged, recovery = some staged →
      ∃ operation, Staging snapshot command facts now ("ESCALATE_" ++ reason) operation staged)
    (waits : now < facts.escalationDeadline → snapshot.dispatchStarted = true →
      snapshot.job.state = .pendingReconciliation →
      state = .pendingReconciliation ∨ PolicyWait prints snapshot command facts now) :
    Proposal prints snapshot command facts now
      (escalate prints snapshot command facts now reason state approval recovery evidence) := by
  apply refused_proposal rfl
  · intro inTime
    exact {
      command_eq := rfl, approval := closes, terminal := ends
      allowed := fun permit => by cases permit
      publish := fun other => absurd other (show "ESCALATION_ALERT" ≠ "PUBLISH" by decide)
      recovery := stages
      reconcile := fun same => absurd same (escalated_ne_reconcile reason)
      unresolved := waits (Int.not_le.mp inTime) }

theorem escalate_keeps (evidence : List String)
    (closes : snapshot.approval ∈ closedApprovals → approval ∈ closedApprovals) :
    Proposal prints snapshot command facts now (escalate prints snapshot command facts now reason
      snapshot.job.state approval none evidence) :=
  escalate_proposal reason evidence closes (fun _ => rfl) (fun _ staged => by cases staged)
    (fun _ _ pending => .inl pending)

theorem decideLateResult_proposal : Proposal prints snapshot command facts now
      (decideLateResult prints snapshot command facts) := by
  apply refused_proposal rfl
  · intro _
    have base : Proposal prints snapshot command facts now (result prints snapshot command facts
        (if command.sourceFence ≠ some snapshot.job.fenceToken ∨
          some command.actor.actorId ≠ snapshot.job.leaseOwner ∨
          snapshot.job.state ∈ terminalStates then "STALE_RESULT_EVIDENCE"
          else "RESULT_EVIDENCE")) :=
      result_proposal _ (by split <;> decide)
    exact { base with }

theorem decideCallback_proposal {answer : HumanControlCandidate}
    (decided : decideCallback prints snapshot command facts now = some answer) :
    Proposal prints snapshot command facts now answer := by
  unfold decideCallback at decided
  cases given : command.decision with
  | none =>
    rw [given] at decided
    cases Option.some.inj decided
    exact result_proposal _ rfl
  | some =>
    rw [given] at decided
    dsimp only at decided
    split at decided
    · cases Option.some.inj decided
      exact result_proposal _ rfl
    split at decided
    · cases Option.some.inj decided
      exact result_proposal _ rfl
    split at decided
    · cases decided
    split at decided
    · cases Option.some.inj decided
      exact noted_proposal _ _ rfl
    · cases Option.some.inj decided
      exact escalate_keeps _ _ (fun _ => by decide)

/-- The conditions under which a recovery operation may stage a recovery. -/
structure Reconcilable (recovery : RecoveryOperation) : Prop where
  owned : (recoveryInForce snapshot.job snapshot.action.attemptId facts.recovery).sourceAttemptId =
    snapshot.action.attemptId
  counted : facts.certainty = .outcomeUnknown →
    recovery = recoveryInForce snapshot.job snapshot.action.attemptId facts.recovery
  settled : facts.verifiedUsage ≠ none → ∃ reservation,
    attemptReservations snapshot = [reservation] ∧ reservation.status = .held

variable {recovery : RecoveryOperation}

theorem decideReconciliation_proposal (reconcilable : @Reconcilable snapshot facts recovery) :
    Proposal prints snapshot command facts now
      (decideReconciliation prints snapshot command facts now recovery) := by
  apply refused_proposal rfl
  intro _
  have routed : Routed snapshot.job.state _ := @decide_routed snapshot.job recovery
    (recoveryRequest snapshot command facts now)
  have queried : Queried recovery (recoveryRequest snapshot command facts now) _ :=
    @decide_queried snapshot.job _ _
  have ends : snapshot.job.state ∈ terminalStates → Stays snapshot.job.state _ :=
    decide_terminal recovery (recoveryRequest snapshot command facts now)
  have settles := (@decide_eq_settle_iff snapshot.job recovery
    (recoveryRequest snapshot command facts now)).mp
  generalize decided : decideDurableRecovery snapshot.job recovery
    (recoveryRequest snapshot command facts now) = staged at routed queried ends settles ⊢
  have waits : staged.decision = .escalate ∨ staged.decision = .reconcile →
      snapshot.job.state = .pendingReconciliation → staged.nextState = .pendingReconciliation := by
    intro kept pending
    rw [(routed.1 kept).1, pending]
    rfl
  apply ite_proposal
  · intro exhausted
    apply escalate_proposal _ _ id ends
    · intro other same
      cases Option.some.inj same
      exact ⟨recovery, decided.symm, reconcilable.owned, .inl ⟨exhausted, by decide⟩⟩
    · exact fun _ _ pending => .inl (waits (.inl exhausted) pending)
  intro _
  apply ite_proposal
  · intro reconciles
    rcases queried reconciles with ⟨left, unknown⟩
    rw [reconcilable.counted unknown] at left
    exact {
      command_eq := rfl, approval := id, terminal := ends
      allowed := fun permit => by cases permit
      publish := fun _ => rfl
      recovery := fun other same => by
        cases Option.some.inj same
        exact ⟨recovery, decided.symm, reconcilable.owned, .inr (.inl ⟨reconciles, rfl, left⟩)⟩
      reconcile := fun _ => rfl
      unresolved := fun _ pending => .inl (waits (.inr reconciles) pending) }
  intro _
  apply ite_proposal
  · intro settling
    have used : facts.verifiedUsage ≠ none :=
      Option.isSome_iff_ne_none.mp (settles (routed.2 settling)).usage
    exact {
      command_eq := rfl, approval := id
      terminal := fun _ => rfl
      allowed := fun permit => by cases permit
      publish := fun _ => rfl
      recovery := fun other same => by
        cases Option.some.inj same
        exact ⟨recovery, decided.symm, reconcilable.owned,
          .inr (.inr ⟨settling, rfl, reconcilable.settled used⟩)⟩
      reconcile := fun _ => rfl
      unresolved := fun _ pending => .inl pending }
  · exact fun _ => result_proposal _ rfl

theorem decideSettlement_proposal {usage : Int}
    (owned : (recoveryInForce snapshot.job snapshot.action.attemptId
      facts.recovery).sourceAttemptId = snapshot.action.attemptId) :
    Proposal prints snapshot command facts now
      (decideSettlement prints snapshot command facts now recovery usage) := by
  apply refused_proposal rfl
  intro evidence
  have certain : facts.certainty = .verifiedTerminal := not_not.mp (not_or.mp evidence).1
  split
  · next reservation one =>
    apply refused_proposal rfl
    intro _
    split
    · apply refused_proposal rfl
      · exact fun _ => escalate_keeps _ _ id
    · exact escalate_keeps _ _ id
    · next status =>
      apply decideReconciliation_proposal
      refine ⟨owned, ?_, fun _ => ⟨reservation, one, status⟩⟩
      intro unknown
      rw [certain] at unknown
      cases unknown
  · exact result_proposal _ rfl

theorem decideRecover_proposal : Proposal prints snapshot command facts now
      (decideRecover prints snapshot command facts now) := by
  apply refused_proposal rfl
  intro authorized
  have owned := not_not.mp (not_or.mp (not_or.mp authorized).2).1
  split
  · exact decideSettlement_proposal owned
  · next noUsage =>
    apply decideReconciliation_proposal
    exact ⟨owned, fun _ => rfl, fun used => absurd noUsage used⟩

theorem decideObserveCancel_proposal : Proposal prints snapshot command facts now
      (decideObserveCancel prints snapshot command facts) := by
  apply refused_proposal rfl
  · exact fun _ => noted_proposal _ _ rfl

theorem decideInterrupt_proposal : Proposal prints snapshot command facts now
      (decideInterrupt prints snapshot command facts) := by
  apply refused_proposal rfl
  intro _
  apply refused_proposal rfl
  intro _
  have base : Proposal prints snapshot command facts now (result prints snapshot command facts
      (if unused snapshot facts then "INTERRUPTED_PRE_DISPATCH"
        else "INTERRUPTED_POST_DISPATCH")) :=
    result_proposal _ (by split <;> decide)
  refine { base with terminal := fun ended => if_pos ended, unresolved := ?_ }
  intro started pending
  simp [pending, unused, started]

theorem decideInvalidate_proposal : Proposal prints snapshot command facts now
      (decideInvalidate prints snapshot command facts) := by
  unfold decideInvalidate
  split
  · exact result_proposal _ rfl
  · next target _ =>
    apply refused_proposal rfl
    intro allowed
    have listed := not_not.mp (not_or.mp allowed).2
    have closes : target ∈ closedApprovals := by
      revert listed
      cases target <;> decide
    have base : Proposal prints snapshot command facts now
        (result prints snapshot command facts ("APPROVAL_" ++ target.value)) :=
      result_proposal _ (by cases target <;> decide)
    exact { base with approval := fun _ => closes }

section Gate

variable (openJob : snapshot.job.state ∉ terminalStates)
  (uninterrupted : truthy snapshot.interruptId = false)
  (approvalOpen : snapshot.approval ∉ closedApprovals)

include approvalOpen in
theorem decideDecision_proposal (decision : ApprovalDecision) :
    Proposal prints snapshot command facts now
      (decideDecision prints snapshot command facts now decision) := by
  unfold decideDecision
  apply refused_proposal rfl
  intro _
  apply refused_proposal rfl
  intro _
  apply refused_proposal rfl
  intro _
  apply ite_proposal
  · exact fun _ => escalate_keeps _ _ (fun _ => by decide)
  · intro _
    have base : Proposal prints snapshot command facts now
        (result prints snapshot command facts "DECISION_RECORDED") :=
      result_proposal _ rfl
    exact { base with approval := fun closed => absurd closed approvalOpen }

include openJob uninterrupted approvalOpen

theorem executionCandidate_proposal (undispatched : snapshot.dispatchStarted = false)
    (holds : held snapshot = true) (approved : snapshot.action.risk = .high →
      ∃ decision ∈ snapshot.decisions, approvedBy prints snapshot facts decision) :
    Proposal prints snapshot command facts now
      (executionCandidate prints snapshot command facts) := by
  have base : Proposal prints snapshot command facts now
      (result prints snapshot command facts "EXECUTION_CANDIDATE") :=
    result_proposal _ rfl
  refine { base with
    approval := fun closed => absurd closed approvalOpen
    terminal := fun ended => absurd ended openJob
    allowed := fun _ => ⟨openJob, uninterrupted, approvalOpen, undispatched, holds, approved⟩
    publish := fun _ => rfl
    unresolved := ?_ }
  intro started
  rw [undispatched] at started
  cases started

theorem decideApproved_proposal (undispatched : snapshot.dispatchStarted = false)
    (holds : held snapshot = true)
    (required : snapshot.action.risk = .high → facts.approvalRequired = true) :
    Proposal prints snapshot command facts now
      (decideApproved prints snapshot command facts now) := by
  have notStarted : ∀ {P : Prop}, snapshot.dispatchStarted = true → P := by
    intro P started
    rw [undispatched] at started
    cases started
  apply ite_proposal
  · intro _
    apply ite_proposal
    · intro _
      apply ite_proposal
      · intro _
        exact escalate_proposal _ _ id (fun ended => absurd ended openJob)
          (fun _ staged => by cases staged) (fun _ started => notStarted started)
      · intro _
        have base : Proposal prints snapshot command facts now
            (result prints snapshot command facts "APPROVAL_PENDING") :=
          result_proposal _ rfl
        exact { base with
          terminal := fun ended => absurd ended openJob
          publish := fun _ => rfl
          unresolved := fun started => notStarted started }
    · intro _
      split
      · exact result_proposal _ rfl
      · next approved others recorded =>
        apply refused_proposal rfl
        · intro stands
          apply executionCandidate_proposal openJob uninterrupted approvalOpen undispatched holds
          intro _
          exact ⟨approved, by rw [recorded]; exact List.mem_cons_self, not_not.mp stands⟩
  · intro optional
    apply executionCandidate_proposal openJob uninterrupted approvalOpen undispatched holds
    exact fun high => absurd (required high) optional

theorem decideExecution_proposal
    (required : snapshot.action.risk = .high → facts.approvalRequired = true) :
    Proposal prints snapshot command facts now
      (decideExecution prints snapshot command facts now) := by
  apply ite_proposal
  · intro _
    have base : Proposal prints snapshot command facts now
        (result prints snapshot command facts "AUTHORIZATION_REVOKED") :=
      result_proposal _ rfl
    exact { base with }
  intro _
  apply refused_proposal rfl
  intro _
  apply refused_proposal rfl
  intro _
  apply refused_proposal rfl
  intro _
  apply refused_proposal rfl
  intro _
  apply refused_proposal rfl
  intro undispatched
  apply refused_proposal rfl
  intro _
  apply refused_proposal rfl
  intro holds
  exact decideApproved_proposal openJob uninterrupted approvalOpen
    (eq_false_of_ne_true undispatched) (not_not.mp holds) required

end Gate

section

variable (valid : wellFormed snapshot command now)
  (controls : permitted command.actor snapshot.action.tenantId "control" = true)
  (bound : bindingHolds prints snapshot)
include valid controls bound

theorem decideGate_proposal (current : upToDate snapshot command)
    (gate : command.operation = .gate ∨
      command.operation = .decision ∧ decideCallback prints snapshot command facts now = none) :
    Proposal prints snapshot command facts now (decideGate prints snapshot command facts now) := by
  apply ite_proposal
  · exact fun _ => noted_proposal _ _ rfl
  intro openJob
  apply refused_proposal rfl
  intro uninterrupted
  apply ite_proposal
  · exact fun _ => result_proposal _ (by cases snapshot.approval <;> decide)
  intro approvalOpen
  apply ite_proposal
  · exact fun _ => noted_proposal _ _ rfl
  intro requested
  apply ite_proposal
  · intro _
    have base : Proposal prints snapshot command facts now
        (noted prints snapshot command facts "APPROVAL_EXPIRED" ["no_silent_renewal"]) :=
      noted_proposal _ _ rfl
    have closed : ApprovalStatus.expired ∈ closedApprovals := by decide
    exact { base with approval := fun _ => closed }
  intro unexpired
  apply ite_proposal
  · exact fun _ => noted_proposal _ _ rfl
  intro unquarantined
  have waiting : facts.policyAvailable ≠ true →
      (facts.policyWaitDeadline ≤ now → now < facts.escalationDeadline) →
      PolicyWait prints snapshot command facts now := fun unavailable routed =>
    ⟨valid, controls, bound, current, gate, openJob, eq_false_of_ne_true uninterrupted,
      approvalOpen, not_not.mp requested, unexpired, eq_false_of_ne_true unquarantined,
      eq_false_of_ne_true unavailable, routed⟩
  apply ite_proposal
  · intro unavailable
    apply ite_proposal
    · intro _
      exact escalate_proposal _ _ id (fun ended => absurd ended openJob)
        (fun _ staged => by cases staged)
        (fun routed _ _ => .inr (waiting unavailable fun _ => routed))
    · intro early
      have base : Proposal prints snapshot command facts now
          (result prints snapshot command facts "POLICY_UNAVAILABLE") :=
        result_proposal _ rfl
      exact { base with
        terminal := fun ended => absurd ended openJob
        unresolved := fun _ _ => .inr (waiting unavailable fun late => absurd late early) }
  intro _
  apply refused_proposal rfl
  intro _
  apply refused_proposal rfl
  intro consistent
  have required : snapshot.action.risk = .high → facts.approvalRequired = true :=
    fun high => not_not.mp fun optional => consistent ⟨high, optional⟩
  split
  · exact decideDecision_proposal approvalOpen _
  · exact decideExecution_proposal openJob (eq_false_of_ne_true uninterrupted) approvalOpen required

theorem decideOperation_proposal (asked : command.operation ≠ .lateResult)
    (callback : command.operation = .decision →
      decideCallback prints snapshot command facts now = none) :
    Proposal prints snapshot command facts now
      (decideOperation prints snapshot command facts now) := by
  apply ite_proposal
  · exact fun _ => noted_proposal _ _ rfl
  intro current
  cases operation : command.operation with
  | recover => exact decideRecover_proposal
  | observeCancel => exact decideObserveCancel_proposal
  | interrupt => exact decideInterrupt_proposal
  | invalidate => exact decideInvalidate_proposal
  | gate => exact decideGate_proposal valid controls bound (not_not.mp current) (.inl operation)
  | decision =>
    exact decideGate_proposal valid controls bound (not_not.mp current)
      (.inr ⟨operation, callback operation⟩)
  | lateResult => exact absurd operation asked

end

end Specification

theorem decide_proposal (prints : Fingerprints) (snapshot : Snapshot) (command : Command)
    (facts : CurrentFacts) (now : Int) : Proposal prints snapshot command facts now
      (decideHumanControl prints snapshot command facts now) := by
  apply ite_proposal
  · exact fun _ => noted_proposal _ _ rfl
  intro valid
  apply refused_proposal rfl
  intro controls
  apply refused_proposal rfl
  intro bound
  have operate := @decideOperation_proposal prints snapshot command facts now (not_not.mp valid)
    (not_not.mp controls) (not_not.mp bound)
  cases operation : command.operation with
  | lateResult => exact decideLateResult_proposal
  | decision =>
    cases callback : decideCallback prints snapshot command facts now with
    | some =>
      exact decideCallback_proposal callback
    | none =>
      exact operate (by rw [operation]; decide) fun _ => callback
  | gate | recover | observeCancel | interrupt | invalidate =>
    refine operate (by rw [operation]; decide) fun other => ?_
    rw [operation] at other
    cases other

theorem decide_named {prints : Fingerprints} {snapshot : Snapshot} {command : Command}
    {facts : CurrentFacts} {now : Int}
    (accepted : (decideHumanControl prints snapshot command facts now).status ≠ "INVALID_FACTS") :
    command.commandId ≠ "" := by
  intro unnamed
  apply accepted
  have invalid : ¬ wellFormed snapshot command now := fun valid => valid.1 unnamed
  unfold decideHumanControl
  rw [if_pos invalid]
  rfl

end HumanControl
end BackendHandbook.Agents
