import BackendHandbook.Agents.HumanRuns
import BackendHandbook.Agents.ReservationAccounting

/-! The external effect of an action: invoked at most once, under every guard, and never
followed by a release. -/

namespace BackendHandbook.Agents

open Text Fallible Run HumanControl InMemoryHumanControlStore

variable (sha256 : String → String) (prints : Fingerprints)

def Interrupts (e : Event HumanControlStore HumanCall HumanCall.Response) : Prop :=
  ∃ candidate, appliedCandidate e.call e.response = some candidate ∧ candidate.interrupting = true

/-- What holds when the effect runs, right after its claim. -/
structure EffectGuarded (prints : Fingerprints) (snapshot : Snapshot) : Prop where
  uninterrupted : truthy snapshot.interruptId = false
  approvalOpen : snapshot.approval ∉ closedApprovals
  approved : snapshot.action.risk = .high → ∃ decision ∈ snapshot.decisions,
    decision.choice = .approved ∧
    decision.bindingFingerprint = prints.action snapshot.action ∧
    decision.requestId = snapshot.request.requestId
  held : ∃ reservation ∈ snapshot.job.reservations,
    reservation.attemptId = snapshot.action.attemptId ∧ reservation.status = .held

structure DispatchSafe (snapshot : Snapshot) (calls : List HumanCall) : Prop where
  once : (trace (performHuman sha256 prints) ⟨snapshot, ∅⟩ calls).countP
    (fun e => invoked e.call e.response) ≤ 1
  guarded : ∀ front e back, trace (performHuman sha256 prints) ⟨snapshot, ∅⟩ calls =
    front ++ e :: back → invoked e.call e.response = true →
    (∀ earlier ∈ front, ¬ Interrupts earlier) ∧ EffectGuarded prints e.after.snapshot
  unreleased : ∀ front e back, trace (performHuman sha256 prints) ⟨snapshot, ∅⟩ calls =
    front ++ e :: back → invoked e.call e.response = true → ∀ later ∈ back, ∀ (index : Nat)
    (before after : ReservationRecord),
    later.before.snapshot.job.reservations[index]? = some before →
    later.after.snapshot.job.reservations[index]? = some after →
    before.status ≠ .released → after.status ≠ .released

variable {sha256 prints}

variable {candidate : HumanControlCandidate}

theorem Applied.interrupted {before after : HumanControlStore} {facts : CurrentFacts} {now : Int}
    (applied : Applied prints before after candidate facts now)
    (interrupting : candidate.interrupting = true) : truthy after.snapshot.interruptId = true := by
  rcases applied.committed with ⟨_, _, _, _, _, _, same⟩
  have named : candidate.command.commandId ≠ "" := by
    apply @decide_named prints before.snapshot candidate.command facts now
    rw [← applied.decided]
    intro refused
    rw [HumanControlCandidate.interrupting, refused] at interrupting
    revert interrupting
    decide
  rw [same]
  simp only [InMemoryHumanControlStore.committed, interrupting, truthy]
  simpa using named

variable {snapshot : Snapshot} {calls : List HumanCall}
  (e : Event HumanControlStore HumanCall HumanCall.Response)

section

variable (member : e ∈ trace (performHuman sha256 prints) ⟨snapshot, ∅⟩ calls)
include member

theorem event_cases_human :
    (invoked e.call e.response = false ∧ appliedCandidate e.call e.response = none ∧
        SameBusiness e.before.snapshot e.after.snapshot) ∨
      (∃ candidate facts now, e.call = .apply candidate facts now false ∧
        invoked e.call e.response = false ∧ appliedCandidate e.call e.response = some candidate ∧
        Applied prints e.before e.after candidate facts now) ∨
      ∃ eventId worker fence facts now, e.call = .dispatchOnce eventId worker fence facts now ∧
        invoked e.call e.response = true ∧ appliedCandidate e.call e.response = none ∧
        Claimed prints e.before e.after eventId facts := by
  rcases mem_trace_performed member with
    ⟨response, after⟩
  rw [response, after]
  exact performHuman_cases sha256 prints e.call e.before

theorem flags_kept :
    (e.before.snapshot.dispatchStarted = true → e.after.snapshot.dispatchStarted = true) ∧
      (truthy e.before.snapshot.interruptId = true →
        truthy e.after.snapshot.interruptId = true) := by
  rcases event_cases_human e member with
    ⟨_, _, _, _, same⟩ | ⟨candidate, _, _, _, _, _, applied⟩ |
      ⟨_, _, _, _, _, _, _, _, claim⟩
  · rw [same]
    exact ⟨id, id⟩
  · rcases applied.committed with ⟨_, checkpoint, _, _, _, _, same⟩
    refine ⟨fun started => by rw [same]; exact started, fun set => ?_⟩
    by_cases interrupting : candidate.interrupting = true
    · exact applied.interrupted interrupting
    · rw [same]
      simp only [committed, interrupting]
      exact set
  · rcases claim.claimed with ⟨_, _, _, _, same⟩
    rw [same]
    exact ⟨fun _ => rfl, id⟩

theorem claimed_flag (invokes : invoked e.call e.response = true) :
    e.before.snapshot.dispatchStarted = false ∧ e.after.snapshot.dispatchStarted = true ∧
      EffectGuarded prints e.after.snapshot ∧ truthy e.before.snapshot.interruptId = false := by
  rcases event_cases_human e member with
    ⟨other, _⟩ | ⟨_, _, _, _, other, _⟩ | ⟨_, _, _, _, _, _, _, _, claim⟩
  · rw [other] at invokes
    cases invokes
  · rw [other] at invokes
    cases invokes
  · rcases claim.claimed with ⟨_, _, _, _, same⟩
    have permit := claim.permit
    refine ⟨permit.undispatched, by rw [same]; rfl, ?_, permit.uninterrupted⟩
    rw [same]
    refine ⟨permit.uninterrupted, permit.approvalOpen, ?_, ?_⟩
    · intro high
      rcases permit.approved high with ⟨decision, recorded, stands⟩
      exact ⟨decision, recorded, stands.1, stands.2.1, stands.2.2.1⟩
    · rcases List.any_eq_true.mp permit.held with ⟨reservation, inside, holds⟩
      simp only [Bool.and_eq_true, beq_iff_eq] at holds
      exact ⟨reservation, inside, holds⟩

end

theorem nextReservations_of_safe {current : Snapshot}
    (keeps : candidate.reservationAction ≠ .release) (reservations : List ReservationRecord) :
    nextReservations current candidate reservations = reservations :=
  if_neg keeps

theorem unreleased_step (e : Event HumanControlStore HumanCall HumanCall.Response)
    (member : e ∈ trace (performHuman sha256 prints) ⟨snapshot, ∅⟩ calls)
    (started : e.before.snapshot.dispatchStarted = true) :
    List.Forall₂ (fun before after : ReservationRecord =>
        before.status ≠ .released → after.status ≠ .released)
      e.before.snapshot.job.reservations e.after.snapshot.job.reservations := by
  rcases event_cases_human e member with
    ⟨_, _, _, _, same⟩ | ⟨candidate, _, _, _, _, _, applied⟩ |
      ⟨_, _, _, _, _, _, _, _, claim⟩
  · rw [same]
    exact List.forall₂_same.mpr fun _ _ => id
  · rcases applied.committed with ⟨nextJob, checkpoint, prepared, _, _, _, same⟩
    have keeps : candidate.reservationAction ≠ .release := fun release => by
      rw [applied.safe release] at started
      cases started
    have after : e.after.snapshot.job.reservations = nextJob.reservations := by
      rw [same]
      exact nextReservations_of_safe keeps _
    rw [after]
    have reserved := prepared.reservations
    generalize nextJob.reservations = reservations at reserved ⊢
    cases reserved with
    | kept => exact List.forall₂_same.mpr fun _ _ => id
    | settled _ _ _ _ settles =>
      refine settles.imp fun before after settle unreleased => ?_
      unfold Settles at settle
      split at settle
      · rcases settle_eq_ok.mp settle with ⟨_, _, _, status, _⟩
        rw [status]
        decide
      · rw [settle]
        exact unreleased
  · rcases claim.claimed with ⟨_, _, _, _, same⟩
    rw [same]
    exact List.forall₂_same.mpr fun _ _ => id

theorem dispatch_safe (sha256 : String → String) (prints : Fingerprints) (snapshot : Snapshot)
    (calls : List HumanCall) : DispatchSafe sha256 prints snapshot calls := by
  refine ⟨?_, ?_, ?_⟩
  · apply counted_once (performHuman sha256 prints)
      (fun store => if store.snapshot.dispatchStarted then 1 else 0) 0
    · intro e member
      by_cases started : e.before.snapshot.dispatchStarted = true
      · rw [if_pos started, if_pos ((flags_kept e member).1 started)]
      · rw [if_neg started]
        exact Nat.zero_le _
    · intro e member invokes
      rcases claimed_flag e member invokes with ⟨before, after, _⟩
      rw [before, after]
      decide
  · intro front e back split invokes
    have member : e ∈ trace (performHuman sha256 prints) ⟨snapshot, ∅⟩ calls := by
      rw [split]
      exact List.mem_append_right _ List.mem_cons_self
    rcases claimed_flag e member invokes with ⟨_, _, guarded, uninterrupted⟩
    refine ⟨?_, guarded⟩
    -- an applied interrupt would still be set at the claim
    rintro earlier inside ⟨_, applied, interrupting⟩
    rcases List.append_of_mem inside with ⟨first, rest, parts⟩
    have whole : trace (performHuman sha256 prints) ⟨snapshot, ∅⟩ calls =
        first ++ earlier :: (rest ++ e :: back) := by
      rw [split, parts, List.append_assoc]
      rfl
    have present : earlier ∈ trace (performHuman sha256 prints) ⟨snapshot, ∅⟩ calls := by
      rw [whole]
      exact List.mem_append_right _ List.mem_cons_self
    have set : truthy earlier.after.snapshot.interruptId = true := by
      rcases event_cases_human earlier present with
        ⟨_, none, _⟩ | ⟨_, _, _, _, _, other, step⟩ | ⟨_, _, _, _, _, _, _, none, _⟩
      · rw [none] at applied
        cases applied
      · cases Option.some.inj (applied.symm.trans other)
        exact step.interrupted interrupting
      · rw [none] at applied
        cases applied
    have still := kept_between (performHuman sha256 prints)
      (fun store => truthy store.snapshot.interruptId = true)
      (fun e member => (flags_kept e member).2) whole
      (List.mem_append_right _ List.mem_cons_self) set
    rw [uninterrupted] at still
    cases still
  · intro front e back split invokes later inside index before after here there unreleased
    have member : ∀ other ∈ e :: back,
        other ∈ trace (performHuman sha256 prints) ⟨snapshot, ∅⟩ calls := by
      intro other within
      rw [split]
      exact List.mem_append_right _ within
    have started := kept_between (performHuman sha256 prints)
      (fun store => store.snapshot.dispatchStarted = true)
      (fun e member => (flags_kept e member).1) split inside
      (claimed_flag e (member e List.mem_cons_self) invokes).2.1
    rcases forall₂_getElem? (unreleased_step later (member later (List.mem_cons_of_mem _ inside))
        started) index with ⟨absent, _⟩ | ⟨_, _, found, placed, kept⟩
    · rw [here] at absent
      cases absent
    · cases Option.some.inj (here.symm.trans found)
      cases Option.some.inj (there.symm.trans placed)
      exact kept unreleased

end BackendHandbook.Agents
