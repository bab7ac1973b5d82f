import BackendHandbook.Outbox.IntentSteps

/-! The relays: no accepted intent is lost, whatever they do beside each other. -/

namespace BackendHandbook.Outbox

open Run Interleaving OutboxRow

variable (outboxEventId : Uuid) (ownerToken : String)

def Claims (e : OutboxEvent) : Prop :=
  ∃ now holdTtl batchSize claimed,
    fact e = ⟨.claimOutboxBatch ownerToken now holdTtl batchSize, .ok claimed⟩ ∧
      outboxEventId ∈ claimed

def Call.settles : Call → Prop
  | .recordTransportFailure own owner .. => own = outboxEventId ∧ owner = ownerToken
  | .checkpointPublishedIfOwner own owner _ => own = outboxEventId ∧ owner = ownerToken
  | _ => False

def OutboxRow.due (row : OutboxRow) (now : Seconds) : Bool := row.nextAttemptAt.all (· ≤ now)

def OutboxRow.leaseExpired (row : OutboxRow) (now : Seconds) : Bool :=
  row.relayOwner.isNone || row.relayHoldUntil.all (· ≤ now)

section Model

variable (canonical : Canonical) (transport : Transport) (actions : List Action)

/-- The relay loses no accepted intent, for one schedule. -/
structure NothingLost : Prop where
  kept : ∀ front back outboxEventId row, actions = front ++ back →
    (worldAfter canonical transport front).store.intentRow outboxEventId = some row → ∃ later,
      (worldAfter canonical transport actions).store.intentRow outboxEventId = some later ∧
        later.identity = row.identity
  claimable : ∀ row ∈ (worldAfter canonical transport actions).store.outbox,
    row.state = .unpublished → ∀ ownerToken now holdTtl batchSize, row.due now = true →
      row.leaseExpired now = true →
        row.outboxEventId ∈ ((worldAfter canonical transport actions).store.claimOutboxBatch
          ownerToken now holdTtl batchSize).1 ∨
        batchSize ≤ ((worldAfter canonical transport actions).store.claimOutboxBatch
          ownerToken now holdTtl batchSize).1.length
  published : ∀ row ∈ (worldAfter canonical transport actions).store.outbox,
    row.state = .published → ∃ e ∈ schedule canonical transport actions,
      fact e = ⟨.publish (buildEnvelope row), .ok ()⟩
  quarantined : ∀ row ∈ (worldAfter canonical transport actions).store.outbox,
    row.state = .quarantined → ∃ e ∈ schedule canonical transport actions,
      ∃ ownerToken typeName nextAttemptAt maxAttempts now,
        fact e = ⟨.recordTransportFailure row.outboxEventId ownerToken typeName nextAttemptAt
          maxAttempts now, .ok .quarantined⟩ ∧
        maxAttempts ≤ ((schedule canonical transport actions).countP fun e =>
          records row.outboxEventId (fact e) : Nat)
  settled : ∀ front back outboxEventId row, actions = front ++ back →
    (worldAfter canonical transport front).store.intentRow outboxEventId = some row →
      row.state ≠ .unpublished →
        (worldAfter canonical transport actions).store.intentRow outboxEventId = some row
  superseded : ∀ front e back outboxEventId ownerToken,
    schedule canonical transport actions = front ++ e :: back →
    e.call.settles outboxEventId ownerToken → ∀ early claim late other,
      front = early ++ claim :: late → Claims outboxEventId other claim → other ≠ ownerToken →
        (∀ later ∈ late, ¬ Claims outboxEventId ownerToken later) → e.after.store = e.before.store

end Model

section Steps

variable {row later : OutboxRow} {fact : Fact}
variable {ownerToken : String} {now : Seconds}

theorem requireLiveLease_owner
    (live : row.requireLiveLease ownerToken now = .ok ()) : row.relayOwner = some ownerToken := by
  unfold requireLiveLease at live
  split at live
  · cases live
  · next owned => exact not_not.mp owned

theorem claimable_unpublished
    (claimable : row.claimable ownerToken now = true) : row.state = .unpublished := by
  simp only [OutboxRow.claimable, Bool.and_eq_true, decide_eq_true_eq] at claimable
  exact claimable.1.1

theorem claimable_of_due (unpublished : row.state = .unpublished)
    (due : row.due now = true) (expired : row.leaseExpired now = true) (ownerToken : String) :
    row.claimable ownerToken now = true := by
  have early : row.nextAttemptAt.any (now < ·) = false := by
    unfold OutboxRow.due at due
    cases next : row.nextAttemptAt with
    | none => rfl
    | some =>
      rw [next, Option.all_some, decide_eq_true_eq] at due
      rw [Option.any_some, decide_eq_false_iff_not]
      exact not_lt.mpr due
  have held : (row.relayOwner.any (· ≠ ownerToken) && row.relayHoldUntil.any (now < ·)) =
      false := by
    rw [leaseExpired, Bool.or_eq_true] at expired
    rcases expired with unowned | past
    · rw [Option.isNone_iff_eq_none.mp unowned]
      rfl
    · cases hold : row.relayHoldUntil with
      | none => exact Bool.and_false _
      | some =>
        rw [hold, Option.all_some, decide_eq_true_eq] at past
        rw [Option.any_some, decide_eq_false (not_lt.mpr past), Bool.and_false]
  rw [OutboxRow.claimable, unpublished, early, held]
  rfl

theorem RowStep.identity (step : RowStep row fact later) : later.identity = row.identity := by
  cases step with
  | same | claimed | failed | published => rfl

theorem RowStep.settled (step : RowStep row fact later) (settled : row.state ≠ .unpublished)
    (unowned : row.relayOwner = none) : later = row := by
  cases step with
  | same => rfl
  | claimed _ _ _ _ _ claimable =>
    exact absurd (claimable_unpublished claimable) settled
  | failed ownerToken typeName nextAttemptAt maxAttempts now live
  | published ownerToken now unpublished live =>
    cases unowned.symm.trans (requireLiveLease_owner live)

theorem RowStep.unowned (step : RowStep row fact later)
    (before : row.state ≠ .unpublished → row.relayOwner = none)
    (settled : later.state ≠ .unpublished) : later.relayOwner = none := by
  cases step with
  | same => exact before settled
  | claimed _ _ _ _ _ claimable =>
    exact absurd (claimable_unpublished claimable) settled
  | failed | published => rfl

theorem RowStep.attempts (step : RowStep row fact later) :
    later.attemptCount = row.attemptCount + if records row.outboxEventId fact then 1 else 0 := by
  cases step with
  | same _ unrecorded => rw [unrecorded]; rfl
  | claimed | published => rfl
  | failed =>
    rw [records, decide_eq_true rfl]
    rfl

end Steps

section Events

variable {canonical : Canonical} {transport : Transport} {actions : List Action}
variable {e : OutboxEvent} {outboxEventId : Uuid} {row : OutboxRow}

theorem event_row (member : e ∈ schedule canonical transport actions)
    (found : e.before.store.intentRow outboxEventId = some row) :
    ∃ later, e.after.store.intentRow outboxEventId = some later ∧ RowStep row (fact e) later := by
  rcases mem_trace_performed member with ⟨answered, moved⟩
  rw [fact, answered, moved]
  exact perform_row e.call found

theorem event_origin (member : e ∈ schedule canonical transport actions)
    (found : e.after.store.intentRow outboxEventId = some row) :
    (∃ earlier, e.before.store.intentRow outboxEventId = some earlier ∧
      RowStep earlier (fact e) row) ∨
      (e.before.store.intentRow outboxEventId = none ∧ e.call = .putIntent row ∧
        ∃ now, row = dispatchIntent row.outboxEventId row.jobId now) := by
  rcases mem_trace_performed member with ⟨_, moved⟩
  cases before : e.before.store.intentRow outboxEventId with
  | some earlier =>
    rcases event_row member before with ⟨_, there, step⟩
    cases found.symm.trans there
    exact .inl ⟨earlier, rfl, step⟩
  | none =>
    rw [moved] at found
    have put := perform_new e.call before found
    rcases event_arbitrated member with ⟨_, _, _, _, _, allowed⟩
    rw [put] at allowed
    rcases allowed with ⟨now, _, built⟩
    exact .inr ⟨rfl, put, now, built⟩

theorem event_allowed {front back : List OutboxEvent}
    (split : schedule canonical transport actions = front ++ e :: back) :
    ∃ known, Recorded front known ∧ Allowed known e.call := by
  refine recalled (perform transport) [] ⟨{}, []⟩ (turns canonical actions)
    (fun thread nothing => by cases nothing) ?_ front e back split
  intro program member
  rcases List.mem_map.mp member with ⟨action, _, turned⟩
  cases action with
  | resume => cases turned
  | enter party =>
    cases turned
    exact party.program_recalls canonical

def Unowned (outboxEventId : Uuid) (world : World) : Prop :=
  ∀ row, world.store.intentRow outboxEventId = some row → row.state ≠ .unpublished →
    row.relayOwner = none

theorem event_unowned (member : e ∈ schedule canonical transport actions)
    (holds : Unowned outboxEventId e.before) : Unowned outboxEventId e.after := by
  intro row found settled
  rcases event_origin member found with ⟨earlier, before, step⟩ | ⟨_, _, _, built⟩
  · exact step.unowned (holds earlier before) settled
  · rw [built]
    rfl

theorem unowned_after : Unowned outboxEventId (worldAfter canonical transport actions) := by
  rw [worldAfter_eq]
  refine kept_final (perform transport) (Unowned outboxEventId) _ _
    (fun e inside before => event_unowned inside before) ?_
  intro row found
  cases found

theorem event_identity (member : e ∈ schedule canonical transport actions)
    {identity : Uuid × Uuid × String × List (String × String)}
    (holds : ∃ row, e.before.store.intentRow outboxEventId = some row ∧ row.identity = identity) :
    ∃ row, e.after.store.intentRow outboxEventId = some row ∧ row.identity = identity := by
  rcases holds with ⟨_, found, same⟩
  rcases event_row member found with ⟨later, there, step⟩
  exact ⟨later, there, step.identity.trans same⟩

theorem event_settled (member : e ∈ schedule canonical transport actions)
    (settled : row.state ≠ .unpublished) (unowned : row.relayOwner = none)
    (found : e.before.store.intentRow outboxEventId = some row) :
    e.after.store.intentRow outboxEventId = some row := by
  rcases event_row member found with ⟨_, there, step⟩
  rw [step.settled settled unowned] at there
  exact there

def attempts (outboxEventId : Uuid) (world : World) : Nat :=
  (world.store.intentRow outboxEventId).elim 0 attemptCount

theorem event_attempts (member : e ∈ schedule canonical transport actions) :
    attempts outboxEventId e.after =
      attempts outboxEventId e.before + if records outboxEventId (fact e) then 1 else 0 := by
  rcases mem_trace_performed member with ⟨answered, _⟩
  unfold attempts
  cases before : e.before.store.intentRow outboxEventId with
  | some =>
    rcases event_row member before with ⟨_, there, step⟩
    have counted := step.attempts
    rw [intentRow_id before] at counted
    rw [there]
    exact counted
  | none =>
    have unrecorded : records outboxEventId (fact e) = false := by
      rw [fact, answered]
      exact perform_unrecorded e.call before
    rw [unrecorded]
    cases after : e.after.store.intentRow outboxEventId with
    | none => rfl
    | some =>
      rcases event_origin member after with ⟨_, was, _⟩ | ⟨_, _, _, built⟩
      · cases before.symm.trans was
      · rw [built]
        rfl

theorem attempts_counted : attempts outboxEventId (worldAfter canonical transport actions) =
    (schedule canonical transport actions).countP fun e => records outboxEventId (fact e) := by
  rw [worldAfter_eq, measure_final (perform transport) (attempts outboxEventId)
    (fun e => records outboxEventId (fact e)) {} _ fun e member => event_attempts member]
  exact Nat.zero_add _

theorem identity_envelope {other : OutboxRow} (same : row.identity = other.identity) :
    buildEnvelope row = buildEnvelope other := by
  have parts := Prod.ext_iff.mp same
  have rest := Prod.ext_iff.mp parts.2
  have last := Prod.ext_iff.mp rest.2
  have ids : row.outboxEventId = other.outboxEventId := parts.1
  have jobs : row.jobId = other.jobId := rest.1
  have types : row.eventType = other.eventType := last.1
  rw [buildEnvelope, buildEnvelope, ids, jobs, types]

theorem published_handed
    (found : (worldAfter canonical transport actions).store.intentRow outboxEventId = some row)
    (published : row.state = .published) : ∃ e ∈ schedule canonical transport actions,
      fact e = ⟨.publish (buildEnvelope row), .ok ()⟩ := by
  have reached := found
  rw [worldAfter_eq] at reached
  rcases established_final (perform transport)
    (fun world => ∃ row, world.store.intentRow outboxEventId = some row ∧ row.state = .published)
    (fun ⟨row, nothing, _⟩ => by cases nothing) ⟨row, reached, published⟩ with
    ⟨e, member, before, _, there, settled⟩
  rcases event_origin member there with ⟨earlier, was, step⟩ | ⟨_, _, _, built⟩
  · have unsettled : earlier.state ≠ .published := fun same => before ⟨earlier, was, same⟩
    have listed : e ∈ schedule canonical transport actions := member
    rcases List.append_of_mem listed with ⟨front, _, split⟩
    rcases event_allowed split with ⟨_, recorded, allowed⟩
    have early : ∀ other ∈ front, other ∈ schedule canonical transport actions := by
      intro other inside
      rw [split]
      exact List.mem_append_left _ inside
    generalize same : fact e = moved at step
    cases step with
    | same | claimed => exact absurd settled unsettled
    | failed =>
      dsimp only [failedBy] at settled
      split at settled
      · cases settled
      · exact absurd settled unsettled
    | published =>
      rw [show e.call = _ from congrArg Sigma.fst same] at allowed
      rcases allowed with ⟨read, readKnown, publishKnown⟩
      rcases recorded _ readKnown with ⟨_, readFront, isRead⟩
      rcases recorded _ publishKnown with ⟨publishing, publishFront, isPublished⟩
      -- The row was read, and is the one of the intent ever since.
      rcases event_answer (early _ readFront) isRead with ⟨answered, readMoved⟩
      have readThere := intentRow_of_outboxRow answered
      rw [intentRow_id was] at readThere
      rcases kept_to_end
        (fun world => ∃ row, world.store.intentRow outboxEventId = some row ∧
          row.identity = read.identity)
        (fun e inside holds => event_identity inside holds) (early _ readFront)
        ⟨read, by rw [readMoved]; exact readThere, rfl⟩ with ⟨_, lastThere, identity⟩
      cases found.symm.trans lastThere
      rw [identity_envelope identity]
      exact ⟨publishing, early _ publishFront, isPublished⟩
  · rw [built] at settled
    cases settled

/-- A quarantined intent has used up the attempts of the failure that quarantined it. -/
theorem quarantined_exhausted
    (found : (worldAfter canonical transport actions).store.intentRow outboxEventId = some row)
    (quarantined : row.state = .quarantined) : ∃ e ∈ schedule canonical transport actions,
      ∃ ownerToken typeName nextAttemptAt maxAttempts now,
        fact e = ⟨.recordTransportFailure outboxEventId ownerToken typeName nextAttemptAt
          maxAttempts now, .ok .quarantined⟩ ∧ maxAttempts ≤ (row.attemptCount : Int) := by
  have reached := found
  rw [worldAfter_eq] at reached
  rcases established_final (perform transport)
    (fun world => ∃ row, world.store.intentRow outboxEventId = some row ∧ row.state = .quarantined)
    (fun ⟨row, nothing, _⟩ => by cases nothing) ⟨row, reached, quarantined⟩ with
    ⟨e, member, before, later, there, settled⟩
  refine ⟨e, member, ?_⟩
  rcases event_origin member there with ⟨earlier, was, step⟩ | ⟨_, _, now, built⟩
  · have unsettled : earlier.state ≠ .quarantined := fun same => before ⟨earlier, was, same⟩
    have released : later.relayOwner = none := by
      have unowned : Unowned outboxEventId e.before :=
        (kept_trace (perform transport) (Unowned outboxEventId) _ _
          (fun e inside holds => event_unowned inside holds)
          (fun row nothing => by cases nothing) e member).1
      exact step.unowned (unowned earlier was) (by rw [settled]; decide)
    -- From here on the row stays as it is.
    have stays := kept_to_end (fun world => world.store.intentRow outboxEventId = some later)
      (fun e inside holds => event_settled inside (by rw [settled]; decide) released holds) member
      there
    cases found.symm.trans stays
    generalize same : fact e = moved at step
    cases step with
    | same | claimed => exact absurd settled unsettled
    | published => cases settled
    | failed ownerToken typeName nextAttemptAt maxAttempts now =>
      refine ⟨ownerToken, typeName, nextAttemptAt, maxAttempts, now, ?_, ?_⟩
      · rw [settled, intentRow_id was]
      dsimp only [failedBy] at settled ⊢
      split at settled
      · next spent => exact_mod_cast spent
      · exact absurd settled unsettled
  · rw [built] at settled
    cases settled

theorem claims_owner {ownerToken : String} (member : e ∈ schedule canonical transport actions)
    (claims : Claims outboxEventId ownerToken e) : ∃ row,
      e.after.store.intentRow outboxEventId = some row ∧ row.relayOwner = some ownerToken := by
  rcases claims with ⟨now, holdTtl, batchSize, _, is, listed⟩
  rcases event_answer member is with ⟨answered, moved⟩
  have inside := Except.ok.inj answered
  rw [← inside] at listed
  rcases mem_claimRows listed with ⟨row, rowListed, own, owner⟩
  refine ⟨row, ?_, owner⟩
  rcases event_arbitrated member with ⟨_, _, _, ⟨_, consistent, _⟩, _, _⟩
  have frame := perform_framed transport (.claimOutboxBatch ownerToken now holdTtl batchSize)
    e.before rfl
  have distinct := consistent.distinct
  rw [← frame.identities, ← moved] at distinct
  rw [← own]
  apply intentRow_of_mem distinct
  rw [moved]
  exact rowListed

def NotOwned (outboxEventId : Uuid) (ownerToken : String) (world : World) : Prop :=
  ∃ row, world.store.intentRow outboxEventId = some row ∧ row.relayOwner ≠ some ownerToken

theorem event_not_owned {ownerToken : String} (member : e ∈ schedule canonical transport actions)
    (unclaimed : ¬ Claims outboxEventId ownerToken e)
    (holds : NotOwned outboxEventId ownerToken e.before) :
    NotOwned outboxEventId ownerToken e.after := by
  rcases holds with ⟨_, found, unowned⟩
  rcases event_row member found with ⟨later, there, step⟩
  refine ⟨later, there, ?_⟩
  generalize same : fact e = moved at step
  cases step with
  | same => exact unowned
  | failed | published => exact nofun
  | claimed _ now holdTtl batchSize claimed _ listed =>
    rintro ⟨⟩
    rw [intentRow_id found] at listed
    exact unclaimed ⟨now, holdTtl, batchSize, claimed, same, listed⟩

theorem settles_nothing {ownerToken : String} (member : e ∈ schedule canonical transport actions)
    (settling : e.call.settles outboxEventId ownerToken)
    (holds : NotOwned outboxEventId ownerToken e.before) : e.after.store = e.before.store := by
  rcases holds with ⟨_, found, unowned⟩
  rcases mem_trace_performed member with ⟨_, moved⟩
  have stale : ∀ stored now, e.before.store.outboxRow outboxEventId = .ok stored →
      stored.requireLiveLease ownerToken now ≠ .ok () := by
    intro stored now listed live
    cases found.symm.trans (intentRow_of_outboxRow listed)
    exact unowned (requireLiveLease_owner live)
  rw [moved]
  cases asked : e.call with
  | recordTransportFailure own owner typeName nextAttemptAt maxAttempts now =>
    rw [asked] at settling
    rcases settling with ⟨rfl, rfl⟩
    simp only [perform, World.withStore]
    rcases recordTransportFailure_cases e.before.store own owner typeName nextAttemptAt
      maxAttempts now with ⟨_, refused⟩ | ⟨stored, listed, live, _⟩
    · rw [refused]
    · exact absurd live (stale stored now listed)
  | checkpointPublishedIfOwner own owner now =>
    rw [asked] at settling
    rcases settling with ⟨rfl, rfl⟩
    simp only [perform, World.withStore]
    rcases checkpointPublishedIfOwner_cases e.before.store own owner now with
      ⟨_, kept⟩ | ⟨stored, listed, _, live, _⟩
    · rw [kept]
    · exact absurd live (stale stored now listed)
  | _ =>
    rw [asked] at settling
    cases settling

end Events

theorem relay_loses_nothing (canonical : Canonical) (transport : Transport)
    (actions : List Action) : NothingLost canonical transport actions := by
  have listed : ∀ row ∈ (worldAfter canonical transport actions).store.outbox,
      (worldAfter canonical transport actions).store.intentRow row.outboxEventId = some row := by
    intro row member
    rcases arbitrated_after canonical transport actions with ⟨_, _, consistent, _⟩
    exact intentRow_of_mem consistent.distinct member
  constructor
  · rintro front back outboxEventId row rfl found
    exact (kept_on
      (fun world => ∃ later, world.store.intentRow outboxEventId = some later ∧
        later.identity = row.identity)
      back (fun e inside holds => event_identity inside holds) ⟨row, found, rfl⟩).1
  · intro row member unpublished ownerToken now holdTtl batchSize due expired
    have claimable := claimable_of_due unpublished due expired ownerToken
    have claimed := claimRows_complete holdTtl batchSize 0 member claimable
    rw [Nat.cast_zero, zero_add] at claimed
    exact claimed
  · intro row member published
    exact published_handed (listed row member) published
  · intro row member quarantined
    rcases quarantined_exhausted (listed row member) quarantined with
      ⟨e, inside, ownerToken, typeName, nextAttemptAt, maxAttempts, now, is, spent⟩
    refine ⟨e, inside, ownerToken, typeName, nextAttemptAt, maxAttempts, now, is, ?_⟩
    rw [← attempts_counted, attempts, listed row member]
    exact spent
  · rintro front back outboxEventId row rfl found settled
    have unowned := unowned_after row found settled
    exact (kept_on (fun world => world.store.intentRow outboxEventId = some row)
      back (fun e inside holds => event_settled inside settled unowned holds) found).1
  · intro front e back outboxEventId ownerToken split settling early claim late other parts
      claims different unclaimed
    have inside : ∀ event ∈ front, event ∈ schedule canonical transport actions := by
      intro event member
      rw [split]
      exact List.mem_append_left _ member
    have claimListed := inside claim (by rw [parts]; simp)
    have member : e ∈ schedule canonical transport actions := by
      rw [split]
      simp
    apply settles_nothing member settling
    rcases claims_owner claimListed claims with ⟨row, there, owner⟩
    have taken : NotOwned outboxEventId ownerToken claim.after := by
      refine ⟨row, there, ?_⟩
      rw [owner]
      exact fun same => different (Option.some.inj same)
    rw [parts, List.append_assoc] at split
    rcases trace_eq_append_cons (perform transport) {} _ early (late ++ e :: back) claim split with
      ⟨_, _, _, _, _, follows⟩
    refine kept_from_start (perform transport) (NotOwned outboxEventId ownerToken) follows.symm ?_
      taken
    intro event between holds
    refine event_not_owned (inside event ?_) (unclaimed event between) holds
    rw [parts]
    exact List.mem_append_right _ (List.mem_cons_of_mem _ between)

end BackendHandbook.Outbox
