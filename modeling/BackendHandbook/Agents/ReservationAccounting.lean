import BackendHandbook.Agents.DurableRecovery

/-! Whether the units of a reservation add up over every run of the durable job store.

`apply` releases or settles whatever the attempt has reserved, without reading the status
it replaces. `Sound` is the step for which that makes no difference. -/

namespace BackendHandbook.Agents

open Fallible Run ReservationRecord

def ReservationRecord.Fits (reservation : ReservationRecord) : Prop :=
  reservation.settledUnits.getD 0 + reservation.releasedUnits ≤ reservation.reservedUnits

/-- What the last write left in a reservation that is no longer held. -/
structure ReservationRecord.Closed (reservation : ReservationRecord) : Prop where
  released : reservation.status = .released → reservation.releasedUnits = reservation.reservedUnits
  settled : reservation.status = .settled → ∃ actual, reservation.settledUnits = some actual ∧
    reservation.releasedUnits = reservation.reservedUnits - actual

/-- The usage that a settlement accepts. -/
def ReservationRecord.Covers (reservation : ReservationRecord) (usage : Option Int) : Prop :=
  ∃ actual, usage = some actual ∧ 0 ≤ actual ∧ actual ≤ reservation.reservedUnits

variable {usage : Option Int}

theorem settle_eq_ok {reservation after : ReservationRecord} :
    reservation.settle usage = .ok after ↔
      ∃ actual : Nat, usage = some (actual : Int) ∧ actual ≤ reservation.reservedUnits ∧
        after.status = .settled ∧ after.settledUnits = some actual ∧
        after.releasedUnits = reservation.reservedUnits - actual ∧
        after.reservationId = reservation.reservationId ∧ after.attemptId = reservation.attemptId ∧
        after.reservedUnits = reservation.reservedUnits := by
  unfold settle
  constructor
  · intro done
    cases usage with
    | none => cases done
    | some actual =>
      simp only at done
      split_ifs at done with fits
      cases Except.ok.inj done
      refine ⟨actual.toNat, ?_, ?_, rfl, rfl, rfl, rfl, rfl, rfl⟩
      · rw [Int.toNat_of_nonneg fits.1]
      · omega
  · rintro ⟨actual, rfl, _, _, _, _, _, _, _⟩
    cases after
    simp_all

theorem covers_of_settle {reservation after : ReservationRecord}
    (settled : reservation.settle usage = .ok after) : reservation.Covers usage := by
  rcases settle_eq_ok.mp settled with ⟨actual, same, _, _⟩
  exact ⟨actual, same, by omega, by omega⟩

theorem settle_of_covers {reservation : ReservationRecord}
    (covers : reservation.Covers usage) : ∃ after, reservation.settle usage = .ok after := by
  rcases covers with ⟨_, rfl, bounds⟩
  unfold settle
  simp only [dif_pos bounds]
  exact ⟨_, rfl⟩

theorem fits_of_settle {reservation after : ReservationRecord}
    (settled : reservation.settle usage = .ok after) : after.Fits := by
  rcases settle_eq_ok.mp settled with ⟨_, _, _, _, left, released, _, _, reserved⟩
  simp only [ReservationRecord.Fits, left, Option.getD_some]
  omega

theorem ReservationRecord.Closed.release_eq {reservation : ReservationRecord}
    (closed : reservation.Closed) (released : reservation.status = .released) :
    reservation.release = reservation := by
  have units := closed.released released
  cases reservation
  simp_all [release]

theorem ReservationRecord.Closed.settle_eq {reservation after : ReservationRecord}
    (closed : reservation.Closed) (status : reservation.status = .settled)
    (same : reservation.settledUnits.map Int.ofNat = usage)
    (settled : reservation.settle usage = .ok after) : after = reservation := by
  rcases closed.settled status with ⟨actual, spent, _⟩
  rcases settle_eq_ok.mp settled with
    ⟨again, usage_eq, _, _, _, _, _, _, _⟩
  have equal : again = actual := by
    rw [spent, usage_eq] at same
    exact (Int.ofNat.inj (Option.some.inj same)).symm
  cases reservation
  cases after
  simp_all

theorem closed_of_settle {reservation after : ReservationRecord}
    (settled : reservation.settle usage = .ok after) : after.Closed := by
  rcases settle_eq_ok.mp settled with ⟨actual, _, _, status, left, released, _, _, reserved⟩
  constructor
  · intro other
    rw [status] at other
    cases other
  · intro _
    exact ⟨actual, left, by rw [released, reserved]⟩

theorem closed_of_release (reservation : ReservationRecord) : reservation.release.Closed := by
  constructor
  · intro _
    rfl
  · intro other
    cases other

section Accounting

variable (sha256 : String → String)

/-- The step acts on a held reservation with nothing settled, or writes what is there; and
only a request that certifies the attempt was not dispatched gives units back in full. -/
structure SoundFor (store : DurableAgentJobStore) (snapshot : DurableAgentJobRecord)
    (recovery : RecoveryOperation) (request : RecoveryRequest) : Prop where
  releases : Releasing snapshot recovery request →
    ∀ reservation ∈ store.record.reservations, reservation.attemptId = request.attemptId →
      reservation.status = .released ∨
      (reservation.status = .held ∧ reservation.settledUnits.getD 0 = 0 ∧
        request.externalCertainty = .definitelyNotDispatched)
  settles : Settling snapshot recovery request →
    (∀ reservation ∈ store.record.reservations, reservation.attemptId = request.attemptId →
      reservation.Covers request.verifiedUsageUnits) →
    ∀ reservation ∈ store.record.reservations, reservation.attemptId = request.attemptId →
      reservation.status = .held ∨
      (reservation.status = .settled ∧
        reservation.settledUnits.map Int.ofNat = request.verifiedUsageUnits)

def Sound (store : DurableAgentJobStore) (call : JobCall) : Prop :=
  ∀ snapshot recovery request, call = .apply snapshot recovery request →
    Current store request → store.record.Advances → SoundFor store snapshot recovery request

variable (call : JobCall)

def CertifiedUnsent : Prop :=
  ∃ snapshot recovery request, call = .apply snapshot recovery request ∧
    request.externalCertainty = .definitelyNotDispatched

/-- The reservation at one index keeps its value, or leaves HELD. -/
def Moves (before after : ReservationRecord) : Prop :=
  after = before ∨ before.status = .held ∧ after.Fits ∧
    (after.status = .released → CertifiedUnsent call)

theorem closed_performJob (store : DurableAgentJobStore)
    (closed : ∀ reservation ∈ store.record.reservations, reservation.Closed) :
    ∀ reservation ∈ (performJob sha256 call store).2.record.reservations, reservation.Closed := by
  intro after member
  rcases reservations_performJob sha256 call store with
    same | ⟨_, _, _, _, _, _, ⟨_, released⟩ | ⟨_, settled⟩⟩
  · exact closed after (same ▸ member)
  · rw [released] at member
    rcases List.mem_map.mp member with ⟨before, inside, rfl⟩
    unfold releaseAttempt
    split
    · exact closed_of_release before
    · exact closed before inside
  · rcases forall₂_mem_right settled member with ⟨before, inside, settles⟩
    unfold Settles at settles
    split at settles
    · exact closed_of_settle settles
    · exact settles ▸ closed before inside

/-- The step lemma: a sound call moves each reservation at most out of HELD. -/
theorem moves_performJob (store : DurableAgentJobStore) (sound : Sound store call)
    (closed : ∀ reservation ∈ store.record.reservations, reservation.Closed) :
    List.Forall₂ (Moves call) store.record.reservations
      (performJob sha256 call store).2.record.reservations := by
  rcases reservations_performJob sha256 call store with
    same | ⟨snapshot, recovery, request, called, current, advances, ⟨releasing, released⟩ |
      ⟨settling, settled⟩⟩
  · rw [same]
    exact List.forall₂_same.mpr fun _ _ => .inl rfl
  · have allowed := (sound snapshot recovery request called current advances).releases releasing
    rw [released, List.forall₂_map_right_iff]
    apply List.forall₂_same.mpr
    intro before member
    unfold releaseAttempt
    split
    · next own =>
      rcases allowed before member own with ended | ⟨held, unspent, certain⟩
      · exact .inl ((closed before member).release_eq ended)
      · refine .inr ⟨held, ?_, fun _ => ⟨snapshot, recovery, request, called, certain⟩⟩
        simp [ReservationRecord.Fits, release, unspent]
    · exact .inl rfl
  · have covered : ∀ reservation ∈ store.record.reservations,
        reservation.attemptId = request.attemptId →
        reservation.Covers request.verifiedUsageUnits := by
      intro reservation member own
      rcases forall₂_mem_left settled member with ⟨after, _, settles⟩
      rw [Settles, if_pos own] at settles
      exact covers_of_settle settles
    have allowed := (sound snapshot recovery request called current advances).settles settling
      covered
    have both := (List.forall₂_and_left (p := fun before =>
      before ∈ store.record.reservations) _ _).mpr ⟨fun _ member => member, settled⟩
    apply both.imp
    rintro before _ ⟨member, settles⟩
    by_cases own : before.attemptId = request.attemptId
    · rw [Settles, if_pos own] at settles
      rcases allowed before member own with held | ⟨status, same⟩
      · refine .inr ⟨held, fits_of_settle settles, ?_⟩
        intro released
        rw [(settle_eq_ok.mp settles).choose_spec.2.2.1] at released
        cases released
      · exact .inl ((closed before member).settle_eq status same settles)
    · rw [Settles, if_neg own] at settles
      exact .inl settles

/-- The accounting of a run: the units fit in every state, what is settled or released is
never written again, and a full release is certified by its request. -/
structure Accounting (initial : DurableAgentJobStore) (calls : List JobCall) : Prop where
  fits : ∀ front back, calls = front ++ back → ∀ reservation ∈
    (final (performJob sha256) initial front).record.reservations, reservation.Fits
  permanent : ∀ (index : Nat) (reservation : ReservationRecord), reservation.status ≠ .held →
    Permanent (performJob sha256)
      (fun store => store.record.reservations[index]? = some reservation) initial calls
  certified : ∀ e ∈ trace (performJob sha256) initial calls, ∀ (index : Nat)
    (before after : ReservationRecord), e.before.record.reservations[index]? = some before →
    e.after.record.reservations[index]? = some after → before.status ≠ .released →
    after.status = .released → CertifiedUnsent e.call

variable {initial : DurableAgentJobStore} {calls : List JobCall}

theorem closed_final (held : ∀ reservation ∈ initial.record.reservations,
    reservation.status = .held) :
    ∀ reservation ∈ (final (performJob sha256) initial calls).record.reservations,
      reservation.Closed := by
  apply invariant_final (performJob sha256)
    (fun store => ∀ reservation ∈ store.record.reservations, reservation.Closed)
    (fun _ => True) (fun store call _ => closed_performJob sha256 call store) initial calls
    (fun _ _ => trivial)
  intro reservation member
  have status := held reservation member
  constructor
  · intro other
    rw [status] at other
    cases other
  · intro other
    rw [status] at other
    cases other

variable {e : Event DurableAgentJobStore JobCall JobCall.Response}

theorem moves_event (held : ∀ reservation ∈ initial.record.reservations, reservation.status = .held)
    (member : e ∈ trace (performJob sha256) initial calls) (sound : Sound e.before e.call) :
    List.Forall₂ (Moves e.call) e.before.record.reservations e.after.record.reservations := by
  rcases mem_trace_split (performJob sha256) initial calls e member with ⟨_, _, _, same⟩
  rw [(mem_trace_performed member).2]
  apply moves_performJob sha256 e.call e.before sound
  rw [same]
  exact closed_final sha256 held

theorem accounting_of_sound
    (held : ∀ reservation ∈ initial.record.reservations, reservation.status = .held)
    (fits : ∀ reservation ∈ initial.record.reservations, reservation.Fits)
    (sound : ∀ e ∈ trace (performJob sha256) initial calls, Sound e.before e.call) :
    Accounting sha256 initial calls := by
  have moves : ∀ e ∈ trace (performJob sha256) initial calls,
      List.Forall₂ (Moves e.call) e.before.record.reservations e.after.record.reservations :=
    fun e member => moves_event sha256 held member (sound e member)
  refine ⟨?_, ?_, ?_⟩
  · intro front back split
    apply kept_final (performJob sha256)
      (fun store => ∀ reservation ∈ store.record.reservations, reservation.Fits) initial front
    · intro e member before after inside
      have here : e ∈ trace (performJob sha256) initial calls := by
        rw [split, trace_append]
        exact List.mem_append_left _ member
      rcases forall₂_mem_right (moves e here) inside with ⟨old, present, moved⟩
      rcases moved with rfl | ⟨_, kept, _⟩
      · exact before after present
      · exact kept
    · exact fits
  · intro index reservation status
    rw [permanent_iff]
    intro e member found
    rcases forall₂_getElem? (moves e member) index with
      ⟨absent, _⟩ | ⟨before, after, here, there, moved⟩
    · rw [found] at absent
      cases absent
    · cases Option.some.inj (found.symm.trans here)
      rcases moved with rfl | ⟨other, _⟩
      · exact there
      · exact absurd other status
  · intro e member index before after here there status released
    rcases forall₂_getElem? (moves e member) index with
      ⟨absent, _⟩ | ⟨_, _, found, placed, moved⟩
    · rw [here] at absent
      cases absent
    · cases Option.some.inj (here.symm.trans found)
      cases Option.some.inj (there.symm.trans placed)
      rcases moved with rfl | ⟨_, _, certified⟩
      · exact absurd released status
      · exact certified released

theorem Accounting.held_or_same (accounting : Accounting sha256 initial calls)
    (member : e ∈ trace (performJob sha256) initial calls) {index : Nat}
    {before after : ReservationRecord} (here : e.before.record.reservations[index]? = some before)
    (there : e.after.record.reservations[index]? = some after) :
    before.status = .held ∨ after = before := by
  by_cases held : before.status = .held
  · exact .inl held
  · have kept := (permanent_iff _ _ _ _).mp (accounting.permanent index before held) e member here
    exact .inr (Option.some.inj (there.symm.trans kept))

theorem Accounting.fits_after (accounting : Accounting sha256 initial calls)
    (member : e ∈ trace (performJob sha256) initial calls) :
    ∀ reservation ∈ e.after.record.reservations, reservation.Fits := by
  rcases mem_trace_split (performJob sha256) initial calls e member with ⟨front, back, split, same⟩
  have later : e.after = final (performJob sha256) initial (front ++ [e.call]) := by
    rw [final_append, same]
    rfl
  rw [later]
  exact accounting.fits (front ++ [e.call]) back (by rw [split, List.append_assoc]; rfl)

theorem sound_of_accounting (accounting : Accounting sha256 initial calls)
    (e : Event DurableAgentJobStore JobCall JobCall.Response)
    (member : e ∈ trace (performJob sha256) initial calls) : Sound e.before e.call := by
  intro snapshot recovery request called current advances
  have performed := (mem_trace_performed member).2
  constructor
  · intro releasing reservation inside own
    rcases List.mem_iff_getElem?.mp inside with ⟨index, here⟩
    have there : e.after.record.reservations[index]? = some reservation.release := by
      rw [performed, called, performJob_releases sha256 current advances releasing,
        List.getElem?_map, here]
      simp [releaseAttempt, own]
    by_cases ended : reservation.status = .released
    · exact .inl ended
    have held : reservation.status = .held := by
      rcases accounting.held_or_same sha256 member here there with held | same
      · exact held
      · exact absurd (congrArg (·.status) same).symm ended
    have fits := accounting.fits_after sha256 member _ (List.mem_of_getElem? there)
    simp only [ReservationRecord.Fits, release] at fits
    rcases accounting.certified e member index reservation
      reservation.release here there ended rfl with ⟨_, _, other, same, certain⟩
    rw [called] at same
    rcases JobCall.apply.inj same with ⟨-, -, rfl⟩
    exact .inr ⟨held, by omega, certain⟩
  · intro settling covered reservation inside own
    have settles : List.Forall₂ (Settles request.attemptId request.verifiedUsageUnits)
        e.before.record.reservations e.after.record.reservations := by
      rw [performed, called]
      apply performJob_settles sha256 current advances settling
      intro other present
      by_cases mine : other.attemptId = request.attemptId
      · rcases settle_of_covers (covered other present mine) with ⟨after, settled⟩
        exact ⟨after, by rw [Settles, if_pos mine]; exact settled⟩
      · exact ⟨other, by rw [Settles, if_neg mine]⟩
    rcases List.mem_iff_getElem?.mp inside with ⟨index, here⟩
    rcases forall₂_getElem? settles index with ⟨absent, _⟩ | ⟨_, _, found, there, settled⟩
    · rw [here] at absent
      cases absent
    cases Option.some.inj (here.symm.trans found)
    rw [Settles, if_pos own] at settled
    rcases settle_eq_ok.mp settled with ⟨_, usage, _, status, spent, _⟩
    rcases accounting.held_or_same sha256 member here there with held | same
    · exact .inl held
    · rw [same] at status spent
      exact .inr ⟨status, by rw [spent, usage]; rfl⟩

/-- From held reservations, the accounts are kept exactly by the runs of sound steps that
start from reservations whose units fit. -/
theorem reservation_accounting_iff (initial : DurableAgentJobStore) (calls : List JobCall)
    (held : ∀ reservation ∈ initial.record.reservations, reservation.status = .held) :
    Accounting sha256 initial calls ↔
      (∀ reservation ∈ initial.record.reservations, reservation.Fits) ∧
      ∀ e ∈ trace (performJob sha256) initial calls, Sound e.before e.call := by
  constructor
  · intro accounting
    exact ⟨accounting.fits [] calls rfl, sound_of_accounting sha256 accounting⟩
  · intro ⟨fits, sound⟩
    exact accounting_of_sound sha256 held fits sound

end Accounting

namespace Sample

-- The real SHA-256 digests of the texts that the sample run hashes.
def sha256 (text : String) : String :=
  if text = "CP1\x1f3\x1fR1" then
    "5a15b9e661e9b581bbc894f37a10a2ad95ec04c1f5e8cc84566b3174bfcd643e"
  else if text = "verified_usage_evidence" then
    "5c5488ddea6556a12b77d97872bea538a5d99a87787d5b1cfa2686dbafdea1d5"
  else if text = "checkpoint-5a15b9e661e9b581bbc8\x1f4\x1fR2" then
    "f648a3a85f3aaef29deaa723edaedd3ba00eff2836e14512c076951cc4215fc1"
  else if text = "new_attempt_identity_required" then
    "1d9034cc452e9630d958f4993c46dc7e5fddf1714356b8b45afd5a3c665612bf"
  else ""

def bindings : ExecutionBindings :=
  ⟨"stable-v6", "prompt-v4", "provider-profile-v3", "tool-v1", "policy-v5", by decide⟩

def checkpoint : DurableCheckpoint :=
  { tenantId := "tenant-a", jobId := "J1", stepId := "S1", attemptId := "A1"
    checkpointId := "CP1", checkpointVersion := 3, authoritativeState := .running
    stateVersion := 12, fenceToken := 8, leaseGeneration := 2, bindings
    progressFingerprint := "progress-1", verifiedObservationIds := ["O1"]
    reservationIds := ["RES1"], pendingReconciliationIds := []
    identities := by decide, versions := by decide, observations := by decide }

def reservation : ReservationRecord :=
  { reservationId := "RES1", attemptId := "A1", reservedUnits := 6000
    identity := by decide, settled_fits := by simp }

def record : DurableAgentJobRecord :=
  { tenantId := "tenant-a", jobId := "J1", currentStepId := "S1", currentAttemptId := "A1"
    state := .running, stateVersion := 12, fenceToken := 8, leaseOwner := some "W1"
    leaseExpiryEpochMs := some 100, leaseGeneration := 2, currentCheckpoint := checkpoint
    reservations := [reservation] }

def store : DurableAgentJobStore := ⟨record, []⟩

def recovery : RecoveryOperation := ⟨"R1", "A1", 2, 0, 3, 1000, none⟩

/-- The attempt has verifiably used 1800 of its 6000 units. -/
def settlement : RecoveryRequest :=
  { recoveryId := "R1", tenantId := "tenant-a", jobId := "J1", stepId := "S1", attemptId := "A1"
    checkpointId := "CP1", expectedState := .running, expectedStateVersion := 12
    expectedFenceToken := 8, nowEpochMs := 200, externalCertainty := .verifiedTerminal
    currentAuthorization := true, originalBindingCurrentlyAllowed := true
    verifiedUsageUnits := some 1800 }

/-- The next request takes the same attempt for one that never left. -/
def retry : RecoveryRequest :=
  { settlement with
    recoveryId := "R2", checkpointId := "checkpoint-5a15b9e661e9b581bbc8"
    expectedStateVersion := 13, expectedFenceToken := 9
    externalCertainty := .definitelyNotDispatched, verifiedUsageUnits := none }

def settled : DurableAgentJobRecord :=
  (performJob sha256 (.apply record recovery settlement) store).2.record

def calls : List JobCall := [.apply record recovery settlement, .apply settled recovery retry]

end Sample

theorem reservation_accounting_settled :
    (∀ reservation ∈ Sample.store.record.reservations, reservation.status = .held) ∧
    (Accounting Sample.sha256 Sample.store
        [.apply Sample.record Sample.recovery Sample.settlement] ↔
      (∀ reservation ∈ Sample.store.record.reservations, reservation.Fits) ∧
      ∀ e ∈ trace (performJob Sample.sha256) Sample.store
        [.apply Sample.record Sample.recovery Sample.settlement], Sound e.before e.call) :=
  ⟨by decide, reservation_accounting_iff Sample.sha256 Sample.store _ (by decide)⟩

/-- 1800 units settled and all 6000 released, from a reservation of 6000. -/
theorem settle_then_retry_overdraws : ¬ Accounting Sample.sha256 Sample.store Sample.calls := by
  intro accounting
  have units : ((final (performJob Sample.sha256) Sample.store Sample.calls).record.reservations.map
      fun reservation => (reservation.settledUnits, reservation.releasedUnits,
        reservation.reservedUnits)) = [(some 1800, 6000, 6000)] := by
    decide +kernel
  rcases List.map_eq_singleton_iff.mp units with ⟨last, found, same⟩
  have fits := accounting.fits Sample.calls [] (List.append_nil _).symm last
    (by rw [found]; exact List.mem_singleton_self last)
  simp only [Prod.mk.injEq] at same
  simp [ReservationRecord.Fits, same] at fits

end BackendHandbook.Agents
