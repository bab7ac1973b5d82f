import BackendHandbook.Ingestion.Recovery

/-! When a parse may be dispatched again.

The claim compares the operation with the state its caller expects, so it also goes
through from a state whose parse outcome is not settled. `Replays` is that step. -/

namespace BackendHandbook.Ingestion

open InMemoryIngestionLifecycleStore Run Sample IngestionOperationRecord

variable {sha256 : String → String}

abbrev StoreEvent := Event Store Call Call.Response

def claimOutcome : (call : Call) → call.Response → Option IngestionDispatchClaimOutcome
  | .claimParseDispatch .., .ok claim => some claim.outcome
  | _, _ => none

variable (operationId : String)

def Claims (e : StoreEvent) : Prop :=
  (∃ identity attempt expectedState expectedStateVersion expectedFence,
    e.call = .claimParseDispatch identity attempt expectedState expectedStateVersion
      expectedFence ∧ identity.operationId = operationId) ∧
  claimOutcome e.call e.response = some .claimed

def Reconciles (e : StoreEvent) : Prop :=
  (∃ identity expectedStateVersion expectedFence,
    e.call = .commitAuthoritativeReconciliation identity .provenNotExecuted
      expectedStateVersion expectedFence ∧ identity.operationId = operationId) ∧
  durable e.call e.response = true

def Readies (e : StoreEvent) : Prop :=
  (∃ identity expectedStateVersion expectedFence,
    e.call = .prepareProvenNotExecutedRetry identity expectedStateVersion expectedFence ∧
      identity.operationId = operationId) ∧
  durable e.call e.response = true

/-- Among the events, a reconciliation and after it a retry preparation. -/
def SettledWithin (events : List StoreEvent) : Prop :=
  ∃ reconciled readied, Reconciles operationId reconciled ∧ Readies operationId readied ∧
    [reconciled, readied].Sublist events

def stateOf (store : Store) : Option IngestionOperationState :=
  (store.operation? operationId).map (·.state)

def Terminal (state : Option IngestionOperationState) : Prop :=
  state = some .completed ∨ state = some .failed ∨ state = some .quarantined

structure NoReplay (calls : List Call) : Prop where
  ready : ∀ e ∈ trace perform {} calls, ∀ operationId, Claims operationId e →
    stateOf operationId e.before = some .readyForDispatch
  settled : ∀ operationId front first middle second back,
    trace perform {} calls = front ++ first :: (middle ++ second :: back) →
    Claims operationId first → Claims operationId second → SettledWithin operationId middle
  pending : ∀ operationId front first middle second back,
    trace perform {} calls = front ++ first :: (middle ++ second :: back) →
    stateOf operationId first.after = some .pendingReconciliation →
    Claims operationId second → SettledWithin operationId middle
  terminal : ∀ operationId front first middle second back,
    trace perform {} calls = front ++ first :: (middle ++ second :: back) →
    Terminal (stateOf operationId first.after) → ¬ Claims operationId second

/-- A claim with an expected state other than `READY_FOR_DISPATCH` that passes every guard. -/
def Replays (store : Store) (call : Call) : Prop :=
  ∃ identity attempt expectedState expectedStateVersion expectedFence current claimed,
    call = .claimParseDispatch identity attempt expectedState expectedStateVersion
      expectedFence ∧ expectedState ≠ .readyForDispatch ∧
    ClaimAdmitted store identity attempt expectedState expectedStateVersion expectedFence
      current ∧
    current.advance .parseDispatchStarted (some attempt)
      (remember current.rememberCurrent attempt) = .ok claimed

theorem claim_of_admitted {store : Store} {identity : IngestionOperationIdentity}
    {attempt : ParserAttemptIdentity} {expectedState : IngestionOperationState}
    {expectedStateVersion expectedFence : Int} {current claimed : IngestionOperationRecord}
    (admitted : ClaimAdmitted store identity attempt expectedState expectedStateVersion
      expectedFence current) (moved : current.advance .parseDispatchStarted (some attempt)
      (remember current.rememberCurrent attempt) = .ok claimed) :
    claimParseDispatch identity attempt expectedState expectedStateVersion expectedFence store =
      (.ok { outcome := .claimed, record := some claimed, durableTransition := true },
        store.putOperation identity.operationId claimed) := by
  have bound : ¬ (attempt.operationId ≠ identity.operationId ∨
      attempt.idempotencyKey ≠ identity.idempotencyKey) := by
    simp [admitted.attempt_bound]
  have unclaimed := admitted.unclaimed
  rw [admitted.state_eq] at unclaimed
  simp [claimParseDispatch, admitted.found, admitted.identity_eq, bound, unclaimed,
    admitted.state_eq, admitted.version_eq, admitted.fence_eq, admitted.follows, moved]

variable {e : StoreEvent}

theorem claims_spec {operationId : String} (performed : e.response = (perform e.call e.before).1 ∧
      e.after = (perform e.call e.before).2) (claims : Claims operationId e) :
    (stateOf operationId e.before = some .readyForDispatch ∨ Replays e.before e.call) ∧
      stateOf operationId e.after = some .parseDispatchStarted := by
  rcases claims with ⟨⟨identity, attempt, expectedState, version, fence, called, named⟩, claimed⟩
  rw [performed.1] at claimed
  rw [performed.2]
  rw [called] at claimed ⊢
  subst named
  rcases claim_cases e.before identity attempt expectedState version fence with
    ⟨claim, same, _, refused⟩ | ⟨current, admitted, ⟨raised, same⟩ | ⟨next, moved, same⟩⟩
  · simp only [perform, same] at claimed
    exact absurd (Option.some.inj claimed) refused
  · simp only [perform, same] at claimed
    cases claimed
  · constructor
    · by_cases ready : expectedState = .readyForDispatch
      · left
        rw [stateOf, admitted.found, Option.map_some, admitted.state_eq, ready]
      · right
        exact ⟨identity, attempt, expectedState, version, fence, current, next, rfl, ready,
          admitted, moved⟩
    · simp [perform, same, stateOf, operation?_putOperation, (advance_ok moved).2.1]

theorem state_perform (store : Store) (call : Call) (legal : Legal sha256 call)
    (operationId : String) :
    stateOf operationId (perform call store).2 = stateOf operationId store ∨
      (stateOf operationId store = none ∧
        stateOf operationId (perform call store).2 = some .readyForDispatch) ∨
      durable call (perform call store).1 = true ∧ ∃ before after,
        stateOf operationId store = some before ∧
        stateOf operationId (perform call store).2 = some after ∧
        Lifecycle store operationId call before after := by
  unfold stateOf
  rcases perform_step store call legal with quiet | ⟨moved, change⟩
  · left; rw [quiet.2]
  rcases operation_after change operationId with
    same | ⟨_, _, _, _, _, absent, fresh⟩ | ⟨current, next, found, placed, _, _, edge⟩
  · left; rw [same]
  · right; left
    rw [absent, fresh]
    exact ⟨rfl, rfl⟩
  · right; right
    rw [found, placed]
    exact ⟨moved, current.state, next.state, rfl, rfl, edge⟩

section Segments

variable {state : Store} {calls : List Call} {operationId : String}
  (legal : ∀ call ∈ calls, Legal sha256 call)
  (honest : ∀ e ∈ trace perform state calls, ¬ Replays e.before e.call)

include legal honest

theorem terminal_final (start : Terminal (stateOf operationId state)) :
    Terminal (stateOf operationId (final perform state calls)) := by
  apply kept_final perform (fun store => Terminal (stateOf operationId store)) state calls _ start
  intro e member held
  rw [(mem_trace_performed member).2]
  have admissible := legal e.call (mem_of_mem_trace perform state calls e member)
  rcases state_perform e.before e.call admissible operationId with
    same | ⟨absent, _⟩ | ⟨_, _, _, found, placed, edge⟩
  · rw [same]; exact held
  · rw [absent] at held; simp [Terminal] at held
  · rw [found] at held
    rw [placed]
    have closed := honest e member
    revert closed
    generalize e.call = call at edge
    intro closed
    cases edge with
    | claim identity attempt _ version fence current claimed _ admitted advanced =>
      refine absurd ⟨identity, attempt, _, version, fence, current, claimed, rfl, ?_,
        admitted, advanced⟩ closed
      rintro rfl
      simp [Terminal] at held
    | ready | pend | reconcile | quarantine => simp [Terminal] at held
    | complete => exact .inl rfl

theorem not_terminal_within (finish : stateOf operationId (final perform state calls) =
      some .readyForDispatch) (front back : List Call) (split : calls = front ++ back) :
    ¬ Terminal (stateOf operationId (final perform state front)) := by
  subst split
  intro terminal
  rw [final_append] at finish
  rw [trace_append] at honest
  have stays := terminal_final
    (fun call member => legal call (List.mem_append_right _ member))
    (fun e member => honest e (List.mem_append_right _ member)) terminal
  rw [finish] at stays
  simp [Terminal] at stays

theorem readied_within (start : stateOf operationId state = some .provenNotExecuted)
    (finish : stateOf operationId (final perform state calls) = some .readyForDispatch) :
    ∃ readied ∈ trace perform state calls, Readies operationId readied := by
  obtain ⟨front, call, back, split, before, left⟩ := first_exit perform
    (fun store => stateOf operationId store = some .provenNotExecuted) state calls start
    (by simp [finish])
  have member : event perform (final perform state front) call ∈ trace perform state calls := by
    rw [split]; exact event_mem_trace perform state front back call
  have closed := honest _ member
  rcases state_perform (final perform state front) call (legal call (by rw [split]; simp))
      operationId with
    same | ⟨absent, _⟩ | ⟨moved, source, _, found, placed, edge⟩
  · exact absurd (same.trans before) left
  · rw [before] at absent; cases absent
  have named : source = .provenNotExecuted := Option.some.inj (found.symm.trans before)
  cases edge with
  | claim identity attempt _ version fence current claimed _ admitted advanced =>
    exact absurd ⟨identity, attempt, _, version, fence, current, claimed, rfl,
      by rw [named]; decide, admitted, advanced⟩ closed
  | ready identity version fence owner =>
    exact ⟨_, member, ⟨identity, version, fence, rfl, owner⟩, moved⟩
  | pend | reconcile | quarantine => cases named
  | complete decision guard =>
    refine absurd (.inl ?_) (not_terminal_within legal honest finish
      (front ++ [.commit decision guard]) back (by simpa using split))
    rw [final_append]
    exact placed

theorem settled_within (start : stateOf operationId state = some .parseDispatchStarted ∨
      stateOf operationId state = some .pendingReconciliation)
    (finish : stateOf operationId (final perform state calls) = some .readyForDispatch) :
    SettledWithin operationId (trace perform state calls) := by
  obtain ⟨front, call, back, split, before, left⟩ := first_exit perform
    (fun store => stateOf operationId store = some .parseDispatchStarted ∨
      stateOf operationId store = some .pendingReconciliation) state calls start
    (by simp [finish])
  rcases state_perform (final perform state front) call (legal call (by rw [split]; simp))
      operationId with
    same | ⟨absent, _⟩ | ⟨moved, _, target, found, placed, edge⟩
  · exact absurd (same ▸ before) left
  · rw [absent] at before; simp at before
  have after : stateOf operationId (final perform state (front ++ [call])) = some target := by
    rw [final_append]; exact placed
  have calm := not_terminal_within legal honest finish (front ++ [call]) back
    (by simpa using split)
  rw [after] at calm
  cases edge with
  | claim => exact absurd (.inl placed) left
  | ready => rw [found] at before; simp at before
  | pend => exact absurd (.inr placed) left
  | reconcile identity _ version fence owner supported =>
    rcases supported with rfl | rfl
    · simp [Terminal] at calm
    subst split
    rw [final_append] at finish
    rw [trace_append] at honest
    obtain ⟨readied, later, readies⟩ := readied_within
      (fun next (member : next ∈ back) => legal next (by simp [member]))
      (fun e member => honest e (List.mem_append_right _ (List.mem_cons_of_mem _ member)))
      placed finish
    refine ⟨event perform (final perform state front) _, readied,
      ⟨⟨identity, version, fence, rfl, owner⟩, moved⟩, readies, ?_⟩
    rw [trace_append]
    exact ((List.singleton_sublist.mpr later).cons_cons _).trans (List.sublist_append_right _ _)
  | quarantine | complete => simp [Terminal] at calm

end Segments

theorem claims_of_replays
    (performed : e.response = (perform e.call e.before).1) (replays : Replays e.before e.call) :
    ∃ operationId, Claims operationId e ∧
      stateOf operationId e.before ≠ some .readyForDispatch := by
  rcases replays with
    ⟨identity, attempt, expectedState, version, fence, _, _, called, unready, admitted,
    moved⟩
  refine ⟨identity.operationId, ⟨⟨identity, attempt, expectedState, version, fence, called,
    rfl⟩, ?_⟩, ?_⟩
  · rw [performed, called]
    simp [perform, claim_of_admitted admitted moved, claimOutcome]
  · rw [stateOf, admitted.found, Option.map_some, admitted.state_eq]
    simpa using unready

/-- The parse protocol holds over a run exactly when no claim of the run replays. -/
theorem no_replay_iff (calls : List Call) (legal : ∀ call ∈ calls, Legal sha256 call) :
    NoReplay calls ↔ ∀ e ∈ trace perform {} calls, ¬ Replays e.before e.call := by
  constructor
  · intro sound e member replays
    rcases claims_of_replays (mem_trace_performed member).1 replays with
      ⟨operationId, claims, unready⟩
    exact unready (sound.ready e member operationId claims)
  intro honest
  have claimed : ∀ e ∈ trace perform {} calls, ∀ operationId, Claims operationId e →
      stateOf operationId e.before = some .readyForDispatch := by
    intro e member operationId claims
    rcases (claims_spec (mem_trace_performed member) claims).1 with
      ready | replays
    · exact ready
    · exact absurd replays (honest e member)
  -- Every segment between two events is a run of its own, legal and honest.
  have segment : ∀ front first middle second back,
      trace perform {} calls = front ++ first :: (middle ++ second :: back) →
      ∃ between, middle = trace perform first.after between ∧
        second.before = final perform first.after between ∧
        (∀ call ∈ between, Legal sha256 call) ∧
        ∀ e ∈ trace perform first.after between, ¬ Replays e.before e.call := by
    intro front first middle second back split
    rcases trace_eq_append_cons perform {} calls _ _ _ split with ⟨_, late, parts, _, _, rest⟩
    rcases trace_eq_append_cons perform first.after late _ _ _ rest.symm with
      ⟨between, _, inner, middles, seconds, _⟩
    refine ⟨between, middles, congrArg Event.before seconds, ?_, ?_⟩
    · intro call member
      exact legal call (by rw [parts, inner]; simp [member])
    · intro e member
      exact honest e (by rw [split]; simp [middles, member])
  have inside : ∀ front first middle second back,
      trace perform {} calls = front ++ first :: (middle ++ second :: back) →
      second ∈ trace perform {} calls := by
    intro front first middle second back split
    rw [split]; simp
  refine ⟨claimed, ?_, ?_, ?_⟩
  · intro operationId front first middle second back split opens repeats
    rcases segment _ _ _ _ _ split with ⟨between, rfl, before, admissible, clean⟩
    have started := (claims_spec (mem_trace_performed
      (by rw [split]; simp)) opens).2
    exact settled_within admissible clean (.inl started)
      (by rw [← before]; exact claimed second (inside _ _ _ _ _ split) operationId repeats)
  · intro operationId front first middle second back split waits repeats
    rcases segment _ _ _ _ _ split with ⟨between, rfl, before, admissible, clean⟩
    exact settled_within admissible clean (.inr waits)
      (by rw [← before]; exact claimed second (inside _ _ _ _ _ split) operationId repeats)
  · intro operationId front first middle second back split ended repeats
    rcases segment _ _ _ _ _ split with ⟨_, rfl, before, admissible, clean⟩
    have stays := terminal_final admissible clean ended
    rw [← before, claimed second (inside _ _ _ _ _ split) operationId repeats] at stays
    simp [Terminal] at stays

/-- A parse whose answer is lost, then a request that expects `PENDING_RECONCILIATION`. -/
def replaying : List Action :=
  let lost := oracle Sample.lost
  [intake, .resume 0 lost,
    .enter (.run capability (request (Sample.attempt 1) .readyForDispatch 0)),
    .resume 1 lost, .resume 1 lost, .resume 1 lost,
    .enter (.run capability (request (Sample.attempt 2) .pendingReconciliation 2)),
    .resume 2 lost]

theorem replaying_breaks_protocol : ¬ NoReplay (storeCalls digest replaying) := by
  intro sound
  let again : Call := .claimParseDispatch operation (Sample.attempt 2) .pendingReconciliation 2 2
  have member := event_mem_trace perform {} ((storeCalls digest replaying).take 3) [] again
  have ready := sound.ready _ member "op-ingest-report-42-v2"
    ⟨⟨_, _, _, _, _, rfl, rfl⟩, by decide⟩
  cases ready

theorem no_replay_iff_replaying : NoReplay (storeCalls digest replaying) ↔
      ∀ e ∈ trace perform {} (storeCalls digest replaying), ¬ Replays e.before e.call :=
  no_replay_iff _ (storeCalls_legal replaying)

end BackendHandbook.Ingestion
