import BackendHandbook.Agents.CoordinationRuns

/-! The lifecycle of the handoffs of one parent: their budget, their operations, their
evidence and their fan-in, over every run of the coordination store. -/

namespace BackendHandbook.Agents

open Run Fallible InMemoryCoordinationStore Coordination.Sample List

variable {digest : HandoffSemantic → String}

def operating : List HandoffState := [.dispatched, .pendingReconciliation, .verifiedCompleted]

structure Coherent (record : HandoffRecord) : Prop where
  released : record.allocation.status = .released ↔ record.state = .cancelled
  operation : record.operationId ≠ none ↔ record.state ∈ operating
  owned : record.state = .claimed ∨ record.state ∈ operating → record.claimOwner ≠ none
  unfailed : record.state ≠ .failed
  tokens : 0 < record.allocation.reservedTokens

theorem acceptedRecord_coherent (candidate : HandoffCandidate) (fingerprint : String) :
    Coherent (acceptedRecord candidate fingerprint) := by
  refine ⟨?_, ?_, ?_, ?_, candidate.tokens_pos⟩ <;> simp [acceptedRecord, operating]

theorem Coherent.accepted_of_unowned {record : HandoffRecord} (coherent : Coherent record)
    (uncancelled : record.state ≠ .cancelled) (unowned : record.claimOwner = none) :
    record.state = .accepted := by
  have owned := coherent.owned
  have unfailed := coherent.unfailed
  cases state : record.state with
  | accepted => rfl
  | failed => exact absurd state unfailed
  | cancelled => exact absurd state uncancelled
  | claimed => exact absurd unowned (owned (.inl state))
  | dispatched | pendingReconciliation | verifiedCompleted =>
    exact absurd unowned (owned (.inr (by simp [state, operating])))

theorem Coherent.unused {record : HandoffRecord} (coherent : Coherent record)
    (early : record.state = .accepted ∨ record.state = .claimed) :
    record.operationId = none ∧ record.allocation.status = .held := by
  have operation := coherent.operation
  have released := coherent.released
  rcases early with state | state
  all_goals
    rw [state] at operation released
    constructor
    · exact not_not.mp fun some => absurd (operation.mp some) (by decide)
    · cases status : record.allocation.status with
      | held => rfl
      | released => exact absurd (released.mp status) (by decide)

variable {before : HandoffRecord}

theorem Moved.coherent {call : CoordinationCall} {handoffId : String} {grants : Bool}
    {after : HandoffRecord} (move : Moved call handoffId grants before after)
    (coherent : Coherent before) : Coherent after := by
  cases move with
  | published =>
    exact ⟨coherent.released, coherent.operation, coherent.owned, coherent.unfailed,
      coherent.tokens⟩
  | claimed _ _ _ _ _ uncancelled unowned =>
    have early := coherent.accepted_of_unowned uncancelled unowned
    rcases coherent.unused (.inl early) with ⟨unused, held⟩
    refine ⟨?_, ?_, ?_, ?_, coherent.tokens⟩ <;> simp [unused, held, operating]
  | takenOver =>
    exact ⟨coherent.released, coherent.operation, fun _ => Option.some_ne_none _,
      coherent.unfailed, coherent.tokens⟩
  | dispatched _ _ _ _ _ _ _ _ ready owned =>
    rcases coherent.unused (.inr ready) with ⟨_, held⟩
    refine ⟨?_, ?_, ?_, ?_, coherent.tokens⟩ <;> simp [held, owned, operating]
  | unknown _ _ _ running =>
    have operation := coherent.operation.mpr (by simp [running, operating])
    have owned := coherent.owned (.inr (by simp [running, operating]))
    have unreleased : before.allocation.status ≠ .released := by
      rw [Ne, coherent.released, running]
      decide
    refine ⟨?_, ?_, ?_, ?_, coherent.tokens⟩ <;> simp [operation, owned, unreleased, operating]
  | cancelled _ _ unstarted =>
    rcases coherent.unused unstarted with ⟨unused, _⟩
    refine ⟨?_, ?_, ?_, ?_, coherent.tokens⟩ <;> simp [unused, operating]
  | cancelling _ _ unended started =>
    have running : before.state ∈ operating := by
      have unfailed := coherent.unfailed
      revert unended started unfailed
      cases before.state <;> simp [operating]
    have operation := coherent.operation.mpr running
    have owned := coherent.owned (.inr running)
    have unreleased : before.allocation.status ≠ .released := by
      rw [Ne, coherent.released]
      exact unended.1
    refine ⟨?_, ?_, ?_, ?_, coherent.tokens⟩ <;> simp [operation, owned, unreleased, operating]

theorem Coherent.verified {record : HandoffRecord} (coherent : Coherent record)
    (running : record.state = .dispatched) : Coherent
      { record with state := .verifiedCompleted, stateVersion := record.stateVersion + 1 } := by
  have operation := coherent.operation.mpr (by simp [running, operating])
  have owned := coherent.owned (.inr (by simp [running, operating]))
  have unreleased : record.allocation.status ≠ .released := by
    rw [Ne, coherent.released, running]
    decide
  refine ⟨?_, ?_, ?_, ?_, coherent.tokens⟩ <;> simp [operation, owned, unreleased, operating]

theorem Moved.keeps {call : CoordinationCall} {handoffId : String} {grants : Bool}
    {after : HandoffRecord} (move : Moved call handoffId grants before after)
    (coherent : Coherent before) : after.candidate = before.candidate ∧ after.grant = before.grant ∧
      heldTokens after ≤ heldTokens before ∧
      before.fenceToken ≤ after.fenceToken ∧ before.stateVersion ≤ after.stateVersion ∧
      (∀ operation, before.operationId = some operation → after.operationId = some operation) ∧
      (after.state = .verifiedCompleted ↔ before.state = .verifiedCompleted) := by
  have tokens := coherent.tokens
  cases move with
  | published => exact ⟨rfl, rfl, le_refl _, le_refl _, le_refl _, fun _ same => same, .rfl⟩
  | claimed _ _ _ _ _ uncancelled unowned =>
    have early := coherent.accepted_of_unowned uncancelled unowned
    exact ⟨rfl, rfl, le_refl _, Nat.le_succ _, Nat.le_succ _, fun _ same => same,
      by simp [early]⟩
  | takenOver =>
    exact ⟨rfl, rfl, le_refl _, Nat.le_succ _, Nat.le_succ _, fun _ same => same, .rfl⟩
  | dispatched _ _ _ _ _ _ _ _ ready =>
    have unused := (coherent.unused (.inr ready)).1
    refine ⟨rfl, rfl, le_refl _, le_refl _, Nat.le_succ _, fun _ same => ?_, by simp [ready]⟩
    rw [unused] at same
    cases same
  | unknown _ _ _ running =>
    exact ⟨rfl, rfl, le_refl _, le_refl _, Nat.le_succ _, fun _ same => same,
      by simp [running]⟩
  | cancelled _ _ unstarted =>
    rcases coherent.unused unstarted with ⟨_, held⟩
    refine ⟨rfl, rfl, ?_, le_refl _, Nat.le_succ _, fun _ same => same, ?_⟩
    · simp only [heldTokens, held]
      exact le_of_lt tokens
    · rcases unstarted with state | state <;> simp [state]
  | cancelling _ _ unended =>
    exact ⟨rfl, rfl, le_refl _, le_refl _, Nat.le_succ _, fun _ same => same,
      by simp [unended.2]⟩

variable (handoffId : String) (store : CoordinationStore)

def applications : Nat :=
  store.resultEvidence.countP fun entry =>
    entry.appliedToCurrentState ∧ entry.candidate.handoffId = handoffId

def verified : Bool := (store.records.lookup handoffId).any (·.state = .verifiedCompleted)

structure Governed (store : CoordinationStore) : Prop where
  coherent : ∀ handoffId record, store.records.lookup handoffId = some record → Coherent record
  allocated : allocatedTokens store ≤ store.parentTokenReservation
  evidence : ∀ handoffId, applications handoffId store = if verified handoffId store then 1 else 0

theorem put_lookup {store : CoordinationStore} {handoffId other : String} {record : HandoffRecord} :
    (put store handoffId record).records.lookup other =
      if other = handoffId then some record else store.records.lookup other :=
  Dict.lookup_insert_eq store.records handoffId other record

theorem verified_put {store : CoordinationStore} {handoffId : String} {record : HandoffRecord}
    (same : record.state = .verifiedCompleted ↔ verified handoffId store = true) (other : String) :
    verified other (put store handoffId record) = verified other store := by
  unfold verified at *
  rw [put_lookup]
  by_cases named : other = handoffId
  · subst named
    rw [if_pos rfl, Option.any_some, Bool.eq_iff_iff, ← same, decide_eq_true_eq]
  · rw [if_neg named]

variable {call : CoordinationCall} {store next : CoordinationStore} {grants : Option String}

theorem governed_step (step : StoreStep digest store call grants next)
    (governed : Governed store) : Governed next := by
  cases step with
  | same evidence _ unapplied =>
    refine ⟨governed.coherent, governed.allocated, fun handoffId => ?_⟩
    have none : evidence.countP (fun entry =>
        entry.appliedToCurrentState ∧ entry.candidate.handoffId = handoffId) = 0 := by
      apply countP_eq_zero.mpr
      intro entry inside
      simp [unapplied entry inside]
    have before := governed.evidence handoffId
    unfold applications at *
    rw [countP_append, none]
    exact before
  | accepted candidate _ _ _ fresh admitted =>
    have admissible := admissible_iff.mp admitted
    refine ⟨fun handoffId record found => ?_, ?_, fun handoffId => ?_⟩
    · rw [put_lookup] at found
      split at found
      · cases Option.some.inj found
        exact acceptedRecord_coherent _ _
      · exact governed.coherent handoffId record found
    · have funded := admissible.funded
      have held : heldTokens (acceptedRecord candidate (digest candidate.semantic)) =
        candidate.requestedTokens := rfl
      unfold allocatedTokens at *
      simp only [put]
      rw [Dict.total_insert_of_absent _ _ _ _ fresh]
      omega
    · have unverified := @verified_put store candidate.handoffId
        (acceptedRecord candidate (digest candidate.semantic))
        (by simp [acceptedRecord, verified, fresh]) handoffId
      rw [unverified]
      exact governed.evidence handoffId
  | moved handoffId _ before after found move =>
    have coherent := governed.coherent handoffId before found
    rcases move.keeps coherent with ⟨_, _, _, _, _, _, state⟩
    refine ⟨fun other record stored => ?_, ?_, fun other => ?_⟩
    · rw [put_lookup] at stored
      split at stored
      · cases Option.some.inj stored
        exact move.coherent coherent
      · exact governed.coherent other record stored
    · have allocated := governed.allocated
      have exchanged := Dict.total_insert_of_present heldTokens store.records handoffId after
        before found
      unfold allocatedTokens at *
      simp only [put]
      omega
    · have unchanged := @verified_put store handoffId after
        (by simp [state, verified, found]) other
      rw [unchanged]
      exact governed.evidence other
  | verified candidate _ before _ found checked =>
    rcases verification_verified checked with ⟨_, _, _, running⟩
    have coherent := governed.coherent _ before found
    refine ⟨Dict.forall_insert (coherent.verified running) governed.coherent, ?_, fun other => ?_⟩
    · have allocated := governed.allocated
      have exchanged := Dict.total_insert_of_present heldTokens store.records candidate.handoffId
        { before with state := .verifiedCompleted, stateVersion := before.stateVersion + 1 }
        before found
      unfold allocatedTokens at *
      simp only [heldTokens] at *
      omega
    · have counted := governed.evidence other
      unfold applications verified at *
      simp only [countP_append, counted]
      by_cases named : other = candidate.handoffId
      · subst named
        simp [found, running]
      · simp [named, Ne.symm named]

theorem StoreStep.parent (step : StoreStep digest store call grants next) :
    (next.parentJobId, next.parentTokenReservation) =
      (store.parentJobId, store.parentTokenReservation) := by
  cases step <;> rfl

theorem record_step (step : StoreStep digest store call grants next)
    (governed : Governed store) {handoffId : String}
    (found : store.records.lookup handoffId = some before) :
    ∃ after, next.records.lookup handoffId = some after ∧
      after.candidate = before.candidate ∧ after.grant = before.grant ∧
      before.fenceToken ≤ after.fenceToken ∧ before.stateVersion ≤ after.stateVersion ∧
      ∀ operation, before.operationId = some operation → after.operationId = some operation := by
  have kept : ∃ after, store.records.lookup handoffId = some after ∧
      after.candidate = before.candidate ∧ after.grant = before.grant ∧
      before.fenceToken ≤ after.fenceToken ∧ before.stateVersion ≤ after.stateVersion ∧
      ∀ operation, before.operationId = some operation → after.operationId = some operation :=
    ⟨before, found, rfl, rfl, le_refl _, le_refl _, fun _ same => same⟩
  cases step with
  | same => exact kept
  | accepted candidate _ _ _ fresh =>
    have other : handoffId ≠ candidate.handoffId := Dict.ne_of_absent fresh found
    rw [put_lookup, if_neg other]
    exact kept
  | moved other _ _ new stored move =>
    rw [put_lookup]
    by_cases named : handoffId = other
    · subst named
      cases Option.some.inj (found.symm.trans stored)
      rcases move.keeps (governed.coherent _ _ found) with
        ⟨candidate, grant, _, fence, version, operation, _⟩
      exact ⟨new, if_pos rfl, candidate, grant, fence, version, operation⟩
    · rw [if_neg named]
      exact kept
  | verified candidate _ _ _ stored =>
    rw [Dict.lookup_insert_eq]
    by_cases named : handoffId = candidate.handoffId
    · subst named
      cases Option.some.inj (found.symm.trans stored)
      exact ⟨_, if_pos rfl, rfl, rfl, le_refl _, Nat.le_succ _, fun _ same => same⟩
    · rw [if_neg named]
      exact kept

def addFact (values : Dict String (List String)) (item : ChildResultCandidate) :
    Dict String (List String) :=
  values.insert item.factKey (((values.lookup item.factKey).getD []).insert item.factValue)

theorem factValues_kept (items : List ChildResultCandidate) (values : Dict String (List String))
    (key value : String) (present : (∃ stored, values.lookup key = some stored ∧ value ∈ stored) ∨
      ∃ item ∈ items, item.factKey = key ∧ item.factValue = value) :
    ∃ stored, (items.foldl addFact values).lookup key = some stored ∧ value ∈ stored := by
  induction items generalizing values with
  | nil =>
    rcases present with stored | ⟨_, inside, _⟩
    · exact stored
    · cases inside
  | cons item _ ih =>
    apply ih
    rcases present with ⟨stored, found, inside⟩ | ⟨other, member, named, valued⟩
    · left
      unfold addFact
      rw [Dict.lookup_insert_eq]
      by_cases same : key = item.factKey
      · subst same
        rw [if_pos rfl, found]
        exact ⟨_, rfl, mem_insert_of_mem inside⟩
      · rw [if_neg same]
        exact ⟨stored, found, inside⟩
    · rcases mem_cons.mp member with rfl | later
      · left
        unfold addFact
        rw [Dict.lookup_insert_eq, if_pos named.symm, ← valued]
        exact ⟨_, rfl, mem_insert_self⟩
      · exact .inr ⟨other, later, named, valued⟩

theorem facts_agree {verified : List ChildResultCandidate}
    (agreed : (factValues verified).values.any (1 < ·.length) = false)
    {first second : ChildResultCandidate} (one : first ∈ verified) (two : second ∈ verified)
    (key : first.factKey = second.factKey) : first.factValue = second.factValue := by
  rcases factValues_kept verified ∅ first.factKey first.factValue
    (.inr ⟨first, one, rfl, rfl⟩) with ⟨stored, found, inside⟩
  rcases factValues_kept verified ∅ first.factKey second.factValue
    (.inr ⟨second, two, key.symm, rfl⟩) with ⟨_, again, beside⟩
  cases Option.some.inj (found.symm.trans again)
  have short := any_eq_false.mp agreed stored (Dict.mem_values.mpr ⟨_, found⟩)
  rw [decide_eq_true_eq] at short
  cases stored with
  | nil => cases inside
  | cons _ rest =>
    have alone : rest = [] := by
      apply length_eq_zero_iff.mp
      simp only [length_cons] at short
      omega
    subst alone
    rw [mem_singleton.mp inside, mem_singleton.mp beside]

theorem aggregate_ready (ready : (aggregate store).status = .ready) :
    (∀ handoffId record, store.records.lookup handoffId = some record →
      record.state = .verifiedCompleted) ∧
      ∀ first ∈ store.resultEvidence, ∀ second ∈ store.resultEvidence,
        first.appliedToCurrentState → second.appliedToCurrentState →
        first.candidate.factKey = second.candidate.factKey →
        first.candidate.factValue = second.candidate.factValue := by
  rcases passed ready nofun with ⟨_, ready⟩
  rcases passed ready nofun with ⟨required, ready⟩
  rcases passed ready nofun with ⟨agreed, ready⟩
  rcases passed ready nofun with ⟨optional, _⟩
  have allRequired := countP_eq_length.mp (not_not.mp required)
  have allOptional := countP_eq_length.mp (not_not.mp optional)
  constructor
  · intro handoffId record found
    have member : record ∈ store.records.values := Dict.mem_values.mpr ⟨handoffId, found⟩
    cases kind : record.candidate.required with
    | true =>
      exact of_decide_eq_true (allRequired record (mem_filter.mpr ⟨member, kind⟩))
    | false =>
      exact of_decide_eq_true (allOptional record
        (mem_filter.mpr ⟨member, by rw [kind, Bool.not_false]⟩))
  · intro first one second two applied later
    have collected : ∀ entry ∈ store.resultEvidence, entry.appliedToCurrentState →
        entry.candidate ∈
          (store.resultEvidence.filter (·.appliedToCurrentState)).map (·.candidate) :=
      fun entry inside mark => mem_map.mpr ⟨entry, mem_filter.mpr ⟨inside, mark⟩, rfl⟩
    exact facts_agree (eq_false_of_ne_true agreed) (collected first one applied)
      (collected second two later)

def newStore (parentJobId : String) (parentTokenReservation : Int)
    (positive : 0 < parentTokenReservation) : CoordinationStore :=
  { parentJobId, parentTokenReservation, reservation_pos := positive }

theorem newStore_governed (parentJobId : String) (reservation : Int) (positive : 0 < reservation) :
    Governed (newStore parentJobId reservation positive) := by
  refine ⟨fun handoffId record found => ?_, le_of_lt positive, fun handoffId => ?_⟩
  · cases found
  · simp [applications, verified, newStore]

variable (calls : List CoordinationCall) {store : CoordinationStore}

theorem governed_final
    (governed : Governed store) : Governed (final (performCoordination digest) store calls) :=
  invariant_final (performCoordination digest) Governed (fun _ => True)
    (fun store call _ => governed_step (performCoordination_step digest call store)) store calls
    (fun _ _ => trivial) governed

theorem parent_final :
    (final (performCoordination digest) store calls).parentJobId = store.parentJobId ∧
      (final (performCoordination digest) store calls).parentTokenReservation =
        store.parentTokenReservation := by
  apply invariant_final (performCoordination digest) (fun next =>
    next.parentJobId = store.parentJobId ∧
      next.parentTokenReservation = store.parentTokenReservation) (fun _ => True) _ store calls
    (fun _ _ => trivial) ⟨rfl, rfl⟩
  intro current call _ same
  have kept := Prod.mk.inj (performCoordination_step digest call current).parent
  exact ⟨kept.1.trans same.1, kept.2.trans same.2⟩

theorem applied_step (step : StoreStep digest store call grants next)
    {entry : ResultEvidence} (absent : entry ∉ store.resultEvidence)
    (present : entry ∈ next.resultEvidence) (applied : entry.appliedToCurrentState = true) :
    ∃ versions record, call = .verifyResult entry.candidate versions ∧
      next.resultEvidence = store.resultEvidence ++ [entry] ∧
      store.records.lookup entry.candidate.handoffId = some record ∧
      record.claimOwner = some entry.candidate.workerId ∧
      record.fenceToken = entry.candidate.fenceToken := by
  cases step with
  | same _ _ unapplied =>
    rcases mem_append.mp present with old | new
    · exact absurd old absent
    · rw [unapplied entry new] at applied
      cases applied
  | accepted | moved => exact absurd present absent
  | verified _ versions before called found checked =>
    rcases mem_append.mp present with old | new
    · exact absurd old absent
    · cases mem_singleton.mp new
      rcases verification_verified checked with ⟨_, fence, owner, _⟩
      exact ⟨versions, before, called, rfl, found, owner, fence.symm⟩

section Runs

variable (digest) (start : CoordinationStore) (calls : List CoordinationCall)

structure LifecycleKept : Prop where
  allocated : ∀ front back, calls = front ++ back →
    allocatedTokens (final (performCoordination digest) start front) ≤
      start.parentTokenReservation
  released : ∀ front back, calls = front ++ back → ∀ handoffId record,
    (final (performCoordination digest) start front).records.lookup handoffId = some record →
    (record.allocation.status = .released ↔ record.state = .cancelled)
  operation : ∀ front back, calls = front ++ back → ∀ handoffId record,
    (final (performCoordination digest) start front).records.lookup handoffId = some record →
    (record.operationId ≠ none ↔ record.state ∈ operating)
  operationKept : ∀ handoffId operation, Permanent (performCoordination digest)
    (fun store => ∃ record, store.records.lookup handoffId = some record ∧
      record.operationId = some operation) start calls
  evidence : ∀ front back, calls = front ++ back → ∀ handoffId record,
    (final (performCoordination digest) start front).records.lookup handoffId = some record →
    (record.state = .verifiedCompleted ↔
      applications handoffId (final (performCoordination digest) start front) = 1)
  current : ∀ front back, calls = front ++ back →
    ∀ entry ∈ (final (performCoordination digest) start front).resultEvidence,
    entry.appliedToCurrentState → ∃ early versions late record,
      front = early ++ .verifyResult entry.candidate versions :: late ∧
      (final (performCoordination digest) start
        (early ++ [.verifyResult entry.candidate versions])).resultEvidence =
        (final (performCoordination digest) start early).resultEvidence ++ [entry] ∧
      (final (performCoordination digest) start early).records.lookup
        entry.candidate.handoffId = some record ∧
      record.claimOwner = some entry.candidate.workerId ∧
      record.fenceToken = entry.candidate.fenceToken
  counters : ∀ e ∈ trace (performCoordination digest) start calls, ∀ handoffId before,
    e.before.records.lookup handoffId = some before →
    ∃ after, e.after.records.lookup handoffId = some after ∧
      before.fenceToken ≤ after.fenceToken ∧ before.stateVersion ≤ after.stateVersion
  ready : ∀ front back, calls = front ++ back →
    (aggregate (final (performCoordination digest) start front)).status = .ready →
    (∀ handoffId record,
      (final (performCoordination digest) start front).records.lookup handoffId = some record →
      record.state = .verifiedCompleted) ∧
    ∀ first ∈ (final (performCoordination digest) start front).resultEvidence,
      ∀ second ∈ (final (performCoordination digest) start front).resultEvidence,
      first.appliedToCurrentState → second.appliedToCurrentState →
      first.candidate.factKey = second.candidate.factKey →
      first.candidate.factValue = second.candidate.factValue

end Runs

theorem governed_before {calls : List CoordinationCall}
    (governed : Governed store) {e : CoordinationEvent}
    (member : e ∈ trace (performCoordination digest) store calls) : Governed e.before :=
  (invariant_trace (performCoordination digest) Governed (fun _ => True)
    (fun store call _ => governed_step (performCoordination_step digest call store)) store calls
    (fun _ _ => trivial) governed e member).2

theorem handoff_lifecycle (digest : HandoffSemantic → String) (parentJobId : String)
    (reservation : Int) (positive : 0 < reservation) (calls : List CoordinationCall) :
    LifecycleKept digest (newStore parentJobId reservation positive) calls := by
  have begins := newStore_governed parentJobId reservation positive
  have governed := fun front => @governed_final digest front _ begins
  refine ⟨?_, ?_, ?_, ?_, ?_, ?_, ?_, fun _ _ _ => aggregate_ready⟩
  · intro front _ _
    rw [← (parent_final front).2]
    exact (governed front).allocated
  · intro front _ _ handoffId record found
    exact ((governed front).coherent handoffId record found).released
  · intro front _ _ handoffId record found
    exact ((governed front).coherent handoffId record found).operation
  · intro handoffId operation
    rw [permanent_iff]
    intro e member ⟨before, found, recorded⟩
    have step := performCoordination_step digest e.call e.before
    rw [← (mem_trace_performed member).2] at step
    rcases record_step step (governed_before begins member) found with
      ⟨after, stored, _, _, _, _, kept⟩
    exact ⟨after, stored, kept operation recorded⟩
  · intro front _ _ handoffId record found
    rw [(governed front).evidence handoffId]
    simp [verified, found]
  · intro front _ _ entry inside applied
    obtain ⟨early, call, late, split, absent, present⟩ := first_exit (performCoordination digest)
      (fun store => entry ∉ store.resultEvidence) (newStore parentJobId reservation positive)
      front (by simp [newStore]) (not_not.mpr inside)
    have step := performCoordination_step digest call
      (final (performCoordination digest) (newStore parentJobId reservation positive) early)
    rcases applied_step step absent (not_not.mp present) applied with
      ⟨versions, record, rfl, appended, found, owner, fence⟩
    refine ⟨early, versions, late, record, split, ?_, found, owner, fence⟩
    rw [final_append]
    exact appended
  · intro e member handoffId before found
    have step := performCoordination_step digest e.call e.before
    rw [← (mem_trace_performed member).2] at step
    rcases record_step step (governed_before begins member) found with
      ⟨after, stored, _, _, fence, version, _⟩
    exact ⟨after, stored, fence, version⟩

theorem handoff_lifecycle_completed : (0 : Int) < 9000 ∧ LifecycleKept Coordination.Sample.digest
      (newStore "parent-1" 9000 (by decide)) completed :=
  ⟨by decide, handoff_lifecycle Coordination.Sample.digest "parent-1" 9000 (by decide)
    completed⟩

example : (aggregate (final (performCoordination Coordination.Sample.digest)
    (newStore "parent-1" 9000 (by decide)) completed)).status = .ready := by
  decide +kernel

end BackendHandbook.Agents
