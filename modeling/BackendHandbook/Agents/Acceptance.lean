import BackendHandbook.Agents.HandoffLifecycle

/-! When a terminal handoff stays where it is.

`claim` refuses a cancelled handoff and an owned one. `takeOverExpiredLease` looks at the owner
and the lease only, and both outlive the handoff. -/

namespace BackendHandbook.Agents

open Run Fallible InMemoryCoordinationStore Coordination.Sample

variable {digest : HandoffSemantic → String}

def Ended (record : HandoffRecord) : Prop :=
  record.state = .cancelled ∨ record.state = .verifiedCompleted

/-- What a worker holds of a handoff: owner, lease, fence, and the state they belong to. -/
def ownership (record : HandoffRecord) : Option String × Option Int × Nat × HandoffState × Nat :=
  (record.claimOwner, record.leaseExpiresAt, record.fenceToken, record.state, record.stateVersion)

section Runs

variable (digest) (start : CoordinationStore) (calls : List CoordinationCall)

structure TerminalKept : Prop where
  ungranted : ∀ front back, calls = front ++ back → ∀ handoffId record,
    (final (performCoordination digest) start front).records.lookup handoffId = some record →
    Ended record → ∀ e ∈ trace (performCoordination digest)
      (final (performCoordination digest) start front) back,
    granted e.call e.response ≠ some handoffId
  frozen : ∀ handoffId held, Permanent (performCoordination digest)
    (fun store => ∃ record, store.records.lookup handoffId = some record ∧ Ended record ∧
      ownership record = held) start calls

end Runs

def TakesOverEnded (store : CoordinationStore) (call : CoordinationCall) : Prop :=
  ∃ handoffId workerId now leaseDuration record,
    call = .takeOverExpiredLease handoffId workerId now leaseDuration ∧ 0 < leaseDuration ∧
    store.records.lookup handoffId = some record ∧ Ended record ∧ record.claimOwner ≠ none ∧
    record.leaseExpiresAt.all (now < ·) = false

variable {call : CoordinationCall} {handoffId : String} {before : HandoffRecord}

theorem Moved.ended {grants : Bool}
    {after : HandoffRecord} (move : Moved call handoffId grants before after)
    (coherent : Coherent before) (ended : Ended before) :
    (∃ workerId now leaseDuration, call = .takeOverExpiredLease handoffId workerId now
      leaseDuration ∧ 0 < leaseDuration ∧ before.claimOwner ≠ none ∧
      before.leaseExpiresAt.all (now < ·) = false) ∨
      grants = false ∧ ownership after = ownership before := by
  unfold Ended at ended
  cases move with
  | published => exact .inr ⟨rfl, rfl⟩
  | claimed _ _ _ _ _ uncancelled unowned =>
    rw [coherent.accepted_of_unowned uncancelled unowned] at ended
    exact absurd ended (by decide)
  | takenOver _ workerId now leaseDuration _ duration owned expired =>
    exact .inl ⟨workerId, now, leaseDuration, rfl, duration, owned, expired⟩
  | dispatched _ _ _ _ _ _ _ _ ready =>
    rw [ready] at ended
    exact absurd ended (by decide)
  | unknown _ _ _ running =>
    rw [running] at ended
    exact absurd ended (by decide)
  | cancelled _ _ unstarted =>
    rcases unstarted with state | state
    all_goals
      rw [state] at ended
      exact absurd ended (by decide)
  | cancelling _ _ unended =>
    rcases ended with state | state
    · exact absurd state unended.1
    · exact absurd state unended.2

variable {grants : Option String}

theorem ended_step {store next : CoordinationStore} (step : StoreStep digest store call grants next)
    (governed : Governed store)
    (found : store.records.lookup handoffId = some before) (ended : Ended before)
    (closed : ¬ TakesOverEnded store call) :
    grants ≠ some handoffId ∧ ∃ after, next.records.lookup handoffId = some after ∧
      ownership after = ownership before := by
  cases step with
  | same => exact ⟨nofun, before, found, rfl⟩
  | accepted candidate _ _ _ fresh =>
    refine ⟨nofun, before, ?_, rfl⟩
    have other : handoffId ≠ candidate.handoffId := Dict.ne_of_absent fresh found
    rw [put_lookup, if_neg other]
    exact found
  | moved other grants _ new stored move =>
    by_cases named : handoffId = other
    · subst named
      cases Option.some.inj (found.symm.trans stored)
      rcases move.ended (governed.coherent _ _ found) ended with
        ⟨workerId, now, leaseDuration, called, duration, owned, expired⟩ | ⟨quiet, held⟩
      · exact absurd ⟨handoffId, workerId, now, leaseDuration, before, called, duration, found,
          ended, owned, expired⟩ closed
      · rw [quiet, put_lookup, if_pos rfl]
        exact ⟨nofun, new, rfl, held⟩
    · constructor
      · cases grants with
        | false => exact nofun
        | true => exact fun same => named (Option.some.inj same).symm
      · rw [put_lookup, if_neg named]
        exact ⟨before, found, rfl⟩
  | verified candidate _ _ _ stored checked =>
    rcases verification_verified checked with ⟨_, _, _, running⟩
    have other : handoffId ≠ candidate.handoffId := by
      intro same
      rw [same, stored] at found
      cases Option.some.inj found
      unfold Ended at ended
      rw [running] at ended
      exact absurd ended (by decide)
    refine ⟨nofun, before, ?_, rfl⟩
    rw [Dict.lookup_insert_eq, if_neg other]
    exact found

variable {record : HandoffRecord}

theorem Ended.of_ownership {other : HandoffRecord} (ended : Ended record)
    (same : ownership other = ownership record) : Ended other := by
  have state : other.state = record.state := congrArg (·.2.2.2.1) same
  unfold Ended
  rw [state]
  exact ended

/-- Ended handoffs stay as they are exactly when none of them is taken over. -/
theorem terminal_handoffs_iff (digest : HandoffSemantic → String) (parentJobId : String)
    (reservation : Int) (positive : 0 < reservation) (calls : List CoordinationCall) :
    TerminalKept digest (newStore parentJobId reservation positive) calls ↔
      ∀ e ∈ trace (performCoordination digest) (newStore parentJobId reservation positive) calls,
        ¬ TakesOverEnded e.before e.call := by
  have begins := newStore_governed parentJobId reservation positive
  constructor
  · intro kept e member takes
    rcases takes with
      ⟨handoffId, _, now, _, record, called, duration, found, ended, owned,
      expired⟩
    rcases mem_trace_split (performCoordination digest) _ calls e
      member with ⟨front, back, split, same⟩
    have before : e.before = final (performCoordination digest)
      (newStore parentJobId reservation positive) front := congrArg Event.before same
    rw [before] at found
    have refused := kept.ungranted front (e.call :: back) split handoffId record found ended
      (event (performCoordination digest) _ e.call) List.mem_cons_self
    apply refused
    have owner : ¬ (record.claimOwner = none ∨ record.leaseExpiresAt.all (now < ·) = true) :=
      not_or.mpr ⟨owned, by rw [expired]; decide⟩
    rw [called]
    simp [event, performCoordination, takeOverExpiredLease, if_neg (not_le.mpr duration),
      found, if_neg owner, granted]
  · intro closed
    have frozen : ∀ handoffId held, Permanent (performCoordination digest)
        (fun store => ∃ record, store.records.lookup handoffId = some record ∧ Ended record ∧
          ownership record = held) (newStore parentJobId reservation positive) calls := by
      intro handoffId held
      rw [permanent_iff]
      rintro e member ⟨before, found, ended, same⟩
      have step := performCoordination_step digest e.call e.before
      rw [← (mem_trace_performed member).2] at step
      rcases ended_step step (governed_before begins member) found ended (closed e member) with
        ⟨_, after, stored, kept⟩
      exact ⟨after, stored, ended.of_ownership kept, kept.trans same⟩
    refine ⟨?_, frozen⟩
    intro front back split handoffId record found ended e member
    rcases mem_trace_split (performCoordination digest) _ back e
      member with ⟨middle, rest, parts, same⟩
    have before : e.before = final (performCoordination digest)
        (newStore parentJobId reservation positive) (front ++ middle) := by
      rw [final_append]
      exact congrArg Event.before same
    have whole : calls = front ++ (middle ++ e.call :: rest) := by rw [split, parts]
    rcases frozen handoffId (ownership record) front middle
      (e.call :: rest) whole ⟨record, found, ended, rfl⟩ with ⟨_, stored, still, _⟩
    rw [← before] at stored
    have inside : e ∈ trace (performCoordination digest)
        (newStore parentJobId reservation positive) calls := by
      rw [split, trace_append]
      exact List.mem_append_right _ member
    have step := performCoordination_step digest e.call e.before
    rw [← (mem_trace_performed inside).1] at step
    exact (ended_step step (governed_before begins inside) stored still (closed e inside)).1

theorem terminal_handoffs_completed : (0 : Int) < 9000 ∧
      (TerminalKept Coordination.Sample.digest (newStore "parent-1" 9000 (by decide))
          completed ↔ ∀ e ∈ trace (performCoordination Coordination.Sample.digest)
          (newStore "parent-1" 9000 (by decide)) completed,
          ¬ TakesOverEnded e.before e.call) :=
  ⟨by decide, terminal_handoffs_iff Coordination.Sample.digest "parent-1" 9000 (by decide)
    completed⟩

def reclaimed : List CoordinationCall :=
  [.accept Coordination.Sample.candidate Coordination.Sample.facts 10,
    .claim "handoff-1" "worker-a" 20 20, .cancel "handoff-1",
    .takeOverExpiredLease "handoff-1" "worker-b" 40 20]

theorem cancelled_handoff_reclaimed :
    ¬ TerminalKept Coordination.Sample.digest (newStore "parent-1" 9000 (by decide)) reclaimed := by
  intro kept
  have cancelled : ((final (performCoordination Coordination.Sample.digest)
      (newStore "parent-1" 9000 (by decide)) (reclaimed.take 3)).records.lookup "handoff-1").any
      (·.state = .cancelled) = true := by decide +kernel
  rcases (Option.any_eq_true _ _).mp cancelled with ⟨record, found, state⟩
  have refused := kept.ungranted (reclaimed.take 3) (reclaimed.drop 3)
    (List.take_append_drop 3 reclaimed).symm "handoff-1" record found
    (.inl (of_decide_eq_true state))
  revert refused
  decide +kernel

/-! When acceptance stays inside the parent of the store, and repeats no idempotency key. -/

variable {digest : HandoffSemantic → String}

section Runs

variable (digest) (start : CoordinationStore) (calls : List CoordinationCall)

def AcceptedUnder (front : List CoordinationCall) (record : HandoffRecord)
    (facts : CurrentCoordinationFacts) : Prop :=
  ∃ early now late, front = early ++ .accept record.candidate facts now :: late ∧
    (accept digest record.candidate facts now
      (final (performCoordination digest) start early)).1.status = .accepted

structure AcceptedInside : Prop where
  parent : ∀ front back, calls = front ++ back → ∀ handoffId record,
    (final (performCoordination digest) start front).records.lookup handoffId = some record →
    record.candidate.parentJobId = start.parentJobId
  facts : ∀ front back, calls = front ++ back → ∀ handoffId record,
    (final (performCoordination digest) start front).records.lookup handoffId = some record →
    ∃ facts, AcceptedUnder digest start front record facts ∧
      record.candidate.tenantId = facts.tenantId ∧ record.grant.tenantId = facts.tenantId ∧
      record.grant.capabilities ⊆ facts.delegatableCapabilities ∧
      record.grant.capabilities ⊆ facts.currentlyAllowedCapabilities
  idempotent : ∀ front back, calls = front ++ back → ∀ one other first second,
    (final (performCoordination digest) start front).records.lookup one = some first →
    (final (performCoordination digest) start front).records.lookup other = some second →
    first.candidate.tenantId = second.candidate.tenantId →
    first.candidate.idempotencyKey = second.candidate.idempotencyKey → one = other

end Runs

/-- An admissible candidate of a new handoff whose parent is another job, or whose idempotency
key another handoff of the tenant already has. -/
def Strays (store : CoordinationStore) (call : CoordinationCall) : Prop :=
  ∃ candidate facts now, call = .accept candidate facts now ∧
    store.records.lookup candidate.handoffId = none ∧
    Admissible candidate facts now store ∧
    (candidate.parentJobId ≠ store.parentJobId ∨ ∃ handoffId record,
      store.records.lookup handoffId = some record ∧
      record.candidate.tenantId = candidate.tenantId ∧
      record.candidate.idempotencyKey = candidate.idempotencyKey)

theorem record_origin {store next : CoordinationStore}
    (step : StoreStep digest store call grants next)
    (governed : Governed store) {after : HandoffRecord}
    (found : next.records.lookup handoffId = some after) :
    (∃ facts now, call = .accept after.candidate facts now ∧
        handoffId = after.candidate.handoffId ∧ store.records.lookup handoffId = none ∧
        Admissible after.candidate facts now store ∧
        after = acceptedRecord after.candidate (digest after.candidate.semantic)) ∨
      ∃ before, store.records.lookup handoffId = some before ∧
        after.candidate = before.candidate ∧ after.grant = before.grant := by
  cases old : store.records.lookup handoffId with
  | some before =>
    rcases record_step step governed old with ⟨other, stored, candidate, grant, _⟩
    cases Option.some.inj (found.symm.trans stored)
    exact .inr ⟨before, rfl, candidate, grant⟩
  | none =>
    left
    cases step with
    | same =>
      rw [old] at found
      cases found
    | accepted candidate facts now called _ admitted =>
      rw [put_lookup] at found
      by_cases named : handoffId = candidate.handoffId
      · rw [if_pos named] at found
        cases Option.some.inj found
        exact ⟨facts, now, called, named, rfl, admissible_iff.mp admitted, rfl⟩
      · rw [if_neg named, old] at found
        cases found
    | moved other _ _ _ stored =>
      rw [put_lookup] at found
      by_cases named : handoffId = other
      · rw [← named, old] at stored
        cases stored
      · rw [if_neg named, old] at found
        cases found
    | verified candidate _ _ _ stored =>
      rw [Dict.lookup_insert_eq] at found
      by_cases named : handoffId = candidate.handoffId
      · rw [← named, old] at stored
        cases stored
      · rw [if_neg named, old] at found
        cases found

theorem accept_admissible {candidate : HandoffCandidate} {facts : CurrentCoordinationFacts}
    {now : Int} {store : CoordinationStore}
    (fresh : store.records.lookup candidate.handoffId = none)
    (admissible : Admissible candidate facts now store) : accept digest candidate facts now store =
      (⟨.accepted, candidate.handoffId, digest candidate.semantic,
        some (acceptedRecord candidate (digest candidate.semantic))⟩,
        put store candidate.handoffId (acceptedRecord candidate (digest candidate.semantic))) := by
  simp [accept, fresh, admissible_iff.mpr admissible]

/-- Every record of a run was accepted in it, under facts that contain its grant. -/
theorem accepted_under {start : CoordinationStore} (empty : start.records = ∅)
    (governed : Governed start) (front : List CoordinationCall)
    (found : (final (performCoordination digest) start front).records.lookup handoffId =
      some record) : ∃ facts, AcceptedUnder digest start front record facts ∧
      record.candidate.tenantId = facts.tenantId ∧ record.grant.tenantId = facts.tenantId ∧
      record.grant.capabilities ⊆ facts.delegatableCapabilities ∧
      record.grant.capabilities ⊆ facts.currentlyAllowedCapabilities := by
  -- the first call after which the handoff has this candidate and this grant
  obtain ⟨early, call, late, split, absent, present⟩ := first_exit (performCoordination digest)
    (fun store => ∀ stored, store.records.lookup handoffId = some stored →
      ¬ (record.candidate = stored.candidate ∧ record.grant = stored.grant)) start front
    (fun stored listed => by rw [empty] at listed; cases listed)
    (fun none => none record found ⟨rfl, rfl⟩)
  rcases not_forall.mp present with ⟨_, present⟩
  rcases Classical.not_imp.mp present with ⟨listed, same⟩
  rcases not_not.mp same with ⟨candidate, grant⟩
  have step := performCoordination_step digest call
    (final (performCoordination digest) start early)
  rcases record_origin step (governed_final early governed) listed with
    ⟨facts, now, called, named, fresh, admissible, made⟩ | ⟨before, old, kept, granted⟩
  · rw [named] at fresh
    rw [← candidate] at called fresh admissible
    have accepted := @accept_admissible digest _ _ _ _ fresh admissible
    have given : record.grant = (acceptedRecord record.candidate
        (digest record.candidate.semantic)).grant := by
      rw [grant, made, candidate]
    refine ⟨facts, ⟨early, now, late, by rw [split, called], by rw [accepted]⟩,
      admissible.tenant, ?_, ?_, ?_⟩
    · rw [given]
      exact admissible.tenant
    · rw [given]
      intro capability inside
      exact admissible.delegatable ((Sorting.mem_sortBy _ _ _).mp inside)
    · rw [given]
      intro capability inside
      exact admissible.allowed ((Sorting.mem_sortBy _ _ _).mp inside)
  · exact absurd ⟨candidate.trans kept, grant.trans granted⟩ (absent before old)

/-- The records of the store belong to its parent and repeat no key of their tenant. -/
structure Distinct (store : CoordinationStore) : Prop where
  parent : ∀ handoffId record, store.records.lookup handoffId = some record →
    record.candidate.parentJobId = store.parentJobId
  keys : ∀ one other first second, store.records.lookup one = some first →
    store.records.lookup other = some second →
    first.candidate.tenantId = second.candidate.tenantId →
    first.candidate.idempotencyKey = second.candidate.idempotencyKey → one = other

theorem distinct_step {store next : CoordinationStore}
    (step : StoreStep digest store call grants next)
    (governed : Governed store) (distinct : Distinct store) (inside : ¬ Strays store call) :
    Distinct next := by
  have parent : next.parentJobId = store.parentJobId := (Prod.mk.inj step.parent).1
  constructor
  · intro handoffId after found
    rw [parent]
    rcases record_origin step governed found with
      ⟨facts, now, called, named, fresh, admissible, _⟩ | ⟨before, old, candidate, _⟩
    · by_contra other
      exact inside ⟨after.candidate, facts, now, called, named ▸ fresh, admissible, .inl other⟩
    · rw [candidate]
      exact distinct.parent handoffId before old
  · -- a new record clashes with an earlier one only where the call strays
    have clash : ∀ one other first second, next.records.lookup one = some first →
        next.records.lookup other = some second →
        first.candidate.tenantId = second.candidate.tenantId →
        first.candidate.idempotencyKey = second.candidate.idempotencyKey →
        store.records.lookup one = none → one = other := by
      intro one other first second found beside tenant key fresh
      rcases record_origin step governed found with
        ⟨facts, now, called, named, _, admissible, _⟩ | ⟨before, old, _⟩
      · rcases record_origin step governed beside with
          ⟨_, _, again, also, _⟩ | ⟨before, old, candidate, _⟩
        · rw [called] at again
          rw [named, also, (CoordinationCall.accept.inj again).1]
        · refine absurd ⟨first.candidate, facts, now, called, named ▸ fresh, admissible,
            .inr ⟨other, before, old, ?_, ?_⟩⟩ inside
          · rw [← candidate, tenant]
          · rw [← candidate, key]
      · rw [fresh] at old
        cases old
    intro one other first second found beside tenant key
    rcases record_origin step governed found with
      ⟨_, _, _, _, fresh, _⟩ | ⟨before, old, candidate, _⟩
    · exact clash one other first second found beside tenant key fresh
    · rcases record_origin step governed beside with
        ⟨_, _, _, _, fresh, _⟩ | ⟨earlier, older, same, _⟩
      · exact (clash other one second first beside found tenant.symm key.symm fresh).symm
      · rw [candidate, same] at tenant key
        exact distinct.keys one other before earlier old older tenant key

/-- Acceptance stays inside the parent, and idempotent, exactly when no candidate strays. -/
theorem accepted_inside_iff (digest : HandoffSemantic → String) (parentJobId : String)
    (reservation : Int) (positive : 0 < reservation) (calls : List CoordinationCall) :
    AcceptedInside digest (newStore parentJobId reservation positive) calls ↔
      ∀ e ∈ trace (performCoordination digest) (newStore parentJobId reservation positive) calls,
        ¬ Strays e.before e.call := by
  have begins := newStore_governed parentJobId reservation positive
  constructor
  · intro accepted e member strays
    rcases strays with ⟨candidate, _, _, called, fresh, admissible, other⟩
    rcases mem_trace_split (performCoordination digest) _ calls e
      member with ⟨front, back, split, same⟩
    have before : e.before = final (performCoordination digest)
      (newStore parentJobId reservation positive) front := congrArg Event.before same
    have longer : calls = (front ++ [e.call]) ++ back := by rw [split, List.append_assoc]; rfl
    have after : final (performCoordination digest) (newStore parentJobId reservation positive)
        (front ++ [e.call]) = put e.before candidate.handoffId
          (acceptedRecord candidate (digest candidate.semantic)) := by
      rw [final_append, ← before, called]
      exact congrArg Prod.snd (accept_admissible fresh admissible)
    have found := @put_lookup e.before candidate.handoffId candidate.handoffId
      (acceptedRecord candidate (digest candidate.semantic))
    rw [if_pos rfl, ← after] at found
    rcases other with parent | ⟨handoffId, record, stored, tenant, key⟩
    · rw [before, (parent_final front).1] at parent
      exact parent (accepted.parent _ back longer _ _ found)
    · have different : handoffId ≠ candidate.handoffId := Dict.ne_of_absent fresh stored
      have still : (final (performCoordination digest)
          (newStore parentJobId reservation positive) (front ++ [e.call])).records.lookup
          handoffId = some record := by
        rw [after, put_lookup, if_neg different]
        exact stored
      exact different (accepted.idempotent _ back longer _ _ _ _ still found tenant key)
  · intro inside
    have distinct : ∀ front back, calls = front ++ back →
        Distinct (final (performCoordination digest) (newStore parentJobId reservation positive)
          front) := by
      intro front back split
      have kept := kept_final (performCoordination digest)
        (fun store => Governed store ∧ Distinct store)
        (newStore parentJobId reservation positive) front ?_ ⟨begins, ?_⟩
      · exact kept.2
      · intro e member ⟨governed, distinct⟩
        have listed : e ∈ trace (performCoordination digest)
            (newStore parentJobId reservation positive) calls := by
          rw [split, trace_append]
          exact List.mem_append_left _ member
        have step := performCoordination_step digest e.call e.before
        rw [← (mem_trace_performed member).2] at step
        exact ⟨governed_step step governed, distinct_step step governed distinct (inside e listed)⟩
      · constructor
        · intro handoffId record found
          cases found
        · intro one other first second found
          cases found
    refine ⟨?_, ?_, ?_⟩
    · intro front back split handoffId record found
      rw [← (parent_final front).1]
      exact (distinct front back split).parent handoffId record found
    · intro front _ _ handoffId record found
      exact accepted_under rfl begins front found
    · intro front back split
      exact (distinct front back split).keys

theorem accepted_inside_completed : (0 : Int) < 9000 ∧
      (AcceptedInside Coordination.Sample.digest (newStore "parent-1" 9000 (by decide))
          completed ↔ ∀ e ∈ trace (performCoordination Coordination.Sample.digest)
          (newStore "parent-1" 9000 (by decide)) completed,
          ¬ Strays e.before e.call) :=
  ⟨by decide, accepted_inside_iff Coordination.Sample.digest "parent-1" 9000 (by decide)
    completed⟩

def repeated : List CoordinationCall :=
  [.accept Coordination.Sample.candidate Coordination.Sample.facts 10,
    .accept { Coordination.Sample.candidate with handoffId := "handoff-2", present := by decide }
      Coordination.Sample.facts 10]

/-- The store of `parent-2` accepts a candidate of `parent-1`, and the store of `parent-1` two
candidates with one idempotency key. -/
theorem acceptance_strays :
    ¬ AcceptedInside Coordination.Sample.digest (newStore "parent-2" 9000 (by decide))
        [.accept Coordination.Sample.candidate Coordination.Sample.facts 10] ∧
      ¬ AcceptedInside Coordination.Sample.digest (newStore "parent-1" 9000 (by decide))
        repeated := by
  constructor
  · intro accepted
    have foreign : ((final (performCoordination Coordination.Sample.digest)
        (newStore "parent-2" 9000 (by decide))
        [.accept Coordination.Sample.candidate Coordination.Sample.facts 10]).records.lookup
        "handoff-1").any (·.candidate.parentJobId = "parent-1") = true := by decide +kernel
    rcases (Option.any_eq_true _ _).mp foreign with ⟨record, found, parent⟩
    have own := accepted.parent _ [] (List.append_nil _).symm "handoff-1" record found
    rw [of_decide_eq_true parent] at own
    revert own
    decide
  · intro accepted
    have stored : ∀ handoffId ∈ ["handoff-1", "handoff-2"],
        ((final (performCoordination Coordination.Sample.digest)
          (newStore "parent-1" 9000 (by decide)) repeated).records.lookup handoffId).any
          (fun record => record.candidate.tenantId = "tenant-a" ∧
            record.candidate.idempotencyKey = "idem-handoff-1") = true := by decide +kernel
    obtain ⟨first, one, named⟩ := (Option.any_eq_true _ _).mp (stored "handoff-1" (by decide))
    obtain ⟨second, two, again⟩ := (Option.any_eq_true _ _).mp (stored "handoff-2" (by decide))
    have names := of_decide_eq_true named
    have agains := of_decide_eq_true again
    have same := accepted.idempotent repeated [] (List.append_nil _).symm _ _ first second one two
      (names.1.trans agains.1.symm) (names.2.trans agains.2.symm)
    revert same
    decide

end BackendHandbook.Agents
