import BackendHandbook.Outbox.Steps

/-! The arbiter: whoever is under the lock writes alone, and what it leaves is whole. -/

namespace BackendHandbook.Outbox

open Interleaving Phase

section Moves

variable {transport : Transport} {world : World} {current : Phase} {known : List Fact}
variable {call : Call}

/-- The history of a thread behind one more call. -/
def behindCall (transport : Transport) (world : World) (current : Phase) (call : Call) : Phase :=
  current.next ⟨call, (perform transport call world).1⟩

theorem next_of_framed (idle : call.transacts = false)
    (unread : ∀ tenantId key, call ≠ .keyedJob tenantId key) (undrawn : call ≠ .uuid4)
    (response : Except Raised call.Answer) : current.next ⟨call, response⟩ = current := by
  cases call with
  | keyedJob tenantId key => exact absurd rfl (unread tenantId key)
  | uuid4 => exact absurd rfl undrawn
  | acquire | release | putJob | putKey | putIntent => cases idle
  | _ => rfl

theorem whole_pends (whole : current.whole = true) (jobId : Uuid) :
    current.pends jobId = false := by
  cases current with
  | jobPut | keyPut => cases whole
  | _ => rfl

theorem whole_unput (whole : current.whole = true) (tenantId : Uuid) (key : String)
    (jobId outboxEventId : Uuid) : current ≠ .jobPut tenantId key jobId outboxEventId := by
  rintro rfl
  cases whole

variable (transport : Transport)

theorem keyedJob_moved (holds : Consistent world current)
    (locked : current.locked = true) (tenantId : Uuid) (key : String) :
    Consistent world (behindCall transport world current (.keyedJob tenantId key)) ∧
      (behindCall transport world current (.keyedJob tenantId key)).locked = true := by
  cases found : world.store.byIdem.lookup (tenantId, key) with
  | some =>
    have stays : behindCall transport world current (.keyedJob tenantId key) = current := by
      simp [behindCall, perform, found, next]
    rw [stays]
    exact ⟨holds, locked⟩
  | none =>
    cases current with
    | inside =>
      have vacant : behindCall transport world .inside (.keyedJob tenantId key) =
          .vacant tenantId key := by
        simp [behindCall, perform, found, next]
      rw [vacant]
      exact ⟨holds.moved (fun _ => rfl) (whole_unput rfl) found, rfl⟩
    | _ =>
      simp only [behindCall, perform, found]
      exact ⟨holds, locked⟩

theorem uuid4_moved (holds : Consistent world current) (locked : current.locked = true) :
    Consistent (perform transport .uuid4 world).2 (behindCall transport world current .uuid4) ∧
      (behindCall transport world current .uuid4).locked = true := by
  have frame : Framed world (perform transport .uuid4 world).2 :=
    perform_framed transport .uuid4 world rfl
  have drawn := holds.framed frame
  cases current with
  | vacant =>
    refine ⟨drawn.moved (fun _ => rfl) (whole_unput rfl) ⟨holds.fits, Nat.lt_succ_self _, ?_⟩, rfl⟩
    -- Whatever is named has been drawn before.
    cases listed : world.store.jobs.lookup world.drawn with
    | none => exact listed
    | some job => exact absurd (holds.named _ job listed).2 (lt_irrefl _)
  | named =>
    refine ⟨drawn.moved (fun _ => rfl) (whole_unput rfl) ?_, rfl⟩
    rcases drawn.fits with ⟨vacant, named, absent⟩
    refine ⟨vacant, named, absent, Nat.lt_succ_self _, ?_⟩
    intro identity member
    exact ne_of_lt (holds.rows identity member).1
  | _ => exact ⟨drawn, locked⟩

theorem own_moved (holds : Consistent world current)
    (held : world.store.acceptLock = true) (locked : current.locked = true)
    (phase : behind known = current) (allowed : Allowed known call) :
    Consistent (perform transport call world).2 (behindCall transport world current call) ∧
      (perform transport call world).2.store.acceptLock =
        (behindCall transport world current call).locked := by
  have framed : ∀ call : Call, call.transacts = false →
      (∀ tenantId key, call ≠ .keyedJob tenantId key) → call ≠ .uuid4 →
      Consistent (perform transport call world).2 (behindCall transport world current call) ∧
        (perform transport call world).2.store.acceptLock =
          (behindCall transport world current call).locked := by
    intro call idle unread undrawn
    have frame := perform_framed transport call world idle
    rw [behindCall, next_of_framed idle unread undrawn, frame.acceptLock, held, locked]
    exact ⟨holds.framed frame, rfl⟩
  cases call with
  | keyedJob tenantId key =>
    have moved := keyedJob_moved transport holds locked tenantId key
    exact ⟨moved.1, held.trans moved.2.symm⟩
  | uuid4 =>
    have moved := uuid4_moved transport holds locked
    exact ⟨moved.1, held.trans moved.2.symm⟩
  | acquire =>
    rw [Allowed, phase] at allowed
    rw [allowed] at locked
    cases locked
  | release =>
    rw [Allowed, phase] at allowed
    refine ⟨?_, rfl⟩
    have opened : Consistent (perform transport .release world).2 current := by
      rcases holds with ⟨named, keyed, found, intents, rows, distinct, fits⟩
      refine ⟨named, keyed, found, intents, rows, distinct, ?_⟩
      cases current <;> exact fits
    exact opened.moved (fun jobId => (whole_pends allowed jobId).symm) (whole_unput allowed)
      trivial
  | putJob =>
    rcases allowed with ⟨outboxEventId, drawn⟩
    rw [phase] at drawn
    subst drawn
    exact ⟨holds.putJob, held⟩
  | putKey =>
    rcases allowed with ⟨_, put⟩
    rw [phase] at put
    subst put
    exact ⟨holds.putKey, held⟩
  | putIntent =>
    rcases allowed with ⟨now, put, built⟩
    rw [phase] at put
    subst put
    rw [built]
    exact ⟨holds.putIntent now, held⟩
  | job | dispatchIntentFor | addDispatchIntent | claimOutboxBatch | outboxRow | publish
  | recordTransportFailure | checkpointPublishedIfOwner =>
    exact framed _ rfl (by simp) (by simp)

/-- A thread outside the lock takes it while it is free, or leaves the rest as it is. -/
theorem outside_moved (world : World)
    (phase : behind known = .outside) (allowed : Allowed known call) :
    (call = .acquire ∧ world.store.acceptLock = false) ∨
      (Framed world (perform transport call world).2 ∧
        behindCall transport world .outside call = .outside) := by
  cases call with
  | acquire =>
    cases held : world.store.acceptLock with
    | false => exact .inl ⟨rfl, rfl⟩
    | true =>
      refine .inr ?_
      simp only [behindCall, perform, held, if_true, next]
      exact ⟨.refl world, trivial⟩
  | release =>
    rw [Allowed, phase] at allowed
    cases allowed
  | putJob =>
    rcases allowed with ⟨outboxEventId, drawn⟩
    rw [phase] at drawn
    cases drawn
  | putKey =>
    rcases allowed with ⟨_, put⟩
    rw [phase] at put
    cases put
  | putIntent =>
    rcases allowed with ⟨_, put, _⟩
    rw [phase] at put
    cases put
  | keyedJob tenantId key =>
    refine .inr ⟨perform_framed transport _ world rfl, ?_⟩
    simp only [behindCall, perform]
    cases world.store.byIdem.lookup (tenantId, key) with
    | none | some => rfl
  | uuid4 | job | dispatchIntentFor | addDispatchIntent | claimOutboxBatch | outboxRow | publish
  | recordTransportFailure | checkpointPublishedIfOwner =>
    exact .inr ⟨perform_framed transport _ world rfl, rfl⟩

end Moves

/-- At most one thread is under the lock, and the store is whole up to its writes. -/
def Arbitrated (world : World) (past : List (List Fact)) : Prop :=
  ∃ current : Phase, Consistent world current ∧ world.store.acceptLock = current.locked ∧
    (past.map behind).filter Phase.locked = if current.locked then [current] else []

theorem arbitrated_opening : Arbitrated {} [] := by
  refine ⟨.outside, ⟨?_, ?_, ?_, fun jobId => rfl, ?_, List.nodup_nil, trivial⟩, rfl, rfl⟩
  · intro jobId job listed
    cases listed
  · intro tenantId key jobId keyed
    cases keyed
  · intro jobId job listed
    cases listed
  · intro identity member
    cases member

theorem arbitrated_enters (world : World) (past : List (List Fact))
    (holds : Arbitrated world past) : Arbitrated world (past ++ [[]]) := by
  rcases holds with ⟨current, consistent, held, only⟩
  refine ⟨current, consistent, held, ?_⟩
  rw [List.map_append, List.filter_append, only]
  exact List.append_nil _

theorem arbitrated_moves (transport : Transport) (world : World) (past : List (List Fact))
    (index : Nat) (known : List Fact) (call : Call) (holds : Arbitrated world past)
    (listed : past[index]? = some known) (allowed : Allowed known call) :
    Arbitrated (perform transport call world).2
      (past.modify index fun known => ⟨call, (perform transport call world).1⟩ :: known) := by
  rcases holds with ⟨current, consistent, held, only⟩
  have phases := map_modify behind
    (fun known => ⟨call, (perform transport call world).1⟩ :: known) listed
  have place : (past.map behind)[index]? = some (behind known) := by
    rw [List.getElem?_map, listed]
    rfl
  unfold Arbitrated
  rw [phases]
  change ∃ current, _ ∧ _ ∧ List.filter Phase.locked
    ((past.map behind).set index (behindCall transport world (behind known) call)) = _
  cases inside : (behind known).locked with
  | true =>
    have member : behind known ∈ (past.map behind).filter Phase.locked :=
      List.mem_filter.mpr ⟨List.mem_of_getElem? place, inside⟩
    cases locked : current.locked with
    | false =>
      rw [only, locked] at member
      cases member
    | true =>
      rw [only, locked] at member
      have same := List.mem_singleton.mp member
      rw [locked, ← same] at only
      rw [← same] at consistent
      have moved := own_moved transport consistent (held.trans locked) inside
        rfl allowed
      exact ⟨_, moved.1, moved.2, filter_set_of_inside place inside only⟩
  | false =>
    have outside : behind known = .outside := by
      cases phase : behind known with
      | outside => rfl
      | _ => rw [phase] at inside; cases inside
    rw [outside] at place ⊢
    rcases outside_moved transport world outside allowed with
      ⟨rfl, free⟩ | ⟨frame, stays⟩
    · have unlocked : current.locked = false := held.symm.trans free
      rw [unlocked] at only
      have enters : behindCall transport world .outside .acquire = .inside := by
        simp [behindCall, perform, free, next]
      rw [enters]
      refine ⟨.inside, ?_, ?_, filter_set_of_outside place rfl fun _ => only⟩
      · have whole : current = .outside := by
          cases current with
          | outside => rfl
          | _ => cases unlocked
        rw [whole] at consistent
        have taken : Consistent (perform transport .acquire world).2 .outside := by
          rw [perform, if_neg (by rw [free]; decide)]
          exact ⟨consistent.named, consistent.keyed, consistent.found, consistent.intents,
            consistent.rows, consistent.distinct, trivial⟩
        exact taken.moved (fun _ => rfl) (by simp) trivial
      · rw [perform, if_neg (by rw [free]; decide)]
        rfl
    · rw [stays]
      refine ⟨current, consistent.framed frame, frame.acceptLock.trans held, ?_⟩
      rw [filter_set_of_outside place rfl (fun nothing => by cases nothing)]
      exact only

section Runs

variable {canonical : Canonical} {transport : Transport} {actions : List Action}
variable {e : OutboxEvent}

theorem started_recalls : ∀ program ∈ started (turns canonical actions),
    program.Recalls Allowed [] := by
  induction actions with
  | nil => intro program member; cases member
  | cons action _ ih =>
    cases action with
    | enter party =>
      intro program member
      rcases List.mem_cons.mp member with rfl | later
      · exact party.program_recalls canonical
      · exact ih program later
    | resume => exact ih

theorem event_arbitrated (member : e ∈ schedule canonical transport actions) :
    ∃ (past : List (List Fact)) (index : Nat) (known : List Fact),
      Arbitrated e.before past ∧ past[index]? = some known ∧ Allowed known e.call :=
  event_histories (perform transport) arbitrated_enters (arbitrated_moves transport) {}
    (turns canonical actions) arbitrated_opening started_recalls e member

theorem arbitrated_after (canonical : Canonical) (transport : Transport) (actions : List Action) :
    ∃ past, Arbitrated (worldAfter canonical transport actions) past :=
  ⟨_, run_histories (perform transport) arbitrated_enters (arbitrated_moves transport) {}
    (turns canonical actions) arbitrated_opening started_recalls⟩

end Runs

end BackendHandbook.Outbox
