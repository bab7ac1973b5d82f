import BackendHandbook.Outbox.Arbitration

/-! Idempotent acceptance: one job and one dispatch intent under a key, and who answers with
them. -/

namespace BackendHandbook.Outbox

open Run Interleaving

def Stored (tenantId : Uuid) (key : String) (job : JobRow) (world : World) : Prop :=
  world.store.byIdem.lookup (tenantId, key) = some job.jobId ∧
    world.store.jobs.lookup job.jobId = some job

section Model

variable (canonical : Canonical) (transport : Transport) (actions : List Action)

def history (index : Nat) : List Fact :=
  (histories (perform transport) ⟨{}, []⟩ [] (turns canonical actions))[index]?.getD []

def Answered (accept : AcceptRequest) (known : List Fact) (world : World)
    (result : AcceptResult) : Prop :=
  match result.outcome with
  | .created => ∃ key job, accept.suppliedKey = some key ∧ result.job = some job ∧
      Stored accept.tenantId key job world ∧
        job.requestFingerprint = accept.fingerprint canonical ∧ world.store.intents job.jobId = 1
  | .returnedExisting => ∃ key job, accept.suppliedKey = some key ∧ result.job = some job ∧
      Stored accept.tenantId key job world ∧
        job.requestFingerprint = accept.fingerprint canonical ∧ Quiet known
  | .conflict => ∃ key job, accept.suppliedKey = some key ∧ result.job = none ∧
      Stored accept.tenantId key job world ∧
        job.requestFingerprint ≠ accept.fingerprint canonical ∧ Quiet known
  | .documentNotVerified => ∃ key, accept.suppliedKey = some key ∧ result.job = none ∧
      Absent accept.tenantId key known ∧ Quiet known
  | .missingIdempotencyKey => accept.suppliedKey = none ∧ result.job = none ∧ Quiet known

/-- An acceptance ends as the stored job has it end, or by a failure of its test seam. -/
def Resolves (accept : AcceptRequest) (job : JobRow) : Finished → Prop
  | .accepted result =>
    if job.requestFingerprint = accept.fingerprint canonical then
      result.outcome = .returnedExisting ∧ result.job = some job
    else result.outcome = .conflict ∧ result.job = none
  | .raised _ => accept.hooked = true
  | _ => False

structure IdempotentAcceptance : Prop where
  single : ∀ first second job other,
    (worldAfter canonical transport actions).store.jobs.lookup first = some job →
    (worldAfter canonical transport actions).store.jobs.lookup second = some other →
      job.tenantId = other.tenantId → job.idempotencyKey = other.idempotencyKey → first = second
  atMost : ∀ jobId, (worldAfter canonical transport actions).store.intents jobId ≤ 1
  paired : (worldAfter canonical transport actions).store.acceptLock = false → ∀ jobId job,
    (worldAfter canonical transport actions).store.jobs.lookup jobId = some job →
      Stored job.tenantId job.idempotencyKey job (worldAfter canonical transport actions) ∧
        (worldAfter canonical transport actions).store.intents jobId = 1
  owned : ∀ row ∈ (worldAfter canonical transport actions).store.outbox, ∃ job,
    (worldAfter canonical transport actions).store.jobs.lookup row.jobId = some job
  permanent : ∀ front back tenantId key job, actions = front ++ back →
    Stored tenantId key job (worldAfter canonical transport front) →
      Stored tenantId key job (worldAfter canonical transport actions)
  answered : ∀ index accept result, (parties actions)[index]? = some (.acceptJob accept) →
    threadAfter canonical transport actions index = some (.done (.accepted result)) →
      Answered canonical accept (history canonical transport actions index)
        (worldAfter canonical transport actions) result
  failed : ∀ index accept error, (parties actions)[index]? = some (.acceptJob accept) →
    threadAfter canonical transport actions index = some (.done (.raised error)) →
      Quiet (history canonical transport actions index)
  found : ∀ index accept key job finished,
    (parties actions)[index]? = some (.acceptJob accept) → accept.suppliedKey = some key →
    threadAfter canonical transport actions index = some (.done finished) →
    Found accept.tenantId key (history canonical transport actions index) job →
      Resolves canonical accept job finished
  repeated : ∀ front back accept key job finished,
    actions = front ++ .enter (.acceptJob accept) :: back → accept.suppliedKey = some key →
    Stored accept.tenantId key job (worldAfter canonical transport front) →
    threadAfter canonical transport actions (parties front).length = some (.done finished) →
      Resolves canonical accept job finished

end Model

section Events

variable {canonical : Canonical} {transport : Transport} {actions : List Action}
variable {e : OutboxEvent} {tenantId jobId : Uuid} {key : String} {job : JobRow}

theorem worldAfter_eq : worldAfter canonical transport actions =
    final (perform transport) {} (scheduleCalls canonical transport actions) :=
  Interleaving.run_state (perform transport) _ _

variable {world : World}

theorem Arbitrated.holder {past : List (List Fact)} {index : Nat}
    {known : List Fact} (holds : Arbitrated world past) (listed : past[index]? = some known)
    (locked : (Phase.behind known).locked = true) : Consistent world (Phase.behind known) := by
  rcases holds with ⟨_, consistent, _, only⟩
  have member : Phase.behind known ∈ (past.map Phase.behind).filter Phase.locked :=
    List.mem_filter.mpr ⟨List.mem_map_of_mem (List.mem_of_getElem? listed), locked⟩
  rw [only] at member
  split at member
  · rw [List.mem_singleton.mp member]
    exact consistent
  · cases member

section

variable (member : e ∈ schedule canonical transport actions)
include member

theorem event_writes : (∀ job, e.call = .putJob job → e.before.store.jobs.lookup job.jobId = none) ∧
      ∀ tenantId key jobId, e.call = .putKey tenantId key jobId →
        e.before.store.byIdem.lookup (tenantId, key) = none := by
  rcases event_arbitrated member with ⟨_, _, _, holds, listed, allowed⟩
  constructor
  · intro job asked
    rw [asked] at allowed
    rcases allowed with ⟨outboxEventId, drawn⟩
    have consistent := holds.holder listed (by rw [drawn]; rfl)
    rw [drawn] at consistent
    exact consistent.fits.2.2.1
  · intro tenantId key jobId asked
    rw [asked] at allowed
    rcases allowed with ⟨_, put⟩
    have consistent := holds.holder listed (by rw [put]; rfl)
    rw [put] at consistent
    exact consistent.fits.1

theorem event_job_kept (found : e.before.store.jobs.lookup jobId = some job) :
    e.after.store.jobs.lookup jobId = some job := by
  rcases mem_trace_performed member with ⟨_, moved⟩
  have writes := (event_writes member).1
  rw [moved]
  cases asked : e.call with
  | putJob other =>
    have absent := writes other asked
    have different : jobId ≠ other.jobId := by
      rintro rfl
      rw [absent] at found
      cases found
    simp only [perform, World.withStore, Dict.lookup_insert_eq, if_neg different]
    exact found
  | acquire =>
    rw [perform]
    split
    · exact found
    · exact found
  | release | putKey | putIntent => exact found
  | _ =>
    rw [(perform_framed transport _ e.before rfl).jobs]
    exact found

theorem event_key_kept (found : e.before.store.byIdem.lookup (tenantId, key) = some jobId) :
    e.after.store.byIdem.lookup (tenantId, key) = some jobId := by
  rcases mem_trace_performed member with ⟨_, moved⟩
  have writes := (event_writes member).2
  rw [moved]
  cases asked : e.call with
  | putKey otherTenant otherKey keyedId =>
    have absent := writes otherTenant otherKey keyedId asked
    have different : (tenantId, key) ≠ (otherTenant, otherKey) := Dict.ne_of_absent absent found
    simp only [perform, World.withStore, Dict.lookup_insert_eq, if_neg different]
    exact found
  | acquire =>
    rw [perform]
    split
    · exact found
    · exact found
  | release | putJob | putIntent => exact found
  | _ =>
    rw [(perform_framed transport _ e.before rfl).byIdem]
    exact found

theorem event_stored (stored : Stored tenantId key job e.before) :
    Stored tenantId key job e.after :=
  ⟨event_key_kept member stored.1, event_job_kept member stored.2⟩

end

theorem kept_to_end (P : World → Prop)
    (kept : ∀ e ∈ schedule canonical transport actions, P e.before → P e.after)
    (member : e ∈ schedule canonical transport actions) (holds : P e.after) :
    P (worldAfter canonical transport actions) := by
  rw [worldAfter_eq]
  exact kept_after (perform transport) P kept member holds

theorem scheduleCalls_append (front back : List Action) :
    scheduleCalls canonical transport (front ++ back) = scheduleCalls canonical transport front ++
      calls (perform transport) (run (perform transport) ⟨{}, []⟩ (turns canonical front))
        (turns canonical back) := by
  rw [scheduleCalls, turns, List.map_append, calls_append]
  rfl

theorem schedule_append (front back : List Action) :
    schedule canonical transport (front ++ back) = schedule canonical transport front ++
      trace (perform transport) (worldAfter canonical transport front)
        (calls (perform transport) (run (perform transport) ⟨{}, []⟩ (turns canonical front))
          (turns canonical back)) := by
  rw [schedule, scheduleCalls_append, trace_append, worldAfter_eq]
  rfl

variable {front : List Action}

theorem kept_on (P : World → Prop) (back : List Action)
    (kept : ∀ e ∈ schedule canonical transport (front ++ back), P e.before → P e.after)
    (holds : P (worldAfter canonical transport front)) :
    P (worldAfter canonical transport (front ++ back)) ∧
      ∀ e ∈ trace (perform transport) (worldAfter canonical transport front)
        (calls (perform transport) (run (perform transport) ⟨{}, []⟩ (turns canonical front))
          (turns canonical back)), P e.before := by
  have later : ∀ e ∈ trace (perform transport) (worldAfter canonical transport front)
      (calls (perform transport) (run (perform transport) ⟨{}, []⟩ (turns canonical front))
        (turns canonical back)), P e.before → P e.after := by
    intro e member
    apply kept e
    rw [schedule_append]
    exact List.mem_append_right _ member
  constructor
  · rw [worldAfter_eq, scheduleCalls_append, final_append, ← worldAfter_eq]
    exact kept_final (perform transport) P _ _ later holds
  · intro e member
    exact (kept_trace (perform transport) P _ _ later holds e member).1

variable {call : Call}

theorem total_answers (total : call.total = true) (world : World)
    (raised : Raised) : (perform transport call world).1 ≠ .error raised := by
  cases call with
  | acquire =>
    rw [perform]
    split
    · simp
    · simp
  | claimOutboxBatch | outboxRow | publish | recordTransportFailure | checkpointPublishedIfOwner =>
    cases total
  | _ => simp [perform]

def fact (e : OutboxEvent) : Fact := ⟨e.call, e.response⟩

variable {answer : Except Raised call.Answer}

theorem event_answer (member : e ∈ schedule canonical transport actions)
    (is : fact e = ⟨call, answer⟩) : (perform transport call e.before).1 = answer ∧ e.after =
    (perform transport call e.before).2 := by
  rcases mem_trace_performed member with ⟨answered, moved⟩
  cases is
  exact ⟨answered.symm, moved⟩

theorem event_intents (member : e ∈ schedule canonical transport actions) :
    e.before.store.intents jobId ≤ e.after.store.intents jobId := by
  rcases mem_trace_performed member with ⟨_, moved⟩
  rw [moved]
  cases e.call with
  | putIntent =>
    simp only [perform, World.withStore, InMemoryJobStore.intents, List.countP_append]
    exact Nat.le_add_right _ _
  | acquire =>
    rw [perform]
    split
    · exact le_refl _
    · exact le_refl _
  | release | putJob | putKey => exact le_refl _
  | _ =>
    rw [intents_eq, intents_eq, (perform_framed transport _ e.before rfl).identities]

theorem event_intent {outboxEventId : Uuid} {now : Seconds}
    (member : e ∈ schedule canonical transport actions)
    (is : fact e = ⟨.putIntent (dispatchIntent outboxEventId jobId now), .ok ()⟩) :
    e.after.store.intents jobId = 1 := by
  rcases event_arbitrated member with ⟨_, _, _, holds, listed, allowed⟩
  rw [show e.call = .putIntent (dispatchIntent outboxEventId jobId now) from congrArg Sigma.fst is]
    at allowed
  rcases allowed with ⟨_, put, _⟩
  have consistent := holds.holder listed (by rw [put]; rfl)
  rw [put] at consistent
  have written := consistent.putIntent now
  have present : (e.before.store.jobs.lookup jobId).isSome = true := consistent.fits.1
  rw [(event_answer member is).2, intents_eq]
  refine (written.intents jobId).trans (if_pos ⟨present, rfl⟩)

theorem started_turns (canonical : Canonical) (actions : List Action) :
    started (turns canonical actions) = (parties actions).map (Party.program canonical) := by
  induction actions with
  | nil => rfl
  | cons action _ ih =>
    cases action with
    | enter party => exact congrArg (party.program canonical :: ·) ih
    | resume => exact ih

theorem parties_append (front back : List Action) :
    parties (front ++ back) = parties front ++ parties back := by
  induction front with
  | nil => rfl
  | cons action _ ih =>
    cases action with
    | enter party => exact congrArg (party :: ·) ih
    | resume => exact ih

variable {finished : Finished}

theorem thread_concludes {index : Nat} {accept : AcceptRequest}
    (party : (parties actions)[index]? = some (.acceptJob accept))
    (done : threadAfter canonical transport actions index = some (.done finished)) :
    Concludes canonical accept (history canonical transport actions index) finished := by
  have aligned := run_aligned (perform transport)
    (R := fun place known program => place = index →
      Program.Ends (Concludes canonical accept) known program)
    (fun place =>
      ⟨fun known request next ends response same => ends same response,
        fun known question next ends answer same => ends same answer⟩)
    {} (turns canonical actions) ?_
  · rcases aligned.history done with ⟨known, listed⟩
    have ends := aligned.2 index _ known done listed rfl
    rw [history, listed]
    exact ends
  · intro place program listed same
    rw [started_turns, List.getElem?_map, same, party] at listed
    cases listed
    exact accept.program_ends

theorem history_event {index : Nat}
    (member : (⟨call, answer⟩ : Fact) ∈ history canonical transport actions index) :
    ∃ e ∈ schedule canonical transport actions, fact e = ⟨call, answer⟩ := by
  rw [history] at member
  cases listed : (histories (perform transport) ⟨{}, []⟩ [] (turns canonical actions))[index]? with
  | none =>
    rw [listed] at member
    cases member
  | some =>
    rw [listed] at member
    exact mem_history (perform transport) listed member

theorem history_later {back : List Action} (member : (⟨call, answer⟩ : Fact) ∈
      history canonical transport (front ++ back) (parties front).length) :
    ∃ e ∈ trace (perform transport) (worldAfter canonical transport front)
        (calls (perform transport) (run (perform transport) ⟨{}, []⟩ (turns canonical front))
          (turns canonical back)), fact e = ⟨call, answer⟩ := by
  rw [history] at member
  cases listed : (histories (perform transport) ⟨{}, []⟩ []
      (turns canonical (front ++ back)))[(parties front).length]? with
  | none =>
    rw [listed] at member
    cases member
  | some known =>
    rw [listed] at member
    rw [turns, List.map_append] at listed
    refine mem_history_later (perform transport) listed ?_ member
    have sizes := congrArg List.length (started_turns canonical front)
    rw [List.length_map] at sizes
    exact le_of_eq sizes

theorem history_unfailed {index : Nat} : ¬ Failed (history canonical transport actions index) := by
  rintro ⟨_, raised, total, member⟩
  rcases history_event member with ⟨e, listed, is⟩
  exact total_answers total e.before raised (event_answer listed is).1

theorem found_stored {index : Nat}
    (found : Found tenantId key (history canonical transport actions index) job) :
    Stored tenantId key job (worldAfter canonical transport actions) := by
  rcases found with ⟨readId, keyed, read⟩
  rcases history_event keyed with ⟨looking, looked, isLooked⟩
  rcases history_event read with ⟨reading, readAt, isRead⟩
  rcases event_answer looked isLooked with ⟨keyAnswer, keyMoved⟩
  rcases event_answer readAt isRead with ⟨jobAnswer, jobMoved⟩
  have keyFound : looking.after.store.byIdem.lookup (tenantId, key) = some readId := by
    rw [keyMoved]
    exact Except.ok.inj keyAnswer
  have jobFound : reading.after.store.jobs.lookup readId = some job := by
    rw [jobMoved]
    exact Except.ok.inj jobAnswer
  have keyStays := kept_to_end (fun world => world.store.byIdem.lookup (tenantId, key) = some readId)
    (fun e inside before => event_key_kept inside before) looked keyFound
  have jobStays := kept_to_end (fun world => world.store.jobs.lookup readId = some job)
    (fun e inside before => event_job_kept inside before) readAt jobFound
  rcases arbitrated_after canonical transport actions with ⟨_, _, consistent, _⟩
  have own := (consistent.named readId job jobStays).1
  rw [← own] at keyStays jobStays
  exact ⟨keyStays, jobStays⟩

theorem stored_unique {other : JobRow} (first : Stored tenantId key job world)
    (second : Stored tenantId key other world) : job = other := by
  have same : job.jobId = other.jobId := Option.some.inj (first.1.symm.trans second.1)
  have listed := second.2
  rw [← same] at listed
  exact Option.some.inj (first.2.symm.trans listed)

theorem absent_unstored {back : List Action}
    (stored : Stored tenantId key job (worldAfter canonical transport front)) :
    ¬ Absent tenantId key (history canonical transport (front ++ back) (parties front).length) := by
  have stays := (kept_on (Stored tenantId key job) back
    (fun e inside before => event_stored inside before) stored).2
  have listed : ∀ e ∈ trace (perform transport) (worldAfter canonical transport front)
      (calls (perform transport) (run (perform transport) ⟨{}, []⟩ (turns canonical front))
        (turns canonical back)), e ∈ schedule canonical transport (front ++ back) := by
    intro e member
    rw [schedule_append]
    exact List.mem_append_right _ member
  rintro (vacant | ⟨_, keyed, missing⟩)
  · rcases history_later vacant with ⟨e, member, is⟩
    have answered := (event_answer (listed e member) is).1
    cases (Except.ok.inj answered).symm.trans (stays e member).1
  · rcases history_later keyed with ⟨looking, looked, isLooked⟩
    rcases history_later missing with ⟨reading, read, isRead⟩
    have keyAnswer := (event_answer (listed looking looked) isLooked).1
    have jobAnswer := (event_answer (listed reading read) isRead).1
    have same := (Except.ok.inj keyAnswer).symm.trans (stays looking looked).1
    cases same
    cases (Except.ok.inj jobAnswer).symm.trans (stays reading read).2

variable {index : Nat} {accept : AcceptRequest}

theorem resolves_of_found
    (concludes : Concludes canonical accept (history canonical transport actions index) finished)
    (supplied : accept.suppliedKey = some key)
    (stored : Stored accept.tenantId key job (worldAfter canonical transport actions))
    (seen : ∀ key, ¬ Unseen accept key (history canonical transport actions index)) :
    Resolves canonical accept job finished := by
  have agrees : ∀ other otherKey, accept.suppliedKey = some otherKey →
      Found accept.tenantId otherKey (history canonical transport actions index) other →
        other = job := by
    intro other otherKey otherSupplied found
    cases supplied.symm.trans otherSupplied
    exact stored_unique (found_stored found) stored
  cases concludes with
  | missing _ unsupplied => cases supplied.symm.trans unsupplied
  | created otherKey jobId outboxEventId unseen | unverified otherKey reason unseen
  | waiting otherKey unseen => exact absurd unseen (seen otherKey)
  | returned otherKey other _ otherSupplied found same =>
    have equal := agrees other otherKey otherSupplied found
    subst equal
    simp [Resolves, if_pos same]
  | conflict otherKey other _ otherSupplied found different =>
    have equal := agrees other otherKey otherSupplied found
    subst equal
    simp [Resolves, if_neg different]
  | raised _ stopped =>
    rcases stopped with hooked | ⟨otherKey, unseen⟩
    · exact hooked
    · exact absurd unseen (seen otherKey)
  | failed _ failed => exact absurd failed history_unfailed

theorem concludes_answered {result : AcceptResult}
    (concludes : Concludes canonical accept (history canonical transport actions index)
      (.accepted result)) : Answered canonical accept (history canonical transport actions index)
      (worldAfter canonical transport actions) result := by
  cases concludes with
  | missing _ unsupplied quiet => exact ⟨unsupplied, rfl, quiet⟩
  | returned key job _ supplied found same quiet =>
    exact ⟨key, job, supplied, rfl, found_stored found, same, quiet⟩
  | conflict key job _ supplied found different quiet =>
    exact ⟨key, job, supplied, rfl, found_stored found, different, quiet⟩
  | unverified key _ unseen quiet => exact ⟨key, unseen.supplied, rfl, unseen.absent, quiet⟩
  | created key jobId _ unseen jobPut keyPut intentPut =>
    rcases history_event jobPut with ⟨_, put, isPut⟩
    rcases history_event keyPut with ⟨_, keyed, isKeyed⟩
    rcases history_event intentPut with ⟨_, added, isAdded⟩
    have jobStays := kept_to_end
      (fun world => world.store.jobs.lookup jobId = some (accept.jobRow canonical key jobId))
      (fun e inside before => event_job_kept inside before) put (by
        rw [(event_answer put isPut).2]
        exact AList.lookup_insert _)
    have keyStays := kept_to_end
      (fun world => world.store.byIdem.lookup (accept.tenantId, key) = some jobId)
      (fun e inside before => event_key_kept inside before) keyed (by
        rw [(event_answer keyed isKeyed).2]
        exact AList.lookup_insert _)
    have once := kept_to_end (fun world => 1 ≤ world.store.intents jobId)
      (fun e inside before => before.trans (event_intents inside)) added
      (le_of_eq (event_intent added isAdded).symm)
    rcases arbitrated_after canonical transport actions with ⟨_, _, consistent, _⟩
    have count := consistent.intents jobId
    rw [← intents_eq] at count
    refine ⟨key, _, unseen.supplied, rfl, ⟨keyStays, jobStays⟩, rfl, ?_⟩
    split at count
    · exact count
    · omega

end Events

/-- The store keeps one job and one intent under a key, and every acceptance answers with what
is stored there, or has seen nothing stored and been stopped at its documents. -/
theorem idempotent_acceptance (canonical : Canonical) (transport : Transport)
    (actions : List Action) : IdempotentAcceptance canonical transport actions := by
  rcases arbitrated_after canonical transport actions with ⟨_, current, consistent, held, _⟩
  constructor
  · intro first second job other listed otherListed tenant key
    have keyedFirst := consistent.found first job listed
    have keyedSecond := consistent.found second other otherListed
    rw [← tenant, ← key] at keyedSecond
    rcases keyedFirst with keyed | ⟨_, putting⟩
    · rcases keyedSecond with otherKeyed | ⟨secondIntent, putting⟩
      · exact Option.some.inj (keyed.symm.trans otherKeyed)
      · have vacant := consistent.fits
        rw [putting] at vacant
        cases keyed.symm.trans vacant.1
    · rcases keyedSecond with otherKeyed | ⟨_, otherPutting⟩
      · have vacant := consistent.fits
        rw [putting] at vacant
        cases otherKeyed.symm.trans vacant.1
      · cases putting.symm.trans otherPutting
        rfl
  · intro jobId
    rw [intents_eq, consistent.intents]
    split
    · exact le_refl _
    · exact Nat.zero_le _
  · intro free jobId job listed
    have outside : current = .outside := by
      cases current with
      | outside => rfl
      | _ => cases held.symm.trans free
    subst outside
    have own := (consistent.named jobId job listed).1
    refine ⟨⟨?_, by rw [own]; exact listed⟩, ?_⟩
    · rcases consistent.found jobId job listed with keyed | ⟨_, putting⟩
      · rw [own]
        exact keyed
      · cases putting
    · rw [intents_eq, consistent.intents, listed]
      rfl
  · intro row member
    have dispatches : row.dispatches row.jobId = true := by
      have typed := (consistent.rows row.identity (List.mem_map_of_mem member)).2
      have event : row.eventType = dispatchEventType := typed
      simp [OutboxRow.dispatches, event]
    have some_intent : 0 < (worldAfter canonical transport actions).store.intents row.jobId :=
      List.countP_pos_iff.mpr ⟨row, member, dispatches⟩
    rw [intents_eq, consistent.intents] at some_intent
    split at some_intent
    · next present => exact Option.isSome_iff_exists.mp present.1
    · exact absurd some_intent (lt_irrefl _)
  · rintro front back tenantId key job rfl stored
    exact (kept_on (Stored tenantId key job) back
      (fun e inside before => event_stored inside before) stored).1
  · intro index accept result party done
    exact concludes_answered (thread_concludes party done)
  · intro index accept error party done
    cases thread_concludes party done with
    | raised _ _ quiet => exact quiet
    | failed _ failed => exact absurd failed history_unfailed
  · intro index accept key job finished party supplied done found
    have concludes := thread_concludes party done
    have unread : ∀ other, ¬ Unseen accept other (history canonical transport actions index) := by
      intro other unseen
      rcases found with ⟨jobId, _, read⟩
      exact unseen.unread jobId job read
    exact resolves_of_found concludes supplied (found_stored found) unread
  · rintro front back accept key job _ rfl supplied stored done
    have entered : (parties (front ++ .enter (.acceptJob accept) :: back))[(parties front).length]? =
        some (.acceptJob accept) := by
      rw [parties_append, List.getElem?_append_right (le_refl _), Nat.sub_self]
      rfl
    apply resolves_of_found (thread_concludes entered done) supplied
    · exact (kept_on (Stored accept.tenantId key job) (.enter (.acceptJob accept) :: back)
        (fun e inside before => event_stored inside before) stored).1
    · intro other unseen
      cases supplied.symm.trans unseen.supplied
      exact absent_unstored stored unseen.absent

namespace Sample

/-- Requests told apart by their document references. -/
def canonical : Canonical where
  dumps := fun request => String.intercalate "," (request.documents.getD [])
  sha256 := id

def keyed (documentId : String) : AcceptRequest where
  tenantId := 7
  idempotencyKey := some "k1"
  request := { documents := some [documentId] }
  now := 0
  patience := 1

def directory (verified : Bool) : (question : Question) → question.Reply
  | .afterReadHook => .ok ()
  | .isVerifiedAndOwned .. => .ok verified
  | .jitter _ => 0

/-- Two more acceptances under the key of the first look it up before the first creates its job. -/
def created : List Action :=
  [.enter (.acceptJob (keyed "report")), .enter (.acceptJob (keyed "report")),
    .enter (.acceptJob (keyed "draft")), .resume 1 (directory true), .resume 2 (directory true)] ++
    List.replicate 11 (.resume 0 (directory true))

def refused : List Action := created ++ [.resume 1 (directory false), .resume 2 (directory false)]

def storedRow : JobRow := (keyed "report").jobRow canonical "k1" 0

def outcome : Option OutboxProgram → Option AcceptOutcome
  | some (.done (.accepted result)) => some result.outcome
  | _ => none

/-- The job is stored when an acceptance with its fingerprint and one with another are both
refused for their documents. -/
theorem refused_behind_creation :
    ((worldAfter canonical (fun _ _ => .ok ()) created).store.byIdem.lookup (7, "k1") = some 0 ∧
      (worldAfter canonical (fun _ _ => .ok ()) created).store.jobs.lookup 0 = some storedRow) ∧
    (storedRow.requestFingerprint = (keyed "report").fingerprint canonical ∧
      storedRow.requestFingerprint ≠ (keyed "draft").fingerprint canonical) ∧
    outcome (threadAfter canonical (fun _ _ => .ok ()) refused 1) = some .documentNotVerified ∧
    outcome (threadAfter canonical (fun _ _ => .ok ()) refused 2) = some .documentNotVerified := by
  decide +kernel

end Sample

end BackendHandbook.Outbox
