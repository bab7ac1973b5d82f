import BackendHandbook.Runtime.Steps

/-! Compensations: how often the effect of a cancelled attempt is compensated. -/

namespace BackendHandbook.Runtime

open Run Tools InMemoryRuntimeAttemptStore RuntimeState

section Model

variable (sha256 : String → String) (executor : InMemoryToolExecutor)

def claimed : RuntimeEvent → Option CompensationRecord
  | ⟨_, .claimCompensation _ _, answer, _⟩ => answer
  | _ => none

def claimsFor (sourceAttemptId : String) (e : RuntimeEvent) : Bool :=
  (claimed e).any (·.sourceAttemptId = sourceAttemptId)

structure CompensatedOnce (calls : List RuntimeCall) : Prop where
  once : ∀ sourceAttemptId,
    (runtimeTrace sha256 { executor } calls).countP (claimsFor sourceAttemptId) ≤ 1
  fresh : ∀ id record source,
    (runtimeAfter sha256 executor calls).store.compensations.lookup id = some record →
      (runtimeAfter sha256 executor calls).store.records.lookup record.sourceAttemptId =
        some source → source.toolIdempotencyKey ≠ some record.idempotencyKey
  distinct : ∀ id other record second,
    (runtimeAfter sha256 executor calls).store.compensations.lookup id = some record →
      (runtimeAfter sha256 executor calls).store.compensations.lookup other = some second →
        id ≠ other → record.idempotencyKey ≠ second.idempotencyKey
  settled : ∀ front back id record, calls = front ++ back →
    (runtimeAfter sha256 executor front).store.compensations.lookup id = some record →
      record.status ≠ .planned →
        ∀ e ∈ runtimeTrace sha256 (runtimeAfter sha256 executor front) back,
          ∀ workerId, e.call = .claimCompensation id workerId → claimed e = none

variable (call : RuntimeCall) (store : InMemoryRuntimeAttemptStore)

/-- A passing creation takes the key of a compensation that is already there. -/
def ReusesKey : Prop :=
  ∃ id sourceAttemptId key source other second,
    call = .createCompensation id sourceAttemptId key ∧
      store.records.lookup sourceAttemptId = some source ∧ source.status = .cancelled ∧
      source.toolCallId.isSome ∧ source.operationId.isSome ∧
      source.toolIdempotencyKey ≠ some key ∧ store.compensations.lookup id = none ∧
      store.compensations.lookup other = some second ∧ second.idempotencyKey = key

def ClaimsAgain : Prop :=
  ∃ id workerId record other second, call = .claimCompensation id workerId ∧
    store.compensations.lookup id = some record ∧ record.status = .planned ∧
    store.compensations.lookup other = some second ∧
    second.sourceAttemptId = record.sourceAttemptId ∧ second.status ≠ .planned

end Model

variable {id : String}

section Steps

/-- What a call does to the compensations. -/
inductive CompensationStep (store after : InMemoryRuntimeAttemptStore) (call : RuntimeCall)
    (answer : Option CompensationRecord) : Prop
  | kept (same : after.compensations = store.compensations) (unclaimed : answer = none)
      (quiet : ¬ ReusesKey call store) (alone : ¬ ClaimsAgain call store)
  | created (record : CompensationRecord) (source : RuntimeAttemptRecord)
      (found : store.records.lookup record.sourceAttemptId = some source)
      (status : source.status = .cancelled)
      (fresh : source.toolIdempotencyKey ≠ some record.idempotencyKey)
      (absent : store.compensations.lookup record.compensationId = none)
      (planned : record.status = .planned)
      (stored : ∀ id, after.compensations.lookup id =
        if id = record.compensationId then some record else store.compensations.lookup id)
      (reuses : ReusesKey call store ↔ ∃ other second,
        store.compensations.lookup other = some second ∧
          second.idempotencyKey = record.idempotencyKey)
      (unclaimed : answer = none) (alone : ¬ ClaimsAgain call store)
  | claimed (id workerId : String) (current updated : CompensationRecord)
      (called : call = .claimCompensation id workerId)
      (found : store.compensations.lookup id = some current) (planned : current.status = .planned)
      (same : updated = { current with status := .dispatchClaimed, claimedBy := some workerId })
      (stored : ∀ other, after.compensations.lookup other =
        if other = id then some updated else store.compensations.lookup other)
      (answered : answer = some updated)
  | unknown (id : String) (current updated : CompensationRecord)
      (found : store.compensations.lookup id = some current)
      (status : current.status = .dispatchClaimed)
      (same : updated = { current with status := .pendingReconciliation })
      (stored : ∀ other, after.compensations.lookup other =
        if other = id then some updated else store.compensations.lookup other)
      (unclaimed : answer = none) (quiet : ¬ ReusesKey call store)
      (alone : ¬ ClaimsAgain call store)

variable {sha256 : String → String} {state : RuntimeState} {call : RuntimeCall}

theorem reusesKey_accepted (reuses : ReusesKey call state.store) :
    call.accepts (perform sha256 call state).1 = true := by
  rcases reuses with ⟨_, _, _, _, _, _, called, found, status,
    toolCall, operation, fresh, absent, _, _⟩
  rw [called]
  rcases Option.isSome_iff_exists.mp toolCall with ⟨_, toolCall⟩
  rcases Option.isSome_iff_exists.mp operation with ⟨_, operation⟩
  simp only [perform, createCompensation, found, status, toolCall, operation,
    if_neg (Ne.symm fresh), absent]
  rfl

theorem claimsAgain_accepted (again : ClaimsAgain call state.store) :
    call.accepts (perform sha256 call state).1 = true := by
  rcases again with ⟨_, _, _, _, _, called, found, planned, _⟩
  rw [called]
  simp only [perform, claimCompensation, found, planned]
  rfl

variable (store : InMemoryRuntimeAttemptStore)

theorem not_reusesKey (other : ∀ id source key, call ≠ .createCompensation id source key) :
    ¬ ReusesKey call store := by
  rintro ⟨id, source, key, _, _, _, called, _⟩
  exact other id source key called

theorem not_claimsAgain
    (other : ∀ id workerId, call ≠ .claimCompensation id workerId) : ¬ ClaimsAgain call store := by
  rintro ⟨id, workerId, _, _, _, called, _⟩
  exact other id workerId called

theorem CompensationStep.elsewhere {store after : InMemoryRuntimeAttemptStore}
    (same : after.compensations = store.compensations)
    (uncreating : ∀ id source key, call ≠ .createCompensation id source key)
    (unclaiming : ∀ id workerId, call ≠ .claimCompensation id workerId) :
    CompensationStep store after call none :=
  .kept same rfl (not_reusesKey store uncreating) (not_claimsAgain store unclaiming)

theorem perform_compensation (call : RuntimeCall) (state : RuntimeState) :
    CompensationStep state.store (perform sha256 call state).2.store call
      (claimed (event (perform sha256) state call)) := by
  have step : RuntimeStep sha256 state call _ := perform_step call
  have reuses : ReusesKey call state.store →
      call.accepts (perform sha256 call state).1 = true := reusesKey_accepted
  have again : ClaimsAgain call state.store →
      call.accepts (perform sha256 call state).1 = true := claimsAgain_accepted
  simp only [event]
  generalize perform sha256 call state = result at step reuses again ⊢
  cases step with
  | refused call _ refuses =>
    refine .kept rfl ?_ ?_ ?_
    · cases call with
      | claimCompensation =>
        exact Option.isSome_eq_false_iff.mp refuses |> Option.isNone_iff_eq_none.mp
      | _ => rfl
    · intro reused
      exact absurd (refuses.symm.trans (reuses reused)) (by decide)
    · intro doubled
      exact absurd (refuses.symm.trans (again doubled)) (by decide)
  | persisted | claimed | unknown | admitted | recorded | executed | settled | cancelled =>
    exact .elsewhere rfl (by simp) (by simp)
  | created record source found status toolCall operation fresh absent planned =>
    refine .created record source found status fresh absent planned ?_ ?_ rfl
      (not_claimsAgain _ (by simp))
    · intro id
      exact Dict.lookup_insert_eq _ _ _ _
    · constructor
      · rintro ⟨id, _, _, _, other, second, called, _, _, _, _, _, _, listed, shared⟩
        cases called
        exact ⟨other, second, listed, shared⟩
      · rintro ⟨other, second, listed, shared⟩
        exact ⟨_, _, _, source, other, second, rfl, found, status,
          Option.isSome_of_eq_some toolCall, Option.isSome_of_eq_some operation, fresh, absent,
          listed, shared⟩
  | compensationClaimed id workerId current updated found planned same =>
    exact .claimed id workerId current updated rfl found planned same
      (fun other => Dict.lookup_insert_eq _ _ _ _) rfl
  | compensationUnknown id _ current updated found _ status same =>
    exact .unknown id current updated found status same
      (fun other => Dict.lookup_insert_eq _ _ _ _) rfl (not_reusesKey _ (by simp))
      (not_claimsAgain _ (by simp))

variable {store after : InMemoryRuntimeAttemptStore} {answer : Option CompensationRecord}

variable {record : CompensationRecord}

theorem CompensationStep.forward (step : CompensationStep store after call answer)
    (found : store.compensations.lookup id = some record) :
    ∃ later, after.compensations.lookup id = some later ∧
      later.sourceAttemptId = record.sourceAttemptId ∧
      later.idempotencyKey = record.idempotencyKey ∧
      (record.status ≠ .planned → later.status ≠ .planned) := by
  cases step with
  | kept same =>
    rw [same]
    exact ⟨record, found, rfl, rfl, fun past => past⟩
  | created fresh _ _ _ _ absent _ stored =>
    have other : id ≠ fresh.compensationId := Dict.ne_of_absent absent found
    rw [stored, if_neg other]
    exact ⟨record, found, rfl, rfl, fun past => past⟩
  | claimed own workerId current updated called listed planned same stored
  | unknown own current updated listed status same stored =>
    rw [stored]
    by_cases here : id = own
    · rw [here] at found
      cases found.symm.trans listed
      rw [if_pos here, same]
      exact ⟨_, rfl, rfl, rfl, fun _ => nofun⟩
    · rw [if_neg here]
      exact ⟨record, found, rfl, rfl, fun past => past⟩

/-- Where a compensation behind a call comes from: it stood there, or has just been created. -/
theorem CompensationStep.backward (step : CompensationStep store after call answer)
    (found : after.compensations.lookup id = some record) :
    (∃ earlier, store.compensations.lookup id = some earlier ∧
      record.sourceAttemptId = earlier.sourceAttemptId ∧
      record.idempotencyKey = earlier.idempotencyKey) ∨
    ∃ source, store.compensations.lookup id = none ∧
      store.records.lookup record.sourceAttemptId = some source ∧ source.status = .cancelled ∧
      source.toolIdempotencyKey ≠ some record.idempotencyKey ∧
      (¬ ReusesKey call store → ∀ other second, store.compensations.lookup other = some second →
          second.idempotencyKey ≠ record.idempotencyKey) ∧
      ∀ other, other ≠ id → after.compensations.lookup other = store.compensations.lookup other := by
  cases step with
  | kept same =>
    rw [same] at found
    exact .inl ⟨record, found, rfl, rfl⟩
  | created fresh source cancelled status new absent _ stored reuses =>
    rw [stored] at found
    by_cases here : id = fresh.compensationId
    · rw [if_pos here] at found
      cases found
      refine .inr ⟨source, here ▸ absent, cancelled, status, new, ?_, ?_⟩
      · intro quiet other second listed shared
        exact quiet (reuses.mpr ⟨other, second, listed, shared⟩)
      · intro other different
        rw [stored, if_neg (here ▸ different)]
    · rw [if_neg here] at found
      exact .inl ⟨record, found, rfl, rfl⟩
  | claimed own workerId current updated called listed planned same stored
  | unknown own current updated listed status same stored =>
    rw [stored] at found
    by_cases here : id = own
    · rw [if_pos here, same] at found
      cases found
      exact .inl ⟨current, here ▸ listed, rfl, rfl⟩
    · rw [if_neg here] at found
      exact .inl ⟨record, found, rfl, rfl⟩

end Steps

section Pursued

variable (sourceAttemptId : String) (store : InMemoryRuntimeAttemptStore)

def pursued : Bool :=
  store.compensations.values.any fun record =>
    record.sourceAttemptId = sourceAttemptId && record.status ≠ .planned

theorem pursued_iff : pursued sourceAttemptId store = true ↔
      ∃ id record, store.compensations.lookup id = some record ∧
        record.sourceAttemptId = sourceAttemptId ∧ record.status ≠ .planned := by
  simp only [pursued, List.any_eq_true, Dict.mem_values, Bool.and_eq_true, decide_eq_true_eq]
  constructor
  · rintro ⟨record, ⟨id, found⟩, source, past⟩
    exact ⟨id, record, found, source, past⟩
  · rintro ⟨id, record, found, source, past⟩
    exact ⟨record, ⟨id, found⟩, source, past⟩

variable {call : RuntimeCall} {store after : InMemoryRuntimeAttemptStore}
variable {answer : Option CompensationRecord}

theorem CompensationStep.pursued_kept (step : CompensationStep store after call answer)
    (sourceAttemptId : String) (claimed : pursued sourceAttemptId store = true) :
    pursued sourceAttemptId after = true := by
  rcases (pursued_iff _ _).mp claimed with ⟨id, _, found, source, past⟩
  rcases step.forward found with ⟨later, listed, sources, _, statuses⟩
  exact (pursued_iff _ _).mpr ⟨id, later, listed, sources.trans source, statuses past⟩

theorem CompensationStep.pursues (step : CompensationStep store after call answer)
    {sourceAttemptId : String} (before : pursued sourceAttemptId store = false)
    (behind : pursued sourceAttemptId after = true) :
    answer.any (·.sourceAttemptId = sourceAttemptId) = true := by
  rcases (pursued_iff _ _).mp behind with ⟨id, record, found, source, past⟩
  have unpursued : ∀ other second, store.compensations.lookup other = some second →
      second.sourceAttemptId = sourceAttemptId → second.status = .planned := by
    intro other second listed same
    by_contra different
    have claimed := (pursued_iff _ _).mpr ⟨other, second, listed, same, different⟩
    exact absurd (before.symm.trans claimed) (by decide)
  cases step with
  | kept same =>
    rw [same] at found
    exact absurd (unpursued id record found source) past
  | created _ _ _ _ _ _ planned stored =>
    rw [stored] at found
    split at found
    · cases found
      exact absurd planned past
    · exact absurd (unpursued id record found source) past
  | claimed _ _ _ _ _ _ _ _ stored answered =>
    rw [stored] at found
    split at found
    · cases found
      rw [answered]
      exact decide_eq_true source
    · exact absurd (unpursued id record found source) past
  | unknown own current _ listed status same stored =>
    rw [stored] at found
    split at found
    · cases found
      rw [same] at source
      have planned := unpursued own current listed source
      rw [status] at planned
      cases planned
    · exact absurd (unpursued id record found source) past

theorem CompensationStep.claims (step : CompensationStep store after call answer)
    {sourceAttemptId : String} (alone : ¬ ClaimsAgain call store)
    (claims : answer.any (·.sourceAttemptId = sourceAttemptId) = true) :
    pursued sourceAttemptId store = false ∧ pursued sourceAttemptId after = true := by
  cases step with
  | kept same unclaimed
  | created fresh origin cancelled status new absent planned stored reuses unclaimed
  | unknown own current updated listed status same stored unclaimed =>
    rw [unclaimed] at claims
    cases claims
  | claimed own workerId current updated called listed planned same stored answered =>
    rw [answered] at claims
    have source : updated.sourceAttemptId = sourceAttemptId := of_decide_eq_true claims
    constructor
    · rw [← Bool.not_eq_true]
      intro before
      rcases (pursued_iff _ _).mp before with ⟨id, record, found, sources, past⟩
      refine alone ⟨own, workerId, current, id, record, called, listed, planned, found, ?_, past⟩
      rw [sources, ← source, same]
    · refine (pursued_iff _ _).mpr ⟨own, updated, ?_, source, ?_⟩
      · rw [stored, if_pos rfl]
      · rw [same]
        nofun

end Pursued

section Runs

variable {sha256 : String → String} {executor : InMemoryToolExecutor} {state : RuntimeState}
variable {calls : List RuntimeCall} {e : RuntimeEvent}

theorem event_compensation (member : e ∈ runtimeTrace sha256 state calls) :
    CompensationStep e.before.store e.after.store e.call (claimed e) := by
  have same := mem_trace_event _ _ _ e member
  have step : CompensationStep e.before.store
      (perform sha256 e.call e.before).2.store e.call _ :=
    perform_compensation e.call e.before
  rw [← same, ← (mem_trace_performed member).2] at step
  exact step

/-- Every compensation is of a cancelled attempt, under another key than the attempt's. -/
def Sound (store : InMemoryRuntimeAttemptStore) : Prop :=
  ∀ id record, store.compensations.lookup id = some record →
    ∃ source, store.records.lookup record.sourceAttemptId = some source ∧
      source.status = .cancelled ∧ source.toolIdempotencyKey ≠ some record.idempotencyKey

theorem event_sound (member : e ∈ runtimeTrace sha256 state calls) (sound : Sound e.before.store) :
    Sound e.after.store := by
  have stays : ∀ attemptId source, e.before.store.records.lookup attemptId = some source →
      source.status = .cancelled → e.after.store.records.lookup attemptId = some source := by
    intro attemptId source found status
    refine (event_step member).keeps_last found ?_
    rw [status]
    rfl
  intro id record found
  rcases (event_compensation member).backward found with
    ⟨earlier, listed, sources, keys⟩ | ⟨source, _, listed, status, fresh, _⟩
  · rcases sound id earlier listed with ⟨source, stored, status, fresh⟩
    refine ⟨source, ?_, status, ?_⟩
    · rw [sources]
      exact stays _ source stored status
    · rw [keys]
      exact fresh
  · exact ⟨source, stays _ source listed status, status, fresh⟩

theorem runtimeAfter_sound (calls : List RuntimeCall) :
    Sound (runtimeAfter sha256 executor calls).store := by
  refine kept_final (perform sha256) (fun state => Sound state.store) { executor }
    calls (fun e member sound => event_sound member sound) ?_
  intro id record found
  cases found

def Distinct (store : InMemoryRuntimeAttemptStore) : Prop :=
  ∀ id other record second, store.compensations.lookup id = some record →
    store.compensations.lookup other = some second → id ≠ other →
      record.idempotencyKey ≠ second.idempotencyKey

theorem event_distinct (member : e ∈ runtimeTrace sha256 state calls)
    (quiet : ¬ ReusesKey e.call e.before.store) (distinct : Distinct e.before.store) :
    Distinct e.after.store := by
  have step := event_compensation member
  intro id other record second found listed different
  rcases step.backward found with
    ⟨earlier, stood, _, keys⟩ | ⟨source, absent, _, _, _, fresh, others⟩
  · rcases step.backward listed with
      ⟨former, stands, _, shared⟩ | ⟨_, _, _, _, _, fresh, others⟩
    · rw [keys, shared]
      exact distinct id other earlier former stood stands different
    · rw [others id different] at found
      exact fresh quiet id record found
  · rw [others other different.symm] at listed
    exact (fresh quiet other second listed).symm

theorem event_keeps_claimed (member : e ∈ runtimeTrace sha256 state calls) (id : String)
    (past : ∃ record, e.before.store.compensations.lookup id = some record ∧
      record.status ≠ .planned) :
    ∃ record, e.after.store.compensations.lookup id = some record ∧ record.status ≠ .planned := by
  rcases past with ⟨_, found, status⟩
  rcases (event_compensation member).forward found with ⟨later, listed, _, _, statuses⟩
  exact ⟨later, listed, statuses status⟩

theorem pursued_counted (calls : List RuntimeCall) {sourceAttemptId : String}
    (claimed : pursued sourceAttemptId (runtimeAfter sha256 executor calls).store = true) :
    0 < (runtimeTrace sha256 { executor } calls).countP (claimsFor sourceAttemptId) := by
  rcases first_exit (perform sha256)
    (fun state => pursued sourceAttemptId state.store = false) { executor } calls rfl
    (by rw [Bool.not_eq_false]; exact claimed) with ⟨front, call, back, split, before, behind⟩
  have member : event (perform sha256)
      (final (perform sha256) { executor } front) call ∈
        runtimeTrace sha256 { executor } calls := by
    rw [split]
    exact event_mem_trace _ _ front back call
  rw [Bool.not_eq_false] at behind
  exact List.countP_pos_iff.mpr
    ⟨_, member, (event_compensation member).pursues before behind⟩

theorem key_kept (member : e ∈ runtimeTrace sha256 { executor } calls) {key : String}
    (holds : ∃ record, e.after.store.compensations.lookup id = some record ∧
      record.idempotencyKey = key) :
    ∃ record, (runtimeAfter sha256 executor calls).store.compensations.lookup id = some record ∧
      record.idempotencyKey = key := by
  refine kept_after (perform sha256)
    (fun state => ∃ record, state.store.compensations.lookup id = some record ∧
      record.idempotencyKey = key) ?_ member holds
  rintro _ inside ⟨_, found, same⟩
  rcases (event_compensation inside).forward found with ⟨later, listed, _, keys, _⟩
  exact ⟨later, listed, keys.trans same⟩

theorem CompensatedOnce.keeps_keys (law : CompensatedOnce sha256 executor calls)
    (member : e ∈ runtimeTrace sha256 { executor } calls) : ¬ ReusesKey e.call e.before.store := by
  intro reused
  have step := event_compensation member
  cases step with
  | kept _ _ quiet => exact quiet reused
  | unknown _ _ _ _ _ _ _ _ quiet =>
    exact quiet reused
  | claimed _ _ _ _ called =>
    rcases reused with ⟨_, _, _, _, _, _, creates, _⟩
    cases called.symm.trans creates
  | created record _ found _ _ absent _ stored reuses =>
    rcases reuses.mp reused with ⟨other, second, listed, shared⟩
    have different : other ≠ record.compensationId := Dict.ne_of_absent absent listed
    have first := key_kept member ⟨record, by rw [stored, if_pos rfl], rfl⟩
    have again := key_kept member ⟨second, by rw [stored, if_neg different, listed], shared⟩
    rcases first with ⟨last, found, key⟩
    rcases again with ⟨rival, standing, same⟩
    exact law.distinct _ _ last rival found standing different.symm (key.trans same.symm)

theorem CompensatedOnce.claims_alone (law : CompensatedOnce sha256 executor calls)
    (member : e ∈ runtimeTrace sha256 { executor } calls) :
    ¬ ClaimsAgain e.call e.before.store := by
  intro again
  have step := event_compensation member
  rcases again with ⟨id, workerId, record, other, second, called, found, planned, listed, source,
    past⟩
  have claims : claimsFor record.sourceAttemptId e = true := by
    have doubled : ClaimsAgain e.call e.before.store :=
      ⟨id, workerId, record, other, second, called, found, planned, listed, source, past⟩
    cases step with
    | kept _ _ _ alone => exact absurd doubled alone
    | created fresh origin stood status new absent first stored reuses unclaimed alone
    | unknown own current updated stood status same stored unclaimed quiet alone =>
      exact absurd doubled alone
    | claimed _ _ _ _ calls stood _ same _ answered =>
      cases called.symm.trans calls
      cases found.symm.trans stood
      rw [claimsFor, answered, same]
      exact decide_eq_true rfl
  rcases mem_trace_split _ _ _ e member with ⟨front, _, split, same⟩
  have before : e.before = runtimeAfter sha256 executor front := congrArg Event.before same
  have earlier : 0 < (runtimeTrace sha256 { executor } front).countP
      (claimsFor record.sourceAttemptId) :=
    pursued_counted front ((pursued_iff record.sourceAttemptId _).mpr
      ⟨other, second, before ▸ listed, source, past⟩)
  have once := law.once record.sourceAttemptId
  rw [runtimeTrace, split, trace_append, List.countP_append, trace] at once
  rw [List.countP_cons_of_pos] at once
  · simp only [runtimeTrace] at earlier
    omega
  · have standing : event (perform sha256)
        (final (perform sha256) { executor } front) e.call = e := same.symm
    rw [standing]
    exact claims

/-- A cancelled effect is compensated at most once exactly where no creation takes the key of
another compensation and no second compensation of a source is claimed. -/
theorem compensated_once (sha256 : String → String) (executor : InMemoryToolExecutor)
    (calls : List RuntimeCall) : CompensatedOnce sha256 executor calls ↔
      ∀ e ∈ runtimeTrace sha256 { executor } calls,
        ¬ ReusesKey e.call e.before.store ∧ ¬ ClaimsAgain e.call e.before.store := by
  constructor
  · intro law e member
    exact ⟨law.keeps_keys member, law.claims_alone member⟩
  · intro quiet
    constructor
    · intro sourceAttemptId
      refine counted_once (perform sha256)
        (fun state => pursued sourceAttemptId state.store) false _ _ _ ?_ ?_
      · intro e member
        have step := event_compensation member
        cases before : pursued sourceAttemptId e.before.store with
        | false => exact Bool.false_le _
        | true => rw [step.pursued_kept sourceAttemptId before]
      · intro e member claims
        have step := event_compensation member
        have moved := step.claims (quiet e member).2 claims
        rw [moved.1, moved.2]
        exact ⟨rfl, by decide⟩
    · intro id record source found listed
      rcases runtimeAfter_sound calls id record found with ⟨stored, standing, _, fresh⟩
      cases standing.symm.trans listed
      exact fresh
    · refine kept_final (perform sha256) (fun state => Distinct state.store)
        { executor } calls (fun e member => event_distinct member (quiet e member).1) ?_
      intro id other record second found
      cases found
    · intro front back id record split found past e member workerId called
      have inside := kept_trace (perform sha256)
        (fun state => ∃ record, state.store.compensations.lookup id = some record ∧
          record.status ≠ .planned) _ back
        (fun other listed => event_keeps_claimed listed id) ⟨record, found, past⟩ e member
      rcases inside.1 with ⟨current, listed, status⟩
      cases event_compensation member with
      | kept _ unclaimed => exact unclaimed
      | created fresh origin stood status new absent first stored reuses unclaimed
      | unknown own current updated stood status same stored unclaimed =>
        exact unclaimed
      | claimed _ _ _ _ calls stood first =>
        cases called.symm.trans calls
        cases listed.symm.trans stood
        exact absurd first status

end Runs

namespace Sample

def digest (material : String) : String := material

def registry : ToolRegistry :=
  ToolRegistry.empty.add ⟨"publish_report", "v1", publishReportV1ArgumentsSchema⟩

def prepared : PreparedAttempt := ⟨⟨"A1", "J1"⟩, ⟨"sha256:prompt"⟩⟩

def publish : AdmittedToolCall :=
  ⟨"A1", "J1", "call-1", "publish_report", "v1", "tenant-a", "report-7", 7, "sha256:key"⟩

def cancelledAttempt : List RuntimeCall :=
  [.persistPrepared prepared, .claimDispatch "A1" "sha256:prompt" "W1",
   .recordToolAdmission "W1" publish, .executeAdmittedWithFence publish "W1" 1 registry,
   .cancelAfterExternalEffect "A1"]

def compensatedTwice : List RuntimeCall :=
  cancelledAttempt ++
    [.createCompensation "COMP-1" "A1" "compensation:COMP-1",
     .createCompensation "COMP-2" "A1" "compensation:COMP-1",
     .claimCompensation "COMP-1" "CW1", .claimCompensation "COMP-2" "CW2"]

/-- Two compensations of one source, under one key, are both claimed. -/
theorem compensated_twice : ¬ CompensatedOnce digest {} compensatedTwice := by
  intro law
  exact absurd (law.once "A1") (by decide +kernel)

end Sample

end BackendHandbook.Runtime
