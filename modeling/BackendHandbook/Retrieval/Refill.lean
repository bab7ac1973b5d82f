import BackendHandbook.Retrieval.Frozen

/-! The refill loop over a view: one round, the loop, and the call around it. -/

namespace BackendHandbook.Retrieval.View

open AuthorizedHybridRetriever Fallible Sorting

variable {Token : Type} (view : View Token) (clock : Clock) (start : Nat × Nat)

theorem searchQuery_view (query : Option FilterExpression × Nat) (state : RoundState)
    (scope : state.loop.scope = view.scope)
    (encoded : state.loop.encodedQuery = some view.encoded) :
    searchQuery (view.env.ports clock) view.request (view.admission start) state query = .ok
      { loop := { state.loop with
          completed := addOnce .dense (addOnce .lexical state.loop.completed)
          databaseCalls := state.loop.databaseCalls + 1 + 1 }
        candidates := state.candidates ++ view.lexicalPage query.1 state.loop.lexicalOffset ++
          view.densePage query.1 state.loop.denseOffset
        lexicalCounts := state.lexicalCounts ++
          [(view.lexicalPage query.1 state.loop.lexicalOffset).length]
        denseCounts := state.denseCounts ++
          [(view.densePage query.1 state.loop.denseOffset).length] } := by
  have lexical : searchLexical (view.env.ports clock) view.request (view.admission start) query.2
      query.1 state = .ok
      { state with
        lexicalCounts := state.lexicalCounts ++
          [(view.lexicalPage query.1 state.loop.lexicalOffset).length]
        candidates := state.candidates ++ view.lexicalPage query.1 state.loop.lexicalOffset
        loop := { state.loop with
          completed := addOnce .lexical state.loop.completed
          databaseCalls := state.loop.databaseCalls + 1 } } := by
    simp [searchLexical, Environment.ports, admission, scope, view.lexical_search]
  unfold searchQuery
  rw [lexical]
  simp [bind, Except.bind, searchDense, encoded, Environment.ports, admission, scope,
    view.dense_search]

theorem searchQueries_view (queries : List (Option FilterExpression × Nat)) (state : RoundState)
    (scope : state.loop.scope = view.scope)
    (encoded : state.loop.encodedQuery = some view.encoded) : ∃ completed databaseCalls,
      queries.foldlM (searchQuery (view.env.ports clock) view.request (view.admission start))
        state = .ok
        { loop := { state.loop with completed, databaseCalls }
          candidates := state.candidates ++ (queries.map Prod.fst).flatMap fun filter =>
            view.lexicalPage filter state.loop.lexicalOffset ++
              view.densePage filter state.loop.denseOffset
          lexicalCounts := state.lexicalCounts ++ (queries.map Prod.fst).map fun filter =>
            (view.lexicalPage filter state.loop.lexicalOffset).length
          denseCounts := state.denseCounts ++ (queries.map Prod.fst).map fun filter =>
            (view.densePage filter state.loop.denseOffset).length } ∧
      (queries ≠ [] ∨ state.loop.completed ≠ [] → completed ≠ []) := by
  induction queries generalizing state with
  | nil =>
    refine ⟨state.loop.completed, state.loop.databaseCalls, ?_, ?_⟩
    · simp [pure, Except.pure]
    · intro some_
      rcases some_ with absurd_ | present
      · exact (absurd_ rfl).elim
      · exact present
  | cons query _ ih =>
    have first := view.searchQuery_view clock start query state scope encoded
    rcases ih
      { loop := { state.loop with
          completed := addOnce .dense (addOnce .lexical state.loop.completed)
          databaseCalls := state.loop.databaseCalls + 1 + 1 }
        candidates := state.candidates ++ view.lexicalPage query.1 state.loop.lexicalOffset ++
          view.densePage query.1 state.loop.denseOffset
        lexicalCounts := state.lexicalCounts ++
          [(view.lexicalPage query.1 state.loop.lexicalOffset).length]
        denseCounts := state.denseCounts ++
          [(view.densePage query.1 state.loop.denseOffset).length] } scope encoded with
      ⟨completed, databaseCalls, rest, present⟩
    refine ⟨completed, databaseCalls, ?_, fun _ => present (.inr (addOnce_ne_nil _ _))⟩
    rw [List.foldlM_cons, first]
    apply rest.trans
    simp

structure Progress (rounds : Nat) (state : LoopState) : Prop where
  scope : state.scope = view.scope
  encoded : state.encodedQuery = some view.encoded
  missing : state.missing = []
  degradation : state.degradation = .none
  lexicalOffset : state.lexicalOffset = (view.offsetsAfter start rounds).1
  denseOffset : state.denseOffset = (view.offsetsAfter start rounds).2
  accumulated : state.accumulated = view.collected start rounds
  examined : state.candidatesExamined = (view.collected start rounds).length
  counted : state.refillRounds = rounds

/-- What the searches of one round hand on. -/
structure Searched (rounds : Nat) (state : LoopState) (searched : RoundState) : Prop where
  loop : ∃ completed databaseCalls, completed ≠ [] ∧
    searched.loop = { state with refillRounds := rounds + 1, completed, databaseCalls }
  candidates : searched.candidates = view.roundPages (view.offsetsAfter start rounds)
  lexicalCounts : searched.lexicalCounts = view.lexicalCounts (view.offsetsAfter start rounds)
  denseCounts : searched.denseCounts = view.denseCounts (view.offsetsAfter start rounds)

theorem searchRound_view {rounds : Nat} {state : LoopState}
    (progress : view.Progress start rounds state) :
    ∃ searched, searchRound (view.env.ports clock) view.request (view.admission start) state =
      .ok searched ∧ view.Searched start rounds state searched := by
  rcases view.searchQueries_view clock start view.plan.providerQueries.zipIdx
      { loop := { state with refillRounds := state.refillRounds + 1 } } progress.scope
      progress.encoded with ⟨completed, databaseCalls, found, present⟩
  have asked : view.plan.providerQueries.zipIdx ≠ [] :=
    fun empty => view.queries_present (List.zipIdx_eq_nil_iff.mp empty)
  refine ⟨_, found, ⟨completed, databaseCalls, present (.inl asked), ?_⟩, ?_, ?_, ?_⟩
  · simp [progress.counted]
  all_goals
    simp only [progress.lexicalOffset, progress.denseOffset, List.zipIdx_map_fst]
    rfl

theorem release_view (reading : Reading) (candidates : List FusedCandidate) :
    release ((view.env.ports clock).authorization reading) ((view.env.ports clock).content reading)
      candidates view.scope view.request.topK =
    .ok (releaseLoop view.env.content view.scope view.request.topK [] [] candidates) := by
  unfold release
  have current : ((view.env.ports clock).authorization reading).read view.scope.key =
      .ok (some view.scope) := view.read_current
  rw [current]
  rfl

/-- The state of the loop after a round whose candidates were fused and released. -/
structure Settled (rounds : Nat) (candidates : List FusedCandidate) (state : LoopState) :
    Prop where
  progress : view.Progress start rounds state
  made : view.fused start rounds = .ok candidates
  fused : state.finalFused = candidates
  hits : state.finalHits = view.released candidates
  completed : state.completed ≠ []

theorem collected_length (rounds : Nat) :
    (view.collected start (rounds + 1)).length = (view.collected start rounds).length +
      (view.roundPages (view.offsetsAfter start rounds)).length := by
  simp [collected]

theorem offsetsAfter_succ (rounds : Nat) : view.offsetsAfter start (rounds + 1) =
      ((view.offsetsAfter start rounds).1 + view.depth,
        (view.offsetsAfter start rounds).2 + view.depth) := by
  simp [offsetsAfter, Nat.succ_mul, Nat.add_assoc]

variable {rounds : Nat} {state : LoopState}

theorem admitCandidates_fits {searched : RoundState} (progress : view.Progress start rounds state)
    (found : view.Searched start rounds state searched)
    (fits : (view.collected start (rounds + 1)).length ≤
      view.bundle.retrievalPolicy.maxCandidateBudget) :
    let admitted := admitCandidates (view.admission start) searched
    admitted.2 = false ∧ view.Progress start (rounds + 1) admitted.1 ∧
      admitted.1.completed ≠ [] ∧ admitted.1.exhausted = state.exhausted := by
  rcases found.loop with ⟨_, _, present, loop⟩
  have grown := view.collected_length start rounds
  have moved := view.offsetsAfter_succ start rounds
  have enough : ¬ view.bundle.retrievalPolicy.maxCandidateBudget - state.candidatesExamined <
      (view.roundPages (view.offsetsAfter start rounds)).length := by
    rw [progress.examined]
    omega
  have kept : admitCandidates (view.admission start) searched =
      ({ searched.loop with
          lexicalOffset := state.lexicalOffset + view.depth
          denseOffset := state.denseOffset + view.depth
          candidatesExamined := state.candidatesExamined + searched.candidates.length
          accumulated := state.accumulated ++ searched.candidates }, false) := by
    simp [admitCandidates, loop, found.candidates, admission, decide_eq_false enough, depth,
      progress.encoded]
  simp only [kept, loop, found.candidates, progress.lexicalOffset, progress.denseOffset,
    progress.examined, progress.accumulated]
  refine ⟨trivial, ⟨progress.scope, progress.encoded, progress.missing, progress.degradation,
    ?_, ?_, rfl, ?_, rfl⟩, present, trivial⟩
  · simp [moved]
  · simp [moved]
  · rw [grown]

section

variable (progress : view.Progress start rounds state)
  (fits : (view.collected start (rounds + 1)).length ≤ view.bundle.retrievalPolicy.maxCandidateBudget)
include progress fits

theorem round_fits {candidates : List FusedCandidate}
    (made : view.fused start (rounds + 1) = .ok candidates) :
    let full := decide (view.request.topK ≤ (view.released candidates).length)
    let short := view.short (view.offsetsAfter start rounds)
    ∃ next, round (view.env.ports clock) view.request (view.admission start) state =
        .ok (next, full || short) ∧ view.Settled start (rounds + 1) candidates next ∧
      next.exhausted = if full then state.exhausted else short := by
  rcases view.searchRound_view clock start progress with ⟨searched, done, found⟩
  rcases view.admitCandidates_fits start progress found fits with
    ⟨room, further, completed, exhausted⟩
  generalize admitted : admitCandidates (view.admission start) searched = taken at *
  rcases taken with ⟨next, _⟩
  simp only at room further completed exhausted
  subst room
  have fuses : fuseAccumulated (view.env.ports clock).digests (view.admission start).bundle
      (view.admission start).plan next.scope next.accumulated = .ok candidates := by
    rw [further.scope, further.accumulated]
    exact made
  have released : releaseRound (view.env.ports clock) view.request next candidates = .ok
      { next with
        finalFused := candidates, finalHits := view.released candidates
        scope := view.scope } := by
    simp only [releaseRound, further.scope, view.release_view clock]
    rw [releaseLoop_scope]
    rfl
  have settled : ∀ flag, view.Settled start (rounds + 1) candidates
      { next with
        finalFused := candidates, finalHits := view.released candidates, scope := view.scope
        exhausted := flag } :=
    fun flag => ⟨⟨rfl, further.encoded, further.missing, further.degradation,
      further.lexicalOffset, further.denseOffset, further.accumulated, further.examined,
      further.counted⟩, made, rfl, rfl, completed⟩
  have ran : round (view.env.ports clock) view.request (view.admission start) state =
      if view.request.topK ≤ (view.released candidates).length then
        .ok ({ next with
          finalFused := candidates, finalHits := view.released candidates
          scope := view.scope }, true)
      else
        .ok ({ next with
          finalFused := candidates, finalHits := view.released candidates, scope := view.scope
          exhausted := view.short (view.offsetsAfter start rounds) },
          view.short (view.offsetsAfter start rounds)) := by
    unfold AuthorizedHybridRetriever.round
    rw [done]
    simp only [bind, Except.bind, admitted, fuses, Except.mapError, released, found.lexicalCounts,
      found.denseCounts, further.encoded]
    rfl
  by_cases full : view.request.topK ≤ (view.released candidates).length
  · rw [if_pos full] at ran
    simp only [decide_eq_true full]
    exact ⟨_, ran, settled next.exhausted, exhausted⟩
  · rw [if_neg full] at ran
    simp only [decide_eq_false full]
    exact ⟨_, ran, settled _, rfl⟩

theorem round_raises {error : FusionError} (made : view.fused start (rounds + 1) = .error error) :
    round (view.env.ports clock) view.request (view.admission start) state =
      .error (.raised error) := by
  rcases view.searchRound_view clock start progress with ⟨searched, done, found⟩
  rcases view.admitCandidates_fits start progress found fits with ⟨_, further, _, _⟩
  have fuses : fuseAccumulated (view.env.ports clock).digests (view.admission start).bundle
      (view.admission start).plan (admitCandidates (view.admission start) searched).1.scope
      (admitCandidates (view.admission start) searched).1.accumulated = .error error := by
    rw [further.scope, further.accumulated]
    exact made
  unfold AuthorizedHybridRetriever.round
  rw [done]
  simp [bind, Except.bind, fuses, Except.mapError]

end

/-- A round ends early only with the exception of the fusion. -/
theorem round_stops {stop : LoopStop} (progress : view.Progress start rounds state)
    (ran : round (view.env.ports clock) view.request (view.admission start) state = .error stop) :
    ∃ error accumulated, stop = .raised error ∧ accumulated <+: view.collected start (rounds + 1) ∧
      view.fuse accumulated = .error error := by
  rcases view.searchRound_view clock start progress with ⟨searched, done, found⟩
  rcases found.loop with ⟨_, _, _, loop⟩
  have scope : (admitCandidates (view.admission start) searched).1.scope = view.scope := by
    simp [admitCandidates, loop, progress.scope]
  have taken : (admitCandidates (view.admission start) searched).1.accumulated <+:
      view.collected start (rounds + 1) := by
    simp only [admitCandidates, loop, progress.accumulated, found.candidates]
    apply (List.prefix_append_right_inj _).mpr
    split
    · exact List.take_prefix _ _
    · exact List.prefix_rfl
  generalize admitted : admitCandidates (view.admission start) searched = grown at *
  rcases grown with ⟨next, _⟩
  simp only at scope taken
  have releases : ∀ candidates, ∃ settled,
      releaseRound (view.env.ports clock) view.request next candidates = .ok settled := by
    intro candidates
    simp only [releaseRound, scope, view.release_view clock]
    exact ⟨_, rfl⟩
  unfold AuthorizedHybridRetriever.round at ran
  rw [done] at ran
  rcases bind_eq_error.mp ran with failed | ⟨_, same, ran⟩
  · cases failed
  cases same
  simp only [admitted] at ran
  rcases bind_eq_error.mp ran with failed | ⟨candidates, _, ran⟩
  · rw [scope] at failed
    cases made : view.fuse next.accumulated with
    | error error =>
      have raised := failed.symm.trans (congrArg (Except.mapError LoopStop.raised) made)
      exact ⟨error, next.accumulated, Except.error.inj raised, taken, made⟩
    | ok =>
      have fine := congrArg (Except.mapError LoopStop.raised) made
      cases failed.symm.trans fine
  · rcases releases candidates with ⟨_, released⟩
    rw [released] at ran
    rcases bind_eq_error.mp ran with failed | ⟨_, _, ran⟩
    · cases failed
    · split at ran
      · cases ran
      · split at ran <;> cases ran

theorem round_overflows {next : LoopState} {stop : Bool}
    (progress : view.Progress start rounds state)
    (room : (view.collected start rounds).length < view.bundle.retrievalPolicy.maxCandidateBudget)
    (overflow : view.bundle.retrievalPolicy.maxCandidateBudget <
      (view.collected start (rounds + 1)).length)
    (ran : round (view.env.ports clock) view.request (view.admission start) state =
      .ok (next, stop)) : stop = true ∧ next.degradation ≠ .none := by
  rcases view.searchRound_view clock start progress with ⟨searched, done, found⟩
  rcases found.loop with ⟨_, _, _, loop⟩
  have grown := view.collected_length start rounds
  have short : (view.admission start).bundle.retrievalPolicy.maxCandidateBudget -
      searched.loop.candidatesExamined < searched.candidates.length := by
    rw [loop, found.candidates]
    have examined := progress.examined
    have same : (view.admission start).bundle = view.bundle := rfl
    simp only [same]
    omega
  have truncated : (admitCandidates (view.admission start) searched).2 = true :=
    decide_eq_true short
  have degraded : (admitCandidates (view.admission start) searched).1.degradation =
      .refillBudgetExhausted := by
    simp [admitCandidates, decide_eq_true short]
  generalize admitted : admitCandidates (view.admission start) searched = taken at *
  rcases taken with ⟨_, _⟩
  subst truncated
  unfold AuthorizedHybridRetriever.round at ran
  rw [done] at ran
  rcases bind_eq_ok.mp ran with ⟨_, same, ran⟩
  cases same
  simp only [admitted] at ran
  rcases bind_eq_ok.mp ran with ⟨_, _, ran⟩
  rcases bind_eq_ok.mp ran with ⟨settled, released, ran⟩
  have kept : settled.degradation = .refillBudgetExhausted := by
    unfold releaseRound at released
    split at released
    · cases released
    · rw [← Except.ok.inj released]
      exact degraded
  have last : (settled, true) = (next, stop) := by
    simp only [if_true, ite_self] at ran
    exact Except.ok.inj ran
  cases last
  exact ⟨rfl, by rw [kept]; decide⟩

structure Finished (rounds : Nat) (candidates : List FusedCandidate) (state : LoopState) :
    Prop where
  settled : view.Settled start rounds candidates state
  ended : view.request.topK ≤ (view.released candidates).length ∨ state.exhausted = true

theorem refill_view (remaining rounds : Nat) (state : LoopState)
    (progress : view.Progress start rounds state) :
    match view.completion start clock remaining rounds with
    | some last => ∃ final candidates,
        refill (view.env.ports clock) view.request (view.admission start) remaining state =
          .ok final ∧ view.Finished start last candidates final
    | none =>
      (∃ final, refill (view.env.ports clock) view.request (view.admission start) remaining
        state = .ok final ∧ final.degradation ≠ .none) ∨
      ∃ error number accumulated,
        refill (view.env.ports clock) view.request (view.admission start) remaining state =
          .error (.raised error) ∧ accumulated <+: view.collected start number ∧
        view.fuse accumulated = .error error := by
  induction remaining generalizing rounds state with
  | zero => exact .inl ⟨_, rfl, by simp⟩
  | succ _ ih =>
    unfold completion
    by_cases late : view.late clock rounds
    · simp only [late]
      refine .inl ⟨{ state with degradation := .deadlineExhausted }, ?_, by simp⟩
      simp only [refill, progress.counted]
      exact if_pos late
    have early : ¬ (view.bundle.retrievalPolicy.deadlineMs : Int) ≤
        (view.env.ports clock).clock (.roundStart state.refillRounds) * 1000 -
          (view.env.ports clock).clock .loopStart * 1000 := by
      rw [progress.counted]
      exact late
    have bundle : (view.admission start).bundle = view.bundle := rfl
    rw [refill, bundle, if_neg early, progress.examined]
    by_cases spent : view.bundle.retrievalPolicy.maxCandidateBudget ≤
        (view.collected start rounds).length
    · simp only [late, spent]
      exact .inl ⟨_, rfl, by simp⟩
    by_cases overflow : view.bundle.retrievalPolicy.maxCandidateBudget <
        (view.collected start (rounds + 1)).length
    · simp only [late, spent, overflow, if_false]
      cases ran : round (view.env.ports clock) view.request (view.admission start) state with
      | error =>
        rcases view.round_stops clock start progress ran with
          ⟨error, accumulated, raised, front, made⟩
        exact .inr ⟨error, rounds + 1, accumulated, by rw [raised], front, made⟩
      | ok result =>
        rcases result with ⟨next, stop⟩
        obtain ⟨stops, degraded⟩ := view.round_overflows clock start progress
          (by omega) overflow ran
        subst stops
        exact .inl ⟨next, rfl, degraded⟩
    simp only [late, spent, overflow, stopsAfter]
    cases made : view.fused start (rounds + 1) with
    | error error =>
      rw [view.round_raises clock start progress (by omega) made]
      exact .inr ⟨error, rounds + 1, _, rfl, List.prefix_rfl, made⟩
    | ok candidates =>
      obtain ⟨next, ran, settled, exhausted⟩ := view.round_fits clock start progress (by omega) made
      simp only [Except.map, Nat.add_sub_cancel]
      rw [ran]
      cases stop : decide (view.request.topK ≤ (view.released candidates).length) ||
          view.short (view.offsetsAfter start rounds) with
      | true =>
        refine ⟨next, candidates, rfl, settled, ?_⟩
        by_cases full : view.request.topK ≤ (view.released candidates).length
        · exact .inl full
        · rw [decide_eq_false full, Bool.false_or] at stop
          rw [decide_eq_false full, stop] at exhausted
          exact .inr exhausted
      | false => exact ih (rounds + 1) next settled.progress

def initial : LoopState :=
  { scope := view.scope
    encodedQuery := some view.encoded, missing := [], degradation := .none, lexicalOffset := start.1
    denseOffset := start.2 }

theorem progress_initial : view.Progress start 0 (view.initial start) := by
  constructor <;> simp [initial, offsetsAfter, collected]

theorem encodeQuery_view : @encodeQuery Token view.request (view.admission start)
      ((view.env.ports clock).encode view.request.queryText
        ((view.env.ports clock).digests.queryEncoder (view.admission start).bundle.queryEncoder)) =
    .ok (view.initial start) := by
  have encodes : ((view.env.ports clock).encode view.request.queryText
      ((view.env.ports clock).digests.queryEncoder
        (view.admission start).bundle.queryEncoder)).result = .ok view.encoded := view.encodes
  simp only [encodeQuery, encodes]
  rfl

def cursor (offsets : Nat × Nat) : RetrievalCursor :=
  issueCursor (view.env.ports clock) view.request (view.admission offsets) (view.initial offsets)

def completes (last : Nat) : Prop :=
  view.completion start clock view.bundle.retrievalPolicy.maxRefillRounds 0 = some last

/-- The answer of an undegraded call that went past the cache. -/
structure Complete (last : Nat) (candidates : List FusedCandidate)
    (cache : InMemoryRetrievalCache) (answer : Answer Token) : Prop where
  made : view.fused start last = .ok candidates
  outcome : answer.response.outcome = if (view.released candidates).isEmpty then .empty else .full
  hits : answer.response.hits = view.released candidates
  cursor : answer.response.cursor =
    some (view.env.cursors.encode (view.cursor clock (view.offsetsAfter start last)))
  cache : answer.cache = if (view.released candidates).isEmpty then cache else
    InMemoryRetrievalCache.put view.env.digests cache
      { key := (view.admission start).cacheKey (view.env.ports clock) view.request, candidates
        expiresAt := clock .cacheWrite + 60 }

theorem search_of_refill (cache : InMemoryRetrievalCache) {final : LoopState}
    (ran : refill (view.env.ports clock) view.request (view.admission start)
      view.bundle.retrievalPolicy.maxRefillRounds (view.initial start) = .ok final) :
    search (view.env.ports clock) view.request (view.admission start) cache =
      .ok (finish (view.env.ports clock) view.request
        (concludeLoop (view.env.ports clock) view.request (view.admission start) cache final).2
        (view.env.encode view.request.queryText
          (view.env.digests.queryEncoder view.bundle.queryEncoder)).providerCalls
        final.databaseCalls
        (concludeLoop (view.env.ports clock) view.request (view.admission start) cache
          final).1) := by
  have rounds : (view.admission start).bundle.retrievalPolicy.maxRefillRounds =
      view.bundle.retrievalPolicy.maxRefillRounds := rfl
  simp only [search, view.encodeQuery_view clock start, rounds, ran]
  rfl

theorem search_completes {last : Nat} (done : view.completes clock start last)
    (cache : InMemoryRetrievalCache) : ∃ candidates answer,
      search (view.env.ports clock) view.request (view.admission start) cache = .ok answer ∧
      view.Complete clock start last candidates cache answer := by
  have loop := view.refill_view clock start view.bundle.retrievalPolicy.maxRefillRounds 0
    (view.initial start) (view.progress_initial start)
  rw [done] at loop
  rcases loop with ⟨final, candidates, ran, settled, ended⟩
  have hits := settled.hits
  have undegraded : finalDegradation view.request final = .none := by
    have ends : ¬ (final.finalHits.length < view.request.topK ∧ final.exhausted = false ∧
        final.degradation = .none) := by
      rintro ⟨few, open_, _⟩
      rcases ended with full | exhausted
      · rw [hits] at few
        omega
      · rw [open_] at exhausted
        cases exhausted
    unfold finalDegradation
    rw [if_neg ends, settled.progress.degradation]
  have outcome : classify view.request final =
      if (view.released candidates).isEmpty then .empty else .full := by
    simp [classify, settled.progress.missing, undegraded, hits]
  have present : final.completed.isEmpty = false := by
    simpa using settled.completed
  have full : classify view.request final = .full ↔ (view.released candidates).isEmpty = false := by
    rw [outcome]
    cases (view.released candidates).isEmpty <;> simp
  refine ⟨candidates, _, view.search_of_refill clock start cache ran, settled.made, ?_, ?_, ?_, ?_⟩
  · simp only [concludeLoop, present]
    exact outcome
  · simp only [concludeLoop, present]
    exact hits
  · have issued : issueCursor (view.env.ports clock) view.request (view.admission start) final =
        view.cursor clock (view.offsetsAfter start last) := by
      simp only [issueCursor, settled.progress.scope, settled.progress.lexicalOffset,
        settled.progress.denseOffset]
      rfl
    simp only [concludeLoop, present, issued]
    rfl
  · simp only [concludeLoop, present, full, settled.fused]
    cases (view.released candidates).isEmpty <;> rfl

theorem search_degrades
    (undone : view.completion start clock view.bundle.retrievalPolicy.maxRefillRounds 0 = none)
    (cache : InMemoryRetrievalCache) :
    (∃ answer, search (view.env.ports clock) view.request (view.admission start) cache =
        .ok answer ∧ answer.response.outcome ≠ .full ∧ answer.response.outcome ≠ .empty) ∨
    ∃ error number accumulated,
      search (view.env.ports clock) view.request (view.admission start) cache = .error error ∧
      accumulated <+: view.collected start number ∧ view.fuse accumulated = .error error := by
  have loop := view.refill_view clock start view.bundle.retrievalPolicy.maxRefillRounds 0
    (view.initial start) (view.progress_initial start)
  rw [undone] at loop
  rcases loop with ⟨final, ran, degraded⟩ | ⟨error, number, accumulated, ran, front, made⟩
  · refine .inl ⟨_, view.search_of_refill clock start cache ran, ?_⟩
    have classified : classify view.request final = .partialResult := by
      have kept : finalDegradation view.request final ≠ .none := by
        unfold finalDegradation
        split
        · simp
        · exact degraded
      simp [classify, kept]
    cases present : final.completed.isEmpty with
    | true => simp [finish, concludeLoop, present, refuse]
    | false => simp [finish, concludeLoop, present, classified]
  · refine .inr ⟨error, number, accumulated, ?_, front, made⟩
    have rounds : (view.admission start).bundle.retrievalPolicy.maxRefillRounds =
        view.bundle.retrievalPolicy.maxRefillRounds := rfl
    simp [search, view.encodeQuery_view clock start, rounds, ran]

end BackendHandbook.Retrieval.View
