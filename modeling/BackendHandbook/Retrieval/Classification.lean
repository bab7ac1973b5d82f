import BackendHandbook.Retrieval.Frozen

/-! What an answer past the cache may claim: its budgets, its released hits and the outcome
`FULL`, over ports that answer as they like and may change between two readings. -/

namespace BackendHandbook.Retrieval

open AuthorizedHybridRetriever Fallible Sorting AuthorizedRetrievalHit List

/-- The hits of one release: at most `limit` distinct occurrences under consecutive ranks, each
allowed by the scope it read and of current provenance. -/
structure ReleasedHits (content : InMemoryProtectedRetrievalStore)
    (scope : RetrievalAuthorizationScope) (limit : Nat) (tenantId : String)
    (hits : List AuthorizedRetrievalHit) : Prop where
  limited : hits.length ≤ limit
  distinct : (hits.map occurrenceId).Nodup
  ranked : hits.map rank = range' 1 hits.length
  allowed : ∀ hit ∈ hits, hit.occurrenceId ∈ scope.allowedOccurrenceIds
  current : ∀ hit ∈ hits,
    content.currentProvenance.lookup hit.occurrenceId = some hit.identity.provenanceFingerprint
  own : ∀ hit ∈ hits, hit.identity.tenantId = tenantId

section Release

variable {content : InMemoryProtectedRetrievalStore} {current : RetrievalAuthorizationScope}

theorem releaseDecision_ok {candidate : FusedCandidate} {record : RetrievalRecord}
    (decided : releaseDecision content current candidate = .ok record) :
    candidate.identity.occurrenceId ∈ current.allowedOccurrenceIds ∧
      content.currentProvenance.lookup candidate.identity.occurrenceId =
        some candidate.identity.provenanceFingerprint := by
  rcases ite_error_eq_ok.mp decided with ⟨allowed, decided⟩
  rcases ite_error_eq_ok.mp decided with ⟨fresh, _⟩
  refine ⟨not_not.mp allowed, ?_⟩
  simpa [InMemoryProtectedRetrievalStore.provenanceIsCurrent] using fresh

variable (limit : Nat) (hits : List AuthorizedRetrievalHit) (rejected : List RejectedCandidate)
  (candidates : List FusedCandidate)

theorem mem_releaseLoop :
    ∀ hit ∈ (releaseLoop content current limit hits rejected candidates).hits, hit ∈ hits ∨
      ∃ candidate ∈ candidates, ∃ record, releaseDecision content current candidate = .ok record ∧
        hit.identity = candidate.identity := by
  induction candidates generalizing hits rejected with
  | nil => intro hit member; exact .inl member
  | cons candidate rest ih =>
    intro hit member
    unfold releaseLoop at member
    cases decided : releaseDecision content current candidate with
    | error =>
      rw [decided] at member
      rcases ih _ _ hit member with kept | ⟨other, inside, found⟩
      · exact .inl kept
      · exact .inr ⟨other, mem_cons_of_mem _ inside, found⟩
    | ok record =>
      rw [decided] at member
      dsimp only at member
      have added : ∀ hit ∈ hits ++ [releasedHit candidate record (hits.length + 1)],
          hit ∈ hits ∨ ∃ other ∈ candidate :: rest, ∃ record,
            releaseDecision content current other = .ok record ∧
            hit.identity = other.identity := by
        intro hit member
        rcases mem_append.mp member with old | new
        · exact .inl old
        · rw [mem_singleton.mp new]
          exact .inr ⟨candidate, mem_cons_self, record, decided, rfl⟩
      split at member
      · exact added hit member
      · rcases ih _ _ hit member with kept | ⟨other, inside, found⟩
        · exact added hit kept
        · exact .inr ⟨other, mem_cons_of_mem _ inside, found⟩

theorem releaseLoop_ranks (ranked : hits.map rank = range' 1 hits.length) :
    (releaseLoop content current limit hits rejected candidates).hits.map rank =
      range' 1 (releaseLoop content current limit hits rejected candidates).hits.length := by
  induction candidates generalizing hits rejected with
  | nil => exact ranked
  | cons candidate _ ih =>
    unfold releaseLoop
    cases decided : releaseDecision content current candidate with
    | error => exact ih _ _ ranked
    | ok record =>
      have grown : (hits ++ [releasedHit candidate record (hits.length + 1)]).map
          rank =
          range' 1 (hits ++ [releasedHit candidate record (hits.length + 1)]).length := by
        rw [map_append, ranked, length_append, length_singleton, range'_1_concat, Nat.add_comm 1]
        rfl
      dsimp only
      split
      · exact grown
      · exact ih _ _ grown

theorem releaseLoop_hits {limit : Nat} (positive : 0 < limit) {tenantId : String}
    (rejected : List RejectedCandidate) {candidates : List FusedCandidate}
    (distinct : (candidates.map fun item => item.identity.occurrenceId).Nodup)
    (own : ∀ candidate ∈ candidates, candidate.identity.tenantId = tenantId) :
    ReleasedHits content current limit tenantId
      (releaseLoop content current limit [] rejected candidates).hits := by
  have order := releaseLoop_occurrences content current limit [] rejected candidates positive
  rw [map_nil, nil_append] at order
  have decisions : ∀ hit ∈ (releaseLoop content current limit [] rejected candidates).hits,
      ∃ candidate ∈ candidates, ∃ record, releaseDecision content current candidate = .ok record ∧
        hit.identity = candidate.identity := by
    intro hit member
    rcases mem_releaseLoop limit [] rejected candidates hit member with absurd_ | found
    · cases absurd_
    · exact found
  constructor
  · have sizes := congrArg length order
    rw [length_map, length_take] at sizes
    omega
  · rw [order]
    have sublist : (releasedOrder content current candidates).Sublist
        (candidates.map fun item => item.identity.occurrenceId) :=
      filter_sublist.map _
    exact ((take_sublist _ _).trans sublist).nodup distinct
  · exact releaseLoop_ranks limit [] rejected candidates rfl
  · intro hit member
    rcases decisions hit member with ⟨candidate, _, record, decided, same⟩
    rw [occurrenceId, same]
    exact (releaseDecision_ok decided).1
  · intro hit member
    rcases decisions hit member with ⟨candidate, _, _, decided, same⟩
    rw [occurrenceId, same]
    exact (releaseDecision_ok decided).2
  · intro hit member
    rcases decisions hit member with ⟨candidate, inside, _, _, same⟩
    rw [same]
    exact own candidate inside

end Release

section Search

variable {Token : Type} {ports : Ports Token} {request : RetrievalRequest} {admission : Admission}

def DenseAccounted (state : LoopState) : Prop := state.encodedQuery = none → state.missing ≠ []

/-- What the searches of a round leave alone, and how many pages they count when no branch
goes missing. -/
structure Searches (queries : Nat) (before after : RoundState) : Prop where
  scope : after.loop.scope = before.loop.scope
  examined : after.loop.candidatesExamined = before.loop.candidatesExamined
  counted : after.loop.refillRounds = before.loop.refillRounds
  exhausted : after.loop.exhausted = before.loop.exhausted
  accounted : DenseAccounted after.loop
  complete : after.loop.missing = [] →
    before.loop.missing = [] ∧ after.lexicalCounts.length = before.lexicalCounts.length + queries ∧
      after.denseCounts.length = before.denseCounts.length + queries

theorem searchQuery_searches {state after : RoundState}
    {query : Option FilterExpression × Nat} (accounted : DenseAccounted state.loop)
    (done : searchQuery ports request admission state query = .ok after) :
    Searches 1 state after := by
  rcases bind_eq_ok.mp done with ⟨middle, lexical, dense⟩
  have first : middle.loop.scope = state.loop.scope ∧
      middle.loop.candidatesExamined = state.loop.candidatesExamined ∧
      middle.loop.refillRounds = state.loop.refillRounds ∧
      middle.loop.exhausted = state.loop.exhausted ∧
      middle.loop.encodedQuery = state.loop.encodedQuery ∧
      middle.denseCounts = state.denseCounts ∧
      (middle.loop.missing = [] → middle.loop.missing = state.loop.missing ∧
        middle.lexicalCounts.length = state.lexicalCounts.length + 1) := by
    unfold searchLexical at lexical
    dsimp only at lexical
    split at lexical
    · cases lexical
      refine ⟨rfl, rfl, rfl, rfl, rfl, rfl, fun _ => ⟨rfl, ?_⟩⟩
      rw [length_append, length_singleton]
    · rcases ite_error_eq_ok.mp lexical with ⟨_, same⟩
      cases same
      exact ⟨rfl, rfl, rfl, rfl, rfl, rfl, fun none => absurd none (addOnce_ne_nil _ _)⟩
  rcases first with ⟨scope, examined, counted, exhausted, encoded, counts, complete⟩
  unfold searchDense at dense
  cases query : middle.loop.encodedQuery with
  | none =>
    rw [query] at dense
    cases dense
    have absent : after.loop.missing ≠ [] := by
      intro none
      rw [(complete none).1] at none
      exact accounted (encoded.symm.trans query) none
    exact ⟨scope, examined, counted, exhausted, fun _ => absent, fun none => absurd none absent⟩
  | some =>
  rw [query] at dense
  dsimp only at dense
  split at dense
  · cases dense
    refine ⟨scope, examined, counted, exhausted, ?_, ?_⟩
    · intro absent
      cases query.symm.trans absent
    · intro none
      rcases complete none with ⟨same, lexicalCounts⟩
      refine ⟨same.symm.trans none, lexicalCounts, ?_⟩
      rw [length_append, length_singleton, counts]
  · rcases ite_error_eq_ok.mp dense with ⟨_, same⟩
    cases same
    exact ⟨scope, examined, counted, exhausted, fun _ => addOnce_ne_nil _ _,
      fun none => absurd none (addOnce_ne_nil _ _)⟩

theorem searchQueries_searches {queries : List (Option FilterExpression × Nat)}
    {state after : RoundState} (accounted : DenseAccounted state.loop)
    (done : queries.foldlM (searchQuery ports request admission) state = .ok after) :
    Searches queries.length state after := by
  induction queries generalizing state with
  | nil =>
    cases done
    exact ⟨rfl, rfl, rfl, rfl, accounted, fun none => ⟨none, rfl, rfl⟩⟩
  | cons _ _ ih =>
    rcases bind_eq_ok.mp done with ⟨_, first, rest⟩
    have one := searchQuery_searches accounted first
    have more := ih one.accounted rest
    refine ⟨more.scope.trans one.scope, more.examined.trans one.examined,
      more.counted.trans one.counted, more.exhausted.trans one.exhausted, more.accounted, ?_⟩
    intro none
    rcases more.complete none with ⟨between, _, _⟩
    rcases one.complete between with ⟨start, _, _⟩
    rw [length_cons]
    exact ⟨start, by omega, by omega⟩

theorem searchRound_searches {state : LoopState} {searched : RoundState}
    (accounted : DenseAccounted state)
    (done : searchRound ports request admission state = .ok searched) :
    Searches admission.plan.providerQueries.length
      { loop := { state with refillRounds := state.refillRounds + 1 } } searched := by
  have facts := searchQueries_searches accounted done
  rw [length_zipIdx] at facts
  exact facts

end Search

section Rounds

variable {Token : Type} {ports : Ports Token} {request : RetrievalRequest} {admission : Admission}

variable {fused : List FusedCandidate}

theorem fuseAccumulated_own {digests : Digests} {bundle : SelectedRetrievalBundle}
    {plan : FilterPlan} {scope : RetrievalAuthorizationScope} {accumulated : List BranchCandidate}
    (done : fuseAccumulated digests bundle plan scope accumulated = .ok fused) :
    ∀ candidate ∈ fused, candidate.identity.tenantId = bundle.tenantId := by
  intro candidate member
  rcases mem_reciprocalRankFusion done candidate member with ⟨_, inside, same⟩
  have accepted := (mem_filter.mp (mem_filter.mp inside).1).2
  rw [same]
  by_contra foreign
  unfold candidateRejection at accepted
  split_ifs at accepted
  all_goals cases accepted

/-- The branches of a round are exhausted: each search of it found less than a full page. -/
def Exhausted (admission : Admission) (searched : RoundState) : Prop :=
  searched.lexicalCounts.length = admission.plan.providerQueries.length ∧
    searched.denseCounts.length = admission.plan.providerQueries.length ∧
    (∀ count ∈ searched.lexicalCounts, count < admission.bundle.fusionPolicy.candidateDepth) ∧
    ∀ count ∈ searched.denseCounts, count < admission.bundle.fusionPolicy.candidateDepth

/-- What one round makes of the state of the loop. -/
structure RoundFacts (ports : Ports Token) (request : RetrievalRequest) (admission : Admission)
    (state next : LoopState) (stop : Bool) : Prop where
  counted : next.refillRounds = state.refillRounds + 1
  budget : state.candidatesExamined ≤ admission.bundle.retrievalPolicy.maxCandidateBudget →
    next.candidatesExamined ≤ admission.bundle.retrievalPolicy.maxCandidateBudget
  accounted : DenseAccounted next
  read : (ports.authorization (.roundRelease next.refillRounds)).read state.scope.key =
    .ok (some next.scope)
  released : ReleasedHits (ports.content (.roundRelease next.refillRounds)) next.scope
    request.topK admission.bundle.tenantId next.finalHits
  goes_on : stop = false → next.exhausted = false
  exhausted : next.missing = [] → next.exhausted = true → state.exhausted = true ∨
    ∃ searched, searchRound ports request admission state = .ok searched ∧
      Exhausted admission searched

theorem admitCandidates_facts (searched : RoundState) :
    (admitCandidates admission searched).1.scope = searched.loop.scope ∧
      (admitCandidates admission searched).1.refillRounds = searched.loop.refillRounds ∧
      (admitCandidates admission searched).1.exhausted = searched.loop.exhausted ∧
      (admitCandidates admission searched).1.missing = searched.loop.missing ∧
      (admitCandidates admission searched).1.encodedQuery = searched.loop.encodedQuery ∧
      (searched.loop.candidatesExamined ≤
          admission.bundle.retrievalPolicy.maxCandidateBudget →
        (admitCandidates admission searched).1.candidatesExamined ≤
          admission.bundle.retrievalPolicy.maxCandidateBudget) := by
  refine ⟨rfl, rfl, rfl, rfl, rfl, ?_⟩
  unfold admitCandidates
  dsimp only
  split
  · rw [length_take]
    omega
  · next fits =>
    have room := of_decide_eq_false (Bool.eq_false_iff.mpr fits)
    omega

theorem releaseRound_facts {state next : LoopState}
    (done : releaseRound ports request state fused = .ok next) :
    (ports.authorization (.roundRelease state.refillRounds)).read state.scope.key =
        .ok (some next.scope) ∧ next = { state with
        finalFused := fused
        finalHits := (releaseLoop (ports.content (.roundRelease state.refillRounds)) next.scope
          request.topK [] [] fused).hits
        scope := next.scope } := by
  unfold releaseRound at done
  cases released : release (ports.authorization (.roundRelease state.refillRounds))
      (ports.content (.roundRelease state.refillRounds)) fused state.scope request.topK with
  | error raised => rw [released] at done; cases done
  | ok report =>
    rw [released] at done
    cases done
    rcases bind_eq_ok.mp released with ⟨found, read, answered⟩
    cases found with
    | none => cases answered
    | some =>
      cases answered
      rw [releaseLoop_scope]
      exact ⟨read, rfl⟩

theorem branchExhausted_short {depth : Nat} {counts : List Nat}
    (exhausted : branchExhausted depth counts = true) : ∀ count ∈ counts, count < depth := by
  intro count member
  have short := all_eq_true.mp (Bool.and_eq_true_iff.mp exhausted).2 count member
  exact of_decide_eq_true short

variable {state next : LoopState} {stop : Bool}

/-- A round is a search, an admission of its candidates, a fusion, a release and a decision
whether to go on. -/
theorem round_cases (done : round ports request admission state = .ok (next, stop)) :
    ∃ searched fused settled, searchRound ports request admission state = .ok searched ∧
      fuseAccumulated ports.digests admission.bundle admission.plan
        (admitCandidates admission searched).1.scope
        (admitCandidates admission searched).1.accumulated = .ok fused ∧
      releaseRound ports request (admitCandidates admission searched).1 fused = .ok settled ∧
      (next = settled ∧ stop = true ∨ next = { settled with exhausted := stop } ∧
          stop = (branchExhausted admission.bundle.fusionPolicy.candidateDepth
              searched.lexicalCounts &&
            (settled.encodedQuery.isNone || branchExhausted
              admission.bundle.fusionPolicy.candidateDepth searched.denseCounts))) := by
  rcases bind_eq_ok.mp done with ⟨searched, searching, done⟩
  cases taken : admitCandidates admission searched with
  | mk grown =>
  rw [taken] at done
  rcases bind_eq_ok.mp done with ⟨fused, fusing, done⟩
  rcases bind_eq_ok.mp done with ⟨settled, releasing, done⟩
  refine ⟨searched, fused, settled, searching, ?_, ?_, ?_⟩
  · rw [taken]
    cases made : fuseAccumulated ports.digests admission.bundle admission.plan grown.scope
        grown.accumulated with
    | error raised => rw [made] at fusing; cases fusing
    | ok other => rw [made] at fusing; cases fusing; rfl
  · rw [taken]
    exact releasing
  · split at done
    · cases done; exact .inl ⟨rfl, rfl⟩
    · split at done
      · cases done; exact .inl ⟨rfl, rfl⟩
      · cases done; exact .inr ⟨rfl, rfl⟩

theorem round_facts (accounted : DenseAccounted state)
    (done : round ports request admission state = .ok (next, stop)) :
    RoundFacts ports request admission state next stop := by
  rcases round_cases done with ⟨searched, fused, settled, searching, fusion, releasing, decided⟩
  have search := searchRound_searches accounted searching
  rcases @admitCandidates_facts admission searched with
    ⟨scope, rounds, kept, missing, encoded, budget⟩
  rcases releaseRound_facts releasing with ⟨read, built⟩
  have same : next = { settled with exhausted := next.exhausted } := by
    rcases decided with ⟨rfl, _⟩ | ⟨rfl, _⟩ <;> rfl
  have number : next.refillRounds = state.refillRounds + 1 := by
    rw [same, built]
    exact rounds.trans search.counted
  have settledRounds : (admitCandidates admission searched).1.refillRounds =
      next.refillRounds := by rw [same, built]
  have settledScope : settled.scope = next.scope := by rw [same]
  have settledMissing : settled.missing = searched.loop.missing := by rw [built]; exact missing
  have settledQuery : settled.encodedQuery = searched.loop.encodedQuery := by
    rw [built]; exact encoded
  rw [settledRounds, scope, search.scope, settledScope] at read
  constructor
  · exact number
  · intro within
    rw [same, built]
    exact budget (search.examined.trans_le within)
  · intro absent
    have nextMissing : next.missing = searched.loop.missing := by rw [same]; exact settledMissing
    have nextQuery : next.encodedQuery = searched.loop.encodedQuery := by
      rw [same]; exact settledQuery
    rw [nextMissing]
    exact search.accounted (nextQuery.symm.trans absent)
  · exact read
  · have hits : next.finalHits = (releaseLoop (ports.content (.roundRelease next.refillRounds))
        next.scope request.topK [] [] fused).hits := by
      rw [same, built]
    rw [hits]
    exact releaseLoop_hits request.topK_pos [] (fused_keys_nodup fusion)
      (fuseAccumulated_own fusion)
  · intro goes
    rcases decided with ⟨_, stops⟩ | ⟨here, _⟩
    · rw [stops] at goes; cases goes
    · rw [here]; exact goes
  · intro none exhausted
    have nothing : searched.loop.missing = [] := by
      rw [← settledMissing]
      rw [same] at none
      exact none
    rcases decided with ⟨rfl, _⟩ | ⟨here, stops⟩
    · left
      rw [built] at exhausted
      rw [← search.exhausted]
      exact exhausted
    · right
      rw [here] at exhausted
      have both := stops.symm.trans exhausted
      have parts := Bool.and_eq_true_iff.mp both
      have present : settled.encodedQuery.isNone = false := by
        cases query : settled.encodedQuery with
        | none => exact absurd nothing (search.accounted (settledQuery.symm.trans query))
        | some => rfl
      rw [present] at parts
      have counts := search.complete nothing
      refine ⟨searched, searching, ?_, ?_, branchExhausted_short parts.1,
        branchExhausted_short parts.2⟩
      · exact counts.2.1.trans (Nat.zero_add _)
      · exact counts.2.2.trans (Nat.zero_add _)

end Rounds

section Loop

variable {Token : Type} (ports : Ports Token) (request : RetrievalRequest) (admission : Admission)

inductive RoundHead (start : LoopState) : LoopState → Prop
  | first : RoundHead start start
  | next {state next : LoopState} (head : RoundHead start state)
      (ran : round ports request admission state = .ok (next, false)) : RoundHead start next

def BothExhausted (start : LoopState) (rounds : Nat) : Prop :=
  ∃ head searched, RoundHead ports request admission start head ∧ head.refillRounds + 1 = rounds ∧
    searchRound ports request admission head = .ok searched ∧ Exhausted admission searched

/-- What holds of the loop between its rounds. -/
structure LoopSound (state : LoopState) : Prop where
  budget : state.candidatesExamined ≤ admission.bundle.retrievalPolicy.maxCandidateBudget
  accounted : DenseAccounted state
  key : state.scope.key = request.scopeKey
  released : state.finalHits = [] ∨
    (ports.authorization (.roundRelease state.refillRounds)).read request.scopeKey =
        .ok (some state.scope) ∧
      ReleasedHits (ports.content (.roundRelease state.refillRounds)) state.scope request.topK
        admission.bundle.tenantId state.finalHits

variable {ports request admission}

theorem LoopSound.round {state next : LoopState} {stop : Bool}
    (sound : LoopSound ports request admission state)
    (ran : round ports request admission state = .ok (next, stop)) :
    LoopSound ports request admission next := by
  have facts := round_facts sound.accounted ran
  have read := facts.read
  rw [sound.key] at read
  exact ⟨facts.budget sound.budget, facts.accounted, InMemoryRetrievalAuthorization.read_key read,
    .inr ⟨read, facts.released⟩⟩

theorem refill_sound (start : LoopState) (remaining : Nat) (state final : LoopState)
    (head : RoundHead ports request admission start state)
    (sound : LoopSound ports request admission state) (fresh : state.exhausted = false)
    (done : refill ports request admission remaining state = .ok final) :
    LoopSound ports request admission final ∧ final.refillRounds ≤ state.refillRounds + remaining ∧
      (final.missing = [] → final.exhausted = true →
        BothExhausted ports request admission start final.refillRounds) := by
  induction remaining generalizing state with
  | zero =>
    cases done
    refine ⟨⟨sound.budget, sound.accounted, sound.key, sound.released⟩, le_refl _, ?_⟩
    intro _ exhausted
    cases fresh.symm.trans exhausted
  | succ _ ih =>
    unfold refill at done
    dsimp only at done
    split at done
    · cases done
      refine ⟨⟨sound.budget, sound.accounted, sound.key, sound.released⟩, Nat.le_add_right _ _, ?_⟩
      intro _ exhausted
      cases fresh.symm.trans exhausted
    split at done
    · cases done
      refine ⟨⟨sound.budget, sound.accounted, sound.key, sound.released⟩, Nat.le_add_right _ _, ?_⟩
      intro _ exhausted
      cases fresh.symm.trans exhausted
    split at done
    · cases done
    · next next ran =>
      cases done
      have facts := round_facts sound.accounted ran
      have counted := facts.counted
      refine ⟨sound.round ran, by omega, ?_⟩
      intro none exhausted
      rcases facts.exhausted none exhausted with old | ⟨searched, searching, short⟩
      · cases fresh.symm.trans old
      · exact ⟨state, searched, head, counted.symm, searching, short⟩
    · next next ran =>
      have facts := round_facts sound.accounted ran
      have counted := facts.counted
      rcases ih next (head.next ran) (sound.round ran) (facts.goes_on rfl) done with
        ⟨ends, _, exhausted⟩
      exact ⟨ends, by omega, exhausted⟩

end Loop

section Answers

variable {Token : Type} (ports : Ports Token) (request : RetrievalRequest)
  (cursorToken : Option Token) (excluded : List String)

/-- The loop of the call began at `start` and found both branches exhausted in its last round. -/
def EndsExhausted (rounds : Nat) : Prop :=
  ∃ admission start, admitRequest ports request cursorToken excluded = .ok admission ∧
    @encodeQuery Token request admission (ports.encode request.queryText
      (ports.digests.queryEncoder admission.bundle.queryEncoder)) = .ok start ∧
    BothExhausted ports request admission start rounds

/-- A hit that the scope read by release number `rounds` allowed, of current provenance. -/
def ReleasedAt (rounds : Nat) (response : RetrievalResponse Token)
    (hit : AuthorizedRetrievalHit) : Prop :=
  ∃ scope, (ports.authorization (.roundRelease rounds)).read request.scopeKey = .ok (some scope) ∧
    response.authorizationDecisionId = some scope.decisionId ∧
    hit.occurrenceId ∈ scope.allowedOccurrenceIds ∧
    (ports.content (.roundRelease rounds)).currentProvenance.lookup hit.occurrenceId =
      some hit.identity.provenanceFingerprint ∧
    hit.identity.tenantId = request.tenantId

/-- What an answer past the cache claims, and what the claim rests on. -/
structure RetrievalSound (response : RetrievalResponse Token) : Prop where
  budget : ∀ bundle, ports.bundles.readSelected request.tenantId = some bundle →
    response.candidatesExamined ≤ bundle.retrievalPolicy.maxCandidateBudget ∧
      response.refillRounds ≤ bundle.retrievalPolicy.maxRefillRounds
  limited : response.hits.length ≤ request.topK
  distinct : (response.hits.map occurrenceId).Nodup
  ranked : response.hits.map rank = range' 1 response.hits.length
  released : ∀ hit ∈ response.hits, ReleasedAt ports request response.refillRounds response hit
  full : response.outcome = .full → response.missingBranches = [] ∧
    (response.hits.length = request.topK ∨
      EndsExhausted ports request cursorToken excluded response.refillRounds)

variable {ports request cursorToken excluded}

theorem sound_of_empty {response : RetrievalResponse Token} (nothing : response.hits = [])
    (other : response.outcome ≠ .full)
    (budget : ∀ bundle, ports.bundles.readSelected request.tenantId = some bundle →
      response.candidatesExamined ≤ bundle.retrievalPolicy.maxCandidateBudget ∧
        response.refillRounds ≤ bundle.retrievalPolicy.maxRefillRounds) :
    RetrievalSound ports request cursorToken excluded response := by
  constructor
  · exact budget
  · rw [nothing]; exact Nat.zero_le _
  · rw [nothing]; exact nodup_nil
  · rw [nothing]; rfl
  · rw [nothing]; intro hit member; cases member
  · intro full; exact absurd full other

/-- An early return, which has searched nothing. -/
structure Refused (conclusion : Conclusion Token) : Prop where
  hits : conclusion.response.hits = []
  outcome : conclusion.response.outcome ≠ .full
  examined : conclusion.response.candidatesExamined = 0
  rounds : conclusion.response.refillRounds = 0

theorem refuse_refused (bundle : Option SelectedRetrievalBundle)
    (scope : Option RetrievalAuthorizationScope) (plan : Option FilterPlan)
    {outcome : RetrievalOutcome} (reason : String) (other : outcome ≠ .full) :
    Refused (@refuse Token request bundle scope plan outcome reason) :=
  ⟨rfl, other, rfl, rfl⟩

theorem finish_refused {conclusion : Conclusion Token} (refused : Refused conclusion)
    (cache : InMemoryRetrievalCache) (providerCalls databaseCalls : Nat) :
    RetrievalSound ports request cursorToken excluded
      (finish ports request cache providerCalls databaseCalls conclusion).response := by
  apply sound_of_empty
  · exact refused.hits
  · exact refused.outcome
  · intro bundle _
    exact ⟨refused.examined.trans_le (Nat.zero_le _), refused.rounds.trans_le (Nat.zero_le _)⟩

theorem selectBundle_meets :
    Meets (fun bundle => ports.bundles.readSelected request.tenantId = some bundle)
      Refused (selectBundle ports request) := by
  unfold selectBundle
  cases selected : ports.bundles.readSelected request.tenantId with
  | none => exact refuse_refused _ _ _ _ (by decide)
  | some =>
    dsimp only
    split
    · exact refuse_refused _ _ _ _ (by decide)
    · split
      · exact refuse_refused _ _ _ _ (by decide)
      · rfl

variable (bundle : SelectedRetrievalBundle)

theorem authorize_meets : Meets (fun scope => scope.key = request.scopeKey) Refused
      (authorize ports request bundle) := by
  unfold authorize
  split
  · exact refuse_refused _ _ _ _ (by decide)
  · exact refuse_refused _ _ _ _ (by decide)
  · next scope read =>
    split
    · exact refuse_refused _ _ _ _ (by decide)
    · exact InMemoryRetrievalAuthorization.read_key read

variable (scope : RetrievalAuthorizationScope)

theorem planFilter_meets :
    Meets (fun _ => True) Refused (planFilter ports request excluded bundle scope) := by
  unfold planFilter
  split
  · exact trivial
  · exact refuse_refused _ _ _ _ (by decide)

theorem startOffsets_meets (plan : FilterPlan) :
    Meets (fun _ => True) Refused (startOffsets ports request cursorToken bundle scope plan) := by
  unfold startOffsets
  split
  · exact trivial
  · dsimp only
    split
    · exact trivial
    · exact refuse_refused _ _ _ _ (by decide)

theorem admitRequest_meets : Meets (fun admission =>
        ports.bundles.readSelected request.tenantId = some admission.bundle ∧
          admission.scope.key = request.scopeKey)
      Refused (admitRequest ports request cursorToken excluded) := by
  refine meets_bind selectBundle_meets fun bundle selected => ?_
  refine meets_bind (authorize_meets bundle) fun scope key => ?_
  refine meets_bind (planFilter_meets bundle scope) fun plan _ => ?_
  refine meets_bind (startOffsets_meets bundle scope plan) fun offsets _ => ?_
  exact ⟨selected, key⟩

theorem encodeQuery_meets (admission : Admission) (reply : EncodeReply) :
    Meets (fun start => DenseAccounted start ∧ start.scope = admission.scope ∧
        start.candidatesExamined = 0 ∧ start.refillRounds = 0 ∧ start.exhausted = false ∧
        start.finalHits = []) Refused (@encodeQuery Token request admission reply) := by
  unfold encodeQuery
  split
  · exact ⟨fun absent => (by cases absent), rfl, rfl, rfl, rfl, rfl⟩
  · split
    · apply refuse_refused
      split <;> decide
    · exact ⟨fun _ => cons_ne_nil _ _, rfl, rfl, rfl, rfl, rfl⟩

theorem classify_full {state : LoopState} (full : classify request state = .full) :
    state.missing = [] ∧ (request.topK ≤ state.finalHits.length ∨ state.exhausted = true) := by
  unfold classify at full
  split at full
  · cases full
  · next whole =>
    push Not at whole
    refine ⟨whole.1, ?_⟩
    by_contra short
    push Not at short
    have open_ : state.exhausted = false := Bool.eq_false_iff.mpr short.2
    have undegraded := whole.2
    unfold finalDegradation at undegraded
    by_cases none : state.degradation = .none
    · rw [if_pos ⟨short.1, open_, none⟩] at undegraded
      cases undegraded
    · rw [if_neg (fun all => none all.2.2)] at undegraded
      exact none undegraded

variable {admission : Admission}

theorem concludeLoop_sound {start final : LoopState}
    (admitted : admitRequest ports request cursorToken excluded = .ok admission)
    (selected : ports.bundles.readSelected request.tenantId = some admission.bundle)
    (encoded : @encodeQuery Token request admission (ports.encode request.queryText
      (ports.digests.queryEncoder admission.bundle.queryEncoder)) = .ok start)
    (sound : LoopSound ports request admission final)
    (rounds : final.refillRounds ≤ admission.bundle.retrievalPolicy.maxRefillRounds)
    (exhausts : final.missing = [] → final.exhausted = true →
      BothExhausted ports request admission start final.refillRounds)
    (cache cacheAfter : InMemoryRetrievalCache) (providerCalls databaseCalls : Nat) :
    RetrievalSound ports request cursorToken excluded
      (finish ports request cacheAfter providerCalls databaseCalls
        (concludeLoop ports request admission cache final).1).response := by
  have budget : ∀ bundle, ports.bundles.readSelected request.tenantId = some bundle →
      final.candidatesExamined ≤ bundle.retrievalPolicy.maxCandidateBudget ∧
        final.refillRounds ≤ bundle.retrievalPolicy.maxRefillRounds := by
    intro bundle found
    cases selected.symm.trans found
    exact ⟨sound.budget, rounds⟩
  unfold concludeLoop
  split
  · exact sound_of_empty rfl (fun full => by cases full) budget
  have own : admission.bundle.tenantId = request.tenantId := ports.bundles.keyed _ _ selected
  have hits : ReleasedHits (ports.content (.roundRelease final.refillRounds)) final.scope
      request.topK admission.bundle.tenantId final.finalHits := by
    rcases sound.released with nothing | ⟨_, released⟩
    · rw [nothing]
      exact ⟨Nat.zero_le _, nodup_nil, rfl, nofun, nofun, nofun⟩
    · exact released
  constructor
  · exact budget
  · exact hits.limited
  · exact hits.distinct
  · exact hits.ranked
  · intro hit member
    rcases sound.released with nothing | ⟨read, _⟩
    · have member' : hit ∈ final.finalHits := member
      rw [nothing] at member'
      cases member'
    · exact ⟨final.scope, read, rfl, hits.allowed hit member, hits.current hit member,
        (hits.own hit member).trans own⟩
  · intro full
    rcases classify_full full with ⟨whole, ends⟩
    refine ⟨congrArg sortedBranches whole, ?_⟩
    rcases ends with enough | exhausted
    · exact .inl (le_antisymm hits.limited enough)
    · exact .inr ⟨admission, start, admitted, encoded, exhausts whole exhausted⟩

theorem search_sound {cache : InMemoryRetrievalCache} {answer : Answer Token}
    (admitted : admitRequest ports request cursorToken excluded = .ok admission)
    (done : search ports request admission cache = .ok answer) :
    RetrievalSound ports request cursorToken excluded answer.response := by
  rcases admitRequest_meets.of_ok admitted with ⟨selected, key⟩
  have encodes := @encodeQuery_meets Token request admission
    (ports.encode request.queryText (ports.digests.queryEncoder admission.bundle.queryEncoder))
  unfold search at done
  dsimp only at done
  cases encoded : @encodeQuery Token request admission (ports.encode request.queryText
      (ports.digests.queryEncoder admission.bundle.queryEncoder)) with
  | error conclusion =>
    rw [encoded] at done
    cases done
    exact finish_refused (encodes.of_error encoded) _ _ _
  | ok start =>
  rw [encoded] at done
  dsimp only at done
  rcases encodes.of_ok encoded with ⟨accounted, scope, examined, counted, fresh, nothing⟩
  have begun : LoopSound ports request admission start :=
    ⟨examined.trans_le (Nat.zero_le _), accounted, (congrArg _ scope).trans key, .inl nothing⟩
  cases ran : refill ports request admission admission.bundle.retrievalPolicy.maxRefillRounds
      start with
  | error stop =>
    rw [ran] at done
    cases stop with
    | raised => cases done
    | unavailable =>
      cases done
      exact finish_refused (refuse_refused _ _ _ _ (by decide)) _ _ _
  | ok final =>
    rw [ran] at done
    cases done
    rcases refill_sound start _ start final .first begun fresh ran with ⟨sound, rounds, exhausts⟩
    rw [counted, Nat.zero_add] at rounds
    exact concludeLoop_sound admitted selected encoded sound rounds exhausts _ _ _ _

/-- Every call that is not answered from the cache keeps its budgets, releases at most `topK`
distinct hits of its own tenant that the last release allowed, and is `FULL` only when no branch
is missing and there are `topK` hits or nothing more to find. -/
theorem retrieve_sound {cache : InMemoryRetrievalCache} {answer : Answer Token}
    (uncached : ∀ admission, admitRequest ports request cursorToken excluded = .ok admission →
      cacheHit ports request cursorToken cache admission = none)
    (done : retrieve ports cache request cursorToken excluded = .ok answer) :
    RetrievalSound ports request cursorToken excluded answer.response := by
  unfold retrieve at done
  cases admitted : admitRequest ports request cursorToken excluded with
  | error =>
    rw [admitted] at done
    cases done
    exact finish_refused (admitRequest_meets.of_error admitted) _ _ _
  | ok admission =>
    rw [admitted] at done
    dsimp only at done
    rw [uncached admission admitted] at done
    exact search_sound admitted done

end Answers

theorem cacheHit_empty {Token : Type} (ports : Ports Token) (request : RetrievalRequest)
    (cursorToken : Option Token) (admission : Admission) :
    cacheHit ports request cursorToken ∅ admission = none := rfl

theorem retrieve_sound_uncached :
    ∃ answer, retrieve (Sample.environment.ports Sample.clock) ∅ (Sample.request 3 (by decide))
        none [] = .ok answer ∧ answer.response.outcome = .full ∧
      RetrievalSound (Sample.environment.ports Sample.clock) (Sample.request 3 (by decide)) none
        [] answer.response := by
  have ran : (retrieve (Sample.environment.ports Sample.clock) ∅ (Sample.request 3 (by decide))
      none []).toOption.map (·.response.outcome) = some .full := by decide +kernel
  rcases exists_of_toOption ran with ⟨answer, done, full⟩
  exact ⟨answer, done, full,
    retrieve_sound (fun admission _ => cacheHit_empty _ _ _ admission) done⟩

end BackendHandbook.Retrieval
