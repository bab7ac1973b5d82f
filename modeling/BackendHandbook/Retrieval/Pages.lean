import BackendHandbook.Retrieval.Refill

/-! Pages of one retrieval: each call resumes at the offsets of the last cursor.

A call's rounds form a window of the two rankings. It releases the first `topK` occurrences of
its window and the next call starts behind the whole window. -/

namespace BackendHandbook.Retrieval

open AuthorizedHybridRetriever Fallible Sorting RetrievalResponse ExactDenseRetrievalAdapter List

section Walk

variable {Token : Type}

/-- Follow the returned cursors until a page is empty. -/
def followCursors
    (call : (page : Nat) → Option Token → Except FusionError (RetrievalResponse Token)) :
    (fuel page : Nat) → Option Token → Except FusionError (List (RetrievalResponse Token))
  | 0, _, _ => .ok []
  | fuel + 1, page, token => do
      let response ← call page token
      if response.hits.isEmpty then pure [response]
      else do
        let rest ← followCursors call fuel (page + 1) response.cursor
        pure (response :: rest)

def RetrievalResponse.occurrences (response : RetrievalResponse Token) : List String :=
  response.hits.map AuthorizedRetrievalHit.occurrenceId

def Ended (responses : List (RetrievalResponse Token)) : Prop :=
  ∃ last, responses.getLast? = some last ∧ last.hits = []

variable {call : (page : Nat) → Option Token → Except FusionError (RetrievalResponse Token)}

variable {response : RetrievalResponse Token} {token : Option Token}

theorem followCursors_answered (fuel : Nat) {page : Nat}
    (answered : call page token = .ok response) :
    followCursors call (fuel + 1) page token = if response.hits.isEmpty then .ok [response]
      else (followCursors call fuel (page + 1) response.cursor).map (response :: ·) := by
  rw [followCursors, answered]
  simp only [bind, Except.bind]
  split
  · rfl
  · cases followCursors call fuel (page + 1) response.cursor <;> rfl

theorem followCursors_total
    (total : ∀ page token, ∃ response, call page token = .ok response) (fuel page : Nat)
    (token : Option Token) : ∃ responses, followCursors call fuel page token = .ok responses := by
  induction fuel generalizing page token with
  | zero => exact ⟨[], rfl⟩
  | succ fuel ih =>
    rcases total page token with ⟨response, answered⟩
    rcases ih (page + 1) response.cursor with ⟨rest, later⟩
    rw [followCursors_answered fuel answered, later]
    cases response.hits.isEmpty with
    | true => exact ⟨[response], rfl⟩
    | false => exact ⟨response :: rest, rfl⟩

theorem followCursors_head {fuel page : Nat} {responses : List (RetrievalResponse Token)}
    (answered : call page token = .ok response)
    (walked : followCursors call (fuel + 1) page token = .ok responses) : response ∈ responses := by
  rw [followCursors_answered fuel answered] at walked
  split at walked
  · rw [← Except.ok.inj walked]
    exact mem_cons_self
  · cases rest : followCursors call fuel (page + 1) response.cursor with
    | error =>
      rw [rest] at walked
      cases walked
    | ok =>
      rw [rest] at walked
      rw [← Except.ok.inj walked]
      exact mem_cons_self

end Walk

namespace View

variable {Token : Type} (view : View Token)

section Calls

variable (clock : Clock)

theorem admit_view (token : Option Token) (offsets : Nat × Nat)
    (starts : startOffsets (view.env.ports clock) view.request token view.bundle view.scope
      view.plan = .ok offsets) :
    admitRequest (view.env.ports clock) view.request token view.excluded =
      .ok (view.admission offsets) := by
  have bundle : selectBundle (view.env.ports clock) view.request = .ok view.bundle := by
    simp [selectBundle, Environment.ports, view.selected, view.own_generation, view.valid]
  have scope : authorize (view.env.ports clock) view.request view.bundle = .ok view.scope := by
    have some_ : view.scope.allowedOccurrenceIds.isEmpty = false := by
      simpa using view.allowed
    simp [authorize, Environment.ports, view.granted, some_]
  have plan : planFilter (view.env.ports clock) view.request view.excluded view.bundle
      view.scope = .ok view.plan := by
    simp [planFilter, Environment.ports, view.planned]
  unfold admitRequest
  rw [bundle]
  apply bind_eq_ok.mpr ⟨_, rfl, _⟩
  rw [scope]
  apply bind_eq_ok.mpr ⟨_, rfl, _⟩
  rw [plan]
  apply bind_eq_ok.mpr ⟨_, rfl, _⟩
  rw [starts]
  rfl

theorem startOffsets_fresh :
    startOffsets (view.env.ports clock) view.request none view.bundle view.scope view.plan =
      .ok (0, 0) := rfl

theorem startOffsets_cursor (issued : Clock) (offsets : Nat × Nat)
    (alive : clock .cursorCheck < issued .cursorIssue + 300) :
    startOffsets (view.env.ports clock) view.request
      (some (view.env.cursors.encode (view.cursor issued offsets))) view.bundle view.scope
      view.plan = .ok offsets := by
  have tenant : view.request.tenantId = view.bundle.tenantId :=
    (view.env.bundles.keyed _ _ view.selected).symm
  have unexpired : ¬ issued .cursorIssue + 300 ≤ clock .cursorCheck := by omega
  have current : validateCurrent view.env.digests (view.cursor issued offsets) view.bundle
      view.scope (view.env.digests.principal view.request.principalSubject)
      (view.env.digests.query view.request.queryText) (view.plan.fingerprint view.env.digests)
      (clock .cursorCheck) = .ok () := by
    simp [validateCurrent, cursor, issueCursor, Environment.ports, admission, initial, unexpired,
      tenant]
  simp only [startOffsets, Environment.ports, view.env.cursors.decode_encode, bind, Except.bind,
    current]
  rfl

theorem retrieve_view (token : Option Token) (offsets : Nat × Nat)
    (starts : startOffsets (view.env.ports clock) view.request token view.bundle view.scope
      view.plan = .ok offsets) :
    retrieve (view.env.ports clock) ∅ view.request token view.excluded =
      search (view.env.ports clock) view.request (view.admission offsets) ∅ := by
  have missed : cacheHit (view.env.ports clock) view.request token ∅ (view.admission offsets) =
      none := by
    simp [cacheHit]
  simp [retrieve, view.admit_view clock token offsets starts, missed]

end Calls

variable {rounds : Nat} {bundle : SelectedRetrievalBundle} {branch : RetrievalBranch}
  {scored : List Scored} {digests : Digests}

section Corpus

def corpus : List RetrievalRecord := view.env.lexical.index.records ++ view.env.dense.records

def CoherentCorpus : Prop :=
  ∀ first ∈ view.corpus, ∀ second ∈ view.corpus,
    first.identity.occurrenceId = second.identity.occurrenceId → first.identity = second.identity

instance : Decidable view.CoherentCorpus := by
  unfold CoherentCorpus
  infer_instance

variable {candidate : BranchCandidate}

theorem mem_branchPage {offset limit : Nat}
    (member : candidate ∈ branchPage digests bundle branch scored offset limit) :
    ∃ entry ∈ scored, candidate.identity = entry.2.identity := by
  rcases mem_map.mp member with ⟨⟨entry, _⟩, numbered, same⟩
  have paged := fst_mem_of_mem_zipIdx numbered
  have sorted_ := mem_of_mem_drop (mem_of_mem_take paged)
  exact ⟨entry, (mem_sortBy _ _ _).mp sorted_, by rw [← same]; rfl⟩

variable {filter : Option FilterExpression} {entry : Scored}

theorem lexicalScored_corpus
    (member : entry ∈ view.lexicalScored filter) : entry.2 ∈ view.corpus := by
  have scored := (mem_filter.mp member).1
  rcases mem_map.mp scored with ⟨_, chosen, same⟩
  rcases mem_map.mp (mem_filter.mp chosen).1 with ⟨_, inside, made⟩
  rw [← same, ← made]
  exact mem_append_left _ inside

theorem similarities_records {adapter : ExactDenseRetrievalAdapter} {floating : Floating}
    {vector : List ℚ} {similarities : List Scored}
    (scores : adapter.similarities floating vector = .ok similarities) :
    similarities.map Prod.snd = adapter.records := by
  unfold ExactDenseRetrievalAdapter.similarities at scores
  generalize adapter.records = records at scores
  induction records generalizing similarities with
  | nil => cases scores; rfl
  | cons _ _ ih =>
    rw [mapM_cons] at scores
    rcases bind_eq_ok.mp scores with ⟨_, first, rest⟩
    rcases bind_eq_ok.mp rest with ⟨_, others, made⟩
    rcases bind_eq_ok.mp first with ⟨_, _, same⟩
    cases made
    cases same
    rw [map_cons, ih others]

theorem leaked_mem {items : List Scored} (leak : leaked items = some entry) : entry ∈ items := by
  cases items with
  | nil => cases leak
  | cons head rest =>
    rw [← Option.some.inj leak]
    apply foldlRecOn (motive := fun best => best ∈ head :: rest) rest _ mem_cons_self
    intro best member item inside
    by_cases better : best.1 < item.1
    · simp only [better]
      exact mem_cons_of_mem _ inside
    · simp only [better]
      exact member

theorem denseScored_corpus (member : entry ∈ view.denseScored filter) : entry.2 ∈ view.corpus := by
  have scored : entry ∈ view.similarities := by
    rcases mem_append.mp member with allowed | leak
    · exact (mem_filter.mp allowed).1
    · split at leak
      · exact (mem_filter.mp (leaked_mem (Option.mem_toList.mp leak))).1
      · cases leak
  have records := similarities_records view.dense_scores
  apply mem_append_right
  rw [← records]
  exact mem_map_of_mem scored

theorem roundPages_corpus {offsets : Nat × Nat} (member : candidate ∈ view.roundPages offsets) :
    ∃ record ∈ view.corpus, candidate.identity = record.identity := by
  rcases mem_flatMap.mp member with ⟨_, _, inside⟩
  rcases mem_append.mp inside with lexical | dense
  · rcases mem_branchPage lexical with ⟨entry, scored, same⟩
    exact ⟨entry.2, view.lexicalScored_corpus scored, same⟩
  · rcases mem_branchPage dense with ⟨entry, scored, same⟩
    exact ⟨entry.2, view.denseScored_corpus scored, same⟩

variable {start : Nat × Nat}

theorem collected_corpus (member : candidate ∈ view.collected start rounds) :
    ∃ record ∈ view.corpus, candidate.identity = record.identity := by
  induction rounds with
  | zero => cases member
  | succ _ ih =>
    rcases mem_append.mp member with before | now
    · exact ih before
    · exact view.roundPages_corpus now

theorem fuse_total (coherent : view.CoherentCorpus)
    {accumulated : List BranchCandidate} (front : accumulated <+: view.collected start rounds) :
    ∃ candidates, view.fuse accumulated = .ok candidates := by
  apply fusion_total
  have named : ∀ candidate ∈ ((validate view.env.digests view.bundle view.scope
      (normalizeBranchRanks accumulated)).accepted.filter fun candidate =>
        admits view.plan.applicationPostFilter candidate.metadata),
      ∃ record ∈ view.corpus, candidate.identity = record.identity := by
    intro candidate member
    have accepted := (mem_filter.mp (mem_filter.mp member).1).1
    rcases mem_normalizeBranchRanks accepted with ⟨_, inside, same⟩
    rcases view.collected_corpus (front.subset inside) with ⟨record, present, identical⟩
    exact ⟨record, present, same.trans identical⟩
  intro first inside second other same
  rcases named first inside with ⟨record, present, identical⟩
  rcases named second other with ⟨another, stored, matching⟩
  rw [identical, matching] at same ⊢
  exact coherent record present another stored same

theorem retrieve_total (coherent : view.CoherentCorpus) (clock : Clock) (token : Option Token) :
    ∃ answer, retrieve (view.env.ports clock) ∅ view.request token view.excluded = .ok answer := by
  cases starts : startOffsets (view.env.ports clock) view.request token view.bundle view.scope
      view.plan with
  | error conclusion =>
    have refused : admitRequest (view.env.ports clock) view.request token view.excluded =
        .error conclusion := by
      have fresh := view.admit_view clock none (0, 0) rfl
      unfold admitRequest at fresh ⊢
      rcases bind_eq_ok.mp fresh with ⟨_, selected, fresh⟩
      rcases bind_eq_ok.mp fresh with ⟨_, granted, fresh⟩
      rcases bind_eq_ok.mp fresh with ⟨_, planned, fresh⟩
      rcases bind_eq_ok.mp fresh with ⟨offsets, _, same⟩
      cases same
      rw [selected]
      apply bind_eq_error.mpr (.inr ⟨_, rfl, _⟩)
      rw [granted]
      apply bind_eq_error.mpr (.inr ⟨_, rfl, _⟩)
      rw [planned]
      apply bind_eq_error.mpr (.inr ⟨_, rfl, bind_eq_error.mpr (.inl starts)⟩)
    exact ⟨_, by simp only [retrieve, refused]; rfl⟩
  | ok offsets =>
    rw [view.retrieve_view clock token offsets starts]
    cases done : view.completion offsets clock view.bundle.retrievalPolicy.maxRefillRounds 0 with
    | some =>
      rcases view.search_completes clock offsets done ∅ with ⟨_, answer, found, _⟩
      exact ⟨answer, found⟩
    | none =>
      rcases view.search_degrades clock offsets done ∅ with
        ⟨answer, found, _⟩ | ⟨_, _, _, _, front, made⟩
      · exact ⟨answer, found⟩
      · rcases view.fuse_total coherent front with ⟨_, fine⟩
        rw [fine] at made
        cases made

end Corpus

variable {candidates : List FusedCandidate}

section Windows

def closes (start : Nat × Nat) : (remaining rounds : Nat) → Option Nat
  | 0, _ => none
  | remaining + 1, rounds =>
    match view.stopsAfter start (rounds + 1) with
    | .ok true => some (rounds + 1)
    | .ok false => closes start remaining (rounds + 1)
    | .error _ => none

variable {start : Nat × Nat}

theorem closes_of_completion {clock : Clock} {remaining last : Nat}
    (done : view.completion start clock remaining rounds = some last) :
    view.closes start remaining rounds = some last := by
  induction remaining generalizing rounds with
  | zero => cases done
  | succ _ ih =>
    by_cases cut : view.late clock rounds ∨
        view.bundle.retrievalPolicy.maxCandidateBudget ≤ (view.collected start rounds).length ∨
        view.bundle.retrievalPolicy.maxCandidateBudget <
          (view.collected start (rounds + 1)).length
    · simp only [completion, cut] at done
      cases done
    · simp only [completion, cut] at done
      unfold closes
      cases stop : view.stopsAfter start (rounds + 1) with
      | error =>
        rw [stop] at done
        cases done
      | ok flag =>
        rw [stop] at done
        cases flag with
        | true => exact done
        | false => exact ih done

theorem closes_pos {remaining last : Nat}
    (closed : view.closes start remaining rounds = some last) : rounds < last := by
  induction remaining generalizing rounds with
  | zero => cases closed
  | succ _ ih =>
    unfold closes at closed
    split at closed
    · have ends := Option.some.inj closed
      omega
    · have later := ih closed
      omega
    · cases closed

def windowStart (rounds : Nat) : Nat × Nat := (rounds * view.depth, rounds * view.depth)

def order (candidates : List FusedCandidate) : List String :=
  releasedOrder view.env.content view.scope candidates

/-- The windows one after the other, behind the first rounds, up to an empty one. -/
def windows : (fuel rounds : Nat) → List (List String)
  | 0, _ => []
  | fuel + 1, rounds =>
    match view.closes (view.windowStart rounds) view.bundle.retrievalPolicy.maxRefillRounds 0 with
    | none => []
    | some more =>
      match view.fused (view.windowStart rounds) more with
      | .error _ => []
      | .ok candidates =>
        view.order candidates ::
          if (view.order candidates).isEmpty then [] else windows fuel (rounds + more)

theorem released_occurrences (candidates : List FusedCandidate) :
    (view.released candidates).map AuthorizedRetrievalHit.occurrenceId =
      (view.order candidates).take view.request.topK := by
  have loop := releaseLoop_occurrences view.env.content view.scope view.request.topK [] []
    candidates view.request.topK_pos
  exact loop

theorem released_isEmpty (candidates : List FusedCandidate) :
    (view.released candidates).isEmpty = (view.order candidates).isEmpty := by
  have lengths := congrArg length (view.released_occurrences candidates)
  have positive := view.request.topK_pos
  rw [length_map, length_take] at lengths
  cases orders : view.order candidates with
  | nil =>
    rw [orders] at lengths
    simpa using lengths
  | cons =>
    rw [orders] at lengths
    cases hits : view.released candidates with
    | nil =>
      rw [hits] at lengths
      simp only [length_nil, length_cons] at lengths
      omega
    | cons => rfl

theorem order_nodup
    (made : view.fused start rounds = .ok candidates) : (view.order candidates).Nodup := by
  have distinct := fused_keys_nodup made
  exact distinct.sublist (filter_sublist.map _)

theorem windows_nodup (fuel rounds : Nat) : ∀ order ∈ view.windows fuel rounds, order.Nodup := by
  induction fuel generalizing rounds with
  | zero => simp [windows]
  | succ _ ih =>
    intro order member
    unfold windows at member
    split at member
    · cases member
    · split at member
      · cases member
      · next made =>
        rcases mem_cons.mp member with here | later
        · rw [here]
          exact view.order_nodup made
        · split at later
          · cases later
          · exact ih _ order later

end Windows

section Pages

variable (clocks : Nat → Clock)

def call (page : Nat) (token : Option Token) : Except FusionError (RetrievalResponse Token) :=
  (retrieve (view.env.ports (clocks page)) ∅ view.request token view.excluded).map Answer.response

def pageBound : Nat := view.corpus.length + 1

def pages : Except FusionError (List (RetrievalResponse Token)) :=
  followCursors (view.call clocks) view.pageBound 0 none

def Ranked (occurrenceId : String) : Prop :=
  ∃ filter ∈ view.plan.providerQueries,
    ∃ entry ∈ view.lexicalScored filter ++ view.denseScored filter,
      entry.2.identity.occurrenceId = occurrenceId ∧
        occurrenceId ∈ view.scope.allowedOccurrenceIds ∧
        admits view.plan.applicationPostFilter entry.2.metadata = true

instance (occurrenceId : String) : Decidable (view.Ranked occurrenceId) := by
  unfold Ranked
  infer_instance

def ExactlyOnce (responses : List (RetrievalResponse Token)) : Prop :=
  ∀ occurrenceId, view.Ranked occurrenceId → (responses.flatMap occurrences).count occurrenceId = 1

/-- Fewer than `topK` occurrences of the window come before this one. -/
def Reaches (occurrenceId : String) (order : List String) : Prop :=
  occurrenceId ∈ order ∧ order.idxOf occurrenceId < view.request.topK

instance (occurrenceId : String) (order : List String) :
    Decidable (view.Reaches occurrenceId order) :=
  inferInstanceAs (Decidable (_ ∧ _))

def ExactWindows : Prop :=
  ∀ occurrenceId, view.Ranked occurrenceId →
    (view.windows view.pageBound 0).countP (fun order => view.Reaches occurrenceId order) = 1

theorem branchPage_past {offset limit : Nat} (past : scored.length ≤ offset) :
    branchPage digests bundle branch scored offset limit = [] := by
  have none_ : (sortBy Scored.order scored).drop offset = [] :=
    drop_eq_nil_of_le (by rw [length_sortBy]; exact past)
  simp [branchPage, none_]

theorem lexicalScored_length (filter : Option FilterExpression) :
    (view.lexicalScored filter).length ≤ view.corpus.length := by
  have documents : view.env.lexical.index.documents.length =
      view.env.lexical.index.records.length := length_map _
  calc (view.lexicalScored filter).length
      ≤ _ := length_filter_le _ _
    _ ≤ view.env.lexical.index.documents.length := by
        rw [length_map]
        exact length_filter_le _ _
    _ ≤ view.corpus.length := by
        rw [corpus, length_append]
        omega

theorem denseScored_length (filter : Option FilterExpression) :
    (view.denseScored filter).length ≤ view.corpus.length := by
  have leaks : ∀ items, (leaked items).toList.length ≤ items.length := by
    intro items
    cases items <;> simp [leaked]
  have records : view.similarities.length = view.env.dense.records.length := by
    rw [← similarities_records view.dense_scores, length_map]
  have bound : view.env.dense.records.length ≤ view.corpus.length := by
    rw [corpus, length_append]
    omega
  unfold denseScored ExactDenseRetrievalAdapter.scored
  generalize (fun entry : Scored => authorizedAndBusinessMatch view.scope
    entry.2.identity.occurrenceId entry.2.metadata filter
    view.plan.systemExcludedOccurrenceIds) = allowed
  have parts := length_eq_length_filter_add allowed (l := view.similarities)
  have leak := leaks (view.similarities.filter fun entry => !allowed entry)
  rw [length_append]
  split
  · omega
  · simp only [length_nil]
    omega

theorem collected_past (past : view.corpus.length ≤ rounds) (more : Nat) :
    view.collected (view.windowStart rounds) more = [] := by
  have far : view.corpus.length ≤ rounds * view.depth :=
    past.trans (Nat.le_mul_of_pos_right _ view.depth_pos)
  induction more with
  | zero => rfl
  | succ more ih =>
    have lexical : ∀ filter, view.lexicalPage filter
        (view.offsetsAfter (view.windowStart rounds) more).1 = [] := by
      intro filter
      have short := view.lexicalScored_length filter
      apply branchPage_past
      simp only [offsetsAfter, windowStart]
      omega
    have dense : ∀ filter, view.densePage filter
        (view.offsetsAfter (view.windowStart rounds) more).2 = [] := by
      intro filter
      have short := view.denseScored_length filter
      apply branchPage_past
      simp only [offsetsAfter, windowStart]
      omega
    simp [collected, ih, roundPages, lexical, dense]

theorem order_past {more : Nat} (past : view.corpus.length ≤ rounds)
    (made : view.fused (view.windowStart rounds) more = .ok candidates) :
    view.order candidates = [] := by
  unfold fused at made
  rw [view.collected_past past] at made
  cases made
  rfl

/-- The walk visits the windows, and releases of each what `topK` admits. -/
theorem walk (coherent : view.CoherentCorpus)
    (lifetime : ∀ page, clocks (page + 1) .cursorCheck < clocks page .cursorIssue + 300)
    (fuel page rounds : Nat) (token : Option Token)
    (resumes : startOffsets (view.env.ports (clocks page)) view.request token view.bundle
      view.scope view.plan = .ok (view.windowStart rounds))
    (undegraded : ∀ responses, followCursors (view.call clocks) fuel page token = .ok responses →
      ∀ response ∈ responses, response.outcome = .full ∨ response.outcome = .empty) :
    ∃ responses, followCursors (view.call clocks) fuel page token = .ok responses ∧
      responses.map occurrences = (view.windows fuel rounds).map (take view.request.topK) ∧
      (0 < fuel → view.corpus.length < fuel + rounds → Ended responses) := by
  induction fuel generalizing page rounds token with
  | zero => exact ⟨[], rfl, rfl, fun absurd_ => absurd absurd_ (by omega)⟩
  | succ fuel ih =>
    have totals : ∀ page token, ∃ response, view.call clocks page token = .ok response := by
      intro page token
      rcases view.retrieve_total coherent (clocks page) token with ⟨answer, answered⟩
      exact ⟨answer.response, by rw [call, answered]; rfl⟩
    cases done : view.completion (view.windowStart rounds) (clocks page)
        view.bundle.retrievalPolicy.maxRefillRounds 0 with
    | none =>
      rcases followCursors_total totals (fuel + 1) page token with ⟨responses, walked⟩
      rcases view.search_degrades (clocks page) (view.windowStart rounds) done ∅ with
        ⟨answer, found, notFull, notEmpty⟩ | ⟨_, _, _, _, front, made⟩
      · have answered : view.call clocks page token = .ok answer.response := by
          rw [call, view.retrieve_view (clocks page) token _ resumes, found]
          rfl
        rcases undegraded responses walked answer.response
          (followCursors_head answered walked) with full | empty
        · exact absurd full notFull
        · exact absurd empty notEmpty
      · rcases view.fuse_total coherent front with ⟨candidates, fine⟩
        rw [fine] at made
        cases made
    | some more =>
      rcases view.search_completes (clocks page) (view.windowStart rounds) done ∅ with
        ⟨candidates, answer, found, complete⟩
      have answered : view.call clocks page token = .ok answer.response := by
        rw [call, view.retrieve_view (clocks page) token _ resumes, found]
        rfl
      have closed := view.closes_of_completion done
      have step := followCursors_answered fuel answered
      have hits : answer.response.hits.isEmpty = (view.order candidates).isEmpty := by
        rw [complete.hits, view.released_isEmpty]
      have shown : answer.response.occurrences =
          (view.order candidates).take view.request.topK := by
        rw [occurrences, complete.hits, view.released_occurrences]
      have window : view.windows (fuel + 1) rounds = view.order candidates ::
          if (view.order candidates).isEmpty then []
          else view.windows fuel (rounds + more) := by
        simp [windows, closed, complete.made]
      rw [hits] at step
      rw [step, window]
      cases empty : (view.order candidates).isEmpty with
      | true =>
        refine ⟨[answer.response], rfl, ?_, fun _ _ => ⟨_, rfl, ?_⟩⟩
        · simp [shown]
        · rw [empty] at hits
          exact List.isEmpty_iff.mp hits
      | false =>
        have early : rounds < view.corpus.length := by
          by_contra past
          rw [view.order_past (by omega) complete.made] at empty
          cases empty
        have moved : view.offsetsAfter (view.windowStart rounds) more =
            view.windowStart (rounds + more) := by
          simp [offsetsAfter, windowStart, Nat.add_mul]
        have token_ : answer.response.cursor = some (view.env.cursors.encode
            (view.cursor (clocks page) (view.windowStart (rounds + more)))) := by
          rw [complete.cursor, moved]
        have resumed : startOffsets (view.env.ports (clocks (page + 1))) view.request
            answer.response.cursor view.bundle view.scope view.plan =
            .ok (view.windowStart (rounds + more)) := by
          rw [token_]
          exact view.startOffsets_cursor (clocks (page + 1)) (clocks page) _ (lifetime page)
        have advanced := view.closes_pos closed
        obtain ⟨rest, walked, matching, ends⟩ := ih (page + 1) (rounds + more)
          answer.response.cursor resumed (by
            intro responses walked response member
            apply undegraded (answer.response :: responses)
            · rw [step, empty, walked]
              rfl
            · exact mem_cons_of_mem _ member)
        rw [walked]
        refine ⟨answer.response :: rest, rfl, ?_, ?_⟩
        · simp [shown, matching]
        · intro _ enough
          obtain ⟨last, final, none_⟩ := ends (by omega) (by omega)
          refine ⟨last, ?_, none_⟩
          rw [getLast?_cons, final]
          rfl

theorem count_shown (occurrenceId : String) (windows : List (List String))
    (distinct : ∀ order ∈ windows, order.Nodup) :
    ((windows.map (take view.request.topK)).flatten).count occurrenceId =
      windows.countP fun order => view.Reaches occurrenceId order := by
  induction windows with
  | nil => rfl
  | cons order _ ih =>
    have later := ih fun other inside => distinct other (mem_cons_of_mem _ inside)
    have nodup := (distinct order mem_cons_self).sublist
      (take_sublist view.request.topK order)
    have reached : occurrenceId ∈ order.take view.request.topK ↔
        view.Reaches occurrenceId order := by
      constructor
      · intro shown
        have inside := mem_of_mem_take shown
        exact ⟨inside, (mem_take_iff_idxOf_lt inside).mp shown⟩
      · rintro ⟨inside, early⟩
        exact (mem_take_iff_idxOf_lt inside).mpr early
    rw [map_cons, flatten_cons, count_append, later, countP_cons]
    by_cases shown : view.Reaches occurrenceId order
    · have once := count_eq_one_of_mem nodup (reached.mpr shown)
      simp only [shown, decide_true, if_true]
      omega
    · have never := count_eq_zero_of_not_mem fun inside => shown (reached.mp inside)
      rw [never]
      simp [shown]

end Pages

end View

namespace Sample

theorem one_le_maxTopK : 1 ≤ 5 := by decide

/-- The pages of the sample request with one hit a page: occurrence B is skipped. -/
def skimmed : List (RetrievalResponse RetrievalCursor) :=
  ((view 1 Nat.one_pos one_le_maxTopK).pages fun _ => clock).toOption.getD []

end Sample

end BackendHandbook.Retrieval
