import BackendHandbook.Foundation.Run
import BackendHandbook.Retrieval.Pages

/-! A cached answer beside the answer of the same call without the cache, over runs of calls
that share one cache. -/

namespace BackendHandbook.Retrieval

open AuthorizedHybridRetriever Fallible Run InMemoryRetrievalCache

structure RetrieveCall (Token : Type) where
  request : RetrievalRequest
  cursorToken : Option Token
  excluded : List String
  clock : Clock

variable {Token : Type} (env : Environment Token)

namespace RetrieveCall

/-- What the call settles before it looks into the cache. -/
def admission (call : RetrieveCall Token) : Except (Conclusion Token) Admission :=
  admitRequest (env.ports call.clock) call.request call.cursorToken call.excluded

def cacheKey (call : RetrieveCall Token) : Option RetrievalCacheKey :=
  match call.admission env with
  | .ok admission => some (admission.cacheKey (env.ports call.clock) call.request)
  | .error _ => none

/-- The place in the cache that the call reads, and writes if its answer is `FULL`. -/
def slot (call : RetrieveCall Token) : Option String :=
  (call.cacheKey env).map (RetrievalCacheKey.fingerprint env.digests)

end RetrieveCall

def perform (call : RetrieveCall Token) (cache : InMemoryRetrievalCache) :
    Except FusionError (RetrievalResponse Token) × InMemoryRetrievalCache :=
  match retrieve (env.ports call.clock) cache call.request call.cursorToken call.excluded with
  | .ok answer => (.ok answer.response, answer.cache)
  | .error raised => (.error raised, cache)

abbrev RetrieveEvent (Token : Type) :=
  Event InMemoryRetrievalCache (RetrieveCall Token)
    fun _ => Except FusionError (RetrievalResponse Token)

def Stores (slot : String) (e : RetrieveEvent Token) : Prop :=
  e.call.slot env = some slot ∧ ∃ response, e.response = .ok response ∧
    response.outcome = .full ∧ response.safeReason = "AUTHORIZED_HYBRID_RETRIEVAL_COMPLETED"

def FromCache (e : RetrieveEvent Token) : Prop :=
  e.call.cursorToken = none ∧ ∃ admission conclusion, e.call.admission env = .ok admission ∧
    cacheHit (env.ports e.call.clock) e.call.request none e.before admission = some conclusion

def AnsweredAsFresh (e : RetrieveEvent Token) : Prop :=
  ∃ response fresh, e.response = .ok response ∧
    retrieve (env.ports e.call.clock) ∅ e.call.request none e.call.excluded = .ok fresh ∧
    fresh.response.outcome = response.outcome ∧ fresh.response.hits = response.hits

def CacheTransparent (calls : List (RetrieveCall Token)) : Prop :=
  ∀ e ∈ trace (perform env) ∅ calls, FromCache env e → AnsweredAsFresh env e

variable {cache : InMemoryRetrievalCache}

section Effect

variable (ports : Ports Token) (request : RetrievalRequest)

theorem search_cache {admission : Admission}
    {answer : Answer Token} (found : search ports request admission cache = .ok answer) :
    answer.cache = cache ∨ ∃ candidates expiresAt,
        answer.cache = InMemoryRetrievalCache.put ports.digests cache
          ⟨admission.cacheKey ports request, candidates, expiresAt⟩ ∧
        answer.response.outcome = .full ∧
        answer.response.safeReason = "AUTHORIZED_HYBRID_RETRIEVAL_COMPLETED" := by
  unfold search at found
  simp only at found
  split at found
  · rw [← Except.ok.inj found]
    exact .inl rfl
  · split at found
    · cases found
    · rw [← Except.ok.inj found]
      exact .inl rfl
    · next state _ =>
      rw [← Except.ok.inj found]
      cases present : state.completed.isEmpty with
      | true => exact .inl (by simp [finish, concludeLoop, present])
      | false =>
        by_cases full : classify request state = .full
        · refine .inr ⟨state.finalFused, ports.clock .cacheWrite + 60, ?_⟩
          simp [finish, concludeLoop, present, full]
        · exact .inl (by simp only [finish, concludeLoop, present, full, Bool.false_eq_true,
            if_false])

end Effect

theorem slot_frame (slot : String) (calls : List (RetrieveCall Token)) (e : RetrieveEvent Token)
    (member : e ∈ trace (perform env) ∅ calls) (quiet : ¬ Stores env slot e) :
    e.after.lookup slot = e.before.lookup slot := by
  rcases mem_trace_performed member with ⟨answered, left⟩
  unfold perform at answered left
  cases asked : retrieve (env.ports e.call.clock) e.before e.call.request e.call.cursorToken
      e.call.excluded with
  | error raised =>
    rw [asked] at left
    rw [left]
  | ok answer =>
    rw [asked] at answered left
    rw [left]
    unfold retrieve at asked
    cases admitted : admitRequest (env.ports e.call.clock) e.call.request e.call.cursorToken
        e.call.excluded with
    | error conclusion =>
      rw [admitted] at asked
      rw [← Except.ok.inj asked]
      rfl
    | ok admission =>
      rw [admitted] at asked
      simp only at asked
      split at asked
      · rw [← Except.ok.inj asked]
        rfl
      · rcases search_cache _ _ asked with same | ⟨_, _, put, full, reason⟩
        · simp [same]
        · simp only [put, InMemoryRetrievalCache.put]
          rw [Dict.lookup_insert_eq]
          split
          · next here =>
            apply absurd _ quiet
            refine ⟨?_, answer.response, answered, full, reason⟩
            simp only [RetrieveCall.slot, RetrieveCall.cacheKey, RetrieveCall.admission, admitted]
            exact congrArg some here.symm
          · rfl

/-- The call's own search ends undegraded, with these fused candidates. -/
structure Ends (call : RetrieveCall Token) (view : View Token) (candidates : List FusedCandidate) :
    Prop where
  env_eq : view.env = env
  request_eq : view.request = call.request
  excluded_eq : view.excluded = call.excluded
  window : ∃ offsets last,
    startOffsets (view.env.ports call.clock) view.request call.cursorToken view.bundle view.scope
      view.plan = .ok offsets ∧
    view.completes call.clock offsets last ∧ view.fused offsets last = .ok candidates

def Agree (writer reader : RetrieveCall Token) : Prop :=
  ∃ stored own writerView readerView, Ends env writer writerView stored ∧
    Ends env reader readerView own ∧ readerView.released stored = readerView.released own

/-- Each cached answer is read from an entry whose last writer agrees with the reader. -/
def EntriesAgree (calls : List (RetrieveCall Token)) : Prop :=
  ∀ front writer middle reader back slot,
    trace (perform env) ∅ calls = front ++ writer :: (middle ++ reader :: back) →
    FromCache env reader → reader.call.slot env = some slot → Stores env slot writer →
    (∀ between ∈ middle, ¬ Stores env slot between) → Agree env writer.call reader.call

variable {env}
variable {view : View Token} {calls : List (RetrieveCall Token)} {e : RetrieveEvent Token}

variable {candidates : List FusedCandidate}

theorem Ends.admission {call : RetrieveCall Token} (ends : Ends env call view candidates) :
    ∃ offsets last, call.admission env = .ok (view.admission offsets) ∧
      view.completes call.clock offsets last ∧ view.fused offsets last = .ok candidates := by
  rcases ends.window with ⟨offsets, last, starts, completes, made⟩
  have admitted := view.admit_view call.clock call.cursorToken offsets starts
  rw [ends.env_eq, ends.request_eq, ends.excluded_eq] at admitted
  exact ⟨offsets, last, admitted, completes, made⟩

theorem cacheHit_reason {ports : Ports Token} {request : RetrievalRequest}
    {token : Option Token} {admission : Admission} {conclusion : Conclusion Token}
    (hit : cacheHit ports request token cache admission = some conclusion) :
    conclusion.response.safeReason = cacheHitReason := by
  unfold cacheHit at hit
  split at hit
  · split at hit
    · cases hit
    · unfold cachedConclusion at hit
      split at hit
      · cases hit
      · rw [← Option.some.inj hit]
  · cases hit

variable {slot : String}

/-- A call that stores leaves its own fused candidates behind. -/
theorem stored_candidates (member : e ∈ trace (perform env) ∅ calls) (stores : Stores env slot e)
    (ends : Ends env e.call view candidates) :
    ∃ entry, e.after.lookup slot = some entry ∧ entry.candidates = candidates := by
  rcases ends.admission with ⟨offsets, _, admitted, completes, made⟩
  rcases stores with ⟨placed, response, answered, full, reason⟩
  rcases mem_trace_performed member with ⟨performed, left⟩
  rcases view.search_completes e.call.clock offsets completes e.before with
    ⟨fused, answer, found, complete⟩
  rw [ends.env_eq, ends.request_eq] at found
  have same : fused = candidates := Except.ok.inj (complete.made.symm.trans made)
  have asked : retrieve (env.ports e.call.clock) e.before e.call.request e.call.cursorToken
      e.call.excluded = .ok answer := by
    have hit : cacheHit (env.ports e.call.clock) e.call.request e.call.cursorToken e.before
        (view.admission offsets) = none := by
      cases hit : cacheHit (env.ports e.call.clock) e.call.request e.call.cursorToken e.before
          (view.admission offsets) with
      | none => rfl
      | some conclusion =>
        have shortcut : retrieve (env.ports e.call.clock) e.before e.call.request
            e.call.cursorToken e.call.excluded =
            .ok (finish (env.ports e.call.clock) e.call.request e.before 0 0 conclusion) := by
          unfold RetrieveCall.admission at admitted
          simp [retrieve, admitted, hit]
        unfold perform at performed
        rw [shortcut] at performed
        have own := Except.ok.inj (answered.symm.trans performed)
        have cached : response.safeReason = cacheHitReason := by
          rw [own]
          exact cacheHit_reason hit
        rw [reason] at cached
        exact absurd cached (by decide)
    unfold RetrieveCall.admission at admitted
    simp [retrieve, admitted, hit, found]
  unfold perform at performed left
  rw [asked] at performed left
  have own : response = answer.response := Except.ok.inj (answered.symm.trans performed)
  have some_ : (view.released fused).isEmpty = false := by
    have outcome := complete.outcome
    rw [← own, full] at outcome
    cases empty : (view.released fused).isEmpty with
    | true => rw [empty] at outcome; cases outcome
    | false => rfl
  have put := complete.cache
  rw [some_] at put
  simp only [RetrieveCall.slot, RetrieveCall.cacheKey, admitted] at placed
  have here := Option.some.inj placed
  refine ⟨⟨(view.admission offsets).cacheKey (env.ports e.call.clock) e.call.request, fused,
    e.call.clock .cacheWrite + 60⟩, ?_, same⟩
  simp only at left
  rw [left, put, ends.env_eq, ends.request_eq, ← here]
  simp only [InMemoryRetrievalCache.put]
  simp

theorem cached_answer {own : List FusedCandidate}
    (member : e ∈ trace (perform env) ∅ calls) (hit : FromCache env e)
    (ends : Ends env e.call view own) :
    ∃ slot entry response, e.call.slot env = some slot ∧ e.before.lookup slot = some entry ∧
      e.response = .ok response ∧ response.hits = view.released entry.candidates ∧
      response.outcome = if (view.released entry.candidates).isEmpty then .empty else .full := by
  rcases hit with ⟨fresh, admission, conclusion, admitted, found⟩
  rcases ends.admission with ⟨offsets, _, same, _, _⟩
  have viewed : admission = view.admission offsets := Except.ok.inj (admitted.symm.trans same)
  rcases mem_trace_performed member with ⟨performed, _⟩
  have shortcut : retrieve (env.ports e.call.clock) e.before e.call.request e.call.cursorToken
      e.call.excluded =
      .ok (finish (env.ports e.call.clock) e.call.request e.before 0 0 conclusion) := by
    unfold RetrieveCall.admission at admitted
    rw [fresh] at admitted ⊢
    simp [retrieve, admitted, found]
  unfold perform at performed
  rw [shortcut] at performed
  unfold cacheHit at found
  cases stored : get (env.ports e.call.clock).digests e.before
      (admission.cacheKey (env.ports e.call.clock) e.call.request)
      ((env.ports e.call.clock).clock .cacheLookup) with
  | none =>
    rw [stored] at found
    cases found
  | some entry =>
    rcases get_eq_some stored with ⟨lookup, _, _⟩
    rw [stored] at found
    have releases := view.release_view e.call.clock .cachedRelease entry.candidates
    rw [ends.env_eq, ends.request_eq] at releases
    simp only [cachedConclusion, viewed] at found
    rw [show (view.admission offsets).scope = view.scope from rfl, releases] at found
    refine ⟨_, entry, _, ?_, lookup, performed, ?_, ?_⟩
    · simp only [RetrieveCall.slot, RetrieveCall.cacheKey, admitted]
      rfl
    · rw [← Option.some.inj found, View.released, ends.env_eq, ends.request_eq]
      rfl
    · rw [← Option.some.inj found, View.released, ends.env_eq, ends.request_eq]
      rfl

theorem FromCache.entry (hit : FromCache env e) :
    ∃ slot entry, e.call.slot env = some slot ∧ e.before.lookup slot = some entry := by
  rcases hit with ⟨_, _, _, admitted, found⟩
  unfold cacheHit at found
  split at found
  · next entry stored =>
    rcases get_eq_some stored with ⟨lookup, _, _⟩
    refine ⟨_, entry, ?_, lookup⟩
    simp only [RetrieveCall.slot, RetrieveCall.cacheKey, admitted]
    rfl
  · cases found

theorem last_writer {entry : RetrievalCacheEntry}
    (lookup : (final (perform env) ∅ calls).lookup slot = some entry) :
    ∃ front writer back, trace (perform env) ∅ calls = front ++ writer :: back ∧
      Stores env slot writer ∧ (∀ later ∈ back, ¬ Stores env slot later) ∧
      writer.after.lookup slot = some entry := by
  have change := last_change (perform env) (fun cache => cache.lookup slot) (Stores env slot) ∅
    calls (slot_frame env slot calls)
  rcases change with ⟨same, _⟩ | ⟨front, writer, back, split, stores, quiet, kept⟩
  · rw [lookup] at same
    cases same
  · exact ⟨front, writer, back, split, stores, quiet, kept.symm.trans lookup⟩

namespace Sample

theorem three_pos : 0 < 3 := by decide

def call (topK : Nat) (positive : 0 < topK) : RetrieveCall RetrievalCursor :=
  ⟨request topK positive, none, [], clock⟩

def growing : List (RetrieveCall RetrievalCursor) := [call 1 Nat.one_pos, call 3 three_pos]

def repeating : List (RetrieveCall RetrievalCursor) := [call 1 Nat.one_pos, call 1 Nat.one_pos]

end Sample

end BackendHandbook.Retrieval
