import BackendHandbook.Foundation.Publication

/-! The memory store and the summary store: guarded publications of one record each. -/

namespace BackendHandbook.Memory

open Run

inductive MemoryKind
  | explicitPreference | modelInferredNote | conversationSummary
  deriving DecidableEq

structure ContextScope where
  (tenantId userId sessionId jobId : String)
  deriving DecidableEq

structure MemoryRecord where
  memoryId : String
  kind : MemoryKind
  version : Int
  scope : ContextScope
  content : String
  sourceVersions : List (String × Int)
  expiresAt : Option Int := none
  revoked : Bool := false

structure MemoryWriteCandidate where
  commandId : String
  expectedRevision : Int
  proposed : MemoryRecord

inductive MemoryWriteStatus
  | published | duplicate | scopeMismatch | writeNotAuthorized | staleMemoryRevision
  | invalidMemoryKind
  deriving DecidableEq

structure InMemoryMemoryStore where
  current : MemoryRecord
  commands : Finset String := ∅

structure PreferenceCall where
  candidate : MemoryWriteCandidate
  currentScope : ContextScope
  writeAuthorized : Bool

def publishPreference (call : PreferenceCall) (store : InMemoryMemoryStore) :
    MemoryWriteStatus × InMemoryMemoryStore :=
  let candidate := call.candidate
  if candidate.commandId ∈ store.commands then (.duplicate, store)
  else if candidate.proposed.scope ≠ call.currentScope then (.scopeMismatch, store)
  else if call.writeAuthorized = false then (.writeNotAuthorized, store)
  else if candidate.proposed.kind ≠ .explicitPreference then (.invalidMemoryKind, store)
  else if candidate.expectedRevision ≠ store.current.version ∨
      candidate.proposed.version ≠ store.current.version + 1 then (.staleMemoryRevision, store)
  else
    (.published,
      { current := candidate.proposed, commands := insert candidate.commandId store.commands })

structure SourceSpan where
  (tenantId userId sessionId : String)
  (startEvent endEvent : Int)
  sourceFingerprint : String

structure SummaryRevision where
  summaryId : String
  revision : Int
  sourceSpan : SourceSpan
  (policyVersion generationMethod content : String)

structure CompactionCandidate where
  candidateId : String
  expectedRevision : Int
  proposed : SummaryRevision

inductive SummaryPublishStatus
  | published | duplicate | staleSourceSpan | staleSummaryRevision | scopeMismatch
  deriving DecidableEq

structure InMemorySummaryStore where
  current : SummaryRevision
  applied : Finset String := ∅

structure SummaryCall where
  candidate : CompactionCandidate
  currentScope : ContextScope
  currentEventHead : Int
  currentSourceFingerprint : String
  failBeforeCommit : Bool := false

/-- `publish`; the failure is the runtime error that is injected before the commit. -/
def publish (call : SummaryCall) (store : InMemorySummaryStore) :
    Except String SummaryPublishStatus × InMemorySummaryStore :=
  let candidate := call.candidate
  let span := candidate.proposed.sourceSpan
  if candidate.candidateId ∈ store.applied then (.ok .duplicate, store)
  else if (span.tenantId, span.userId, span.sessionId) ≠ (call.currentScope.tenantId,
      call.currentScope.userId, call.currentScope.sessionId) then (.ok .scopeMismatch, store)
  else if span.endEvent ≠ call.currentEventHead ∨
      span.sourceFingerprint ≠ call.currentSourceFingerprint then (.ok .staleSourceSpan, store)
  else if candidate.expectedRevision ≠ store.current.revision ∨
      candidate.proposed.revision ≠ store.current.revision + 1 then
    (.ok .staleSummaryRevision, store)
  else if call.failBeforeCommit then (.error "INJECTED_BEFORE_SUMMARY_COMMIT", store)
  else
    (.ok .published,
      { current := candidate.proposed, applied := insert candidate.candidateId store.applied })

/-- No check of `publish_preference` refuses the call. -/
structure AdmitsPreference (store : InMemoryMemoryStore) (call : PreferenceCall) : Prop where
  fresh : call.candidate.commandId ∉ store.commands
  scope : call.candidate.proposed.scope = call.currentScope
  authorized : call.writeAuthorized = true
  kind : call.candidate.proposed.kind = .explicitPreference
  expected : call.candidate.expectedRevision = store.current.version
  next : call.candidate.proposed.version = store.current.version + 1

/-- No check of `publish` refuses the call, and no failure is injected. -/
structure AdmitsSummary (store : InMemorySummaryStore) (call : SummaryCall) : Prop where
  fresh : call.candidate.candidateId ∉ store.applied
  scope : (call.candidate.proposed.sourceSpan.tenantId, call.candidate.proposed.sourceSpan.userId,
    call.candidate.proposed.sourceSpan.sessionId) = (call.currentScope.tenantId,
      call.currentScope.userId, call.currentScope.sessionId)
  head : call.candidate.proposed.sourceSpan.endEvent = call.currentEventHead
  source : call.candidate.proposed.sourceSpan.sourceFingerprint = call.currentSourceFingerprint
  expected : call.candidate.expectedRevision = store.current.revision
  next : call.candidate.proposed.revision = store.current.revision + 1
  commits : call.failBeforeCommit = false

theorem publishPreference_cases (call : PreferenceCall) (store : InMemoryMemoryStore) :
    (AdmitsPreference store call ∧ publishPreference call store = (.published,
      { current := call.candidate.proposed
        commands := insert call.candidate.commandId store.commands })) ∨
    (¬ AdmitsPreference store call ∧ (publishPreference call store).1 ≠ .published ∧
      (publishPreference call store).2 = store) := by
  unfold publishPreference
  dsimp only
  split
  · next used => exact .inr ⟨fun admits => admits.fresh used, nofun, rfl⟩
  next fresh =>
  split
  · next other => exact .inr ⟨fun admits => other admits.scope, nofun, rfl⟩
  next scope =>
  split
  · next unauthorized =>
    exact .inr ⟨fun admits => (nomatch unauthorized.symm.trans admits.authorized), nofun, rfl⟩
  next authorized =>
  split
  · next other => exact .inr ⟨fun admits => other admits.kind, nofun, rfl⟩
  next kind =>
  split
  · next stale =>
    exact .inr ⟨fun admits => stale.elim (· admits.expected) (· admits.next), nofun, rfl⟩
  next current =>
  rw [not_or, not_not, not_not] at current
  exact .inl ⟨⟨fresh, not_not.mp scope, Bool.eq_true_of_not_eq_false authorized, not_not.mp kind,
    current.1, current.2⟩, rfl⟩

theorem publish_cases (call : SummaryCall) (store : InMemorySummaryStore) :
    (AdmitsSummary store call ∧ publish call store = (.ok .published,
      { current := call.candidate.proposed
        applied := insert call.candidate.candidateId store.applied })) ∨
    (¬ AdmitsSummary store call ∧ (publish call store).1 ≠ .ok .published ∧
      (publish call store).2 = store) := by
  unfold publish
  dsimp only
  split
  · next used => exact .inr ⟨fun admits => admits.fresh used, nofun, rfl⟩
  next fresh =>
  split
  · next other => exact .inr ⟨fun admits => other admits.scope, nofun, rfl⟩
  next scope =>
  split
  · next stale =>
    exact .inr ⟨fun admits => stale.elim (· admits.head) (· admits.source), nofun, rfl⟩
  next span =>
  split
  · next stale =>
    exact .inr ⟨fun admits => stale.elim (· admits.expected) (· admits.next), nofun, rfl⟩
  next current =>
  split
  · next fails => exact .inr ⟨fun admits => (nomatch fails.symm.trans admits.commits), nofun, rfl⟩
  next commits =>
  rw [not_or, not_not, not_not] at span current
  exact .inl ⟨⟨fresh, not_not.mp scope, span.1, span.2, current.1, current.2,
    Bool.eq_false_of_not_eq_true commits⟩, rfl⟩

/-- The memory store as a publishing store; a record is owned by its tenant and user. -/
def memories : Publishing InMemoryMemoryStore PreferenceCall MemoryWriteStatus MemoryRecord
    (String × String) where
  perform := publishPreference
  published := (· = .published)
  current := InMemoryMemoryStore.current
  applied := InMemoryMemoryStore.commands
  name call := call.candidate.commandId
  proposal call := call.candidate.proposed
  version := MemoryRecord.version
  owner record := (record.scope.tenantId, record.scope.userId)
  Admits := AdmitsPreference
  admitted store call admits := by
    rcases publishPreference_cases call store with ⟨_, done⟩ | ⟨refused, _⟩
    · rw [done]
      exact ⟨rfl, rfl, rfl, admits.fresh, admits.next⟩
    · exact absurd admits refused
  refused store call refused := by
    rcases publishPreference_cases call store with ⟨admits, _⟩ | ⟨_, other, same⟩
    · exact absurd admits refused
    · exact ⟨decide_eq_false other, same⟩

def summaries : Publishing InMemorySummaryStore SummaryCall (Except String SummaryPublishStatus)
    SummaryRevision (String × String) where
  perform := publish
  published
    | .ok status => status = .published
    | .error _ => false
  current := InMemorySummaryStore.current
  applied := InMemorySummaryStore.applied
  name call := call.candidate.candidateId
  proposal call := call.candidate.proposed
  version := SummaryRevision.revision
  owner record := (record.sourceSpan.tenantId, record.sourceSpan.userId)
  Admits := AdmitsSummary
  admitted store call admits := by
    rcases publish_cases call store with ⟨_, done⟩ | ⟨refused, _⟩
    · rw [done]
      exact ⟨rfl, rfl, rfl, admits.fresh, admits.next⟩
    · exact absurd admits refused
  refused store call refused := by
    rcases publish_cases call store with ⟨admits, _⟩ | ⟨_, other, same⟩
    · exact absurd admits refused
    · refine ⟨?_, same⟩
      split
      · next status answered => exact decide_eq_false fun done => other (done ▸ answered)
      · rfl

/-- Memories and summaries have linear histories in one scope exactly where every publication is for
the tenant and the user of the record that it replaces. -/
theorem publications_linear_iff (memory : MemoryRecord) (writes : List PreferenceCall)
    (summary : SummaryRevision) (publishes : List SummaryCall) :
    memories.Linear { current := memory } writes ∧
        summaries.Linear { current := summary } publishes ↔
      (∀ e ∈ trace publishPreference { current := memory } writes,
        AdmitsPreference e.before e.call →
          (e.call.currentScope.tenantId, e.call.currentScope.userId) =
            (e.before.current.scope.tenantId, e.before.current.scope.userId)) ∧
      ∀ e ∈ trace publish { current := summary } publishes, AdmitsSummary e.before e.call →
        (e.call.currentScope.tenantId, e.call.currentScope.userId) =
          (e.before.current.sourceSpan.tenantId, e.before.current.sourceSpan.userId) := by
  rw [Publishing.linear_iff, Publishing.linear_iff]
  apply and_congr
  · refine forall₂_congr fun e member => forall_congr' fun admits => ?_
    rw [← admits.scope]
    rfl
  · refine forall₂_congr fun e member => forall_congr' fun admits => ?_
    obtain ⟨tenant, user, _⟩ := Prod.mk.inj admits.scope |>.imp_right Prod.mk.inj
    rw [← tenant, ← user]
    rfl

namespace Sample

def owned (tenantId : String) (version : Int) : MemoryRecord :=
  { memoryId := "memory-1", kind := .explicitPreference, version
    scope := { tenantId, userId := "user-1", sessionId := "session-1", jobId := "job-1" }
    content := "metric", sourceVersions := [] }

/-- A caller of another tenant replaces the stored memory. -/
theorem foreign_replaces : ¬ ∀ memory writes summary publishes,
    memories.Linear { current := memory } writes ∧
      summaries.Linear { current := summary } publishes := by
  intro linear
  have law := (linear (owned "tenant-a" 1) [⟨⟨"command-1", 1, owned "tenant-b" 2⟩,
    (owned "tenant-b" 2).scope, true⟩] ⟨"", 0, ⟨"", "", "", 0, 0, ""⟩, "", "", ""⟩ []).1
  exact absurd (law.owned _ List.mem_cons_self) (by decide)

end Sample

end BackendHandbook.Memory
