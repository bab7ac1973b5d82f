import BackendHandbook.Ingestion.ActivePointer

/-! Whether a tombstoned document stays down.

The activation guard of `run` and `recover` is read just before the commit, so it also
matches a head that was tombstoned in the meantime. `Reopens` is that step. -/

namespace BackendHandbook.Ingestion

open Text InMemoryIngestionLifecycleStore IngestionCommitter Run Sample

variable {sha256 : String → String}
variable (identity : DocumentIdentity) (store : Store)

def Tombstoned : Prop :=
  ∃ document, store.document? identity = some document ∧ document.state = .tombstoned

def Withdrawn : Prop :=
  ∃ document, store.document? identity = some document ∧ document.state ≠ .active ∧
    document.activeVersionId = none

/-- From any moment at which a head is tombstoned, it is withdrawn at every later one. -/
def StaysWithdrawn (calls : List Call) : Prop :=
  ∀ identity front middle back, calls = front ++ (middle ++ back) →
    Tombstoned identity (final perform {} front) →
    Withdrawn identity (final perform {} (front ++ middle))

def commitOutcome : (call : Call) → call.Response → Option IngestionCommitOutcome
  | .commit .., .ok result => some result.outcome
  | _, _ => none

def CommitsRefused (calls : List Call) : Prop :=
  ∀ e ∈ trace perform {} calls, ∀ decision guard proposal,
    e.call = .commit decision guard → decision.proposal = some proposal →
    Tombstoned proposal.operation.version.document e.before →
    commitOutcome e.call e.response ≠ some .committed

variable (store : Store) (call : Call)

/-- A commit whose guard was taken from the tombstoned head, and which passes every guard. -/
def Reopens : Prop :=
  ∃ decision guard proposal document version operation,
    call = .commit decision guard ∧ guard.expectedDocumentState = .tombstoned ∧
    CommitAdmitted store decision guard proposal document version operation

theorem tombstoned_perform (legal : Legal sha256 call)
    (closed : ¬ Reopens store call) (identity : DocumentIdentity)
    (dead : Tombstoned identity store) : Tombstoned identity (perform call store).2 := by
  rcases dead with ⟨document, found, state⟩
  rcases perform_step store call legal with quiet | moves
  · rw [quiet.2]; exact ⟨document, found, state⟩
  rcases document_after moves.2 identity with
    same | ⟨absent, _⟩ | ⟨_, tombstoned, _, placed, _, _, now, _⟩ |
      ⟨decision, guard, proposal, head, version, operation, _, called, admitted, owner, _⟩
  · exact ⟨document, same.trans found, state⟩
  · rw [found] at absent; cases absent
  · exact ⟨tombstoned, placed, now⟩
  · have same : head = document := by
      have located := admitted.document_found
      rw [← owner, found] at located
      exact (Option.some.inj located).symm
    refine absurd ⟨decision, guard, proposal, head, version, operation, called, ?_, admitted⟩
      closed
    rw [← admitted.document_guard.1, same, state]

theorem reopens_activates (legal : Legal sha256 call) (reopens : Reopens store call) :
    ∃ identity, Tombstoned identity store ∧ ∃ document,
      (perform call store).2.document? identity = some document ∧ document.state = .active := by
  rcases reopens with
    ⟨_, _, proposal, document, _, _, rfl, expected, admitted⟩
  have state : document.state = .tombstoned := admitted.document_guard.1.trans expected
  obtain ⟨committedDocument, _, _, _, _, _, moved, _, _, performed, _⟩ := activate_succeeds legal
    admitted (supersede_unpublished _ store (by rw [state]; decide))
  refine ⟨proposal.operation.version.document, ⟨document, admitted.document_found, state⟩,
    committedDocument, ?_, (DocumentHeadSnapshot.advance_ok moved).2.1⟩
  rw [performed, document?_publish, if_pos rfl]

theorem reopens_of_committed (store : Store) (decision : CandidateValidationDecision)
    (guard : IngestionActivationGuard) (proposal : IngestionActivationProposal)
    (proposed : decision.proposal = some proposal)
    (dead : Tombstoned proposal.operation.version.document store)
    (committed : commitOutcome (.commit decision guard)
      (perform (.commit decision guard) store).1 = some .committed) :
    Reopens store (.commit decision guard) := by
  rcases commit_cases store decision guard with
    ⟨answer, same, calm⟩ | ⟨_, head, version, operation, _, admitted, _⟩
  · have refused : perform (.commit decision guard) store = (answer, store) := same
    rw [refused] at committed
    cases answer with
    | error => cases committed
    | ok result => exact absurd (Option.some.inj committed) (calm result rfl).2
  · rcases dead with ⟨document, found, state⟩
    cases Option.some.inj (proposed.symm.trans admitted.proposed)
    have same : head = document := Option.some.inj (admitted.document_found.symm.trans found)
    refine ⟨decision, guard, proposal, head, version, operation, rfl, ?_, admitted⟩
    rw [← admitted.document_guard.1, same, state]

/-- Tombstones hold over a run exactly when no commit of the run reopens a document. -/
theorem tombstone_permanent_iff (sha256 : String → String) (actions : List Action) :
    StaysWithdrawn (storeCalls sha256 actions) ∧ CommitsRefused (storeCalls sha256 actions) ↔
      ∀ e ∈ trace perform {} (storeCalls sha256 actions), ¬ Reopens e.before e.call := by
  have legal : ∀ call ∈ storeCalls sha256 actions, Legal sha256 call := storeCalls_legal actions
  constructor
  · rintro ⟨withdrawn, _⟩ e member reopens
    rcases mem_trace_split perform {} _ e member with ⟨front, back, split, same⟩
    have before : e.before = final perform {} front := congrArg Event.before same
    obtain ⟨identity, dead, document, found, active⟩ := reopens_activates e.before e.call
      (legal e.call (by rw [split]; simp)) reopens
    rw [before] at dead found
    obtain ⟨_, placed, inactive, _⟩ :=
      withdrawn identity front [e.call] back (by simpa using split) dead
    rw [final_append] at placed
    cases Option.some.inj (found.symm.trans placed)
    exact inactive active
  · intro closed
    constructor
    · intro identity front middle back split dead
      have stays : Permanent perform (Tombstoned identity) {} (storeCalls sha256 actions) := by
        rw [permanent_iff]
        intro e member held
        rw [(mem_trace_performed member).2]
        exact tombstoned_perform e.before e.call
          (legal e.call (mem_of_mem_trace perform {} _ e member)) (closed e member) identity held
      rcases stays front middle back split dead with ⟨document, found, state⟩
      have inactive : document.state ≠ .active := by rw [state]; decide
      have reached := pointerIntegrity_reachable (front ++ middle)
        (fun call member => legal call (by
          rw [split, ← List.append_assoc]; exact List.mem_append_left _ member))
      exact ⟨document, found, inactive, reached.cleared identity document found inactive⟩
    · intro e member decision guard proposal called proposed dead committed
      apply closed e member
      rw [(mem_trace_performed member).1] at committed
      rw [called] at committed ⊢
      exact reopens_of_committed _ decision guard proposal proposed dead committed

/-- Intake and dispatch claim, then a tombstone, then the parser's answer and the commit. -/
def reopening : List Action :=
  let parsed := oracle
    (Sample.parsed (candidate (attempt 1) "controlled evidence"))
  [intake, .resume 0 parsed, .enter (.run capability (request (attempt 1) .readyForDispatch 0)),
    .resume 1 parsed,
    tombstone .registered 0, .resume 2 parsed,
    .resume 1 parsed, .resume 1 parsed, .resume 1 parsed, .resume 1 parsed]

/-- The guard that `run` builds in that schedule: it follows the tombstone. -/
def reopeningGuard : IngestionActivationGuard :=
  { expectedDocumentState := .tombstoned, expectedActiveVersionId := none
    expectedDocumentStateVersion := 1, expectedDocumentFence := 1
    expectedVersionState := .registered, expectedVersionStateVersion := 0
    expectedVersionFence := 0, expectedOperationState := .parseDispatchStarted
    expectedOperationStateVersion := 1, expectedOperationFence := 1 }

theorem reopening_breaks_tombstones : ¬ StaysWithdrawn (storeCalls digest reopening) ∧
      ¬ CommitsRefused (storeCalls digest reopening) := by
  constructor
  · intro withdrawn
    have buried : ((final perform {} ((storeCalls digest reopening).take 3)).document?
        Sample.operation.version.document).map (·.state) = some .tombstoned := by decide
    have risen : ((final perform {} ((storeCalls digest reopening).take 3 ++
        (storeCalls digest reopening).drop 3)).document?
        Sample.operation.version.document).map (·.state) = some .active := by decide
    obtain ⟨_, found, inactive, _⟩ := withdrawn Sample.operation.version.document _
      ((storeCalls digest reopening).drop 3) []
      (by rw [List.append_nil, List.take_append_drop])
      (by simpa [Tombstoned] using buried)
    rw [found] at risen
    exact inactive (Option.some.inj risen)
  · intro refused
    let decision := ParsedCandidateValidator.evaluate digest Sample.operation
      Sample.version source (attempt 1)
      (candidate (attempt 1) "controlled evidence")
    have member := event_mem_trace perform {} ((storeCalls digest reopening).take 5) []
      (.commit decision reopeningGuard)
    obtain ⟨proposal, proposed⟩ := Option.isSome_iff_exists.mp
      (show decision.proposal.isSome = true by decide)
    have owner : proposal.operation = Sample.operation := by
      rw [ParsedCandidateValidator.evaluate_proposal _ _ _ _ _ _ _ proposed]
    have buried : ((final perform {} ((storeCalls digest reopening).take 5)).document?
        Sample.operation.version.document).map (·.state) = some .tombstoned := by decide
    refine refused _ member decision reopeningGuard proposal rfl proposed ?_ (by decide)
    rw [owner]
    simpa [Tombstoned, event] using buried

end BackendHandbook.Ingestion
