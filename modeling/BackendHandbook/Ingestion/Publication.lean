import BackendHandbook.Ingestion.ActivePointer
import BackendHandbook.Ingestion.Dispatch

/-! What an activation publishes, and whether it stays as published.

The activation guard names the version and operation states it starts from, so a caller may
name a published version or a terminal operation. `Unsettles` lists those steps. -/

namespace BackendHandbook.Ingestion

open Text InMemoryIngestionLifecycleStore IngestionCommitter Run Sample IngestionOperationRecord

variable {sha256 : String → String}

/-- The version record carries these publication facts. -/
def Publishes (key : String × String × String) (artifactId commitId : String)
    (store : Store) : Prop :=
  ∃ version, store.versions.lookup key = some version ∧
    version.publication = (some artifactId, some commitId)

structure PublicationImmutable (calls : List Call) : Prop where
  facts : ∀ key artifactId commitId, Permanent perform (Publishes key artifactId commitId) {} calls
  artifact : ∀ artifactId artifact,
    Permanent perform (fun store => store.parsedArtifacts.lookup artifactId = some artifact) {}
      calls
  terminal : ∀ operationId state, Terminal (some state) →
    Permanent perform (fun store => stateOf operationId store = some state) {} calls

/-- The guarded steps that start from a published version or from a terminal operation. -/
inductive Unsettles (store : Store) : Call → Prop
  | claim (identity : IngestionOperationIdentity) (attempt : ParserAttemptIdentity)
      (expectedState : IngestionOperationState) (expectedStateVersion expectedFence : Int)
      (current claimed : IngestionOperationRecord) (ended : Terminal (some expectedState))
      (admitted : ClaimAdmitted store identity attempt expectedState expectedStateVersion
        expectedFence current)
      (moved : current.advance .parseDispatchStarted (some attempt)
        (remember current.rememberCurrent attempt) = .ok claimed) :
      Unsettles store
        (.claimParseDispatch identity attempt expectedState expectedStateVersion expectedFence)
  | revive (decision : CandidateValidationDecision) (guard : IngestionActivationGuard)
      (proposal : IngestionActivationProposal) (document : DocumentHeadSnapshot)
      (version : DocumentVersionLifecycleRecord) (operation : IngestionOperationRecord)
      (ended : guard.expectedOperationState = .failed ∨ guard.expectedOperationState = .quarantined)
      (admitted : CommitAdmitted store decision guard proposal document version operation) :
      Unsettles store (.commit decision guard)
  | republish (decision : CandidateValidationDecision) (guard : IngestionActivationGuard)
      (proposal : IngestionActivationProposal) (document : DocumentHeadSnapshot)
      (version : DocumentVersionLifecycleRecord) (operation : IngestionOperationRecord)
      (artifactId commitId : String)
      (carried : version.publication = (some artifactId, some commitId))
      (admitted : CommitAdmitted store decision guard proposal document version operation) :
      Unsettles store (.commit decision guard)

/-- Every activation is signed with a head version that the document has reached. -/
def Signed (store : Store) : Prop :=
  ∀ key version signature, store.versions.lookup key = some version →
    version.activationCommitId = some signature →
    ∃ document operationId number,
      store.document? version.definition.identity.document = some document ∧
      signature = "activate:" ++ operationId ++ ":" ++ toString number ∧
      number ≤ document.stateVersion

theorem signature_number {first second : String} {number other : Nat}
    (same : "activate:" ++ first ++ ":" ++ toString number =
      "activate:" ++ second ++ ":" ++ toString other) : number = other := by
  have texts := congrArg String.toList same
  simp only [String.toList_append, List.append_assoc] at texts
  rw [← List.append_assoc, ← List.append_assoc (String.toList "activate:")] at texts
  obtain ⟨_, numbers⟩ := append_cons_inj_of_notMem_right ':' _ _
    (notMem_toString ':' number (by decide)) (notMem_toString ':' other (by decide)) texts
  exact toString_injective (String.toList_inj.mp numbers)

theorem signed_change {store after : Store} {call : Call} (change : Change store call after)
    (signed : Signed store) : Signed after := by
  intro key version signature found carries
  have carried : ∀ current, store.versions.lookup key = some current →
      version.definition = current.definition →
      version.activationCommitId = current.activationCommitId →
      ∃ document operationId number,
        after.document? version.definition.identity.document = some document ∧
        signature = "activate:" ++ operationId ++ ":" ++ toString number ∧
        number ≤ document.stateVersion := by
    intro current held definition same
    rcases signed key current signature held (same ▸ carries) with
      ⟨document, operationId, number, head, text, bounded⟩
    rcases document_stays change _ document head with ⟨next, placed, grown⟩
    rw [definition]
    exact ⟨next, operationId, number, placed, text, bounded.trans grown⟩
  rcases version_after change key with
    same | ⟨_, _, _, _, _, _, placed⟩ |
      ⟨current, _, held, placed, kept, publication, _⟩ |
      ⟨_, _, proposal, document, current, _, _, rfl, admitted, _, held,
        placed, kept, _, publication⟩
  · exact carried version (same ▸ found) rfl rfl
  · cases Option.some.inj (placed.symm.trans found)
    cases carries
  · cases Option.some.inj (placed.symm.trans found)
    exact carried current held kept (congrArg Prod.snd publication)
  · cases Option.some.inj (placed.symm.trans found)
    have text : version.activationCommitId = some (commitId proposal.operation document) :=
      congrArg Prod.snd publication
    rw [carries] at text
    have owner : version.definition.identity.document = proposal.operation.version.document := by
      rw [kept, admitted.bindings.2.1]
    cases change with
    | activation _ _ _ _ committedDocument _ _ _ _ _ passed _ _ document_moved =>
      cases Option.some.inj (admitted.proposed.symm.trans passed.proposed)
      cases Option.some.inj (admitted.document_found.symm.trans passed.document_found)
      refine ⟨committedDocument, proposal.operation.operationId, document.stateVersion + 1, ?_,
        Option.some.inj text, ?_⟩
      · rw [document?_publish, owner, if_pos rfl]
      · rw [(DocumentHeadSnapshot.advance_ok document_moved).2.2.2.1]
    | move _ _ _ _ _ _ _ _ _ moves => simp [Call.move] at moves

structure PublicationSound (store : Store) : Prop where
  integrity : PointerIntegrity store
  signed : Signed store

theorem publicationSound_perform (store : Store) (call : Call) (legal : Legal sha256 call)
    (sound : PublicationSound store) : PublicationSound (perform call store).2 := by
  rcases perform_step store call legal with quiet | moves
  · rw [quiet.2]; exact sound
  · exact ⟨pointerIntegrity_change moves.2 sound.integrity, signed_change moves.2 sound.signed⟩

theorem publicationSound_empty : PublicationSound {} where
  integrity := pointerIntegrity_empty
  signed := by intro key version signature found; simp at found

section Steps

variable {store : Store} {call : Call}

variable {artifactId : String}

theorem publishes_perform (legal : Legal sha256 call) (settled : ¬ Unsettles store call)
    {key : String × String × String} {signature : String}
    (held : Publishes key artifactId signature store) :
    Publishes key artifactId signature (perform call store).2 := by
  rcases held with ⟨version, found, publication⟩
  rcases perform_step store call legal with quiet | moves
  · rw [quiet.2]; exact ⟨version, found, publication⟩
  rcases version_after moves.2 key with
    same | ⟨_, _, _, _, _, absent, _⟩ | ⟨_, next, here, placed, _, kept, _⟩ |
      ⟨decision, guard, proposal, document, _, operation, next, rfl, admitted, _, here, _⟩
  · exact ⟨version, same.trans found, publication⟩
  · rw [found] at absent; cases absent
  · cases Option.some.inj (here.symm.trans found)
    exact ⟨next, placed, kept.trans publication⟩
  · cases Option.some.inj (here.symm.trans found)
    exact absurd (.republish decision guard proposal document version operation artifactId
      signature publication admitted) settled

theorem terminal_perform (legal : Legal sha256 call) (settled : ¬ Unsettles store call)
    {operationId : String} {state : IngestionOperationState} (ended : Terminal (some state))
    (held : stateOf operationId store = some state) :
    stateOf operationId (perform call store).2 = some state := by
  rcases state_perform store call legal operationId with
    same | ⟨absent, _⟩ | ⟨_, before, _, found, placed, edge⟩
  · exact same.trans held
  · rw [held] at absent; cases absent
  have named : before = state := Option.some.inj (found.symm.trans held)
  subst named
  cases edge with
  | claim identity attempt _ version fence current claimed _ admitted moved =>
    exact absurd (.claim identity attempt _ version fence current claimed ended admitted moved)
      settled
  | ready | pend | reconcile | quarantine => simp [Terminal] at ended
  | complete decision guard proposal document version operation _ admitted =>
    rcases ended with same | same | same
    · rw [placed, same]
    · exact absurd (.revive decision guard proposal document version operation
        (.inl (Option.some.inj same)) admitted) settled
    · exact absurd (.revive decision guard proposal document version operation
        (.inr (Option.some.inj same)) admitted) settled

theorem artifact_perform (legal : Legal sha256 call) {artifact : ParsedArtifactDefinition}
    (held : store.parsedArtifacts.lookup artifactId = some artifact) :
    (perform call store).2.parsedArtifacts.lookup artifactId = some artifact := by
  rcases perform_step store call legal with quiet | moves
  · rw [quiet.2]; exact held
  · exact artifact_after moves.2 artifactId artifact held

theorem commit_replaces (sound : PublicationSound store) {decision : CandidateValidationDecision}
    {guard : IngestionActivationGuard} {proposal : IngestionActivationProposal}
    {document : DocumentHeadSnapshot} {version : DocumentVersionLifecycleRecord}
    {operation : IngestionOperationRecord} (validated : Validated sha256 decision)
    (admitted : CommitAdmitted store decision guard proposal document version operation) :
    stateOf proposal.operation.operationId (perform (.commit decision guard) store).2 =
        some .completed ∧ ∃ next, (perform (.commit decision guard) store).2.versions.lookup
          (versionKey proposal.operation.version) = some next ∧
        next.publication = (some proposal.parsedArtifact.parsedArtifactId,
          some (commitId proposal.operation document)) := by
  rcases supersede_succeeds sound.integrity admitted.document_found with ⟨_, superseding⟩
  rcases activate_succeeds validated admitted superseding with
    ⟨_, committedVersion, _, _, _, _, _, published, completed, performed, _⟩
  rcases DocumentVersionLifecycleRecord.advance_ok published with ⟨_, _, artifact, signature, _⟩
  rw [performed]
  refine ⟨?_, committedVersion, ?_, ?_⟩
  · rw [stateOf, operation?_publish, if_pos rfl, Option.map_some, (advance_ok completed).2.1]
  · rw [versions_publish, if_pos rfl]
  · rw [DocumentVersionLifecycleRecord.publication, artifact, signature]

/-- Every unsettling step really loses a fact that was to stay. -/
theorem unsettles_loses (sound : PublicationSound store) (legal : Legal sha256 call)
    (unsettles : Unsettles store call) :
    (∃ key artifactId signature, Publishes key artifactId signature store ∧
        ¬ Publishes key artifactId signature (perform call store).2) ∨
      ∃ operationId state, Terminal (some state) ∧ stateOf operationId store = some state ∧
        stateOf operationId (perform call store).2 ≠ some state := by
  cases unsettles with
  | claim identity attempt expectedState version fence _ _ ended admitted moved =>
    refine .inr ⟨identity.operationId, expectedState, ended, ?_, ?_⟩
    · rw [stateOf, admitted.found, Option.map_some, admitted.state_eq]
    · have placed : stateOf identity.operationId
          (perform (.claimParseDispatch identity attempt expectedState version fence)
            store).2 = some .parseDispatchStarted := by
        simp [perform, claim_of_admitted admitted moved, stateOf, operation?_putOperation,
          (advance_ok moved).2.1]
      rw [placed]
      rintro ⟨rfl⟩
      simp [Terminal] at ended
  | revive _ _ proposal _ _ operation ended admitted =>
    refine .inr ⟨proposal.operation.operationId, operation.state, ?_, ?_, ?_⟩
    · rw [admitted.operation_guard.1]
      rcases ended with same | same <;> simp [Terminal, same]
    · rw [stateOf, admitted.operation_found, Option.map_some]
    · rw [(commit_replaces sound legal admitted).1, admitted.operation_guard.1]
      rcases ended with same | same <;> simp [same]
  | republish _ _ proposal document version _ artifactId signature carried admitted =>
      refine .inl ⟨versionKey proposal.operation.version, artifactId, signature,
        ⟨version, admitted.version_found, carried⟩, ?_⟩
      rintro ⟨_, placed, kept⟩
      rcases (commit_replaces sound legal admitted).2 with ⟨_, put, renewed⟩
      cases Option.some.inj (placed.symm.trans put)
      -- The old signature names a head version below the one this commit signs with.
      rcases sound.signed _ version
        signature admitted.version_found (congrArg Prod.snd carried) with
        ⟨_, _, _, located, text, _⟩
      rw [admitted.bindings.2.1] at located
      cases Option.some.inj (located.symm.trans admitted.document_found)
      have same : signature = commitId proposal.operation document :=
        Option.some.inj (congrArg Prod.snd (kept.symm.trans renewed))
      rw [text] at same
      have := signature_number same
      omega

end Steps

/-- Publication is immutable over a run exactly when no step of the run unsettles it. -/
theorem publication_immutable_iff (calls : List Call) (legal : ∀ call ∈ calls, Legal sha256 call) :
    PublicationImmutable calls ↔ ∀ e ∈ trace perform {} calls, ¬ Unsettles e.before e.call := by
  have reached : ∀ e ∈ trace perform {} calls, Legal sha256 e.call ∧ PublicationSound e.before :=
    fun e member => invariant_trace perform PublicationSound (Legal sha256)
      publicationSound_perform {} calls legal publicationSound_empty e member
  constructor
  · intro immutable e member unsettles
    rcases reached e member with ⟨admissible, sound⟩
    have after := (mem_trace_performed member).2
    rcases unsettles_loses sound admissible unsettles with
      ⟨key, artifactId, signature, held, lost⟩ | ⟨operationId, state, ended, held, lost⟩
    · have kept := (permanent_iff perform _ _ _).mp (immutable.facts key artifactId signature) e
        member held
      rw [after] at kept
      exact lost kept
    · have kept := (permanent_iff perform _ _ _).mp (immutable.terminal operationId state ended) e
        member held
      rw [after] at kept
      exact lost kept
  · intro settled
    refine ⟨?_, ?_, ?_⟩
    · intro key artifactId signature
      rw [permanent_iff]
      intro e member held
      rw [(mem_trace_performed member).2]
      exact publishes_perform (reached e member).1 (settled e member) held
    · intro artifactId artifact
      rw [permanent_iff]
      intro e member held
      rw [(mem_trace_performed member).2]
      exact artifact_perform (reached e member).1 held
    · intro operationId state ended
      rw [permanent_iff]
      intro e member held
      rw [(mem_trace_performed member).2]
      exact terminal_perform (reached e member).1 (settled e member) ended held

/-- A ready decision about the sample report. -/
def sampleDecision (text : String)
    (filled : requireNonEmpty [(Sample.attempt 1).operationId, (Sample.attempt 1).idempotencyKey,
      (Sample.attempt 1).parserRequestId, sha256Text digest text] = true :=
        by exact Eq.refl true) :
    CandidateValidationDecision :=
  ParsedCandidateValidator.evaluate digest Sample.operation Sample.version source
    (Sample.attempt 1) (candidate (Sample.attempt 1) text filled)

/-- A commit, and a second one whose guard names the active version and completed operation. -/
def republishing : List Call :=
  [.registerIntake Sample.operation Sample.version source,
    .claimParseDispatch Sample.operation (Sample.attempt 1) .readyForDispatch 0 0,
    .commit (sampleDecision "controlled evidence")
      { expectedDocumentState := .registered, expectedActiveVersionId := none
        expectedDocumentStateVersion := 0, expectedDocumentFence := 0
        expectedVersionState := .registered, expectedVersionStateVersion := 0
        expectedVersionFence := 0, expectedOperationState := .parseDispatchStarted
        expectedOperationStateVersion := 1, expectedOperationFence := 1 },
    .commit (sampleDecision "revised evidence")
      { expectedDocumentState := .active, expectedActiveVersionId := some "report-42-v2"
        expectedDocumentStateVersion := 1, expectedDocumentFence := 1
        expectedVersionState := .active, expectedVersionStateVersion := 1
        expectedVersionFence := 1, expectedOperationState := .completed
        expectedOperationStateVersion := 2, expectedOperationFence := 2 }]

theorem republishing_legal : ∀ call ∈ republishing, Legal digest call := by
  intro call member
  simp only [republishing, List.mem_cons, List.not_mem_nil, or_false] at member
  rcases member with rfl | rfl | rfl | rfl
  · trivial
  · trivial
  · exact ⟨_, _, _, _, _, rfl⟩
  · exact ⟨_, _, _, _, _, rfl⟩

theorem republishing_rewrites_facts : ¬ PublicationImmutable republishing := by
  intro immutable
  let key := versionKey Sample.operation.version
  let artifactId := (ParsedCandidateValidator.parsedArtifact digest Sample.operation
    (candidate (Sample.attempt 1) "controlled evidence")).parsedArtifactId
  have before : ((final perform {} (republishing.take 3)).versions.lookup key).map
      (·.publication) = some (some artifactId, some "activate:op-ingest-report-42-v2:1") := by
    decide
  have after : ((final perform {} (republishing.take 3 ++ republishing.drop 3)).versions.lookup
      key).map (·.activationCommitId) = some (some "activate:op-ingest-report-42-v2:2") := by
    decide
  rcases immutable.facts key artifactId
    "activate:op-ingest-report-42-v2:1" (republishing.take 3) (republishing.drop 3) [] rfl
    (Option.map_eq_some_iff.mp before) with ⟨_, placed, kept⟩
  rw [placed] at after
  have signatures := (congrArg Prod.snd kept).symm.trans (Option.some.inj after)
  exact absurd signatures (by decide)

theorem publication_immutable_iff_republishing : PublicationImmutable republishing ↔
      ∀ e ∈ trace perform {} republishing, ¬ Unsettles e.before e.call :=
  publication_immutable_iff _ republishing_legal

end BackendHandbook.Ingestion
