import BackendHandbook.Ingestion.ActivePointer

/-! The outbox of the ingestion committer: which intent a durable transition records, and
when the guarded insertion drops it.

An intent is stored under a text built from the transition. `EventKey` is what the text
says; only the transitions whose text can return are in `Repeats`. -/

namespace BackendHandbook.Ingestion

open Text InMemoryIngestionLifecycleStore IngestionCommitter Run

inductive EventKey
  | registered (operationId : String)
  | retryReady (operationId : String) (stateVersion : Nat)
  | reconcile (operationId : String)
  | reconciled (target : IngestionOperationState) (operationId : String)
  | quarantined (operationId : String)
  | tombstoned (tenantId documentId : String) (stateVersion : Nat)
  | active (operationId : String)

namespace EventKey

def label : EventKey → String
  | registered _ => "ingestion-registered"
  | retryReady .. => "ingestion-retry-ready"
  | reconcile _ => "ingestion-reconcile"
  | reconciled target _ => lower (reconciliationEventType target)
  | quarantined _ => "ingestion-quarantined"
  | tombstoned .. => "document-tombstoned"
  | active _ => "document-version-active"

def body : EventKey → String
  | registered operationId | reconcile operationId | reconciled _ operationId
  | quarantined operationId | active operationId => operationId
  | retryReady operationId stateVersion => operationId ++ ":" ++ toString stateVersion
  | tombstoned tenantId documentId stateVersion =>
    tenantId ++ ":" ++ documentId ++ ":" ++ toString stateVersion

def render (key : EventKey) : String := key.label ++ ":" ++ key.body

theorem retryReady_render (operationId : String) (stateVersion : Nat) :
    (retryReady operationId stateVersion).render =
      "ingestion-retry-ready:" ++ operationId ++ ":" ++ toString stateVersion := by
  show "ingestion-retry-ready:" ++ (operationId ++ ":" ++ toString stateVersion) = _
  simp [String.append_assoc]

theorem tombstoned_render (tenantId documentId : String) (stateVersion : Nat) :
    (tombstoned tenantId documentId stateVersion).render =
      "document-tombstoned:" ++ tenantId ++ ":" ++ documentId ++ ":" ++ toString stateVersion := by
  show "document-tombstoned:" ++ (tenantId ++ ":" ++ documentId ++ ":" ++ toString stateVersion) = _
  simp [String.append_assoc]

theorem reconciled_label (target : IngestionOperationState) (operationId : String) :
    (reconciled target operationId).label = "ingestion_proven_not_executed" ∨
      (reconciled target operationId).label = "ingestion_authoritative_failure" := by
  simp only [label, reconciliationEventType]
  split
  · decide
  · decide

theorem label_clean (key : EventKey) : ':' ∉ key.label.toList := by
  cases key with
  | reconciled target operationId =>
    rcases reconciled_label target operationId with same | same <;> rw [same] <;> decide
  | _ => simp only [label]; decide

theorem render_toList (key : EventKey) :
    key.render.toList = key.label.toList ++ ':' :: key.body.toList := by
  simp [render]

theorem render_inj {key other : EventKey} (same : key.render = other.render) :
    key.label = other.label ∧ key.body = other.body := by
  have texts := congrArg String.toList same
  rw [render_toList, render_toList] at texts
  rcases append_cons_inj_of_notMem_left ':' _ _ (label_clean key)
    (label_clean other) texts with ⟨labels, bodies⟩
  exact ⟨String.toList_inj.mp labels, String.toList_inj.mp bodies⟩

variable {key : EventKey} {operationId : String}

theorem render_registered
    (same : key.render = (registered operationId).render) : key = registered operationId := by
  rcases render_inj same with ⟨labels, bodies⟩
  cases key with
  | registered other => rw [show other = operationId from bodies]
  | reconciled target other =>
    rcases reconciled_label target other with named | named <;> rw [named] at labels <;>
      exact absurd labels (by simp only [label]; decide)
  | _ => exact absurd labels (by simp only [label]; decide)

theorem render_quarantined
    (same : key.render = (quarantined operationId).render) : key = quarantined operationId := by
  rcases render_inj same with ⟨labels, bodies⟩
  cases key with
  | quarantined other => rw [show other = operationId from bodies]
  | reconciled target other =>
    rcases reconciled_label target other with named | named <;> rw [named] at labels <;>
      exact absurd labels (by simp only [label]; decide)
  | _ => exact absurd labels (by simp only [label]; decide)

theorem render_retryReady {stateVersion : Nat}
    (same : key.render = (retryReady operationId stateVersion).render) :
    key = retryReady operationId stateVersion := by
  rcases render_inj same with ⟨labels, bodies⟩
  cases key with
  | retryReady _ number =>
    have texts := congrArg String.toList bodies
    simp only [body, String.toList_append, List.append_assoc] at texts
    obtain ⟨operations, numbers⟩ := append_cons_inj_of_notMem_right ':' _ _
      (notMem_toString ':' number (by decide)) (notMem_toString ':' stateVersion (by decide))
      texts
    rw [String.toList_inj.mp operations, toString_injective (String.toList_inj.mp numbers)]
  | reconciled target other =>
    rcases reconciled_label target other with named | named <;> rw [named] at labels <;>
      exact absurd labels (by simp only [label]; decide)
  | _ => exact absurd labels (by simp only [label]; decide)

end EventKey

inductive Emits (store : Store) : Call → EventKey → Prop
  | registered (operation : IngestionOperationIdentity) (version : DocumentVersionDefinition)
      (source : SourceArtifactReference)
      (absent : store.operation? operation.operationId = none) :
      Emits store (.registerIntake operation version source) (.registered operation.operationId)
  | retryReady (identity : IngestionOperationIdentity) (expectedStateVersion expectedFence : Int)
      (current : IngestionOperationRecord)
      (admitted : MoveAdmitted store identity .provenNotExecuted expectedStateVersion
        expectedFence current) :
      Emits store
        (.prepareProvenNotExecutedRetry identity expectedStateVersion expectedFence)
        (.retryReady identity.operationId (current.stateVersion + 1))
  | reconcile (identity : IngestionOperationIdentity) (expectedStateVersion expectedFence : Int)
      (current : IngestionOperationRecord)
      (admitted : MoveAdmitted store identity .parseDispatchStarted expectedStateVersion
        expectedFence current) :
      Emits store (.markPendingReconciliation identity expectedStateVersion expectedFence)
        (.reconcile identity.operationId)
  | reconciled (identity : IngestionOperationIdentity) (target : IngestionOperationState)
      (expectedStateVersion expectedFence : Int) (current : IngestionOperationRecord)
      (supported : target = .failed ∨ target = .provenNotExecuted)
      (admitted : MoveAdmitted store identity .pendingReconciliation expectedStateVersion
        expectedFence current) :
      Emits store
        (.commitAuthoritativeReconciliation identity target expectedStateVersion expectedFence)
        (.reconciled target identity.operationId)
  | quarantined (identity : IngestionOperationIdentity)
      (expectedStateVersion expectedFence : Int) (current : IngestionOperationRecord)
      (version : DocumentVersionLifecycleRecord)
      (admitted : MoveAdmitted store identity .parseDispatchStarted expectedStateVersion
        expectedFence current)
      (version_found : store.version? identity.version = some version)
      (registered : version.state = .registered) :
      Emits store (.markQuarantined identity expectedStateVersion expectedFence)
        (.quarantined identity.operationId)
  | tombstoned (identity : DocumentIdentity) (expectedState : DocumentHeadState)
      (expectedStateVersion expectedFence : Int) (document : DocumentHeadSnapshot)
      (found : store.document? identity = some document)
      (living : document.state ≠ .tombstoned)
      (guards : document.state = expectedState ∧
        (document.stateVersion : Int) = expectedStateVersion ∧
        (document.fenceToken : Int) = expectedFence) :
      Emits store
        (.tombstoneDocument identity expectedState expectedStateVersion expectedFence)
        (.tombstoned identity.tenantId identity.documentId (document.stateVersion + 1))
  | active (decision : CandidateValidationDecision) (guard : IngestionActivationGuard)
      (proposal : IngestionActivationProposal) (document : DocumentHeadSnapshot)
      (version : DocumentVersionLifecycleRecord) (operation : IngestionOperationRecord)
      (admitted : CommitAdmitted store decision guard proposal document version operation) :
      Emits store (.commit decision guard) (.active proposal.operation.operationId)

/-- The store facts that keep the text of an intent from coming back. -/
def Justified (store : Store) : EventKey → Prop
  | .registered operationId => ∃ record, store.operation? operationId = some record
  | .retryReady operationId stateVersion => ∃ record,
      store.operation? operationId = some record ∧ stateVersion ≤ record.stateVersion
  | .quarantined operationId => ∃ record version, store.operation? operationId = some record ∧
      store.version? record.identity.version = some version ∧ version.state ≠ .registered
  | _ => True

def Accounted (store : Store) : Prop :=
  ∀ eventId, (store.outbox.lookup eventId).isSome = true →
    ∃ key : EventKey, key.render = eventId ∧ Justified store key

/-- The transitions whose intent can already be stored: they read no fact of their own. -/
def EventKey.recurring : EventKey → Bool
  | .registered _ | .retryReady .. | .quarantined _ => false
  | .reconcile _ | .reconciled .. | .tombstoned .. | .active _ => true

/-- A guarded transition to a state whose intent an earlier transition already stored. -/
def Repeats (store : Store) (call : Call) : Prop :=
  ∃ key, Emits store call key ∧ key.recurring = true ∧
    (store.outbox.lookup key.render).isSome = true

theorem fresh_of_not_repeats {store : Store} {call : Call} {key : EventKey}
    (accounted : Accounted store) (emits : Emits store call key)
    (steady : ¬ Repeats store call) : store.outbox.lookup key.render = none := by
  by_contra held
  have present : (store.outbox.lookup key.render).isSome = true :=
    Option.isSome_iff_ne_none.mpr held
  rcases accounted _ present with ⟨_, same, justified⟩
  cases emits with
  | registered _ _ _ absent =>
    rw [EventKey.render_registered same] at justified
    rcases justified with ⟨record, found⟩
    rw [absent] at found
    cases found
  | retryReady _ _ _ _ admitted =>
    rw [EventKey.render_retryReady same] at justified
    rcases justified with ⟨record, found, _⟩
    cases Option.some.inj (found.symm.trans admitted.found)
    omega
  | quarantined _ _ _ _ _ admitted version_found registered =>
    rw [EventKey.render_quarantined same] at justified
    rcases justified with ⟨operation, _, found, located, state⟩
    cases Option.some.inj (found.symm.trans admitted.found)
    rw [admitted.identity_eq] at located
    cases Option.some.inj (located.symm.trans version_found)
    exact state registered
  | reconcile _ _ _ current admitted =>
    exact steady ⟨_, .reconcile _ _ _ current admitted, rfl, present⟩
  | reconciled _ _ _ _ current supported admitted =>
    exact steady ⟨_, .reconciled _ _ _ _ current supported admitted, rfl, present⟩
  | tombstoned _ _ _ _ document found living guards =>
    exact steady ⟨_, .tombstoned _ _ _ _ document found living guards, rfl, present⟩
  | active _ _ proposal document version operation admitted =>
    exact steady ⟨_, .active _ _ proposal document version operation admitted, rfl, present⟩

def Call.ofCommitter : Call → Bool
  | .claimParseDispatch .. | .readDocument _ | .readVersion _ | .readOperation _ => false
  | _ => true

theorem outbox_move {store : Store} {call : Call} {identity : IngestionOperationIdentity}
    {source target : IngestionOperationState} {expectedStateVersion expectedFence : Int}
    {current next : IngestionOperationRecord} {history : List ParserAttemptIdentity}
    (moves : call.move = some (identity, source, target, expectedStateVersion, expectedFence))
    (admitted : MoveAdmitted store identity source expectedStateVersion expectedFence current)
    (moved : current.advance target current.attempt history = .ok next) :
    call.ofCommitter = true ∧ ∃ key, Emits store call key ∧
      (call.moveEvent identity next).eventId = key.render ∧
      ∀ after : Store, after.operation? identity.operationId = some next → Justified after key := by
  have number := (IngestionOperationRecord.advance_ok moved).2.2.1
  unfold Call.move at moves
  split at moves
  · cases moves
    refine ⟨rfl, _, .retryReady _ _ _ current admitted, ?_, ?_⟩
    · rw [EventKey.retryReady_render, ← number]; rfl
    · intro after found
      exact ⟨next, found, by rw [number]⟩
  · cases moves
    exact ⟨rfl, _, .reconcile _ _ _ current admitted, rfl, fun _ _ => trivial⟩
  · split_ifs at moves with supported
    cases moves
    exact ⟨rfl, _, .reconciled _ _ _ _ current supported admitted, rfl, fun _ _ => trivial⟩
  · cases moves

variable {store after : Store} {call : Call}

theorem outbox_after (change : Change store call after) :
    (call.ofCommitter = false ∧ after.outbox = store.outbox) ∨
      call.ofCommitter = true ∧ ∃ key event, Emits store call key ∧ Justified after key ∧
        event.eventId = key.render ∧
        after.outbox = store.outbox.setdefault event.eventId event := by
  cases change with
  | claim => exact .inl ⟨rfl, rfl⟩
  | intake operation version source _ newOperation =>
    exact .inr ⟨rfl, .registered operation.operationId, operationEvent operation
      ("ingestion-registered:" ++ operation.operationId) "INGESTION_REGISTERED",
      .registered operation version source newOperation,
      ⟨readyOperation operation, by simp [registerFacts, operation?]⟩, rfl, rfl⟩
  | move call identity _ _ _ _ _ next _ moves admitted _ moved =>
      rcases outbox_move moves admitted moved with ⟨committer, key, emits, named, justified⟩
      exact .inr ⟨committer, key, call.moveEvent identity next, emits,
        justified _ (by rw [operation?_emit, operation?_putOperation, if_pos rfl]), named, rfl⟩
  | quarantine identity version fence current quarantined record isolated admitted moved
      version_found registered demoted =>
      refine .inr ⟨rfl, .quarantined identity.operationId, _,
        .quarantined identity version fence current record admitted version_found registered,
        ⟨quarantined, isolated, ?_, ?_, ?_⟩, rfl, rfl⟩
      · rw [operation?_emit, operation?_putVersion, operation?_putOperation, if_pos rfl]
      · rw [(IngestionOperationRecord.advance_ok moved).1, admitted.identity_eq]
        simp [version?, lookup_putVersion]
      · rw [(DocumentVersionLifecycleRecord.advance_ok demoted).2.1]
        decide
  | tombstone owner state version fence document tombstoned activeVersion _ found living
      guards retiring moved =>
      refine .inr ⟨rfl, .tombstoned owner.tenantId owner.documentId (document.stateVersion + 1),
        tombstoneEvent owner tombstoned activeVersion,
        .tombstoned owner state version fence document found living guards, trivial, ?_, ?_⟩
      · rw [← (DocumentHeadSnapshot.advance_ok moved).2.2.2.1]
        rfl
      · rw [outbox_emit, outbox_putDocument, retired_eq retiring]
  | activation decision guard proposal document _ version _ operation _ _ admitted superseding =>
      refine .inr ⟨rfl, .active proposal.operation.operationId,
        operationEvent proposal.operation
          ("document-version-active:" ++ proposal.operation.operationId)
          "DOCUMENT_VERSION_ACTIVATED",
        .active decision guard proposal document version operation admitted, trivial, rfl, ?_⟩
      rw [superseded_eq superseding]
      rfl

theorem justified_change (change : Change store call after)
    (key : EventKey) (justified : Justified store key) : Justified after key := by
  cases key with
  | registered operationId =>
    rcases justified with ⟨record, found⟩
    rcases operation_stays change operationId record found with ⟨next, placed, _⟩
    exact ⟨next, placed⟩
  | retryReady operationId =>
    rcases justified with ⟨record, found, bounded⟩
    rcases operation_after change operationId with
      same | ⟨_, _, _, _, _, absent, _⟩ | ⟨current, next, held, placed, _, _, _⟩
    · exact ⟨record, same.trans found, bounded⟩
    · rw [found] at absent; cases absent
    · cases Option.some.inj (held.symm.trans found)
      exact ⟨next, placed, by omega⟩
  | quarantined operationId =>
    rcases justified with ⟨record, version, found, located, state⟩
    rcases operation_stays change operationId record found with ⟨next, placed, kept⟩
    refine ⟨next, ?_⟩
    rw [kept]
    rcases version_after change (versionKey record.identity.version) with
      same | ⟨_, _, _, _, _, absent, _⟩ | ⟨_, moved, _, put, _, _, demoted⟩ |
        ⟨_, _, _, _, _, _, moved, _, _, _, _, put, _, active, _⟩
    · exact ⟨version, placed, same.trans located, state⟩
    · rw [show store.versions.lookup _ = some version from located] at absent
      cases absent
    · exact ⟨moved, placed, put, demoted.not_registered⟩
    · exact ⟨moved, placed, put, by rw [active]; decide⟩
  | reconcile | reconciled | tombstoned | active => trivial

theorem accounted_change (change : Change store call after)
    (accounted : Accounted store) : Accounted after := by
  intro eventId held
  have carried : (store.outbox.lookup eventId).isSome = true →
      ∃ key : EventKey, key.render = eventId ∧ Justified after key := by
    intro before
    rcases accounted eventId before with ⟨key, same, justified⟩
    exact ⟨key, same, justified_change change key justified⟩
  rcases outbox_after change with ⟨_, same⟩ | ⟨_, key, _, _, justified, named, placed⟩
  · rw [same] at held; exact carried held
  · rw [placed, Dict.lookup_setdefault] at held
    split_ifs at held with same
    · exact ⟨key, (same.trans named).symm, justified⟩
    · exact carried held

section Reachable

variable {sha256 : String → String}
variable {store : Store} {call : Call}

variable {key : EventKey}

/-- A guarded transition of a recurring kind is always made. -/
theorem emits_durable (integrity : PointerIntegrity store) (legal : Legal sha256 call)
    (emits : Emits store call key) (recurring : key.recurring = true) :
    durable call (perform call store).1 = true := by
  cases emits with
  | registered | retryReady | quarantined => cases recurring
  | reconcile _ _ _ current admitted =>
    obtain ⟨next, moved⟩ := current.advance_succeeds .pendingReconciliation
      (fun _ => current.attempt_of_required (by rw [admitted.state_eq]; rfl))
    simp only [perform, markPendingReconciliation]
    rw [transition_of_admitted admitted (by decide) rfl moved]
    rfl
  | reconciled _ target _ _ current supported admitted =>
    obtain ⟨_, moved⟩ := current.advance_succeeds target
      (fun required => by rcases supported with rfl | rfl <;> cases required)
    have routed : ¬ (target ≠ .failed ∧ target ≠ .provenNotExecuted) := by
      rcases supported with rfl | rfl <;> simp
    simp only [perform, commitAuthoritativeReconciliation, if_neg routed]
    rw [transition_of_admitted admitted (by rcases supported with rfl | rfl <;> decide) rfl
      moved]
    rfl
  | tombstoned _ _ _ _ document found living guards =>
    rcases retire_succeeds integrity found with ⟨_, _, retiring⟩
    obtain ⟨_, moved⟩ := document.advance_succeeds .tombstoned none (by decide)
    rcases guards with ⟨states, versions, fences⟩
    rw [states] at living
    simp [perform, tombstoneDocument, found, states, living, versions, fences, retiring,
      moved, durable]
  | active _ _ _ _ _ _ admitted =>
    rcases supersede_succeeds integrity admitted.document_found with ⟨_, superseding⟩
    rcases activate_succeeds legal admitted superseding with
      ⟨_, _, _, _, _, moved, _, _, _, performed, _⟩
    rw [performed]
    exact moved

theorem Emits.ofCommitter (emits : Emits store call key) : call.ofCommitter = true := by
  cases emits <;> rfl

theorem emits_unique {other : EventKey}
    (first : Emits store call key) (second : Emits store call other) : key = other := by
  cases first with
  | registered | reconcile | reconciled | quarantined => cases second; rfl
  | retryReady _ _ _ _ admitted =>
    cases second with
    | retryReady _ _ _ _ passed =>
      rw [Option.some.inj (admitted.found.symm.trans passed.found)]
  | tombstoned _ _ _ _ _ found =>
    cases second with
    | tombstoned _ _ _ _ _ located =>
      rw [Option.some.inj (found.symm.trans located)]
  | active _ _ _ _ _ _ admitted =>
    cases second with
    | active _ _ _ _ _ _ passed =>
      rw [Option.some.inj (admitted.proposed.symm.trans passed.proposed)]

structure OutboxSound (store : Store) : Prop where
  integrity : PointerIntegrity store
  accounted : Accounted store

theorem outboxSound_perform (store : Store) (call : Call) (legal : Legal sha256 call)
    (sound : OutboxSound store) : OutboxSound (perform call store).2 := by
  rcases perform_step store call legal with quiet | moves
  · rw [quiet.2]; exact sound
  · exact ⟨pointerIntegrity_change moves.2 sound.integrity,
      accounted_change moves.2 sound.accounted⟩

theorem outboxSound_empty : OutboxSound {} where
  integrity := pointerIntegrity_empty
  accounted := by intro eventId held; simp at held

/-- The intents of a run are its durable committer transitions, one for one. -/
structure OutboxComplete (calls : List Call) : Prop where
  adds : ∀ e ∈ trace perform {} calls, e.call.ofCommitter = true →
    durable e.call e.response = true → ∃ intent : IngestionLifecycleOutboxIntent,
      e.before.outbox.lookup intent.eventId = none ∧
      e.after.outbox = e.before.outbox.insert intent.eventId intent
  quiet : ∀ e ∈ trace perform {} calls, e.call.ofCommitter = true →
    durable e.call e.response = false → e.after.outbox = e.before.outbox
  count : (final perform {} calls).outbox.size =
    (trace perform {} calls).countP fun e => e.call.ofCommitter && durable e.call e.response

theorem outbox_step (legal : Legal sha256 call)
    (sound : OutboxSound store) (steady : ¬ Repeats store call) :
    ((call.ofCommitter && durable call (perform call store).1) = false ∧
        (perform call store).2.outbox = store.outbox) ∨
      (call.ofCommitter && durable call (perform call store).1) = true ∧
        ∃ intent : IngestionLifecycleOutboxIntent, store.outbox.lookup intent.eventId = none ∧
          (perform call store).2.outbox = store.outbox.insert intent.eventId intent := by
  rcases perform_step store call legal with quiet | ⟨moved, change⟩
  · left
    rw [quiet.1, quiet.2, Bool.and_false]
    exact ⟨rfl, rfl⟩
  rcases outbox_after change with ⟨foreign, same⟩ | ⟨own, _, event, emits, _, named, placed⟩
  · left
    rw [foreign]
    exact ⟨rfl, same⟩
  · right
    have fresh := fresh_of_not_repeats sound.accounted emits steady
    rw [← named] at fresh
    refine ⟨by rw [own, moved]; rfl, event, fresh, ?_⟩
    rw [placed, Dict.setdefault, fresh]
    rfl

/-- The outbox is complete over a run exactly when no guarded transition of the run returns
to a state whose intent is already stored. -/
theorem outbox_complete_iff (calls : List Call) (legal : ∀ call ∈ calls, Legal sha256 call) :
    OutboxComplete calls ↔ ∀ e ∈ trace perform {} calls, ¬ Repeats e.before e.call := by
  have reached : ∀ e ∈ trace perform {} calls, Legal sha256 e.call ∧ OutboxSound e.before :=
    fun e member => invariant_trace perform OutboxSound (Legal sha256) outboxSound_perform {}
      calls legal outboxSound_empty e member
  constructor
  · rintro complete e member ⟨key, emits, recurring, held⟩
    rcases reached e member with ⟨admissible, sound⟩
    rcases mem_trace_performed member with ⟨answered, left⟩
    have moved := emits_durable sound.integrity admissible emits recurring
    rcases perform_step e.before e.call admissible with quiet | ⟨_, change⟩
    · rw [quiet.1] at moved; cases moved
    rcases outbox_after change with
      ⟨foreign, _⟩ | ⟨own, _, _, emitted, _, named, placed⟩
    · rw [emits.ofCommitter] at foreign; cases foreign
    · -- The key is taken, so the insertion keeps the outbox although the call moved.
      obtain ⟨intent, fresh, added⟩ := complete.adds e member own (by rw [answered]; exact moved)
      rw [emits_unique emits emitted, ← named] at held
      rw [left, placed, Dict.setdefault_of_present _ _ _ held] at added
      have sizes := congrArg Dict.size added
      rw [Dict.size_insert_of_absent _ _ _ fresh] at sizes
      omega
  · intro steady
    have steps : ∀ e ∈ trace perform {} calls, _ := fun e member =>
      outbox_step (reached e member).1 (reached e member).2 (steady e member)
    refine ⟨?_, ?_, ?_⟩
    · intro e member own moved
      rcases mem_trace_performed member with ⟨answered, left⟩
      rw [left]
      rcases steps e member with ⟨calm, _⟩ | ⟨_, added⟩
      · rw [← answered, own, moved] at calm; cases calm
      · exact added
    · intro e member own calm
      rcases mem_trace_performed member with ⟨answered, left⟩
      rw [left]
      rcases steps e member with ⟨_, same⟩ | ⟨moved, _⟩
      · exact same
      · rw [← answered, own, calm] at moved; cases moved
    · have counted := measure_final perform (fun store => store.outbox.size)
        (fun e => e.call.ofCommitter && durable e.call e.response) {} calls (by
          intro e member
          rcases mem_trace_performed member with ⟨answered, left⟩
          rw [left, answered]
          rcases steps e member with ⟨calm, same⟩ | ⟨moved, _, fresh, added⟩
          · rw [calm, same]; rfl
          · rw [moved, added, Dict.size_insert_of_absent _ _ _ fresh]; rfl)
      rw [counted]
      exact Nat.zero_add _

end Reachable

open Sample in
/-- One operation whose parse is lost, proven not executed, retried, and lost again. -/
def retriedTwice : List Call :=
  [.registerIntake operation version source,
    .claimParseDispatch operation (attempt 1) .readyForDispatch 0 0,
    .markPendingReconciliation operation 1 1,
    .commitAuthoritativeReconciliation operation .provenNotExecuted 2 2,
    .prepareProvenNotExecutedRetry operation 3 3,
    .claimParseDispatch operation (attempt 2) .readyForDispatch 4 4,
    .markPendingReconciliation operation 5 5]

theorem retriedTwice_legal : ∀ call ∈ retriedTwice, Legal Sample.digest call := by
  simp [retriedTwice, Legal]

theorem retriedTwice_loses_intent : ¬ OutboxComplete retriedTwice := by
  intro complete
  have intents : (final perform {} retriedTwice).outbox.size = 4 := by decide
  rw [complete.count] at intents
  cases intents

theorem outbox_complete_iff_retriedTwice : OutboxComplete retriedTwice ↔
      ∀ e ∈ trace perform {} retriedTwice, ¬ Repeats e.before e.call :=
  outbox_complete_iff _ retriedTwice_legal

end BackendHandbook.Ingestion
