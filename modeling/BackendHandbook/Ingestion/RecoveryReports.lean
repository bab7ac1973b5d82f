import BackendHandbook.Ingestion.Recovery

/-! What a recovery reports, against what the store holds at its commit step. -/

namespace BackendHandbook.Ingestion

open Interleaving IngestionCommitter InMemoryIngestionLifecycleStore IngestionRecoveryCoordinator

def IngestionRecoveryOutcome.confirmed : IngestionRecoveryOutcome → Option IngestionOperationState
  | .failedConfirmed => some .failed
  | .notExecutedConfirmed => some .provenNotExecuted
  | .succeeded => some .completed
  | _ => none

def StoredIn (operation : IngestionOperationIdentity) (target : IngestionOperationState)
    (store : Store) : Prop :=
  ∃ record, store.operation? operation.operationId = some record ∧
    record.identity = operation ∧ record.state = target

def clients : List Action → List Client
  | [] => []
  | .enter client :: actions => client :: clients actions
  | .resume _ _ :: actions => clients actions

def poolAfter (sha256 : String → String) (actions : List Action) :
    Pool Store Call Call.Response Question Question.Reply Finished :=
  Interleaving.run perform emptyPool (actions.map (Action.turn sha256))

def Recovers (actions : List Action) (index : Nat) (operation : IngestionOperationIdentity) :
    Prop :=
  ∃ policy version source queryNumber,
    (clients actions)[index]? = some (.recover policy operation version source queryNumber)

section Reports

variable (sha256 : String → String)

/-- Going on makes the thread return the result. -/
structure Returns (actions : List Action) (index : Nat)
    (oracle : (question : Question) → question.Reply) (result : IngestionRecoveryResult) :
    Prop where
  running : (poolAfter sha256 actions).threads[index]? ≠ some (.done (.recovered result))
  returned : (poolAfter sha256 (actions ++ [.resume index oracle])).threads[index]? =
    some (.done (.recovered result))

/-- Whenever a recovery returns a settled outcome, its last step leaves that state stored. -/
def ReportsDurable (actions : List Action) : Prop :=
  ∀ front index oracle back operation result target,
    actions = front ++ .resume index oracle :: back → Recovers front index operation →
    Returns sha256 front index oracle result → result.outcome.confirmed = some target →
    StoredIn operation target (poolAfter sha256 (front ++ [.resume index oracle])).state

def Commits (operation : IngestionOperationIdentity) (target : IngestionOperationState)
    (stateVersion fence : Int) (store : Store) : Prop :=
  ∃ current, store.operation? operation.operationId = some current ∧ current.identity = operation ∧
    (current.state = target ∨ current.state = .pendingReconciliation ∧
      (current.stateVersion : Int) = stateVersion ∧ (current.fenceToken : Int) = fence)

/-- A recovery is about to commit a verdict on a record that has been moved since it read it. -/
def Overtaken (actions : List Action) (index : Nat) : Prop :=
  ∃ operation identity target stateVersion fence next, Recovers actions index operation ∧
    (poolAfter sha256 actions).threads[index]? =
      some (.call (.commitAuthoritativeReconciliation identity target stateVersion fence) next) ∧
    ¬ Commits operation target stateVersion fence (poolAfter sha256 actions).state

variable (operation : IngestionOperationIdentity)

/-- What a recovery reports right behind one of its store calls. -/
def ReportsCall : (request : Call) → (request.Response → IngestionProgram) → Prop
  | .commitAuthoritativeReconciliation identity target _ _, next =>
    identity = operation ∧ (target = .failed ∨ target = .provenNotExecuted) ∧
      (∀ raised result, next (.error raised) ≠ .done (.recovered result)) ∧
      ∀ committed, ∃ result, next (.ok committed) = .done (.recovered result) ∧
        result.outcome.confirmed = some target
  | .commit decision _, next =>
    (∀ proposal, decision.proposal = some proposal → proposal.operation = operation) ∧
      Validated sha256 decision ∧
      (∀ raised result, next (.error raised) ≠ .done (.recovered result)) ∧
      ∀ committed result target, next (.ok committed) = .done (.recovered result) →
        result.outcome.confirmed = some target → target = .completed ∧
          (committed.outcome = .committed ∨ committed.outcome = .alreadyCommitted)
  | _, next => ∀ response result, next response = .done (.recovered result) →
      result.outcome.confirmed = none

def Reports : IngestionProgram → Prop
  | .done _ => True
  | .call request next => ReportsCall sha256 operation request next
  | .ask _ next => ∀ answer result, next answer = .done (.recovered result) →
      result.outcome.confirmed = none

end Reports

section Programs

variable {sha256 : String → String} {operation : IngestionOperationIdentity}

def Silent (program : IngestionProgram) : Prop :=
  ∀ result, program = .done (.recovered result) → result.outcome.confirmed = none

theorem recovered_silent (result : IngestionRecoveryResult)
    (unsettled : result.outcome.confirmed = none) : Silent (recovered result) := by
  rintro _ ⟨rfl⟩
  exact unsettled

theorem await_silent (call : Call) (next : call.Answer → IngestionProgram) :
    Silent (await call next) := by
  intro result same
  cases same

variable {call : Call} {next : call.Answer → IngestionProgram}

theorem awaited_silent (silent : ∀ answer, Silent (next answer)) (response : call.Response)
    (result : IngestionRecoveryResult) (same : (match response with
      | .error raised => .done (.raised raised)
      | .ok answer => next answer) = (.done (.recovered result) : IngestionProgram)) :
    result.outcome.confirmed = none := by
  cases response with
  | error raised => cases same
  | ok => exact silent _ result same

theorem await_everywhere
    (here : Reports sha256 operation (await call next))
    (later : ∀ answer, (next answer).Everywhere (Reports sha256 operation)) :
    (await call next).Everywhere (Reports sha256 operation) := by
  refine ⟨here, fun response => ?_⟩
  cases response with
  | error raised => exact trivial
  | ok => exact later _

theorem confirm_everywhere (current : IngestionOperationRecord)
    (target : IngestionOperationState) (outcome : IngestionRecoveryOutcome)
    (safeReason : String) (committerCalls transitionCount : Nat)
    (supported : target = .failed ∨ target = .provenNotExecuted)
    (claimed : outcome.confirmed = some target) :
    (confirm operation current target outcome safeReason
      committerCalls transitionCount).Everywhere (Reports sha256 operation) := by
  apply await_everywhere
  · refine ⟨rfl, supported, ?_, ?_⟩
    · intro raised result same
      cases same
    · intro committed
      exact ⟨_, rfl, claimed⟩
  · intro committed
    exact trivial

theorem publishEvidence_everywhere (version : DocumentVersionDefinition)
    (source : SourceArtifactReference) (attempt : ParserAttemptIdentity)
    (current : IngestionOperationRecord) (candidate : ParsedDocumentCandidate)
    (committerCalls transitionCount : Nat) :
    (publishEvidence sha256 operation version source attempt
      current candidate committerCalls transitionCount).Everywhere
      (Reports sha256 operation) := by
  unfold publishEvidence
  dsimp only
  split
  · exact trivial
  · refine await_everywhere (awaited_silent fun _ => await_silent _ _) fun document =>
      await_everywhere (awaited_silent fun _ => await_silent _ _) fun versionRecord =>
      await_everywhere ?_ fun committed => ?_
    · refine ⟨?_, ⟨operation, version, source, attempt, candidate, rfl⟩, ?_, ?_⟩
      · intro proposal proposed
        rw [ParsedCandidateValidator.evaluate_proposal sha256 _ _ _ _ _ _ proposed]
      · intro raised result same
        cases same
      · intro committed result target same claimed
        dsimp only at same
        split_ifs at same with blocked
        · cases same
          cases claimed
        · cases same
          cases claimed
          refine ⟨rfl, ?_⟩
          by_contra neither
          exact blocked (not_or.mp neither)
    · split <;> exact trivial

theorem consult_silent (policy : IngestionRecoveryPolicy) (version : DocumentVersionDefinition)
    (source : SourceArtifactReference) (queryNumber : Int) (current : IngestionOperationRecord)
    (committerCalls transitionCount : Nat) : Silent (consult sha256 policy operation version source
      queryNumber current committerCalls transitionCount) := by
  intro result same
  unfold consult at same
  split at same <;> cases same

theorem confirm_silent (current : IngestionOperationRecord) (target : IngestionOperationState)
    (outcome : IngestionRecoveryOutcome) (safeReason : String)
    (committerCalls transitionCount : Nat) :
    Silent (confirm operation current target outcome safeReason committerCalls transitionCount) :=
  await_silent _ _

theorem publishEvidence_silent (version : DocumentVersionDefinition)
    (source : SourceArtifactReference) (attempt : ParserAttemptIdentity)
    (current : IngestionOperationRecord) (candidate : ParsedDocumentCandidate)
    (committerCalls transitionCount : Nat) :
    Silent (publishEvidence sha256 operation version source attempt
      current candidate committerCalls transitionCount) := by
  unfold publishEvidence
  dsimp only
  split
  · exact recovered_silent _ rfl
  · exact await_silent _ _

variable (policy : IngestionRecoveryPolicy) (version : DocumentVersionDefinition)
  (source : SourceArtifactReference) (queryNumber : Int)

theorem consult_everywhere (current : IngestionOperationRecord)
    (committerCalls transitionCount : Nat) :
    (consult sha256 policy operation version source queryNumber
      current committerCalls transitionCount).Everywhere (Reports sha256 operation) := by
  unfold consult
  cases current.attempt with
  | none => exact trivial
  | some attempt =>
  constructor
  · intro evidence result same
    dsimp only at same
    split at same
    · exact recovered_silent _ rfl _ same
    · split at same
      · exact recovered_silent _ rfl _ same
      · exact recovered_silent _ rfl _ same
      · exact confirm_silent _ _ _ _ _ _ _ same
      · exact confirm_silent _ _ _ _ _ _ _ same
      · split at same
        · cases same
        · exact publishEvidence_silent _ _ _ _ _ _ _ _ same
  · intro evidence
    dsimp only
    split
    · exact trivial
    · split
      · exact trivial
      · exact trivial
      · exact confirm_everywhere _ _ _ _ _ _ (.inl rfl) rfl
      · exact confirm_everywhere _ _ _ _ _ _ (.inr rfl) rfl
      · split
        · exact trivial
        · exact publishEvidence_everywhere _ _ _ _ _ _ _

theorem recover_everywhere : (recover sha256 policy operation version source
      queryNumber).Everywhere (Reports sha256 operation) := by
  unfold recover
  split_ifs
  · exact trivial
  · apply await_everywhere
    · apply awaited_silent
      intro current
      split_ifs
      · exact recovered_silent _ rfl
      · exact await_silent _ _
      · exact recovered_silent _ rfl
      · exact consult_silent _ _ _ _ _ _ _
    · intro current
      split_ifs
      · exact trivial
      · apply await_everywhere
        · apply awaited_silent
          intro pending
          split
          · exact recovered_silent _ rfl
          · exact consult_silent _ _ _ _ _ _ _
        · intro pending
          split
          · exact trivial
          · exact consult_everywhere _ _ _ _ _ _ _
      · exact trivial
      · exact consult_everywhere _ _ _ _ _ _ _

end Programs

section Commits

variable {sha256 : String → String} {store : Store}

private theorem activate_not_already (document : DocumentHeadSnapshot)
    (version : DocumentVersionLifecycleRecord) (operation : IngestionOperationRecord)
    (proposal : IngestionActivationProposal) (result : IngestionCommitResult)
    (answered : (activate document version operation proposal store).1 = .ok result) :
    result.outcome ≠ .alreadyCommitted := by
  unfold activate at answered
  dsimp only at answered
  split at answered
  · cases answered
  · split at answered
    · cases answered
    · split at answered
      · cases answered
      · cases answered; intro impossible; cases impossible

/-- A commit that finds its activation already made leaves the completed record stored. -/
theorem commit_already (decision : CandidateValidationDecision)
    (guard : IngestionActivationGuard) (result : IngestionCommitResult)
    (answered : (commit decision guard store).1 = .ok result)
    (already : result.outcome = .alreadyCommitted) : ∃ proposal, decision.proposal = some proposal ∧
      StoredIn proposal.operation .completed (commit decision guard store).2 := by
  unfold commit at answered ⊢
  cases proposed : decision.proposal with
  | none => rw [proposed] at answered; cases answered; cases already
  | some proposal =>
  refine ⟨proposal, rfl, ?_⟩
  rw [proposed] at answered
  dsimp only at answered ⊢
  cases document_found : store.document? proposal.operation.version.document with
  | none => rw [document_found] at answered; cases answered; cases already
  | some document =>
  cases version_found : store.version? proposal.operation.version with
  | none => rw [document_found, version_found] at answered; cases answered; cases already
  | some version =>
  cases operation_found : store.operation? proposal.operation.operationId with
  | none =>
    rw [document_found, version_found, operation_found] at answered
    cases answered
    cases already
  | some operation =>
  rw [document_found, version_found, operation_found] at answered
  dsimp only at answered ⊢
  split_ifs at answered ⊢ with bound made
  any_goals (cases answered; cases already)
  · exact ⟨operation, operation_found, bound.2.2.2.1, made.2.2.2.2⟩
  · split at answered
    · cases answered; cases already
    · cases answered
    · exact absurd already
        (activate_not_already document version operation proposal result answered)

theorem publish_stored (proposal : IngestionActivationProposal)
    (document : DocumentHeadSnapshot) (version : DocumentVersionLifecycleRecord)
    (operation : IngestionOperationRecord) (superseded : Store)
    (named : operation.identity = proposal.operation) (completed : operation.state = .completed) :
    StoredIn proposal.operation .completed
      (publish proposal document version operation superseded) :=
  ⟨operation, AList.lookup_insert _, named, completed⟩

theorem commit_stored (decision : CandidateValidationDecision)
    (guard : IngestionActivationGuard) (result : IngestionCommitResult)
    (validated : Validated sha256 decision)
    (answered : (commit decision guard store).1 = .ok result)
    (made : result.outcome = .committed ∨ result.outcome = .alreadyCommitted) :
    ∃ proposal, decision.proposal = some proposal ∧
      StoredIn proposal.operation .completed (commit decision guard store).2 := by
  rcases made with committed | already
  · rcases commit_cases store decision guard with
      ⟨_, same, calm⟩ | ⟨proposal, _, _, _, superseded, admitted, moved⟩
    · rw [same] at answered
      exact absurd committed (calm result answered).2
    · rcases activate_succeeds validated admitted moved with
        ⟨nextDocument, nextVersion, nextOperation, _, _, _, _, _, advanced, performed, _⟩
      have written : (commit decision guard store).2 =
          publish proposal nextDocument nextVersion nextOperation superseded :=
        congrArg Prod.snd performed
      have fields := IngestionOperationRecord.advance_ok advanced
      refine ⟨proposal, admitted.proposed, ?_⟩
      rw [written]
      exact publish_stored _ _ _ _ _ (fields.1.trans admitted.bindings.2.2.2.1) fields.2.1
  · exact commit_already decision guard result answered already

variable (operation : IngestionOperationIdentity) (target : IngestionOperationState)
  (stateVersion fence : Int)

theorem reconciliation_stored (supported : target = .failed ∨ target = .provenNotExecuted)
    (commits : Commits operation target stateVersion fence store) : StoredIn operation target
      (commitAuthoritativeReconciliation operation target stateVersion fence store).2 := by
  rcases commits with ⟨current, found, named, reached⟩
  have allowed : ¬ (target ≠ .failed ∧ target ≠ .provenNotExecuted) :=
    fun neither => supported.elim neither.1 neither.2
  unfold commitAuthoritativeReconciliation
  rw [if_neg allowed]
  by_cases already : current.state = target
  · refine ⟨current, ?_, named, already⟩
    unfold transition
    rw [found]
    dsimp only
    rw [if_neg (not_not.mpr named), if_pos already]
    exact found
  · have pending := reached.resolve_left already
    obtain ⟨next, moved⟩ := current.advance_succeeds target (by
      intro required
      rcases supported with rfl | rfl <;> cases required)
    have admitted : MoveAdmitted store operation .pendingReconciliation stateVersion fence
        current := ⟨found, named, pending.1, pending.2.1, pending.2.2⟩
    have other : IngestionOperationState.pendingReconciliation ≠ target := by
      rcases supported with rfl | rfl <;> decide
    rw [transition_of_admitted admitted other rfl moved]
    have fields := IngestionOperationRecord.advance_ok moved
    exact ⟨next, AList.lookup_insert _, fields.1.trans named, fields.2.1⟩

theorem reconciliation_refused (supported : target = .failed ∨ target = .provenNotExecuted)
    (overtaken : ¬ Commits operation target stateVersion fence store) :
    ∃ committed, commitAuthoritativeReconciliation operation target stateVersion fence store =
      (.ok committed, store) := by
  have allowed : ¬ (target ≠ .failed ∧ target ≠ .provenNotExecuted) :=
    fun neither => supported.elim neither.1 neither.2
  unfold commitAuthoritativeReconciliation transition
  rw [if_neg allowed]
  cases found : store.operation? operation.operationId with
  | none => exact ⟨_, rfl⟩
  | some current =>
  dsimp only
  by_cases foreign : current.identity ≠ operation
  · rw [if_pos foreign]; exact ⟨_, rfl⟩
  rw [if_neg foreign]
  by_cases already : current.state = target
  · rw [if_pos already]; exact ⟨_, rfl⟩
  rw [if_neg already]
  have stale : current.state ≠ .pendingReconciliation ∨
      (current.stateVersion : Int) ≠ stateVersion ∨ (current.fenceToken : Int) ≠ fence ∨
      (fun _ => true : IngestionOperationRecord → Bool) current = false := by
    by_contra fits
    push Not at fits
    exact overtaken ⟨current, found, not_not.mp foreign, .inr ⟨fits.1, fits.2.1, fits.2.2.1⟩⟩
  rw [if_pos stale]
  exact ⟨_, rfl⟩

end Commits

variable {result : IngestionRecoveryResult}

section Schedules

variable {sha256 : String → String}

theorem started_turns (actions : List Action) : started (actions.map (Action.turn sha256)) =
      (clients actions).map (Client.program sha256) := by
  induction actions with
  | nil => rfl
  | cons action actions ih =>
    cases action with
    | enter client => exact congrArg _ ih
    | resume index oracle => exact ih

variable {operation : IngestionOperationIdentity}

theorem recovers_reports {actions : List Action} {index : Nat}
    (recovers : Recovers actions index operation)
    {thread : IngestionProgram} (found : (poolAfter sha256 actions).threads[index]? = some thread) :
    Reports sha256 operation thread := by
  apply Program.Everywhere.here
  apply thread_everywhere perform (Reports sha256 operation) index emptyPool
    (actions.map (Action.turn sha256)) _ thread found
  intro program member
  rcases recovers with ⟨policy, version, source, queryNumber, client⟩
  have listed : (emptyPool.threads ++ started (actions.map (Action.turn sha256)))[index]? =
      some ((Client.recover policy operation version source queryNumber).program sha256) := by
    rw [started_turns]
    show ((clients actions).map (Client.program sha256))[index]? = _
    rw [List.getElem?_map, client]
    rfl
  rw [listed] at member
  cases member
  exact recover_everywhere policy version source queryNumber

theorem poolAfter_resume (actions : List Action) (index : Nat)
    (oracle : (question : Question) → question.Reply) :
    poolAfter sha256 (actions ++ [.resume index oracle]) =
      Interleaving.step perform (poolAfter sha256 actions) (.resume index oracle) := by
  unfold poolAfter
  rw [List.map_append, Interleaving.run_append]
  rfl

variable {actions : List Action} {index : Nat}

theorem resume_call {request : Call} {next : request.Response → IngestionProgram}
    (found : (poolAfter sha256 actions).threads[index]? = some (.call request next))
    (oracle : (question : Question) → question.Reply) :
    (poolAfter sha256 (actions ++ [.resume index oracle])).state =
        (perform request (poolAfter sha256 actions).state).2 ∧
      (poolAfter sha256 (actions ++ [.resume index oracle])).threads[index]? =
        some (next (perform request (poolAfter sha256 actions).state).1) := by
  have inside := (List.getElem?_eq_some_iff.mp found).1
  rw [poolAfter_resume, step_call perform found]
  exact ⟨rfl, List.getElem?_set_self inside⟩

theorem returns_of_call
    {oracle : (question : Question) → question.Reply} {target : IngestionOperationState}
    (recovers : Recovers actions index operation)
    (returns : Returns sha256 actions index oracle result)
    (claimed : result.outcome.confirmed = some target) :
    ∃ request next, (poolAfter sha256 actions).threads[index]? = some (.call request next) ∧
      ReportsCall sha256 operation request next ∧
      next (perform request (poolAfter sha256 actions).state).1 = .done (.recovered result) := by
  have returned := returns.returned
  rw [poolAfter_resume] at returned
  cases found : (poolAfter sha256 actions).threads[index]? with
  | none =>
    rw [step_idle perform (by rw [found]; intro thread absent; cases absent)] at returned
    exact absurd returned returns.running
  | some thread =>
  have reports := recovers_reports recovers found
  have inside := (List.getElem?_eq_some_iff.mp found).1
  cases thread with
  | done earlier =>
    rw [step_idle perform (by rw [found]; rintro _ ⟨rfl⟩; exact ⟨earlier, rfl⟩)] at returned
    exact absurd returned returns.running
  | ask question next =>
    rw [step_ask perform found, List.getElem?_set_self inside] at returned
    have silent := reports _ result (Option.some.inj returned)
    rw [claimed] at silent
    cases silent
  | call request next =>
    rw [step_call perform found, List.getElem?_set_self inside] at returned
    exact ⟨request, next, rfl, reports, Option.some.inj returned⟩

/-- Every settled report of every recovery is what the store holds at its commit step, in an
interleaving of clients, exactly when no verdict is committed on a record that was moved since
the recovery read it: the outcome of that compare-and-set is not looked at. -/
theorem reports_durable_iff (actions : List Action) : ReportsDurable sha256 actions ↔
      ∀ front index oracle back, actions = front ++ .resume index oracle :: back →
        ¬ Overtaken sha256 front index := by
  constructor
  · intro durable front index oracle back split
    rintro ⟨operation, identity, target, stateVersion, fence, next, recovers, found, moved⟩
    rcases recovers_reports recovers found with ⟨rfl, supported, _, confirmed⟩
    rcases reconciliation_refused identity target stateVersion fence
      supported moved with ⟨committed, refused⟩
    rcases confirmed committed with ⟨result, returned, claimed⟩
    have stepped := resume_call found oracle
    have performed : perform (.commitAuthoritativeReconciliation identity target stateVersion
        fence) (poolAfter sha256 front).state = (.ok committed, (poolAfter sha256 front).state) :=
      refused
    rw [performed] at stepped
    have running : (poolAfter sha256 front).threads[index]? ≠
        some (.done (.recovered result)) := by
      rw [found]
      intro same
      cases same
    have stored := durable front index oracle back identity result target split recovers
      ⟨running, stepped.2.trans (congrArg some returned)⟩ claimed
    rw [stepped.1] at stored
    rcases stored with ⟨record, known, named, reached⟩
    exact moved ⟨record, known, named, .inl reached⟩
  · intro current front index oracle back operation result target split recovers returns claimed
    rcases returns_of_call recovers returns claimed with ⟨request, next, found, reports, returned⟩
    have undisturbed := current front index oracle back split
    rw [(resume_call found oracle).1]
    cases request with
    | commitAuthoritativeReconciliation identity verdict stateVersion fence =>
      rcases reports with ⟨rfl, supported, unraised, confirmed⟩
      have commits : Commits identity verdict stateVersion fence
          (poolAfter sha256 front).state := by
        by_contra moved
        exact undisturbed ⟨identity, identity, verdict, stateVersion, fence, next, recovers,
          found, moved⟩
      have same : verdict = target := by
        cases answered : (perform (.commitAuthoritativeReconciliation identity verdict
            stateVersion fence) (poolAfter sha256 front).state).1 with
        | error raised =>
          rw [answered] at returned
          exact absurd returned (unraised raised result)
        | ok committed =>
          rw [answered] at returned
          rcases confirmed committed with ⟨_, again, settled⟩
          rw [returned] at again
          cases again
          rw [claimed] at settled
          exact (Option.some.inj settled).symm
      rw [← same]
      exact reconciliation_stored identity verdict stateVersion fence supported commits
    | commit decision guard =>
      rcases reports with ⟨named, validated, unraised, confirmed⟩
      cases answered : (perform (.commit decision guard) (poolAfter sha256 front).state).1 with
      | error raised =>
        rw [answered] at returned
        exact absurd returned (unraised raised result)
      | ok committed =>
        rw [answered] at returned
        rcases confirmed committed result target returned claimed with ⟨rfl, made⟩
        rcases commit_stored decision guard committed validated answered made with
          ⟨proposal, proposed, stored⟩
        rw [named proposal proposed] at stored
        exact stored
    | _ =>
      have silent := reports _ result returned
      rw [claimed] at silent
      cases silent

end Schedules

/-! Two recoveries of one lost parse, to which the registry answers differently. -/

namespace Sample

def verdict (status : AuthoritativeParseStatus)
    (definite : decide (status ≠ .succeeded) = true := by exact Eq.refl true) :
    (question : Question) → question.Reply
  | .execute _ => lost
  | .query operation attempt =>
    { status, operationId := operation.operationId, idempotencyKey := operation.idempotencyKey
      attemptNumber := attempt.attemptNumber, parserRequestId := attempt.parserRequestId
      parserGeneration := attempt.parserGeneration, candidate := none
      succeeded_iff := iff_of_false (of_decide_eq_true definite) Bool.false_ne_true }

def recovery : Action := .enter (.recover ⟨2, Nat.two_pos⟩ operation version source 1)

/-- Both recoveries read the pending record before either commits its verdict. -/
def disagreeing : List Action :=
  let notExecuted := verdict .notExecuted
  let failed := verdict .failed
  [intake, .resume 0 failed, .enter (.run capability (request (attempt 1) .readyForDispatch 0)),
    .resume 1 failed, .resume 1 failed, .resume 1 failed,
    recovery, recovery, .resume 2 notExecuted, .resume 3 failed,
    .resume 2 notExecuted, .resume 3 failed, .resume 2 notExecuted]

def confirmedFailed : IngestionRecoveryResult :=
  { outcome := .failedConfirmed, safeReason := "FAILED", registryQueries := 1, committerCalls := 1 }

def reportOf (actions : List Action) (index : Nat) : Option IngestionRecoveryResult :=
  match (poolAfter digest actions).threads[index]? with
  | some (.done (.recovered result)) => some result
  | _ => none

theorem reportOf_eq {actions : List Action} {index : Nat} : reportOf actions index = some result ↔
      (poolAfter digest actions).threads[index]? = some (.done (.recovered result)) := by
  unfold reportOf
  constructor
  · intro reported
    split at reported
    · next found => cases reported; exact found
    · cases reported
  · intro found
    rw [found]

theorem overtaken_not_durable :
    ¬ ReportsDurable digest (disagreeing ++ [.resume 3 (verdict .failed)]) := by
  intro durable
  have running : reportOf disagreeing 3 ≠ some confirmedFailed := by decide +kernel
  have returned : reportOf (disagreeing ++ [.resume 3 (verdict .failed)]) 3 =
      some confirmedFailed := by decide +kernel
  rcases durable disagreeing 3 (verdict .failed) [] operation
    confirmedFailed .failed rfl ⟨_, _, _, _, rfl⟩
    ⟨fun found => running (reportOf_eq.mpr found), reportOf_eq.mp returned⟩ rfl with
    ⟨_, found, _, reached⟩
  have stored :
      ((poolAfter digest (disagreeing ++ [.resume 3 (verdict .failed)])).state.operation?
        operation.operationId).map (·.state) = some .provenNotExecuted := by decide +kernel
  rw [found] at stored
  cases reached.symm.trans (Option.some.inj stored)

end Sample
end BackendHandbook.Ingestion
