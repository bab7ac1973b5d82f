import BackendHandbook.StructuredOutput.Reconciliation

/-! A late outcome whose dispatch is interrupted, and what its rollback undoes. -/

namespace BackendHandbook.StructuredOutput

open Interleaving ExecutionJob

inductive Interruption
  | raised (raised : Raised)
  | completion

/-- A completion service that may raise: at a call on a job, with the facts it has written by
then. -/
abbrev Completion := Call → ExecutionJob → Option JobFacts

def Call.completes : Call → Option String
  | .completeSuccess jobId .. => some jobId
  | .recordNonSuccess jobId .. => some jobId
  | .recordCost jobId _ => some jobId
  | .recordTimeoutPending jobId _ => some jobId
  | _ => none

def Completion.interrupts (completion : Completion) (call : Call) (world : World) :
    Option World := do
  let jobId ← call.completes
  let job ← world.jobs.lookup jobId
  let written ← completion call job
  return { world with jobs := world.jobs.insert jobId (job.restoreFacts written) }

abbrev Ingested := Except Interruption ExecutionResult

section Model

variable (pydantic : Pydantic) (provider : Provider)

def attempted (completion : Completion) : JobProgram → World → Ingested × World
  | .done finished, world => (finished.mapError .raised, world)
  | .call request next, world =>
    match completion.interrupts request world with
    | some interrupted => (.error .completion, interrupted)
    | none =>
      attempted completion (next (perform provider request world).1)
        (perform provider request world).2
  | .ask question _, _ => nomatch question

/-- Behind the dispatch: the attempt is consumed, or the job is rolled back and the attempt is
open again. -/
def LateOutcome.settle (late : LateOutcome) (snapshot : JobFacts) :
    Ingested × World → Ingested × World
  | (.ok result, world) =>
    (.ok (ofAttempt late.attemptId result),
      (perform provider (.consumeLateOutcome late.jobId late.attemptId) world).2)
  | (.error raised, world) =>
    let restored := (perform provider (.restoreJobFacts late.jobId snapshot) world).2
    (.error raised,
      (perform provider (.releaseLateOutcomeClaim late.jobId late.attemptId) restored).2)

def LateOutcome.ingest (late : LateOutcome) (completion : Completion) (world : World) :
    Ingested × World :=
  match perform provider (.claimLateOutcome late.jobId late.attemptId late.correlationId
      late.incomingProviderRequestId) world with
  | ((.claimed, _), claimed) =>
    match claimed.jobs.lookup late.jobId with
    | none => (.error (.raised (.keyError late.jobId)), claimed)
    | some job =>
      late.settle provider job.facts
        (attempted provider completion
          (dispatchOutcome pydantic late.jobId job.contract .done late.outcome) claimed)
  | ((.rejected, reason), after) =>
    (.ok { decision := .lateOutcomeRejected, reason, attemptId := some late.attemptId }, after)
  | ((_, reason), after) =>
    (.ok { decision := .completionNoop, reason, attemptId := some late.attemptId }, after)

end Model

section Plan

variable (pydantic : Pydantic) (jobId : String) (contract : ExecutionContract)

def completions : ProviderOutcome → List Call
  | .success rawPayload usage providerRequestId =>
    match validate pydantic contract.schemaName contract.schemaVersion rawPayload with
    | .valid domainResult => [.completeSuccess jobId domainResult usage providerRequestId]
    | result =>
      [.recordNonSuccess jobId ("validation:" ++ result.outcome) providerRequestId none none
        true, .recordCost jobId usage]
  | .refusal reasonCode usage providerRequestId =>
    [.recordNonSuccess jobId ("provider_refusal:" ++ reasonCode) providerRequestId none none true,
      .recordCost jobId usage]
  | .incomplete reason usage providerRequestId =>
    [.recordNonSuccess jobId ("provider_incomplete:" ++ reason) providerRequestId none none true,
      .recordCost jobId usage]
  | .timeout .. => [.recordTimeoutPending jobId none]
  | .authenticationError statusCode =>
    [.recordNonSuccess jobId ("provider_auth_config_failure:" ++ toString statusCode) none none
      (some (evidence contract none)) true]
  | .rateLimited retryAfter providerRequestId =>
    [.recordNonSuccess jobId "provider_rate_limited" providerRequestId retryAfter none true]
  | .capabilityError statusCode _ true providerRequestId =>
    [.recordNonSuccess jobId ("provider_capability_config_failure:" ++ toString statusCode)
      providerRequestId none (some (evidence contract providerRequestId)) true]
  | .capabilityError statusCode _ false providerRequestId =>
    [.recordNonSuccess jobId ("provider_capability_request_failure:" ++ toString statusCode)
      providerRequestId none (some (evidence contract providerRequestId)) true]
  | .transportError _ =>
    [.recordNonSuccess jobId "provider_transport_error" none none none true]
  | .unhandled _ => []

end Plan

def ProviderOutcome.disables : ProviderOutcome → Option String
  | .authenticationError statusCode => some ("provider_auth_" ++ toString statusCode)
  | .capabilityError statusCode _ true _ =>
    some ("provider_capability_config_" ++ toString statusCode)
  | _ => none

def ExecutionJob.completed (job : ExecutionJob) : Call → ExecutionJob
  | .completeSuccess _ domainResult usage providerRequestId =>
    (job.completeSuccess domainResult usage providerRequestId).2
  | .recordNonSuccess _ classification providerRequestId retryAfter evidence markFailed =>
    job.recordNonSuccess classification providerRequestId retryAfter evidence markFailed
  | .recordCost _ usage => job.recordCost usage
  | .recordTimeoutPending _ providerRequestId => job.recordTimeoutPending providerRequestId
  | _ => job

/-- The completion raises at one of the calls, each on the job as the ones before it leave it. -/
def Interrupted (completion : Completion) : ExecutionJob → List Call → Prop
  | _, [] => False
  | job, call :: calls =>
    (completion call job).isSome ∨ Interrupted completion (job.completed call) calls

namespace LateOutcome

/-- The claim of a late outcome is won, with the id that the attempt has from then on. -/
structure Claims (late : LateOutcome) (world : World) (job : ExecutionJob) (attempt : Attempt)
    (identifier : String) : Prop where
  found : world.jobs.lookup late.jobId = some job
  active : job.status.terminal = false
  listed : job.attempts.lookup late.attemptId = some attempt
  awaits : attempt.status = .awaitingLateOutcome
  correlates : attempt.correlationId = late.correlationId
  contracted : late.correlationId = job.contract.correlationId
  identified : late.incomingProviderRequestId = some identifier
  recorded : ∀ known, attempt.providerRequestId = some known → identifier = known

/-- The dispatch is not finished: the outcome is of no kind, or the completion raises. -/
def Fails (pydantic : Pydantic) (late : LateOutcome) (completion : Completion)
    (job : ExecutionJob) : Prop :=
  (∃ identifier, late.outcome = .unhandled identifier) ∨
    Interrupted completion job (completions pydantic late.jobId job.contract late.outcome)

/-- A dispatch that fails, where the claim has recorded an id or the outcome has disabled the
configuration. -/
def LeavesTrace (pydantic : Pydantic) (late : LateOutcome) (completion : Completion)
    (world : World) : Prop :=
  ∃ job attempt identifier, late.Claims world job attempt identifier ∧
    late.Fails pydantic completion (job.processing late.attemptId attempt identifier) ∧
      (attempt.providerRequestId = none ∨
        ∃ reason, late.outcome.disables = some reason ∧ world.config.disable reason ≠ world.config)

end LateOutcome

/-- The facts and the attempts of every job, and the configuration, are as they were. -/
structure Traceless (before after : World) : Prop where
  facts : ∀ jobId,
    (after.jobs.lookup jobId).map ExecutionJob.facts =
      (before.jobs.lookup jobId).map ExecutionJob.facts
  attempts : ∀ jobId attemptId,
    ((after.jobs.lookup jobId).bind fun job => job.attempts.lookup attemptId) =
      (before.jobs.lookup jobId).bind fun job => job.attempts.lookup attemptId
  config : after.config = before.config

section Uninterrupted

variable {pydantic : Pydantic} {provider : Provider}

end Uninterrupted

section Dispatches

variable {pydantic : Pydantic} {provider : Provider} {completion : Completion}
  {jobId : String} {job : ExecutionJob} {world : World}

structure FactsOnly (jobId : String) (job : ExecutionJob) (before after : World) : Prop where
  others : ∀ other, other ≠ jobId → after.jobs.lookup other = before.jobs.lookup other
  own : ∃ written, after.jobs.lookup jobId = some (job.restoreFacts written)
  config : after.config = before.config

theorem factsOnly_insert (jobId : String) (job : ExecutionJob) (world : World)
    (written : JobFacts) : FactsOnly jobId job world
      { world with jobs := world.jobs.insert jobId (job.restoreFacts written) } :=
  ⟨fun _ different => AList.lookup_insert_ne different,
    ⟨written, AList.lookup_insert world.jobs⟩, rfl⟩

theorem completed_eq (job : ExecutionJob) (call : Call) :
    job.completed call = job.restoreFacts (job.completed call).facts := by
  cases call with
  | completeSuccess _ domainResult usage providerRequestId =>
    change (job.completeSuccess domainResult usage providerRequestId).2 =
      job.restoreFacts (job.completeSuccess domainResult usage providerRequestId).2.facts
    unfold ExecutionJob.completeSuccess
    by_cases closed : ¬ job.completable
    · rw [if_pos closed]
      rfl
    · rw [if_neg closed]
      rfl
  | _ => rfl

variable {call : Call}

theorem perform_completes (works : call.completes = some jobId)
    (found : world.jobs.lookup jobId = some job) : (perform provider call world).2 =
      { world with jobs := world.jobs.insert jobId (job.completed call) } := by
  cases call with
  | completeSuccess =>
    cases works
    simp only [perform, found]
    rfl
  | recordNonSuccess | recordCost | recordTimeoutPending =>
    cases works
    simp only [perform, World.onJob, found]
    rfl
  | _ => cases works

/-- A dispatch through these calls of the completion: whether it raises, and what it writes. -/
structure Dispatched (completion : Completion) (jobId : String) (job : ExecutionJob)
    (world : World) (calls : List Call) (result : Ingested × World) : Prop where
  raises : (∃ raised, result.1 = .error raised) ↔ Interrupted completion job calls
  writes : FactsOnly jobId job world result.2

theorem dispatched_done (found : world.jobs.lookup jobId = some job) (result : ExecutionResult) :
    Dispatched completion jobId job world [] (attempted provider completion (.done (.ok result))
      world) :=
  ⟨⟨nofun, False.elim⟩, fun _ _ => rfl, ⟨job.facts, found⟩, rfl⟩

theorem dispatched_call {calls : List Call} {next : call.Answer → JobProgram}
    (works : call.completes = some jobId) (found : world.jobs.lookup jobId = some job)
    (rest : ∀ answer later, later.jobs.lookup jobId = some (job.completed call) →
      Dispatched completion jobId (job.completed call) later calls
        (attempted provider completion (next answer) later)) :
    Dispatched completion jobId job world (call :: calls)
      (attempted provider completion (.call call next) world) := by
  have interrupts : completion.interrupts call world = (completion call job).map fun written =>
      { world with jobs := world.jobs.insert jobId (job.restoreFacts written) } := by
    simp only [Completion.interrupts, works, found, Option.bind_eq_bind, Option.bind_some]
    cases completion call job <;> rfl
  rw [attempted, interrupts]
  cases fault : completion call job with
  | some written =>
    refine ⟨iff_of_true ⟨_, rfl⟩ (.inl ?_), factsOnly_insert jobId job world written⟩
    rw [fault]
    rfl
  | none =>
    dsimp only [Option.map_none]
    rw [perform_completes works found]
    have stored : (world.jobs.insert jobId (job.completed call)).lookup jobId =
        some (job.completed call) := AList.lookup_insert world.jobs
    have later := rest (perform provider call world).1
      { world with jobs := world.jobs.insert jobId (job.completed call) } stored
    refine ⟨later.raises.trans ?_, ?_, ?_, later.writes.config⟩
    · constructor
      · exact .inr
      · rintro (raised | further)
        · rw [fault] at raised
          cases raised
        · exact further
    · intro other different
      rw [later.writes.others other different]
      exact AList.lookup_insert_ne different
    · obtain ⟨written, own⟩ := later.writes.own
      have same : (job.completed call).restoreFacts written = job.restoreFacts written := by
        rw [completed_eq]
        rfl
      exact ⟨written, own.trans (congrArg some same)⟩

variable {result : ExecutionResult} {classification : String} {providerRequestId : Option String}

theorem failsCharged_dispatched {usage : Usage}
    (found : world.jobs.lookup jobId = some job) : Dispatched completion jobId job world
      [.recordNonSuccess jobId classification providerRequestId none none true,
        .recordCost jobId usage] (attempted provider completion
        (failsCharged jobId .done classification usage providerRequestId result) world) :=
  dispatched_call rfl found fun _ _ stored =>
    dispatched_call rfl stored fun _ _ last => dispatched_done last result

theorem fails_dispatched {retryAfter : Option String} {evidence : Option Evidence}
    (found : world.jobs.lookup jobId = some job) : Dispatched completion jobId job world
      [.recordNonSuccess jobId classification providerRequestId retryAfter evidence true]
      (attempted provider completion
        (fails jobId classification providerRequestId retryAfter evidence (.done (.ok result)))
        world) :=
  dispatched_call rfl found fun _ _ last => dispatched_done last result

/-- The world in which an outcome is recorded: the configuration may have been disabled. -/
def disabledBy (outcome : ProviderOutcome) (world : World) : World :=
  match outcome.disables with
  | none => world
  | some reason => { world with config := world.config.disable reason }

theorem dispatchOutcome_dispatched (contract : ExecutionContract) {outcome : ProviderOutcome}
    (handled : ∀ identifier, outcome ≠ .unhandled identifier)
    (found : world.jobs.lookup jobId = some job) :
    Dispatched completion jobId job (disabledBy outcome world)
      (completions pydantic jobId contract outcome)
      (attempted provider completion (dispatchOutcome pydantic jobId contract .done outcome)
        world) := by
  cases outcome with
  | success rawPayload =>
    unfold dispatchOutcome completions
    dsimp only
    cases validate pydantic contract.schemaName contract.schemaVersion rawPayload with
    | valid =>
      exact dispatched_call rfl found fun _ _ last => dispatched_done last _
    | schemaNotFound | contractViolation => exact failsCharged_dispatched found
  | refusal | incomplete => exact failsCharged_dispatched found
  | timeout => exact dispatched_call rfl found fun _ _ last => dispatched_done last _
  | authenticationError | rateLimited | transportError => exact fails_dispatched found
  | capabilityError _ _ configScope =>
    cases configScope with
    | true | false => exact fails_dispatched found
  | unhandled identifier => exact absurd rfl (handled identifier)

end Dispatches

namespace LateOutcome

section Claiming

variable {late : LateOutcome} {world : World} {job : ExecutionJob} {attempt : Attempt}
  {identifier : String}

theorem Claims.wins (claims : late.Claims world job attempt identifier) :
    job.claimLateOutcome late.attemptId late.correlationId late.incomingProviderRequestId =
      ((.claimed, ""), job.processing late.attemptId attempt identifier) := by
  have unclosed : ¬ (attempt.status = .closed ∨ attempt.status = .consumed) := by
    rw [claims.awaits]
    decide
  have unprocessed : attempt.status ≠ .processingLateOutcome := by
    rw [claims.awaits]
    decide
  have awaits := not_not.mpr claims.awaits
  have matched : ¬ (attempt.correlationId ≠ late.correlationId ∨
      late.correlationId ≠ job.contract.correlationId) := by
    rw [not_or, not_not, not_not]
    exact ⟨claims.correlates, claims.contracted⟩
  have active : ¬ job.status.terminal = true := by
    rw [claims.active]
    decide
  simp only [claimLateOutcome, if_neg active, claims.listed, if_neg unclosed,
    if_neg unprocessed, if_neg awaits, if_neg matched, claims.identified]
  cases known : attempt.providerRequestId with
  | none => rfl
  | some recorded =>
    have same := claims.recorded recorded known
    dsimp only
    rw [if_neg (not_not.mpr same), same]

/-- A claim that is not won changes nothing; one that is won is of an attempt that awaits it. -/
theorem claim_cases (late : LateOutcome) (found : world.jobs.lookup late.jobId = some job) :
    (job.claimLateOutcome late.attemptId late.correlationId
        late.incomingProviderRequestId).1.1 ≠ .claimed ∨
      ∃ attempt identifier, late.Claims world job attempt identifier := by
  unfold claimLateOutcome
  by_cases terminal : job.status.terminal = true
  · rw [if_pos terminal]
    exact .inl nofun
  rw [if_neg terminal]
  cases listed : job.attempts.lookup late.attemptId with
  | none => exact .inl nofun
  | some attempt =>
    dsimp only
    by_cases closed : attempt.status = .closed ∨ attempt.status = .consumed
    · rw [if_pos closed]
      exact .inl nofun
    rw [if_neg closed]
    by_cases processed : attempt.status = .processingLateOutcome
    · rw [if_pos processed]
      exact .inl nofun
    rw [if_neg processed]
    by_cases idle : attempt.status ≠ .awaitingLateOutcome
    · rw [if_pos idle]
      exact .inl nofun
    rw [if_neg idle]
    by_cases mismatched : attempt.correlationId ≠ late.correlationId ∨
        late.correlationId ≠ job.contract.correlationId
    · rw [if_pos mismatched]
      exact .inl nofun
    rw [if_neg mismatched]
    rw [not_or, not_not, not_not] at mismatched
    have claims : ∀ identifier, late.incomingProviderRequestId = some identifier →
        (∀ known, attempt.providerRequestId = some known → identifier = known) →
        late.Claims world job attempt identifier := fun identifier incoming recorded =>
      ⟨found, eq_false_of_ne_true terminal, listed, not_not.mp idle, mismatched.1, mismatched.2,
        incoming, recorded⟩
    cases incoming : late.incomingProviderRequestId with
    | none =>
      cases attempt.providerRequestId with
      | none | some => exact .inl nofun
    | some identifier =>
      cases known : attempt.providerRequestId with
      | none =>
        refine .inr ⟨attempt, identifier, claims identifier incoming ?_⟩
        rw [known]
        exact nofun
      | some recorded =>
        dsimp only
        by_cases different : identifier ≠ recorded
        · rw [if_pos different]
          exact .inl nofun
        · refine .inr ⟨attempt, identifier, claims identifier incoming ?_⟩
          rw [known]
          rintro _ ⟨⟩
          exact not_not.mp different

theorem Claims.unique {other : ExecutionJob} {held : Attempt} {name : String}
    (claims : late.Claims world job attempt identifier)
    (again : late.Claims world other held name) :
    job = other ∧ attempt = held ∧ identifier = name := by
  cases Option.some.inj (claims.found.symm.trans again.found)
  exact ⟨rfl, Option.some.inj (claims.listed.symm.trans again.listed),
    Option.some.inj (claims.identified.symm.trans again.identified)⟩

end Claiming

section RollingBack

variable {pydantic : Pydantic} {provider : Provider} {completion : Completion}
  {late : LateOutcome} {world : World} {job : ExecutionJob} {attempt : Attempt}
  {identifier : String}

def reopened (attempt : Attempt) (identifier : String) : Attempt :=
  { attempt with providerRequestId := some identifier, status := .awaitingLateOutcome }

theorem reopened_eq_iff (claims : late.Claims world job attempt identifier) :
    reopened attempt identifier = attempt ↔ attempt.providerRequestId ≠ none := by
  constructor
  · intro same known
    have recorded : some identifier = attempt.providerRequestId :=
      congrArg Attempt.providerRequestId same
    rw [known] at recorded
    cases recorded
  · intro known
    obtain ⟨recorded, found⟩ := Option.ne_none_iff_exists'.mp known
    have same := claims.recorded recorded found
    rw [reopened, same, ← found, ← claims.awaits]

theorem lookup_released (late : LateOutcome) (job : ExecutionJob) (attempt : Attempt)
    (identifier : String) (attemptId : Uuid) :
    ((job.processing late.attemptId attempt identifier).releaseLateOutcomeClaim
        late.attemptId).attempts.lookup attemptId =
      if attemptId = late.attemptId then some (reopened attempt identifier)
      else job.attempts.lookup attemptId := by
  have held : (job.processing late.attemptId attempt identifier).attempts.lookup late.attemptId =
      some { attempt with
        providerRequestId := some identifier
        status := .processingLateOutcome } := by
    rw [processing, Dict.lookup_insert_eq, if_pos rfl]
  simp only [releaseLateOutcomeClaim, onAttempt, held, Dict.lookup_insert_eq]
  by_cases own : attemptId = late.attemptId
  · rw [if_pos own, if_pos own]
    rfl
  · rw [if_neg own, if_neg own, processing, Dict.lookup_insert_eq, if_neg own]

theorem facts_released (late : LateOutcome) (job : ExecutionJob) (attempt : Attempt)
    (identifier : String) :
    ((job.processing late.attemptId attempt identifier).releaseLateOutcomeClaim
      late.attemptId).facts = job.facts := by
  unfold releaseLateOutcomeClaim onAttempt
  cases (job.processing late.attemptId attempt identifier).attempts.lookup late.attemptId <;> rfl

theorem config_onJob (world : World) (own : String) (change : ExecutionJob → ExecutionJob) :
    (world.onJob own change).config = world.config := by
  unfold World.onJob
  cases world.jobs.lookup own <;> rfl

theorem settle_error {raised : Interruption} {before after : World}
    (writes : FactsOnly late.jobId job before after) :
    (late.settle provider job.facts (.error raised, after)).2.jobs.lookup late.jobId =
        some (job.releaseLateOutcomeClaim late.attemptId) ∧ (∀ other, other ≠ late.jobId →
        (late.settle provider job.facts (.error raised, after)).2.jobs.lookup other =
          before.jobs.lookup other) ∧
      (late.settle provider job.facts (.error raised, after)).2.config = before.config := by
  obtain ⟨others, ⟨_, own⟩, config⟩ := writes
  refine ⟨?_, ?_, ?_⟩
  · simp only [settle, perform, lookup_onJob, own]
    rfl
  · intro other different
    simp [settle, perform, lookup_onJob, if_neg different, others other different]
  · simp [settle, perform, config_onJob, config]

def claimedWorld (late : LateOutcome) (world : World) (job : ExecutionJob) (attempt : Attempt)
    (identifier : String) : World :=
  { world with
    jobs := world.jobs.insert late.jobId (job.processing late.attemptId attempt identifier) }

theorem ingest_of_claims (claims : late.Claims world job attempt identifier) :
    late.ingest pydantic provider completion world =
      late.settle provider (job.processing late.attemptId attempt identifier).facts
        (attempted provider completion
          (dispatchOutcome pydantic late.jobId job.contract .done late.outcome)
          (late.claimedWorld world job attempt identifier)) := by
  have claimed : perform provider (.claimLateOutcome late.jobId late.attemptId late.correlationId
      late.incomingProviderRequestId) world =
        ((.claimed, ""), late.claimedWorld world job attempt identifier) := by
    simp only [perform, claims.found, claims.wins]
    rfl
  have stored : (late.claimedWorld world job attempt identifier).jobs.lookup late.jobId =
      some (job.processing late.attemptId attempt identifier) := by
    rw [claimedWorld, Dict.lookup_insert_eq, if_pos rfl]
  simp only [ingest, claimed, stored]
  rfl

theorem dispatch_spec (pydantic : Pydantic) (provider : Provider) (late : LateOutcome)
    (completion : Completion) {claimed : World} {held : ExecutionJob}
    (found : claimed.jobs.lookup late.jobId = some held) :
    ((∃ raised, (attempted provider completion
        (dispatchOutcome pydantic late.jobId held.contract .done late.outcome) claimed).1 =
          .error raised) ↔ late.Fails pydantic completion held) ∧
      FactsOnly late.jobId held (disabledBy late.outcome claimed) (attempted provider completion
          (dispatchOutcome pydantic late.jobId held.contract .done late.outcome) claimed).2 := by
  by_cases handled : ∀ identifier, late.outcome ≠ .unhandled identifier
  · have dispatched := @dispatchOutcome_dispatched pydantic provider completion _ _ _ held.contract _
      handled found
    refine ⟨dispatched.raises.trans ⟨.inr, ?_⟩, dispatched.writes⟩
    rintro (⟨identifier, unhandled⟩ | interrupted)
    · exact absurd unhandled (handled identifier)
    · exact interrupted
  · obtain ⟨identifier, unhandled⟩ := not_forall_not.mp handled
    rw [Fails, unhandled]
    refine ⟨iff_of_true ⟨_, rfl⟩ (.inl ⟨identifier, rfl⟩), fun _ _ => rfl, ⟨held.facts, found⟩, rfl⟩

/-- A rollback leaves no trace where the attempt had its id, and the configuration is kept. -/
theorem traceless_iff (claims : late.Claims world job attempt identifier) {after : World}
    (own : after.jobs.lookup late.jobId = some ((job.processing late.attemptId attempt
      identifier).releaseLateOutcomeClaim late.attemptId))
    (others : ∀ other, other ≠ late.jobId → after.jobs.lookup other = world.jobs.lookup other)
    (config : after.config = (disabledBy late.outcome world).config) :
    Traceless world after ↔ attempt.providerRequestId ≠ none ∧
      ∀ reason, late.outcome.disables = some reason →
        world.config.disable reason = world.config := by
  have attempts : ∀ attemptId,
      ((after.jobs.lookup late.jobId).bind fun job => job.attempts.lookup attemptId) =
        if attemptId = late.attemptId then some (reopened attempt identifier)
        else job.attempts.lookup attemptId := by
    intro attemptId
    rw [own, Option.bind_some, lookup_released]
  have settings : after.config = world.config ↔ ∀ reason, late.outcome.disables = some reason →
      world.config.disable reason = world.config := by
    rw [config, disabledBy]
    cases late.outcome.disables with
    | none => exact iff_of_true rfl nofun
    | some reason =>
      exact ⟨fun same _ given => Option.some.inj given ▸ same, fun each => each reason rfl⟩
  constructor
  · intro traceless
    refine ⟨(reopened_eq_iff claims).mp ?_, settings.mp traceless.config⟩
    have same := traceless.attempts late.jobId late.attemptId
    rw [attempts, if_pos rfl, claims.found, Option.bind_some, claims.listed] at same
    exact Option.some.inj same
  · rintro ⟨known, kept⟩
    refine ⟨?_, ?_, settings.mpr kept⟩
    · intro jobId
      by_cases same : jobId = late.jobId
      · rw [same, own, claims.found]
        exact congrArg some (facts_released late job attempt identifier)
      · rw [others jobId same]
    · intro jobId attemptId
      by_cases same : jobId = late.jobId
      · rw [same, attempts, claims.found, Option.bind_some]
        by_cases held : attemptId = late.attemptId
        · rw [if_pos held, held, claims.listed, (reopened_eq_iff claims).mpr known]
        · rw [if_neg held]
      · rw [others jobId same]

theorem ingest_unclaimed
    (lost : ¬ ∃ job attempt identifier, late.Claims world job attempt identifier) :
    ∃ result, (late.ingest pydantic provider completion world).1 = .ok result := by
  have refused : (perform provider (.claimLateOutcome late.jobId late.attemptId late.correlationId
      late.incomingProviderRequestId) world).1.1 ≠ .claimed := by
    cases found : world.jobs.lookup late.jobId with
    | none =>
      simp only [perform, found]
      simp
    | some job =>
      simp only [perform, found]
      rcases claim_cases late found with refused | ⟨attempt, identifier, claims⟩
      · exact refused
      · exact absurd ⟨job, attempt, identifier, claims⟩ lost
  revert refused
  unfold ingest
  rcases perform provider (.claimLateOutcome late.jobId late.attemptId late.correlationId
    late.incomingProviderRequestId) world with ⟨⟨status, _⟩, _⟩
  intro refused
  cases status with
  | claimed => exact absurd rfl refused
  | _ => exact ⟨_, rfl⟩

theorem disabledBy_claimedWorld (late : LateOutcome) (outcome : ProviderOutcome) (world : World)
    (job : ExecutionJob) (attempt : Attempt) (identifier : String) :
    (disabledBy outcome (late.claimedWorld world job attempt identifier)).config =
        (disabledBy outcome world).config ∧ ∀ other, other ≠ late.jobId →
        (disabledBy outcome (late.claimedWorld world job attempt identifier)).jobs.lookup other =
          world.jobs.lookup other := by
  have kept : ∀ other, other ≠ late.jobId →
      (late.claimedWorld world job attempt identifier).jobs.lookup other =
        world.jobs.lookup other := fun other different => AList.lookup_insert_ne different
  unfold disabledBy
  cases outcome.disables with
  | none | some => exact ⟨rfl, kept⟩

/-- An ingestion that raises leaves no trace, exactly where it is not one that does. -/
theorem ingest_traceless (pydantic : Pydantic) (provider : Provider) (late : LateOutcome)
    (completion : Completion) (world : World) :
    ((∃ raised, (late.ingest pydantic provider completion world).1 = .error raised) →
        Traceless world (late.ingest pydantic provider completion world).2) ↔
      ¬ late.LeavesTrace pydantic completion world := by
  by_cases won : ∃ job attempt identifier, late.Claims world job attempt identifier
  · obtain ⟨job, attempt, identifier, claims⟩ := won
    have stored : (late.claimedWorld world job attempt identifier).jobs.lookup late.jobId =
        some (job.processing late.attemptId attempt identifier) := by
      rw [claimedWorld, Dict.lookup_insert_eq, if_pos rfl]
    have spec := dispatch_spec pydantic provider late completion stored
    rw [show (job.processing late.attemptId attempt identifier).contract = job.contract from rfl]
      at spec
    rw [ingest_of_claims claims]
    generalize attempted provider completion
      (dispatchOutcome pydantic late.jobId job.contract .done late.outcome)
      (late.claimedWorld world job attempt identifier) = result at spec ⊢
    obtain ⟨fails, writes⟩ := spec
    have traces : late.LeavesTrace pydantic completion world ↔
        late.Fails pydantic completion (job.processing late.attemptId attempt identifier) ∧
          (attempt.providerRequestId = none ∨ ∃ reason, late.outcome.disables = some reason ∧
            world.config.disable reason ≠ world.config) := by
      constructor
      · rintro ⟨other, _, _, again, failing, trace⟩
        obtain ⟨rfl, rfl, rfl⟩ := claims.unique again
        exact ⟨failing, trace⟩
      · rintro ⟨failing, trace⟩
        exact ⟨job, attempt, identifier, claims, failing, trace⟩
    obtain ⟨answer, _⟩ := result
    cases answer with
    | ok =>
      refine iff_of_true (fun ⟨_, impossible⟩ => nomatch impossible) fun leaves => ?_
      obtain ⟨_, impossible⟩ := fails.mpr (traces.mp leaves).1
      cases impossible
    | error raised =>
      obtain ⟨own, others, config⟩ := @settle_error provider _ _ raised _ _ writes
      obtain ⟨settings, elsewhere⟩ :=
        disabledBy_claimedWorld late late.outcome world job attempt identifier
      have untraced := traceless_iff claims own
        (fun other different => (others other different).trans (elsewhere other different))
        (config.trans settings)
      have failing := fails.mp ⟨raised, rfl⟩
      rw [traces, not_and_or, not_or, not_exists]
      refine ⟨fun clean => .inr ?_, fun kept _ => untraced.mpr ?_⟩
      · obtain ⟨known, same⟩ := untraced.mp (clean ⟨raised, rfl⟩)
        exact ⟨known, fun reason ⟨given, changed⟩ => changed (same reason given)⟩
      · obtain ⟨known, same⟩ := kept.resolve_left (not_not.mpr failing)
        exact ⟨known, fun reason given => not_not.mp fun changed => same reason ⟨given, changed⟩⟩
  · obtain ⟨_, answered⟩ := @ingest_unclaimed pydantic provider completion _ _ won
    apply iff_of_true
    · rintro ⟨_, failed⟩
      cases answered.symm.trans failed
    · rintro ⟨job, attempt, identifier, claims, _⟩
      exact won ⟨job, attempt, identifier, claims⟩

end RollingBack

end LateOutcome

/-- One move at the store: a call of any party, or an ingestion with the completion it is given. -/
inductive LateMove
  | call (call : Call)
  | ingest (late : LateOutcome) (completion : Completion)

def LateMove.run (pydantic : Pydantic) (provider : Provider) :
    LateMove → World → Option Interruption × World
  | .call request, world => (none, (perform provider request world).2)
  | .ingest late completion, world =>
    match late.ingest pydantic provider completion world with
    | (.ok _, after) => (none, after)
    | (.error raised, after) => (some raised, after)

/-- In every run: what raises leaves no trace, exactly where no ingestion of the run leaves one. -/
theorem failed_ingestions_traceless_iff (pydantic : Pydantic) (provider : Provider)
    (opening : AcceptedJobs) (moves : List LateMove) :
    (∀ e ∈ Run.trace (LateMove.run pydantic provider) opening.world moves,
      e.response.isSome → Traceless e.before e.after) ↔
      ∀ e ∈ Run.trace (LateMove.run pydantic provider) opening.world moves,
        ∀ late completion, e.call = .ingest late completion →
          ¬ late.LeavesTrace pydantic completion e.before := by
  refine forall₂_congr fun e member => ?_
  obtain ⟨response, after⟩ := Run.mem_trace_performed member
  rw [response, after]
  cases moved : e.call with
  | call => exact iff_of_true nofun nofun
  | ingest late completion =>
    have traceless := LateOutcome.ingest_traceless pydantic provider late completion e.before
    have only : (∀ other given, LateMove.ingest late completion = .ingest other given →
        ¬ other.LeavesTrace pydantic given e.before) ↔
          ¬ late.LeavesTrace pydantic completion e.before := by
      constructor
      · intro each
        exact each late completion rfl
      · rintro clean _ _ ⟨⟩
        exact clean
    rw [only, ← traceless, LateMove.run]
    rcases late.ingest pydantic provider completion e.before with ⟨answer, _⟩
    cases answer with
    | ok => exact iff_of_true nofun (fun ⟨_, impossible⟩ => nomatch impossible)
    | error raised => exact ⟨fun clean _ => clean rfl, fun clean _ => clean ⟨raised, rfl⟩⟩

namespace Sample

/-- An execution whose call times out, without an id of the provider. -/
def timedOut : List LateMove :=
  (scheduleCalls pydantic silent opening
    ([.enter (.execute (request "v1"))] ++ List.replicate 7 (.resume 0))).map .call

/-- A completion that cannot write. -/
def broken : Completion := fun _ job => some job.facts

/-- A completion that fails at the cost, behind the failure that it has written. -/
def failingCost : Completion
  | .recordCost _ _, job => some job.facts
  | _, _ => none

def lateRefusal : LateMove :=
  .ingest ⟨.refusal "policy" .unknown none, "job", 0, "correlation", some "request"⟩ failingCost

def lateDenial : LateMove :=
  .ingest ⟨.authenticationError 401, "job", 0, "correlation", some "request"⟩ broken

def lastEvent (moves : List LateMove) :
    Option (Run.Event World LateMove fun _ => Option Interruption) :=
  (Run.trace (LateMove.run pydantic silent) opening.world moves).getLast?

/-- A failed ingestion leaves the id that it has claimed with, and a configuration it has
disabled. -/
theorem failed_ingestion_traced :
    (¬ ∀ e ∈ Run.trace (LateMove.run pydantic silent) opening.world (timedOut ++ [lateRefusal]),
      e.response.isSome → Traceless e.before e.after) ∧
      ¬ ∀ e ∈ Run.trace (LateMove.run pydantic silent) opening.world (timedOut ++ [lateDenial]),
        e.response.isSome → Traceless e.before e.after := by
  constructor
  · intro clean
    have event : ∃ e, lastEvent (timedOut ++ [lateRefusal]) = some e ∧ e.response.isSome ∧
        ((e.before.jobs.lookup "job").bind fun job => job.attempts.lookup 0) ≠
          (e.after.jobs.lookup "job").bind fun job => job.attempts.lookup 0 :=
      ⟨_, rfl, by decide +kernel, by decide +kernel⟩
    obtain ⟨e, last, raised, changed⟩ := event
    exact changed ((clean e (List.mem_of_getLast? last) raised).attempts "job" 0).symm
  · intro clean
    have event : ∃ e, lastEvent (timedOut ++ [lateDenial]) = some e ∧ e.response.isSome ∧
        e.before.config.disabled ≠ e.after.config.disabled :=
      ⟨_, rfl, by decide +kernel, by decide +kernel⟩
    obtain ⟨e, last, raised, changed⟩ := event
    exact changed (congrArg _ (clean e (List.mem_of_getLast? last) raised).config).symm

end Sample

end BackendHandbook.StructuredOutput
