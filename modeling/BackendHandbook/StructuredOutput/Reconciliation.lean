import BackendHandbook.StructuredOutput.LateOutcomes

/-! Jobs that wait for an outcome: when there is still an attempt that could bring one. -/

namespace BackendHandbook.StructuredOutput

open Run Interleaving List

section Claims

def Correlated (job : ExecutionJob) : Prop :=
  ∀ attemptId attempt, job.attempts.lookup attemptId = some attempt →
    attempt.correlationId = job.contract.correlationId

/-- A late outcome of an attempt is being processed, or one would be dispatched that comes in
with the ids of its attempt. -/
def Deliverable (job : ExecutionJob) : Prop :=
  ∃ attemptId, job.statusOf attemptId = some .processingLateOutcome ∨ ∃ identifier,
    (job.claimLateOutcome attemptId job.contract.correlationId (some identifier)).1.1 = .claimed

variable {job : ExecutionJob} {attemptId : Uuid}

theorem Deliverable.live (deliverable : Deliverable job) : ∃ attemptId, job.Live attemptId := by
  rcases deliverable with ⟨attemptId, processing | ⟨identifier, claimed⟩⟩
  · exact ⟨attemptId, .inr processing⟩
  · rcases claimLateOutcome_cases job attemptId job.contract.correlationId (some identifier) with
      ⟨refused, _⟩ | ⟨_, _, _, found, awaits, _⟩
    · exact absurd claimed refused
    · refine ⟨attemptId, .inl ?_⟩
      rw [ExecutionJob.statusOf, found]
      exact congrArg some awaits

theorem deliverable_of_awaiting (correlated : Correlated job)
    (pending : job.status = .pendingReconciliation)
    (awaiting : job.statusOf attemptId = some .awaitingLateOutcome) : Deliverable job := by
  rcases Option.map_eq_some_iff.mp awaiting with ⟨attempt, found, status⟩
  have same := correlated attemptId attempt found
  refine ⟨attemptId, .inr ⟨attempt.providerRequestId.getD "", ?_⟩⟩
  unfold ExecutionJob.claimLateOutcome
  rw [pending, if_neg (by decide), found]
  dsimp only
  rw [status, if_neg (by decide), if_neg (by decide), if_neg (by decide), same, if_neg (by simp)]
  cases attempt.providerRequestId with
  | none => rfl
  | some =>
    dsimp only
    rw [if_neg (by simp)]

theorem Correlated.onAttempt (correlated : Correlated job) (attemptId : Uuid)
    {change : Attempt → Attempt}
    (same : ∀ attempt, (change attempt).correlationId = attempt.correlationId) :
    Correlated (job.onAttempt attemptId change) := by
  intro other attempt found
  rw [(job.onAttempt_frame attemptId change).2.2.1]
  rw [job.lookup_onAttempt] at found
  split at found
  · rcases Option.map_eq_some_iff.mp found with ⟨before, listed, rfl⟩
    exact (same before).trans (correlated attemptId before listed)
  · exact correlated other attempt found

theorem Correlated.shut (correlated : Correlated job) (attemptId : Uuid) :
    Correlated (job.shut attemptId) := by
  rcases job.shut_frame attemptId with ⟨_, attempts, contract, _⟩
  unfold Correlated
  rw [attempts, contract]
  exact correlated

theorem Correlated.put (correlated : Correlated job) {later : ExecutionJob} {attempt : Attempt}
    (contract : later.contract = job.contract)
    (attempts : later.attempts = job.attempts.insert attemptId attempt)
    (own : attempt.correlationId = job.contract.correlationId) : Correlated later := by
  rw [Correlated, contract, attempts]
  exact Dict.forall_insert own correlated

end Claims

variable {world : World} {past : List (List Fact)}

section Correlations

variable {pydantic : Pydantic} {provider : Provider} {opening : AcceptedJobs}
variable {actions : List Action}

def AllCorrelated (world : World) : Prop :=
  ∀ jobId job, world.jobs.lookup jobId = some job → Correlated job

theorem AllCorrelated.onJob (all : AllCorrelated world) (own : String)
    {change : ExecutionJob → ExecutionJob}
    (step : ∀ job, Correlated job → Correlated (change job)) :
    AllCorrelated (world.onJob own change) := by
  intro jobId job found
  rw [lookup_onJob] at found
  split at found
  · rcases Option.map_eq_some_iff.mp found with ⟨before, listed, rfl⟩
    exact step before (all own before listed)
  · exact all jobId job found

theorem AllCorrelated.insert (all : AllCorrelated world) (own : String)
    {job : ExecutionJob} (correlated : Correlated job) (jobId : String) :
    ∀ later, (world.jobs.insert own job).lookup jobId = some later → Correlated later :=
  Dict.forall_insert correlated all jobId

theorem perform_correlated {index : Nat}
    {known : List Fact} {call : Call} (held : Held pydantic world past)
    (listed : past[index]? = some known) (allowed : Allowed pydantic known call)
    (all : AllCorrelated world) : AllCorrelated (perform provider call world).2 := by
  cases call with
  | disabled | modelMaxOutputTokens | disable | job | snapshotJobFacts | generate => exact all
  | claimForNewCall own =>
    simp only [perform]
    cases stored : world.jobs.lookup own with
    | none => exact all
    | some job =>
      rcases allowed with ⟨_, _, read, rfl⟩
      rw [held.contract listed read stored]
      apply all.insert own
      rcases claimForNewCall_cases job job.contract.correlationId world.drawn with
        refused | ⟨_, _, claimed⟩
      · rw [refused]
        exact all own job stored
      · rw [claimed]
        exact (all own job stored).put rfl rfl rfl
  | claimLateOutcome own attemptId correlationId incoming =>
    simp only [perform]
    cases stored : world.jobs.lookup own with
    | none => exact all
    | some job =>
      apply all.insert own
      rcases claimLateOutcome_cases job attemptId correlationId incoming with
        ⟨_, kept⟩ | ⟨attempt, _, _, found, _, claimed⟩
      · rw [kept]
        exact all own job stored
      · rw [claimed]
        exact (all own job stored).put rfl rfl (all own job stored attemptId attempt found)
  | attachProviderRequestId own attemptId | releaseLateOutcomeClaim own attemptId =>
    refine all.onJob own fun job correlated => correlated.onAttempt attemptId fun attempt => ?_
    split
    · rfl
    · rfl
  | markAttemptAwaitingLate own attemptId =>
    exact all.onJob own fun job correlated => correlated.onAttempt attemptId fun _ => rfl
  | closeAttempt own attemptId | consumeLateOutcome own attemptId =>
    refine all.onJob own fun job correlated => Correlated.shut ?_ attemptId
    exact correlated.onAttempt attemptId fun _ => rfl
  | restoreJobFacts own | recordNonSuccess own | recordCost own | recordTimeoutPending own =>
    exact all.onJob own fun job correlated => correlated
  | completeSuccess own =>
    rw [perform_completeSuccess]
    refine all.onJob own fun job correlated => ?_
    unfold ExecutionJob.completeSuccess
    split
    · exact correlated
    · exact correlated

theorem correlated_after : AllCorrelated (worldAfter pydantic provider opening actions) := by
  rw [worldAfter_eq]
  apply kept_final (perform provider) AllCorrelated _ _
  · intro e member all
    rcases event_held member with ⟨_, _, _, held, listed, allowed⟩
    rw [(mem_trace_performed member).2]
    exact perform_correlated held listed allowed all
  · intro jobId job found
    rcases opening.fresh jobId job found with ⟨_, _, _, rfl⟩
    intro attemptId attempt nothing
    cases nothing

end Correlations

/-- Where a party can be when it is done. -/
inductive Rests (known : List Fact) : Party → Prop
  | idle (party : Party) (idle : Phase.behind known = .idle) : Rests known party
  | executed (request : ProviderRequest) (left : Phase.behind known = .departed) :
      Rests known (.execute request)
  | raised (request : ProviderRequest) (jobId : String) (attemptId : Uuid) (timeout : Bool)
      (raised : Phase.behind known = .answered jobId attemptId timeout) :
      Rests known (.execute request)
  | released (late : LateOutcome) (undone : late.outcome.isTimeout = false)
      (left : Phase.behind known = .departed) : Rests known (.ingest late)
  | consumed (late : LateOutcome)
      (consumed : Phase.behind known = .consumed late.jobId late.attemptId late.outcome.isTimeout) :
      Rests known (.ingest late)
  | missing (late : LateOutcome) (own : (Phase.behind known).owns late.jobId = true)
      (missing : (⟨.job late.jobId, none⟩ : Fact) ∈ known ∨
        (⟨.snapshotJobFacts late.jobId, none⟩ : Fact) ∈ known) : Rests known (.ingest late)

def Ended (party : Party) (known : List Fact) (_ : Finished) : Prop := Rests known party

section Ends

variable {pydantic : Pydantic} {known : List Fact} {jobId : String} {attemptId : Uuid}
variable {contract : ExecutionContract} {next : Finished → JobProgram} {outcome : ProviderOutcome}
variable {Q : List Fact → Finished → Prop}

theorem failsCharged_ends {classification : String} {usage : Usage}
    {providerRequestId : Option String} {result : ExecutionResult}
    (goes : ∀ later result, Phase.behind later = (Phase.behind known).decided false →
      (next (.ok result)).Ends Q later) :
    (failsCharged jobId next classification usage providerRequestId result).Ends Q known :=
  fun _ _ => goes _ _ rfl

theorem dispatchOutcome_ends (goes : ∀ later result,
      Phase.behind later = (Phase.behind known).decided outcome.isTimeout →
        (next (.ok result)).Ends Q later)
    (stops : outcome.isTimeout = false → ∀ raised, (next (.error raised)).Ends Q known) :
    (dispatchOutcome pydantic jobId contract next outcome).Ends Q known := by
  cases outcome with
  | success rawPayload =>
    unfold dispatchOutcome
    dsimp only
    cases validate pydantic contract.schemaName contract.schemaVersion rawPayload with
    | valid => exact fun _ => goes _ _ rfl
    | schemaNotFound | contractViolation => exact failsCharged_ends goes
  | refusal | incomplete => exact failsCharged_ends goes
  | timeout | rateLimited | transportError => exact fun _ => goes _ _ rfl
  | authenticationError => exact fun _ _ => goes _ _ rfl
  | capabilityError _ _ configScope =>
    cases configScope with
    | true => exact fun _ _ => goes _ _ rfl
    | false => exact fun _ => goes _ _ rfl
  | unhandled => exact stops rfl _

variable {request : ProviderRequest}

theorem bindOutcome_ends (result : ExecutionResult) :
    (bindOutcome jobId attemptId outcome (.ok result)).Ends (Ended (.execute request)) known := by
  unfold bindOutcome
  cases outcome.isTimeout with
  | true | false => exact fun _ => .executed request rfl

theorem answered_ends {timeout : Bool}
    (phase : Phase.behind known = .answered jobId attemptId timeout) :
    (answered pydantic jobId contract attemptId outcome).Ends (Ended (.execute request)) known := by
  have dispatched : ∀ later, Phase.behind later = .answered jobId attemptId timeout →
      (dispatchOutcome pydantic jobId contract (bindOutcome jobId attemptId outcome) outcome).Ends
        (Ended (.execute request)) later := by
    intro later phase
    exact dispatchOutcome_ends (fun _ result _ => bindOutcome_ends result)
      fun _ _ => .raised request jobId attemptId timeout phase
  unfold answered
  cases outcome.providerRequestId with
  | none => exact dispatched known phase
  | some => exact fun _ => dispatched _ phase

theorem startCall_ends (request : ProviderRequest) (job : ExecutionJob)
    (phase : Phase.behind known = .claimed request.jobId attemptId) :
    (startCall pydantic request job attemptId).Ends (Ended (.execute request)) known := by
  intro modelHardCap
  dsimp only
  cases bindRequestToContract request job.contract modelHardCap with
  | error => exact fun _ _ => .executed request rfl
  | ok =>
    intro answer
    have before : Phase.behind (⟨.modelMaxOutputTokens, modelHardCap⟩ :: known) =
        .claimed request.jobId attemptId := phase
    cases answer with
    | error =>
      refine .raised request request.jobId attemptId false ?_
      rw [Phase.behind, before]
      rfl
    | ok =>
      exact answered_ends (by rw [Phase.behind, before]; rfl)

theorem executeJob_ends (request : ProviderRequest) :
    (executeJob pydantic request).Ends (Ended (.execute request)) [] := by
  intro disabled
  cases disabled with
  | true => exact .idle _ rfl
  | false =>
    intro found
    cases found with
    | none => exact .idle _ rfl
    | some job =>
      intro claim
      cases claim with
      | none => exact fun _ => .idle _ rfl
      | some => exact startCall_ends request job rfl

namespace LateOutcome

variable (late : LateOutcome)

theorem consume_ends (phase : Phase.behind known = .lateClaimed late.jobId late.attemptId none) :
    (late.consume pydantic).Ends (Ended (.ingest late)) known := by
  have owns : ∀ facts, Phase.owns late.jobId
      (.lateClaimed late.jobId late.attemptId facts) = true := fun facts => decide_eq_true rfl
  intro found
  have before : Phase.behind (⟨.job late.jobId, found⟩ :: known) =
      .lateClaimed late.jobId late.attemptId none := phase
  cases found with
  | none =>
    refine .missing late ?_ (.inl mem_cons_self)
    rw [before]
    exact owns none
  | some job =>
    intro facts
    cases facts with
    | none =>
      refine .missing late ?_ (.inr mem_cons_self)
      rw [Phase.behind, before]
      exact owns none
    | some snapshot =>
      have claimed : Phase.behind (⟨.snapshotJobFacts late.jobId, some snapshot⟩ ::
          ⟨.job late.jobId, some job⟩ :: known) =
            .lateClaimed late.jobId late.attemptId (some snapshot) := by
        rw [Phase.behind, before]
        rfl
      refine dispatchOutcome_ends ?_ fun undone raised _ _ => .released late undone rfl
      intro later result behind
      rw [claimed] at behind
      intro answer
      refine .consumed late ?_
      rw [Phase.behind, behind]
      rfl

theorem program_ends : (late.program pydantic).Ends (Ended (.ingest late)) [] := by
  intro answer
  rcases answer with ⟨status, _⟩
  cases status with
  | claimed => exact late.consume_ends rfl
  | terminalNoop | alreadyProcessing | rejected => exact .idle _ rfl

end LateOutcome

theorem Party.program_ends (party : Party) : (party.program pydantic).Ends (Ended party) [] := by
  cases party with
  | execute => exact executeJob_ends _
  | ingest late => exact late.program_ends

end Ends

section Runs

variable (pydantic : Pydantic) (provider : Provider) (opening : AcceptedJobs)
variable (actions : List Action)

def Completed : Prop :=
  ∀ thread ∈ (poolAfter pydantic provider opening actions).threads,
    ∃ finished, thread = .done finished

def Awaited : Prop :=
  ∀ jobId job, (worldAfter pydantic provider opening actions).jobs.lookup jobId = some job →
    job.status = .pendingReconciliation → Deliverable job

/-- A late outcome that is a timeout itself has won the claim of its attempt. -/
def TimedOutAgain : Prop :=
  ∃ index late, (parties actions)[index]? = some (.ingest late) ∧
    late.outcome.isTimeout = true ∧
      claimsLate (history pydantic provider opening actions index) ≠ []

variable {pydantic provider opening actions}
variable {index : Nat} {known : List Fact} {jobId : String} {job : ExecutionJob}

theorem started_turns (actions : List Action) :
    started (turns pydantic actions) = (parties actions).map (·.program pydantic) := by
  induction actions with
  | nil => rfl
  | cons action _ ih =>
    cases action with
    | enter party => exact congrArg (party.program pydantic :: ·) ih
    | resume => exact ih

theorem party_rests (completed : Completed pydantic provider opening actions)
    (listed : (histories (perform provider) ⟨opening.world, []⟩ []
      (turns pydantic actions))[index]? = some known) :
    ∃ party, (parties actions)[index]? = some party ∧ Rests known party := by
  have aligned := run_aligned (perform provider)
    (R := fun place known program => ∃ party, (parties actions)[place]? = some party ∧
      Program.Ends (Ended party) known program)
    (fun place =>
      ⟨fun known request next ends response => by
          rcases ends with ⟨party, own, ends⟩
          exact ⟨party, own, ends response⟩,
        fun known question next ends answer => by
          rcases ends with ⟨party, own, ends⟩
          exact ⟨party, own, ends answer⟩⟩)
    opening.world (turns pydantic actions) ?_
  · have inside := (List.getElem?_eq_some_iff.mp listed).1
    rw [aligned.1] at inside
    have found := getElem?_eq_getElem inside
    rcases completed _ (mem_of_getElem? found) with ⟨_, done⟩
    rcases aligned.2 index _ known found listed with ⟨party, own, ends⟩
    rw [done] at ends
    exact ⟨party, own, ends⟩
  · intro place program found
    rw [started_turns, getElem?_map] at found
    rcases Option.map_eq_some_iff.mp found with ⟨party, own, rfl⟩
    exact ⟨party, own, party.program_ends⟩

theorem owner_listed {owner : Phase}
    (only : ((histories (perform provider) ⟨opening.world, []⟩ [] (turns pydantic actions)).map
      Phase.behind).filter (Phase.owns jobId) = (some owner).toList) :
    ∃ (index : Nat) (known : List Fact), (histories (perform provider) ⟨opening.world, []⟩ []
      (turns pydantic actions))[index]? = some known ∧ Phase.behind known = owner := by
  have member : owner ∈ ((histories (perform provider) ⟨opening.world, []⟩ []
      (turns pydantic actions)).map Phase.behind).filter (Phase.owns jobId) := by
    rw [only]
    exact mem_singleton_self owner
  rcases mem_map.mp (mem_of_mem_filter member) with ⟨known, inside, same⟩
  rcases mem_iff_getElem?.mp inside with ⟨index, listed⟩
  exact ⟨index, known, listed, same⟩

theorem Agrees.found (agrees : Agrees world known) (found : world.jobs.lookup jobId = some job) :
    ¬ ((⟨.job jobId, none⟩ : Fact) ∈ known ∨ (⟨.snapshotJobFacts jobId, none⟩ : Fact) ∈ known) := by
  rintro (unread | missing)
  · have same := agrees.read jobId none unread
    rw [found] at same
    cases same
  · cases found.symm.trans (agrees.missing jobId missing)

theorem Held.stored (held : Held pydantic world past)
    (listed : past[index]? = some known) (owns : (Phase.behind known).owns jobId = true) :
    ∃ job, world.jobs.lookup jobId = some job := by
  rcases held.fits jobId with ⟨_, fits, only⟩
  have member : Phase.behind known ∈ (past.map Phase.behind).filter (Phase.owns jobId) :=
    mem_filter.mpr ⟨mem_map_of_mem (mem_of_getElem? listed), owns⟩
  rw [only] at member
  cases found : world.jobs.lookup jobId with
  | none =>
    rw [(fits.absent found).1] at member
    cases member
  | some job => exact ⟨job, rfl⟩

theorem awaited_of_never (completed : Completed pydantic provider opening actions)
    (never : ¬ TimedOutAgain pydantic provider opening actions) :
    Awaited pydantic provider opening actions := by
  intro jobId job found pending
  have held := held_after pydantic provider opening actions
  rcases held.fits jobId with ⟨_, fits, only⟩
  have stage := fits.staged job found
  cases stage with
  | vacant running | claimed _ _ running | answered _ _ _ running =>
    cases pending.symm.trans running
  | unsettled =>
    -- The execution has still to mark its attempt: it is not done.
    rcases owner_listed only with ⟨index, known, listed, phase⟩
    rcases party_rests completed listed with ⟨party, _, rests⟩
    cases rests with
    | idle _ idle => cases phase.symm.trans idle
    | executed _ left | released _ _ left => cases phase.symm.trans left
    | raised _ _ _ _ raised => cases phase.symm.trans raised
    | consumed _ consumed => cases phase.symm.trans consumed
    | missing _ owns missing =>
      rcases held.stored listed owns with ⟨stored, there⟩
      exact absurd missing ((held.agrees known (mem_of_getElem? listed)).found there)
  | waiting _ _ _ awaiting =>
    exact deliverable_of_awaiting (correlated_after jobId job found) pending awaiting
  | processing own attemptId _ _ _ claimed | lateUnsettled own attemptId _ _ claimed =>
    exact ⟨attemptId, .inl claimed⟩
  | stranded =>
    rcases owner_listed only with ⟨index, known, listed, phase⟩
    rcases party_rests completed listed with ⟨_, entered, rests⟩
    cases rests with
    | idle _ idle => cases phase.symm.trans idle
    | executed _ left | released _ _ left => cases phase.symm.trans left
    | raised _ _ _ _ raised => cases phase.symm.trans raised
    | consumed late consumed =>
      have same := phase.symm.trans consumed
      injection same with _ _ timeout
      have trail := lawful_trail (held.lawful known (mem_of_getElem? listed))
      rw [phase] at trail
      refine absurd ⟨index, late, entered, timeout.symm, ?_⟩ never
      rw [history, listed]
      exact fun empty => cons_ne_nil _ _ (trail.1.symm.trans empty)
    | missing _ owns missing =>
      rcases held.stored listed owns with ⟨_, there⟩
      exact absurd missing ((held.agrees known (mem_of_getElem? listed)).found there)
  | concluded _ terminal =>
    rw [pending] at terminal
    cases terminal

/-- A timeout that is consumed as a late outcome leaves its job with no attempt to wait for. -/
theorem TimedOutAgain.unawaited (completed : Completed pydantic provider opening actions)
    (again : TimedOutAgain pydantic provider opening actions) :
    ¬ Awaited pydantic provider opening actions := by
  intro awaited
  rcases again with ⟨index, late, entered, timeout, claims⟩
  have held := held_after pydantic provider opening actions
  have some_ : history pydantic provider opening actions index ≠ [] := by
    intro empty
    rw [empty] at claims
    exact claims rfl
  have listed := history_listed some_
  have trail := lawful_trail (held.lawful _ (mem_of_getElem? listed))
  rcases party_rests completed listed with ⟨_, same, rests⟩
  cases entered.symm.trans same
  cases rests with
  | idle _ idle =>
    rw [idle] at trail
    exact claims trail.1
  | released _ undone => cases timeout.symm.trans undone
  | consumed _ consumed =>
    rw [timeout] at consumed
    have owns : (Phase.behind (history pydantic provider opening actions index)).owns
        late.jobId = true := by
      rw [consumed]
      exact decide_eq_true rfl
    rcases held.stored listed owns with ⟨job, found⟩
    have stage := held.stage listed owns found
    rw [consumed] at stage
    cases stage with
    | stranded _ _ pending _ quiet =>
      rcases (awaited late.jobId job found pending).live with ⟨attemptId, live⟩
      exact quiet attemptId live
    | concluded _ _ _ closes => cases closes _ rfl
  | missing _ owns missing =>
    rcases held.stored listed owns with ⟨_, there⟩
    exact (held.agrees _ (mem_of_getElem? listed)).found there missing

/-- When all is done, every job that waits can still be given an outcome, just if no timeout
has been consumed as a late outcome. -/
theorem awaited_iff (pydantic : Pydantic) (provider : Provider) (opening : AcceptedJobs)
    (actions : List Action) (completed : Completed pydantic provider opening actions) :
    Awaited pydantic provider opening actions ↔ ¬ TimedOutAgain pydantic provider opening actions :=
  ⟨fun awaited again => again.unawaited completed awaited, awaited_of_never completed⟩

end Runs

namespace Sample

def silent : Provider := fun _ _ => .ok (.timeout .unknown none)

/-- A call that times out, and the late outcome of it: a timeout again. -/
def twiceSilent : List Action :=
  [.enter (.execute (request "v1"))] ++ replicate 7 (.resume 0) ++
    [.enter (.ingest ⟨.timeout .unknown none, "job", 0, "correlation", some "request"⟩)] ++
      replicate 5 (.resume 1)

theorem twiceSilent_completed : Completed pydantic silent opening twiceSilent := by
  intro thread member
  rcases mem_cons.mp member with rfl | later
  · exact ⟨_, rfl⟩
  · rcases mem_cons.mp later with rfl | nothing
    · exact ⟨_, rfl⟩
    · cases nothing

/-- All calls are done, the job waits, and its one attempt has been consumed. -/
theorem waiting_for_nobody : Completed pydantic silent opening twiceSilent ∧
    ∃ job, (worldAfter pydantic silent opening twiceSilent).jobs.lookup "job" = some job ∧
      job.status = .pendingReconciliation ∧
        ∀ entry ∈ job.attempts.entries, entry.2.status = .consumed := by
  refine ⟨twiceSilent_completed, _, rfl, ?_, ?_⟩
  · decide +kernel
  · decide +kernel

theorem twiceSilent_unawaited : Awaited pydantic silent opening twiceSilent ↔
    ¬ TimedOutAgain pydantic silent opening twiceSilent :=
  awaited_iff pydantic silent opening twiceSilent twiceSilent_completed

end Sample

end BackendHandbook.StructuredOutput
