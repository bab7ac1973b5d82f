import BackendHandbook.StructuredOutput.Custody

/-! How a job concludes, in whatever order its executions and its late outcomes go on. -/

namespace BackendHandbook.StructuredOutput

open Run Interleaving List

def MismatchNote (note : JobEvent) : Prop :=
  ∃ jobId classification correlationId, classification ∈ mismatchTexts ∧
    note = .attemptFailed jobId classification correlationId none none none

/-- The outcome of a job stays; a note of a refused request may be added. -/
structure Stays (job later : ExecutionJob) : Prop where
  status : later.status = job.status
  artifact : later.resultArtifact = job.resultArtifact
  facts : ∃ notes, later.failureFacts = job.failureFacts ++ notes ∧
    ∀ note ∈ notes, MismatchNote note

/-- The artifact is there, and what it holds is valid under the schema of the contract. -/
def Validated (pydantic : Pydantic) (contract : ExecutionContract) (job : ExecutionJob) : Prop :=
  ∃ artifact, job.resultArtifact = some artifact ∧
    validate pydantic contract.schemaName contract.schemaVersion artifact.domainResult =
      .valid artifact.domainResult

inductive Concludes (pydantic : Pydantic) (job later : ExecutionJob) : Prop
  | stays (stays : Stays job later)
  | succeeded (active : job.status.terminal = false)
      (valid : Validated pydantic job.contract later)
  | unfinished (active : job.status.terminal = false) (status : later.status ≠ .succeeded)

section Steps

variable {pydantic : Pydantic} {world : World} {past : List (List Fact)} {index : Nat}
variable {known : List Fact} {job later : ExecutionJob} {jobId : String}

theorem Stays.refl (job : ExecutionJob) : Stays job job :=
  ⟨rfl, rfl, [], (append_nil _).symm, nofun⟩

theorem Stays.trans {last : ExecutionJob} (first : Stays job later) (second : Stays later last) :
    Stays job last := by
  rcases first.facts with ⟨early, earlyFacts, earlyNotes⟩
  rcases second.facts with ⟨late, lateFacts, lateNotes⟩
  refine ⟨second.status.trans first.status, second.artifact.trans first.artifact, early ++ late,
    ?_, fun note member => ?_⟩
  · rw [lateFacts, earlyFacts, append_assoc]
  · rcases mem_append.mp member with before | behind
    · exact earlyNotes note before
    · exact lateNotes note behind

theorem stays_of_frame (status : later.status = job.status)
    (artifact : later.resultArtifact = job.resultArtifact) (events : later.events = job.events) :
    Stays job later := by
  refine ⟨status, artifact, [], ?_, nofun⟩
  rw [append_nil, ExecutionJob.failureFacts, events]
  rfl

theorem stays_onAttempt (job : ExecutionJob) (attemptId : Uuid) (change : Attempt → Attempt) :
    Stays job (job.onAttempt attemptId change) := by
  rcases job.onAttempt_frame attemptId change with ⟨status, _, _, artifact, events⟩
  exact stays_of_frame status artifact events

theorem stays_shut (job : ExecutionJob) (attemptId : Uuid) : Stays job (job.shut attemptId) := by
  rcases job.shut_frame attemptId with ⟨status, _, _, artifact, events⟩
  exact stays_of_frame status artifact events

variable {own : String}

theorem Concludes.onJob {change : ExecutionJob → ExecutionJob}
    (found : world.jobs.lookup jobId = some job)
    (step : jobId = own → Concludes pydantic job (change job)) :
    ∃ later, (world.onJob own change).jobs.lookup jobId = some later ∧
      Concludes pydantic job later := by
  rw [lookup_onJob]
  by_cases same : jobId = own
  · rw [if_pos same, ← same, found]
    exact ⟨change job, rfl, step same⟩
  · rw [if_neg same]
    exact ⟨job, found, .stays (.refl job)⟩

theorem Concludes.insert {held rewritten : ExecutionJob}
    (found : world.jobs.lookup jobId = some job) (own_found : world.jobs.lookup own = some held)
    (step : Stays held rewritten) :
    ∃ later, (world.jobs.insert own rewritten).lookup jobId = some later ∧
      Concludes pydantic job later := by
  rw [Dict.lookup_insert_eq]
  by_cases same : jobId = own
  · rw [if_pos same]
    rw [← same, found] at own_found
    cases own_found
    exact ⟨rewritten, rfl, .stays step⟩
  · rw [if_neg same]
    exact ⟨job, found, .stays (.refl job)⟩

theorem Held.stage (held : Held pydantic world past) (listed : past[index]? = some known)
    (owns : (Phase.behind known).owns jobId = true) (found : world.jobs.lookup jobId = some job) :
    Stage job (world.sent jobId) (some (Phase.behind known)) := by
  rcases held.fits jobId with ⟨_, fits, only⟩
  have member : Phase.behind known ∈ (past.map Phase.behind).filter (Phase.owns jobId) :=
    mem_filter.mpr ⟨mem_map_of_mem (mem_of_getElem? listed), owns⟩
  rw [only, Option.mem_toList] at member
  cases member
  exact fits.staged job found

theorem Held.contract {contract : ExecutionContract} (held : Held pydantic world past)
    (listed : past[index]? = some known) (read : Read jobId contract known)
    (found : world.jobs.lookup jobId = some job) : contract = job.contract := by
  rcases read with ⟨seen, member, rfl⟩
  have same := (held.agrees known (mem_of_getElem? listed)).read jobId (some seen) member
  rw [found] at same
  exact Option.some.inj same

theorem Stage.active {phase : Phase} {timeout : Bool} {sent : Nat}
    (stage : Stage job sent (some phase)) (decides : phase.Decides jobId timeout) :
    job.status.terminal = false := by
  have completable := stage.completable decides
  unfold ExecutionJob.completable at completable
  cases status : job.status with
  | running | pendingReconciliation => rfl
  | succeeded | failed =>
    rw [status] at completable
    cases completable

open Concludes in
/-- What an allowed call makes of the outcome of a job, whichever job it is. -/
theorem perform_concludes (provider : Provider) {call : Call} (held : Held pydantic world past)
    (listed : past[index]? = some known) (allowed : Allowed pydantic known call)
    (found : world.jobs.lookup jobId = some job) :
    ∃ later, (perform provider call world).2.jobs.lookup jobId = some later ∧
      Concludes pydantic job later := by
  have unchanged : ∃ later, world.jobs.lookup jobId = some later ∧ Concludes pydantic job later :=
    ⟨job, found, .stays (.refl job)⟩
  cases call with
  | disabled | modelMaxOutputTokens | disable | job | snapshotJobFacts | generate => exact unchanged
  | claimForNewCall own correlationId =>
    simp only [perform]
    cases stored : world.jobs.lookup own with
    | none => exact unchanged
    | some held =>
      dsimp only
      rcases claimForNewCall_cases held correlationId world.drawn with
        refused | ⟨_, _, claimed⟩
      · rw [refused]
        exact insert found stored (.refl held)
      · rw [claimed]
        exact insert found stored (stays_of_frame rfl rfl rfl)
  | attachProviderRequestId own attemptId | markAttemptAwaitingLate own attemptId
  | releaseLateOutcomeClaim own attemptId =>
    exact onJob found fun _ => .stays (stays_onAttempt job attemptId _)
  | closeAttempt own attemptId | consumeLateOutcome own attemptId =>
    exact onJob found fun _ =>
      .stays ((stays_onAttempt job attemptId _).trans (stays_shut _ attemptId))
  | claimLateOutcome own attemptId correlationId incoming =>
    simp only [perform]
    cases stored : world.jobs.lookup own with
    | none => exact unchanged
    | some held =>
      dsimp only
      rcases claimLateOutcome_cases held attemptId correlationId incoming with
        ⟨_, kept⟩ | ⟨_, _, _, _, _, claimed⟩
      · rw [kept]
        exact insert found stored (.refl held)
      · rw [claimed]
        exact insert found stored (stays_of_frame rfl rfl rfl)
  | restoreJobFacts _ snapshot =>
    apply onJob found
    rintro rfl
    rcases allowed with ⟨attemptId, claimed⟩
    have stage := held.stage listed (by rw [claimed]; exact decide_eq_true rfl) found
    rw [claimed] at stage
    cases stage with
    | processing _ _ _ pending _ _ _ snapped =>
      refine .unfinished (by rw [pending]; rfl) fun succeeds => ?_
      cases (snapped snapshot rfl).symm.trans succeeds
    | concluded _ _ _ closes => cases closes _ rfl
  | completeSuccess =>
    rw [perform_completeSuccess]
    apply onJob found
    rintro rfl
    rcases allowed with ⟨decides, _, _, read, valid⟩
    have stage := held.stage listed decides.owns.1 found
    rw [held.contract listed read found] at valid
    have completes : ¬ ¬ job.completable = true := not_not.mpr (stage.completable decides)
    refine .succeeded (stage.active decides) ?_
    rw [ExecutionJob.completeSuccess, if_neg completes]
    exact ⟨_, rfl, validate_valid valid⟩
  | recordNonSuccess _ classification _ _ _ markFailed =>
    apply onJob found
    rintro rfl
    cases markFailed with
    | false =>
      rcases allowed with ⟨_, mismatch, rfl, rfl, rfl⟩
      exact .stays ⟨rfl, rfl, _, filter_append _ _, fun note member =>
        ⟨_, classification, _, mismatch, mem_singleton.mp member⟩⟩
    | true =>
      have stage := held.stage listed (Phase.Decides.owns allowed).1 found
      refine .unfinished (stage.active allowed) ?_
      simp [ExecutionJob.recordNonSuccess, stage.completable allowed]
  | recordCost =>
    exact onJob found fun _ =>
      .stays ⟨rfl, rfl, [], filter_append _ _, by simp⟩
  | recordTimeoutPending =>
    apply onJob found
    rintro rfl
    have stage := held.stage listed (Phase.Decides.owns allowed).1 found
    refine .unfinished (stage.active allowed) ?_
    simp [ExecutionJob.recordTimeoutPending, stage.completable allowed]

end Steps

section Runs

variable (pydantic : Pydantic) (provider : Provider) (opening : AcceptedJobs)
variable (actions : List Action)

def history (index : Nat) : List Fact :=
  ((histories (perform provider) ⟨opening.world, []⟩ [] (turns pydantic actions))[index]?).getD []

/-- The party at an index has claimed the late outcome of an attempt, and has called the
completion with it. -/
def DispatchesLate (index : Nat) (jobId : String) (attemptId : Uuid) : Prop :=
  (jobId, attemptId) ∈ claimsLate (history pydantic provider opening actions index) ∧
    0 < decisions (history pydantic provider opening actions index)

def generates (jobId : String) : JobCallEvent → Bool
  | ⟨_, .generate request, _, _⟩ => request.jobId = jobId
  | _ => false

/-- What the executions and the late outcomes of a schedule can come to. -/
structure OneOutcome : Prop where
  calledOnce : ∀ jobId, (schedule pydantic provider opening actions).countP (generates jobId) ≤ 1
  decidedOnce : ∀ index, decisions (history pydantic provider opening actions index) ≤ 1
  dispatchedOnce : ∀ jobId attemptId first second,
    DispatchesLate pydantic provider opening actions first jobId attemptId →
      DispatchesLate pydantic provider opening actions second jobId attemptId → first = second
  concluded : ∀ behind jobId job,
    (worldAfter pydantic provider opening actions).jobs.lookup jobId = some job →
      job.status.terminal = true → ∃ later,
        (worldAfter pydantic provider opening (actions ++ behind)).jobs.lookup jobId =
          some later ∧ Stays job later
  validated : ∀ jobId job,
    (worldAfter pydantic provider opening actions).jobs.lookup jobId = some job →
      job.status = .succeeded → ∃ accepted, opening.jobs.lookup jobId = some accepted ∧
        Validated pydantic accepted.contract job

variable {pydantic provider opening actions}
variable {e : JobCallEvent} {jobId : String} {job : ExecutionJob}

theorem started_recalls : ∀ program ∈ started (turns pydantic actions),
    program.Recalls (Allowed pydantic) [] := by
  induction actions with
  | nil => intro program member; cases member
  | cons action _ ih =>
    cases action with
    | enter party =>
      intro program member
      rcases mem_cons.mp member with rfl | later
      · exact party.program_recalls
      · exact ih program later
    | resume => exact ih

theorem event_held (member : e ∈ schedule pydantic provider opening actions) :
    ∃ (past : List (List Fact)) (index : Nat) (known : List Fact),
      Held pydantic e.before past ∧ past[index]? = some known ∧ Allowed pydantic known e.call :=
  event_histories (perform provider) held_enters (held_moves provider) opening.world
    (turns pydantic actions) (held_opening opening) started_recalls e member

theorem held_after (pydantic : Pydantic) (provider : Provider) (opening : AcceptedJobs)
    (actions : List Action) : Held pydantic (worldAfter pydantic provider opening actions)
      (histories (perform provider) ⟨opening.world, []⟩ [] (turns pydantic actions)) :=
  run_histories (perform provider) held_enters (held_moves provider) opening.world
    (turns pydantic actions) (held_opening opening) started_recalls

theorem worldAfter_eq : worldAfter pydantic provider opening actions =
    final (perform provider) opening.world (scheduleCalls pydantic provider opening actions) :=
  run_state (perform provider) ⟨opening.world, []⟩ (turns pydantic actions)

theorem event_concludes (member : e ∈ schedule pydantic provider opening actions)
    (found : e.before.jobs.lookup jobId = some job) :
    ∃ later, e.after.jobs.lookup jobId = some later ∧ Concludes pydantic job later := by
  rcases event_held member with ⟨_, _, _, held, listed, allowed⟩
  rw [(mem_trace_performed member).2]
  exact perform_concludes provider held listed allowed found

theorem event_contract (member : e ∈ schedule pydantic provider opening actions)
    (jobId : String) : (e.after.jobs.lookup jobId).map (·.contract) =
      (e.before.jobs.lookup jobId).map (·.contract) := by
  rw [(mem_trace_performed member).2]
  exact perform_contract provider e.before e.call jobId

theorem perform_sent (call : Call) (world : World) (jobId : String) :
    (perform provider call world).2.sent jobId = world.sent jobId +
      if generates jobId (event (perform provider) world call) then 1 else 0 := by
  have onJob : ∀ (own : String) (change : ExecutionJob → ExecutionJob),
      (world.onJob own change).sent jobId = world.sent jobId :=
    fun own change => congrFun (sent_onJob world own change) jobId
  cases call with
  | disabled | modelMaxOutputTokens | disable | job | snapshotJobFacts => rfl
  | generate => exact countP_cons
  | claimForNewCall own | claimLateOutcome own =>
    simp only [perform]
    cases world.jobs.lookup own with
    | none | some => rfl
  | completeSuccess own =>
    rw [perform_completeSuccess]
    exact onJob own _
  | attachProviderRequestId own | markAttemptAwaitingLate own | closeAttempt own
  | consumeLateOutcome own | restoreJobFacts own | releaseLateOutcomeClaim own
  | recordNonSuccess own | recordCost own | recordTimeoutPending own => exact onJob own _

theorem sent_once (jobId : String) :
    (worldAfter pydantic provider opening actions).sent jobId ≤ 1 := by
  rcases (held_after pydantic provider opening actions).fits jobId with ⟨_, fits, _⟩
  cases found : (worldAfter pydantic provider opening actions).jobs.lookup jobId with
  | none => exact (fits.absent found).2 ▸ Nat.zero_le 1
  | some job => exact (fits.staged job found).once

theorem sent_counted (jobId : String) : (worldAfter pydantic provider opening actions).sent jobId =
    (schedule pydantic provider opening actions).countP (generates jobId) := by
  rw [worldAfter_eq, measure_final (perform provider) (fun world => world.sent jobId)
    (generates jobId)]
  · exact Nat.zero_add _
  · intro e member
    rw [mem_trace_event _ _ _ e member]
    exact perform_sent e.call e.before jobId

variable {index : Nat}

theorem history_listed (some_ : history pydantic provider opening actions index ≠ []) :
    (histories (perform provider) ⟨opening.world, []⟩ [] (turns pydantic actions))[index]? =
      some (history pydantic provider opening actions index) := by
  unfold history at some_ ⊢
  cases listed : (histories (perform provider) ⟨opening.world, []⟩ []
      (turns pydantic actions))[index]? with
  | none =>
    rw [listed] at some_
    exact absurd rfl some_
  | some known => rfl

theorem history_lawful (index : Nat) :
    Lawful pydantic (history pydantic provider opening actions index) := by
  by_cases empty : history pydantic provider opening actions index = []
  · rw [empty]
    trivial
  · exact (held_after pydantic provider opening actions).lawful _
      (mem_of_getElem? (history_listed empty))

variable {attemptId : Uuid}

theorem DispatchesLate.owns
    (dispatches : DispatchesLate pydantic provider opening actions index jobId attemptId) :
    (histories (perform provider) ⟨opening.world, []⟩ [] (turns pydantic actions))[index]? =
        some (history pydantic provider opening actions index) ∧
      (Phase.behind (history pydantic provider opening actions index)).owns jobId = true := by
  rcases dispatches with ⟨claimed, decides⟩
  refine ⟨history_listed fun empty => ?_,
    trail_dispatched (lawful_trail (history_lawful index)) claimed decides⟩
  rw [empty] at claimed
  cases claimed

theorem dispatching_unique {first second : Nat}
    (one : DispatchesLate pydantic provider opening actions first jobId attemptId)
    (other : DispatchesLate pydantic provider opening actions second jobId attemptId) :
    first = second := by
  rcases (held_after pydantic provider opening actions).fits jobId with ⟨owner, _, only⟩
  rcases one.owns with ⟨oneListed, oneOwns⟩
  rcases other.owns with ⟨otherListed, otherOwns⟩
  have place : ∀ {index : Nat} {known : List Fact},
      (histories (perform provider) ⟨opening.world, []⟩ [] (turns pydantic actions))[index]? =
          some known →
        ((histories (perform provider) ⟨opening.world, []⟩ []
          (turns pydantic actions)).map Phase.behind)[index]? = some (Phase.behind known) := by
    intro index known listed
    rw [getElem?_map, listed]
    rfl
  apply place_of_filter (place oneListed) oneOwns (place otherListed) otherOwns
  rw [only]
  cases owner with
  | none => exact Nat.zero_le 1
  | some => exact le_refl 1

theorem event_stays (member : e ∈ schedule pydantic provider opening actions)
    (found : e.before.jobs.lookup jobId = some job) (terminal : job.status.terminal = true) :
    ∃ later, e.after.jobs.lookup jobId = some later ∧ Stays job later := by
  rcases event_concludes member found with ⟨later, there, stays | ⟨active⟩ | ⟨active⟩⟩
  · exact ⟨later, there, stays⟩
  · cases terminal.symm.trans active
  · cases terminal.symm.trans active

theorem concluded_stays {behind : List Action}
    (found : (worldAfter pydantic provider opening actions).jobs.lookup jobId = some job)
    (terminal : job.status.terminal = true) : ∃ later,
      (worldAfter pydantic provider opening (actions ++ behind)).jobs.lookup jobId =
        some later ∧ Stays job later := by
  have calls_split : scheduleCalls pydantic provider opening (actions ++ behind) =
      scheduleCalls pydantic provider opening actions ++
        calls (perform provider) (poolAfter pydantic provider opening actions)
          (turns pydantic behind) := by
    rw [scheduleCalls, turns, map_append, calls_append]
    rfl
  have split : schedule pydantic provider opening (actions ++ behind) =
      schedule pydantic provider opening actions ++
        trace (perform provider) (worldAfter pydantic provider opening actions)
          (calls (perform provider) (poolAfter pydantic provider opening actions)
            (turns pydantic behind)) := by
    rw [schedule, calls_split, trace_append, ← worldAfter_eq]
    rfl
  rw [worldAfter_eq, calls_split, final_append, ← worldAfter_eq]
  refine kept_final (perform provider)
    (fun world => ∃ later, world.jobs.lookup jobId = some later ∧ Stays job later) _ _ ?_
    ⟨job, found, .refl job⟩
  intro e member before
  rcases before with ⟨_, there, stays⟩
  have listed : e ∈ schedule pydantic provider opening (actions ++ behind) := by
    rw [split]
    exact mem_append_right _ member
  rcases event_stays listed there (by rw [stays.status]; exact terminal) with
    ⟨later, behind, goes⟩
  exact ⟨later, behind, stays.trans goes⟩

theorem validated_after (jobId : String) : ∀ job,
    (worldAfter pydantic provider opening actions).jobs.lookup jobId = some job →
      job.status = .succeeded → Validated pydantic job.contract job := by
  rw [worldAfter_eq]
  refine kept_final (perform provider) (fun world => ∀ job, world.jobs.lookup jobId = some job →
    job.status = .succeeded → Validated pydantic job.contract job) _ _ ?_ ?_
  · intro e member before later there succeeds
    have same := event_contract member jobId
    rw [there] at same
    rcases Option.map_eq_some_iff.mp same.symm with ⟨job, found, contract⟩
    rcases event_concludes member found with ⟨_, here, concludes⟩
    cases there.symm.trans here
    have own : job.contract = later.contract := contract
    rw [← own]
    cases concludes with
    | stays stays =>
      rcases before job found (stays.status.symm.trans succeeds) with ⟨artifact, held, valid⟩
      exact ⟨artifact, stays.artifact.trans held, valid⟩
    | succeeded _ valid => exact valid
    | unfinished _ status => exact absurd succeeds status
  · intro job found succeeds
    rcases opening.fresh jobId job found with ⟨_, _, _, rfl⟩
    cases succeeds

theorem succeeded_validated
    (found : (worldAfter pydantic provider opening actions).jobs.lookup jobId = some job)
    (succeeds : job.status = .succeeded) : ∃ accepted, opening.jobs.lookup jobId = some accepted ∧
      Validated pydantic accepted.contract job := by
  have same : ((worldAfter pydantic provider opening actions).jobs.lookup jobId).map (·.contract) =
      (opening.jobs.lookup jobId).map (·.contract) := by
    rw [worldAfter_eq]
    exact kept_final (perform provider) (fun world => (world.jobs.lookup jobId).map (·.contract) =
      (opening.jobs.lookup jobId).map (·.contract)) _ _
      (fun e member before => (event_contract member jobId).trans before) rfl
  rw [found] at same
  rcases Option.map_eq_some_iff.mp same.symm with ⟨accepted, listed, contract⟩
  have own : accepted.contract = job.contract := contract
  refine ⟨accepted, listed, ?_⟩
  rw [own]
  exact validated_after jobId job found succeeds

/-- One call of the adapter, one dispatch of a late outcome, one outcome. -/
theorem one_outcome (pydantic : Pydantic) (provider : Provider) (opening : AcceptedJobs)
    (actions : List Action) : OneOutcome pydantic provider opening actions where
  calledOnce jobId := by
    rw [← sent_counted]
    exact sent_once jobId
  decidedOnce index := trail_once (lawful_trail (history_lawful index))
  dispatchedOnce _ _ _ _ one other := dispatching_unique one other
  concluded _ _ _ found terminal := concluded_stays found terminal
  validated _ _ found succeeds := succeeded_validated found succeeds

end Runs

namespace Sample

def pydantic : Pydantic := ⟨fun _ => none⟩

def contract : ExecutionContract :=
  ⟨"research_summary", "v1", "model", "profile", "summarize", 100, "correlation"⟩

def opening : AcceptedJobs where
  jobs := AList.insert "job"
    { jobId := "job", tenantId := "tenant", contract, reservedTokens := 100 } ∅
  config := {}
  fresh := Dict.forall_insert ⟨"tenant", contract, 100, rfl⟩ (by simp)

def request (schemaVersion : String) : ProviderRequest :=
  ⟨"job", "tenant", "summarize", "research_summary", schemaVersion, "model", "profile", 100,
    "correlation", ""⟩

def payload : Payload :=
  [("summary", .text "text"), ("citations", .array [.text "source"]), ("confidence", .decimal 1)]

def answers : Provider := fun _ _ => .ok (.success payload ⟨some 10⟩ none)

/-- An execution whose request is refused, another that succeeds, and then the note. -/
def succeeding : List Action :=
  [.enter (.execute (request "v2")), .enter (.execute (request "v1"))] ++
    replicate 5 (.resume 0) ++ replicate 6 (.resume 1)

/-- A failure is put on record for a job that has succeeded. -/
theorem noted_behind_success : ∃ job later,
    (worldAfter pydantic answers opening succeeding).jobs.lookup "job" = some job ∧
      job.status = .succeeded ∧
        (worldAfter pydantic answers opening (succeeding ++ [.resume 0])).jobs.lookup "job" =
          some later ∧ later.failureFacts ≠ job.failureFacts := by
  refine ⟨_, _, rfl, ?_, rfl, ?_⟩
  · decide +kernel
  · decide +kernel

end Sample

end BackendHandbook.StructuredOutput
