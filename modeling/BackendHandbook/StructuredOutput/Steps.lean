import BackendHandbook.StructuredOutput.Ownership

/-! What a call makes of the jobs, and of the party that makes it. -/

namespace BackendHandbook.StructuredOutput

open Interleaving

/-- How many requests for a job the adapter has been called with. -/
def World.sent (world : World) (jobId : String) : Nat := world.generated.countP (·.jobId = jobId)

structure Fits (world : World) (jobId : String) (owner : Option Phase) : Prop where
  absent : world.jobs.lookup jobId = none → owner = none ∧ world.sent jobId = 0
  staged : ∀ job, world.jobs.lookup jobId = some job → Stage job (world.sent jobId) owner

/-- A party goes on from one phase to the next: who holds the job, holds it still or lets it
go, and who does not, takes it only where nobody has it. -/
def Moves (jobId : String) (world after : World) (phase next : Phase) : Prop :=
  ∀ owner, Fits world jobId owner → (phase.owns jobId = true → owner = some phase) →
    (phase.owns jobId = false → next.owns jobId = true → owner = none) ∧
      Fits after jobId (if next.owns jobId then some next
        else if phase.owns jobId then none else owner)

variable {timeout : Bool}

section Frames

variable {world after : World} {jobId : String} {phase next : Phase} {owner : Option Phase}

theorem Fits.frame (fits : Fits world jobId owner)
    (jobs : after.jobs.lookup jobId = world.jobs.lookup jobId)
    (sent : after.sent jobId = world.sent jobId) : Fits after jobId owner := by
  constructor
  · rw [jobs, sent]
    exact fits.absent
  · rw [jobs, sent]
    exact fits.staged

theorem moves_still (jobs : after.jobs.lookup jobId = world.jobs.lookup jobId)
    (sent : after.sent jobId = world.sent jobId) : Moves jobId world after phase phase := by
  intro owner fits own
  refine ⟨fun lost taken => (by rw [lost] at taken; cases taken), ?_⟩
  cases owns : phase.owns jobId with
  | true =>
    rw [← own owns]
    exact fits.frame jobs sent
  | false =>
    exact fits.frame jobs sent

theorem moves_elsewhere (jobs : after.jobs.lookup jobId = world.jobs.lookup jobId)
    (sent : after.sent jobId = world.sent jobId) (out : phase.owns jobId = false)
    (stays : next.owns jobId = false) : Moves jobId world after phase next := by
  intro owner fits _
  refine ⟨fun _ taken => (by rw [stays] at taken; cases taken), ?_⟩
  rw [stays, out]
  exact fits.frame jobs sent

theorem lookup_onJob (world : World) (own other : String) (change : ExecutionJob → ExecutionJob) :
    (world.onJob own change).jobs.lookup other =
      if other = own then (world.jobs.lookup own).map change else world.jobs.lookup other := by
  unfold World.onJob
  cases found : world.jobs.lookup own with
  | none =>
    dsimp only
    split
    · next same =>
      rw [same]
      exact found
    · rfl
  | some job => exact Dict.lookup_insert_eq world.jobs own other (change job)

theorem sent_onJob (world : World) (own : String) (change : ExecutionJob → ExecutionJob) :
    (world.onJob own change).sent = world.sent := by
  unfold World.onJob
  cases world.jobs.lookup own with
  | none | some => rfl

variable {own : String} {change : ExecutionJob → ExecutionJob}

theorem moves_held
    (holds : phase.owns own = true) (only : ∀ other, phase.owns other = true → other = own)
    (keeps : ∀ other, next.owns other = true → other = own)
    (step : ∀ job sent, Stage job sent (some phase) →
      Stage (change job) sent (if next.owns own then some next else none)) :
    Moves jobId world (world.onJob own change) phase next := by
  by_cases same : jobId = own
  · subst same
    intro owner fits mine
    refine ⟨fun lost => (by rw [holds] at lost; cases lost), ?_⟩
    rw [if_pos holds]
    cases mine holds
    constructor
    · intro missing
      rw [lookup_onJob, if_pos rfl, Option.map_eq_none_iff] at missing
      cases (fits.absent missing).1
    · intro job found
      rw [lookup_onJob, if_pos rfl] at found
      rcases Option.map_eq_some_iff.mp found with ⟨before, listed, rfl⟩
      rw [sent_onJob]
      exact step before _ (fits.staged before listed)
  · apply moves_elsewhere
    · rw [lookup_onJob, if_neg same]
    · rw [sent_onJob]
    · exact eq_false_of_ne_true fun owns => same (only jobId owns)
    · exact eq_false_of_ne_true fun owns => same (keeps jobId owns)

theorem moves_aside
    (step : ∀ job sent owner, Stage job sent owner → Stage (change job) sent owner) :
    Moves jobId world (world.onJob own change) phase phase := by
  intro owner fits mine
  have changed : ∀ owner, Fits world jobId owner → Fits (world.onJob own change) jobId owner := by
    intro owner fits
    by_cases same : jobId = own
    · subst same
      constructor
      · intro missing
        rw [lookup_onJob, if_pos rfl, Option.map_eq_none_iff] at missing
        rw [sent_onJob]
        exact fits.absent missing
      · intro job found
        rw [lookup_onJob, if_pos rfl] at found
        rcases Option.map_eq_some_iff.mp found with ⟨before, listed, rfl⟩
        rw [sent_onJob]
        exact step before _ owner (fits.staged before listed)
    · exact fits.frame (by rw [lookup_onJob, if_neg same]) (by rw [sent_onJob])
  refine ⟨fun lost taken => (by rw [lost] at taken; cases taken), ?_⟩
  cases owns : phase.owns jobId with
  | true =>
    rw [← mine owns]
    exact changed owner fits
  | false =>
    exact changed owner fits

theorem moves_taken {job rewritten : ExecutionJob} {drawn : Uuid}
    (found : world.jobs.lookup own = some job) (free : ∀ other, phase.owns other = false)
    (takes : ∀ other, next.owns other = decide (other = own))
    (step : ∀ sent owner, Stage job sent owner →
      owner = none ∧ Stage rewritten sent (some next)) : Moves jobId world
      { world with jobs := world.jobs.insert own rewritten, drawn := drawn } phase next := by
  intro owner fits _
  by_cases same : jobId = own
  · subst same
    rcases step _ owner (fits.staged job found) with ⟨none, staged⟩
    refine ⟨fun _ _ => none, ?_⟩
    rw [takes, decide_eq_true rfl]
    constructor
    · intro missing
      simp only [Dict.lookup_insert_eq] at missing
      cases missing
    · intro stored listed
      simp only [Dict.lookup_insert_eq] at listed
      cases listed
      exact staged
  · rw [takes, decide_eq_false same, free]
    refine ⟨fun _ taken => (by cases taken), ?_⟩
    exact fits.frame (by simp [Dict.lookup_insert_eq, if_neg same]) rfl

theorem moves_sent {request : ProviderRequest} {attemptId : Uuid} :
    Moves jobId world { world with generated := request :: world.generated }
      (.claimed request.jobId attemptId) (.answered request.jobId attemptId timeout) := by
  by_cases same : request.jobId = jobId
  · have holds : Phase.owns jobId (.claimed request.jobId attemptId) = true := decide_eq_true same
    have counted : World.sent { world with generated := request :: world.generated } jobId =
        world.sent jobId + 1 :=
      List.countP_cons_of_pos (decide_eq_true same)
    intro owner fits mine
    refine ⟨fun lost => (by rw [holds] at lost; cases lost), ?_⟩
    rw [if_pos (show Phase.owns jobId (.answered request.jobId attemptId timeout) = true from
      decide_eq_true same)]
    cases mine holds
    constructor
    · intro missing
      cases (fits.absent missing).1
    · intro job found
      rw [counted]
      exact (fits.staged job found).send timeout
  · exact moves_elsewhere rfl (List.countP_cons_of_neg (by simpa using same))
      (decide_eq_false same) (decide_eq_false same)

end Frames

section Calls

variable {pydantic : Pydantic} {known : List Fact} {call : Call}
variable (provider : Provider) (world : World)

theorem perform_completeSuccess (jobId : String) (domainResult : Payload) (usage : Usage)
    (providerRequestId : Option String) :
    (perform provider (.completeSuccess jobId domainResult usage providerRequestId) world).2 =
      world.onJob jobId fun job =>
        (job.completeSuccess domainResult usage providerRequestId).2 := by
  simp only [perform, World.onJob]
  cases world.jobs.lookup jobId with
  | none | some => rfl

variable {own : String}

theorem lookup_put_back {job : ExecutionJob}
    (found : world.jobs.lookup own = some job) (other : String) :
    (world.jobs.insert own job).lookup other = world.jobs.lookup other := by
  rw [Dict.lookup_insert_eq]
  split
  · next same =>
    rw [same]
    exact found.symm
  · rfl

/-- The phase that a call leads to. -/
def behindCall (phase : Phase) (call : Call) : Phase :=
  phase.next ⟨call, (perform provider call world).1⟩

variable {phase : Phase}

theorem Phase.Decides.owns (decides : phase.Decides own timeout) : phase.owns own = true ∧
      (∀ other, phase.owns other = true → other = own) ∧ (phase.decided timeout).owns own = true ∧
          ∀ other, (phase.decided timeout).owns other = true → other = own := by
  cases decides with
  | answered | late =>
    exact ⟨decide_eq_true rfl, fun other owns => (of_decide_eq_true owns).symm,
      decide_eq_true rfl, fun other owns => (of_decide_eq_true owns).symm⟩

variable {change : ExecutionJob → ExecutionJob}

theorem moves_keeping {world : World} {jobId : String} {next : Phase}
    (holds : phase.owns own = true)
    (only : ∀ other, phase.owns other = true → other = own) (owns : next.owns own = true)
    (keeps : ∀ other, next.owns other = true → other = own)
    (step : ∀ job sent, Stage job sent (some phase) → Stage (change job) sent (some next)) :
    Moves jobId world (world.onJob own change) phase next := by
  refine moves_held holds only keeps fun job sent stage => ?_
  rw [if_pos owns]
  exact step job sent stage

theorem moves_decided {world : World} {jobId : String} (decides : phase.Decides own timeout)
    (step : ∀ job sent, Stage job sent (some phase) →
      Stage (change job) sent (some (phase.decided timeout))) :
    Moves jobId world (world.onJob own change) phase (phase.decided timeout) := by
  rcases decides.owns with ⟨holds, only, owns, keeps⟩
  exact moves_keeping holds only owns keeps step

theorem moves_snapshot {world : World} (jobId own : String) (attemptId : Uuid) :
    Moves jobId world world (.lateClaimed own attemptId none)
      (Phase.next (.lateClaimed own attemptId none)
        ⟨.snapshotJobFacts own, (world.jobs.lookup own).map (·.facts)⟩) := by
  cases found : world.jobs.lookup own with
  | none => exact moves_still rfl rfl
  | some job =>
    by_cases same : own = jobId
    · subst same
      intro owner fits mine
      have holds : Phase.owns own (.lateClaimed own attemptId none) = true := decide_eq_true rfl
      refine ⟨fun lost => (by rw [holds] at lost; cases lost), ?_⟩
      rw [show Phase.next (.lateClaimed own attemptId none)
        ⟨.snapshotJobFacts own, (some job).map (·.facts)⟩ =
          .lateClaimed own attemptId (some job.facts) from rfl]
      cases mine holds
      rw [if_pos (show Phase.owns own (.lateClaimed own attemptId (some job.facts)) = true from
        decide_eq_true rfl)]
      constructor
      · intro missing
        cases found.symm.trans missing
      · intro stored listed
        cases found.symm.trans listed
        exact (fits.staged job found).snapshot
    · exact moves_elsewhere rfl rfl (decide_eq_false same) (decide_eq_false same)

theorem perform_moves (allowed : Allowed pydantic known call) (jobId : String) :
    Moves jobId world (perform provider call world).2 (Phase.behind known)
      (behindCall provider world (Phase.behind known) call) := by
  have symm : ∀ own other : String, decide (own = other) = true → other = own :=
    fun own other owns => (of_decide_eq_true owns).symm
  unfold behindCall
  cases call with
  | disabled | modelMaxOutputTokens | disable | job => exact moves_still rfl rfl
  | claimForNewCall own correlationId =>
    rw [allowed.1]
    simp only [perform]
    cases found : world.jobs.lookup own with
    | none => exact moves_still rfl rfl
    | some job =>
      dsimp only
      rcases claimForNewCall_cases job correlationId world.drawn with
        refused | ⟨running, closed, claimed⟩
      · rw [refused]
        exact moves_still (lookup_put_back world found jobId) rfl
      · rw [claimed]
        exact moves_taken found (fun _ => rfl)
          (fun other => decide_eq_decide.mpr eq_comm) fun sent owner stage =>
            stage.claim running closed own correlationId world.drawn
  | attachProviderRequestId _ _ providerRequestId =>
    exact moves_aside fun job sent owner stage => stage.attach providerRequestId
  | markAttemptAwaitingLate own attemptId =>
    rw [show Phase.behind known = .settled own attemptId true from allowed]
    refine moves_held (decide_eq_true rfl) (symm own) nofun fun job sent stage => ?_
    exact stage.mark
  | closeAttempt own =>
    rcases allowed with claimed | settled
    · rw [claimed]
      refine moves_held (decide_eq_true rfl) (symm own) nofun fun job sent stage => ?_
      exact stage.close_claimed
    · rw [settled]
      refine moves_held (decide_eq_true rfl) (symm own) nofun fun job sent stage => ?_
      exact stage.close_settled
  | claimLateOutcome own attemptId correlationId incoming =>
    rw [show Phase.behind known = .idle from allowed]
    simp only [perform]
    cases found : world.jobs.lookup own with
    | none => exact moves_still rfl rfl
    | some job =>
      dsimp only
      rcases claimLateOutcome_cases job attemptId correlationId incoming with
        ⟨refused, kept⟩ | ⟨_, identifier, active, listed, awaits, claimed⟩
      · have stays : Phase.next .idle ⟨.claimLateOutcome own attemptId correlationId incoming,
            (job.claimLateOutcome attemptId correlationId incoming).1⟩ = .idle := by
          generalize (job.claimLateOutcome attemptId correlationId incoming).1 = answer
            at refused ⊢
          rcases answer with ⟨status, _⟩
          cases status with
          | claimed => exact absurd rfl refused
          | _ => rfl
        rw [stays, kept]
        exact moves_still (lookup_put_back world found jobId) rfl
      · rw [claimed]
        exact moves_taken found (fun _ => rfl)
          (fun other => decide_eq_decide.mpr eq_comm) fun sent owner stage =>
            stage.claimLate active listed awaits own identifier
  | consumeLateOutcome own =>
    rcases allowed with ⟨_, settled⟩
    rw [settled]
    exact moves_keeping (decide_eq_true rfl) (symm own) (decide_eq_true rfl) (symm own)
      fun job sent stage => stage.consume
  | snapshotJobFacts own =>
    rcases allowed with ⟨attemptId, claimed⟩
    rw [claimed]
    exact moves_snapshot jobId own attemptId
  | restoreJobFacts own =>
    rcases allowed with ⟨attemptId, claimed⟩
    rw [claimed]
    exact moves_keeping (decide_eq_true rfl) (symm own) (decide_eq_true rfl) (symm own)
      fun job sent stage => stage.restore
  | releaseLateOutcomeClaim own =>
    rcases allowed with ⟨_, claimed⟩
    rw [claimed]
    refine moves_held (decide_eq_true rfl) (symm own) nofun fun job sent stage => ?_
    exact stage.release
  | generate request =>
    rcases allowed with ⟨_, claimed⟩
    rw [claimed]
    simp only [perform]
    cases provider world.generated.length request with
    | error | ok => exact moves_sent
  | completeSuccess =>
    rw [perform_completeSuccess]
    refine moves_decided allowed.1 fun job sent stage => stage.decide allowed.1 ?_
    have completes : ¬ ¬ job.completable = true := not_not.mpr (stage.completable allowed.1)
    rw [ExecutionJob.completeSuccess, if_neg completes]
    rfl
  | recordNonSuccess _ _ _ _ _ markFailed =>
    cases markFailed with
    | false => exact moves_aside fun job sent owner stage => stage.congr rfl rfl fun _ => rfl
    | true =>
      refine moves_decided allowed fun job sent stage => stage.decide allowed ?_
      simp [ExecutionJob.recordNonSuccess, stage.completable allowed, JobStatus.terminal]
  | recordCost =>
    exact moves_aside fun job sent owner stage => stage.congr rfl rfl fun _ => rfl
  | recordTimeoutPending _ providerRequestId =>
    exact moves_decided allowed fun job sent stage => stage.timeOut allowed providerRequestId

end Calls

end BackendHandbook.StructuredOutput
